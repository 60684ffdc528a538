import Rsbtd.Engine.Moves

/-!
# What a step leaves alone

One structure per kind of task lists the components none of its moves touches.
-/

namespace Rsbtd

variable {s s' : Engine}

structure PumpFrame (s s' : Engine) : Prop where
  adds : s'.adds = s.adds
  acks : s'.acks = s.acks
  tasks : s'.tasks = s.tasks
  persister : s'.persister = s.persister
  disk : s'.disk = s.disk
  deleted : s'.deleted = s.deleted
  shutdown : s'.shutdown = s.shutdown

theorem PumpMove.frame (move : PumpMove s s') : PumpFrame s s' := by
  cases move <;> first | exact ⟨rfl, rfl, rfl, rfl, rfl, rfl, rfl⟩ | (constructor <;> simp)

/-- The pump changes a torrent only in what the bindings keep about it. -/
theorem PumpMove.torrent (move : PumpMove s s') (k : Nat) :
    (s'.session.torrents k).phase = (s.session.torrents k).phase ∧
      (s'.session.torrents k).state = (s.session.torrents k).state ∧
      (s'.session.torrents k).latest = (s.session.torrents k).latest := by
  cases move with
  | process => exact Session.process_keeps _ _ k
  | _ => simp

structure PersisterFrame (s s' : Engine) : Prop where
  session : s'.session = s.session
  adds : s'.adds = s.adds
  tasks : s'.tasks = s.tasks
  registry : s'.registry = s.registry
  pump : s'.pump = s.pump
  shutdown : s'.shutdown = s.shutdown

theorem PersisterMove.frame {ok : Bool} (move : PersisterMove s ok s') : PersisterFrame s s' := by
  cases move <;> first | exact ⟨rfl, rfl, rfl, rfl, rfl, rfl⟩ | (constructor <;> simp)

structure AddFrame (s s' : Engine) (k : Nat) : Prop where
  call : ∃ pc, s'.adds = s.adds.set k pc
  acks : s'.acks = s.acks
  tasks : s'.tasks = s.tasks
  events : s'.events = s.events
  persister : s'.persister = s.persister
  disk : s'.disk = s.disk
  deleted : s'.deleted = s.deleted
  pump : s'.pump = s.pump
  shutdown : s'.shutdown = s.shutdown
  session : s'.session = s.session ∨ ∃ torrent, s'.session = s.session.remove torrent

theorem AddMove.frame {k : Nat} {ok : Bool} {pc : AddPc} (move : AddMove s k ok pc s') :
    AddFrame s s' k := by
  cases move with
  | release => exact ⟨⟨_, by simp; rfl⟩, by simp, by simp, by simp, by simp, by simp, by simp,
      by simp, by simp, .inl (by simp)⟩
  | removeVanished | unwindRemove =>
    exact ⟨⟨_, rfl⟩, rfl, rfl, rfl, rfl, rfl, rfl, rfl, rfl, .inr ⟨_, rfl⟩⟩
  | _ => exact ⟨⟨_, rfl⟩, rfl, rfl, rfl, rfl, rfl, rfl, rfl, rfl, .inl rfl⟩

structure TaskFrame (s s' : Engine) (i : Nat) : Prop where
  call : ∃ task, s'.tasks = s.tasks.set i task
  adds : s'.adds = s.adds
  acks : s'.acks = s.acks
  registry : s'.registry = s.registry
  dirty : s'.dirty = s.dirty
  events : s'.events = s.events
  queue : s'.queue = s.queue
  persister : s'.persister = s.persister
  disk : s'.disk = s.disk
  deleted : s'.deleted = s.deleted
  pump : s'.pump = s.pump
  shutdown : s'.shutdown = s.shutdown
  session : s'.session = s.session ∨ (∃ torrent, s'.session = s.session.remove torrent) ∨
    ∃ torrent, s'.session = (s.session.saveResumeData torrent).1

theorem TaskMove.frame {i : Nat} {task : Task} (move : TaskMove s i task s') :
    TaskFrame s s' i := by
  cases move with
  | saveUndo | flushUndo => exact ⟨⟨_, by simp; rfl⟩, by simp, by simp, by simp, by simp, by simp,
      by simp, by simp, by simp, by simp, by simp, by simp, .inl (by simp)⟩
  | savePosted | saveRefused | flushPosted | flushRefused =>
    exact ⟨⟨_, rfl⟩, rfl, rfl, rfl, rfl, rfl, rfl, rfl, rfl, rfl, rfl, rfl, .inr (.inr ⟨_, rfl⟩)⟩
  | removePost =>
    exact ⟨⟨_, rfl⟩, rfl, rfl, rfl, rfl, rfl, rfl, rfl, rfl, rfl, rfl, rfl, .inr (.inl ⟨_, rfl⟩)⟩
  | _ => exact ⟨⟨_, rfl⟩, rfl, rfl, rfl, rfl, rfl, rfl, rfl, rfl, rfl, rfl, rfl, .inl rfl⟩

/-- The persist queue is not opened again. -/
theorem Move.persistOpen {a : Action} (move : Move s a s')
    (isOpen : s'.shutdown.persistOpen = true) : s.shutdown.persistOpen = true := by
  cases move with
  | pump move => rwa [← move.frame.shutdown]
  | persister move => rwa [← move.frame.shutdown]
  | add _ move => rwa [← move.frame.shutdown]
  | task _ move => rwa [← move.frame.shutdown]
  | quiesce running => rw [running]; rfl
  | takeSession quiescing => rw [quiescing]; rfl
  | takePersist | abortPump | close => cases isOpen
  | _ => exact isOpen

end Rsbtd
