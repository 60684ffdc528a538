import Rsbtd.Verified.Alerts

/-!
# In-flight accounting

A save is paid for by one token of the `Inflight` counter, from the reservation
before its post until the persister is done with its write.  The token changes
hands five times: the task that reserved it, libtorrent (an accepted post), the
alert queue, the pump, the persist queue.  `Engine.outstanding` counts the
tokens wherever they are.

No step loses or doubles a token, except dropping a future that waits for room
in the persist queue: an `add_torrent`, or a pump that shutdown aborts.
-/

namespace Rsbtd

open Transition

/-! ## Where the tokens are -/

/-- The call has reserved a token and has not handed it to the queue. -/
def AddPc.holds : AddPc → Bool
  | .enqueue _ _ | .send _ _ | .release _ => true
  | _ => false

/-- The task has reserved a token and has not posted its save. -/
def Task.holds : Task → Bool
  | .savePost _ _ | .saveUndo | .flushPost _ _ _ | .flushUndo _ _ => true
  | _ => false

/-- The alert still has its token when `torrent_of` is called for it: the token
of a failed save is released before. -/
def Alert.holds : Alert → Bool
  | .saveResumeData _ _ => true
  | _ => false

/-- The pump has reserved a token for a save of its own, or handles an alert
that carries one. -/
def PumpPc.holds : PumpPc → Bool
  | .torrentOf alert | .torrentOfGet alert _ | .torrentOfData alert => alert.holds
  | .saveFind _ _ | .saveSerialize _ _ | .saveDrop _
  | .saveFailed _ | .requestPost _ _ | .requestUndo _ | .retryPost _ _ _ _
  | .retryUndo _ _ _ => true
  | _ => false

/-- The persister is about to write a record, or has not released its token yet. -/
def PersisterPc.holds : PersisterPc → Bool
  | .execute op => op.isWriteResume
  | .wrote _ _ _ _ | .marked _ _ _ _ | .published _ _ => true
  | .idle | .released _ _ => false

namespace Engine

/-- Reserved tokens, accepted posts whose alert is not handled, and writes that
are held by the pump, queued or being executed. -/
def outstanding (s : Engine) : Nat :=
  s.adds.countP AddPc.holds + s.tasks.countP Task.holds + s.pump.pc.holds.toNat +
    s.session.saves.length + s.session.alerts.countP Alert.isSaveReply +
    s.pump.todo.countP Alert.isSaveReply + s.pump.ops.countP PersistOp.isWriteResume +
    s.queue.countP PersistOp.isWriteResume + s.persister.holds.toNat

/-- The counter is exact, and no `dec` has found it at zero. -/
structure Accounted (s : Engine) : Prop where
  alive : s.fatal = false
  count : s.inflight.count = s.outstanding

end Engine

variable {s s' : Engine}

/-! ## Steps of the session -/

/-- An answer turns an accepted post into an alert; nothing else touches either. -/
theorem SessionMove.replies {s s' : Session} (move : SessionMove s s') :
    s'.saves.length + s'.alerts.countP Alert.isSaveReply
      = s.saves.length + s.alerts.countP Alert.isSaveReply := by
  cases move with
  | answer pending | answerFailed pending =>
    have := List.length_erase_add_one pending
    simp [Session.post, Session.modify, Alert.isSaveReply]
    omega
  | attach | mutate | emit | perform | performGone | expire =>
    simp [Session.post, Session.modify, Alert.isSaveReply]

/-! ## Steps of the pump -/

/-- `torrent_of` passes the token of a save alert on. -/
theorem afterTorrentOf_holds (alert : Alert) (torrent : Option Uuid) :
    (afterTorrentOf alert torrent).holds = alert.holds := by
  cases alert with
  | trigger kind k => cases kind <;> cases torrent <;> rfl
  | saveResumeData k bytes => cases torrent <;> rfl
  | addTorrent | torrentRemoved | saveResumeDataFailed => rfl

namespace Engine.Accounted

variable {pc : PumpPc}

/-- The pump goes on without touching a token. -/
theorem goto (accounted : s.Accounted) (holds : pc.holds = s.pump.pc.holds) :
    (s.goto pc).Accounted where
  alive := accounted.alive
  count := by
    have := accounted.count
    simp only [outstanding, Engine.goto, holds] at this ⊢
    exact this

/-- The pump takes an alert, with its token if it has one. -/
theorem take {alert : Alert} {rest : List Alert} (accounted : s.Accounted)
    (todo : s.pump.todo = alert :: rest) (free : s.pump.pc.holds = false)
    (holds : pc.holds = alert.isSaveReply) : ((s.take alert rest).goto pc).Accounted where
  alive := accounted.alive
  count := by
    have := accounted.count
    simp only [outstanding, Engine.goto, Engine.take, holds, free, todo, countP_cons,
      Bool.toNat_false] at this ⊢
    omega

/-- `inflight.inc()`. -/
theorem reserve (accounted : s.Accounted) (free : s.pump.pc.holds = false)
    (holds : pc.holds = true) :
    ({ s with inflight := s.inflight.inc }.goto pc).Accounted where
  alive := accounted.alive
  count := by
    have := accounted.count
    simp only [outstanding, Engine.goto, Inflight.inc, holds, free] at this ⊢
    simp at this ⊢
    omega

/-- `inflight.dec()`. -/
theorem release (accounted : s.Accounted) (held : s.pump.pc.holds = true)
    (holds : pc.holds = false) :
    (s.dec.goto pc).Accounted := by
  have count := accounted.count
  have token : 0 < s.inflight.count := by
    rw [count, outstanding, held]
    simp only [Bool.toNat_true]
    omega
  obtain ⟨alive, spent⟩ := dec_inflight token
  refine ⟨alive.trans accounted.alive, ?_⟩
  simp only [outstanding, Engine.goto, held, holds, dec_adds, dec_tasks, dec_session, dec_pump,
    dec_queue, dec_persister] at count ⊢
  simp at count ⊢
  omega

/-- The pump's post was accepted or refused. -/
theorem post (accounted : s.Accounted) (k : Nat) (held : s.pump.pc.holds = true)
    (holds : pc.holds = !(s.session.saveResumeData k).2) :
    ({ s with session := (s.session.saveResumeData k).1 }.goto pc).Accounted where
  alive := accounted.alive
  count := by
    have count := accounted.count
    obtain ⟨saves, alerts⟩ := s.session.saveResumeData_saves k
    simp only [outstanding, Engine.goto, held, holds, saves, alerts] at count ⊢
    cases (s.session.saveResumeData k).2 <;> simp at count ⊢ <;> omega

/-- The token of a record goes with the `WriteResume`. -/
theorem push {op : Op} (accounted : s.Accounted) (held : s.pump.pc.holds = op.isWriteResume)
    (holds : pc.holds = false) : (s.push op pc).Accounted where
  alive := accounted.alive
  count := by
    have count := accounted.count
    simp only [outstanding, Engine.push, held, holds, countP_concat, Bool.toNat_false] at count ⊢
    omega

theorem sendOp {op : Op} {rest : List Op} (accounted : s.Accounted)
    (ops : s.pump.ops = op :: rest) : (s.sendOp op rest).Accounted where
  alive := accounted.alive
  count := by
    have count := accounted.count
    simp only [outstanding, Engine.sendOp, ops, countP_concat, countP_cons] at count ⊢
    omega

end Engine.Accounted

attribute [local simp] PumpPc.holds Alert.holds Alert.isSaveReply
  PersistOp.isWriteResume

theorem PumpMove.accounted (move : PumpMove s s') (done : s.pump.BatchDone)
    (accounted : s.Accounted) : s'.Accounted := by
  have frame : ∀ (registry : Registry) (dirty : Finset Uuid) (events : List Event),
      ({ s with registry, dirty, events } : Engine).Accounted :=
    fun _ _ _ => ⟨accounted.alive, accounted.count⟩
  cases move with
  | batch pc pending =>
    have todo := done (by rw [pc]; rfl)
    refine ⟨accounted.alive, ?_⟩
    have count := accounted.count
    simp [Engine.outstanding, pc, todo] at count ⊢
    omega
  | process pc =>
    refine ⟨accounted.alive, ?_⟩
    have count := accounted.count
    simp [Engine.outstanding, pc] at count ⊢
    omega
  | batchDone pc todo =>
    refine ⟨accounted.alive, ?_⟩
    simpa [Engine.outstanding, pc] using accounted.count
  | addRefused pc todo | addTorrent pc todo | metadata pc todo | trigger pc todo
  | saveData pc todo | saveDataFailed pc todo =>
    exact accounted.take todo (by simp [pc]) (by simp)
  | removed pc todo | removedUnknown pc todo =>
    exact (frame _ s.dirty s.events).take todo (by simp [pc]) (by simp)
  | ofExpired pc | ofRegistered pc | ofData pc =>
    exact accounted.goto ((afterTorrentOf_holds _ _).trans (by rw [pc]; rfl))
  | ofAlive pc | ofUnregistered pc => exact accounted.goto (by rw [pc]; rfl)
  | upsert pc => exact (frame _ s.dirty s.events).goto (by simp [pc])
  | pushDelete pc => exact (frame s.registry _ s.events).push (by simp [pc]) (by simp)
  | pushWrite pc => exact accounted.push (by simp [pc]) (by simp)
  | publish pc => exact (frame s.registry s.dirty _).goto (by simp [pc])
  | retryForget pc => exact (frame s.registry _ s.events).goto (by simp [pc])
  | dropped pc | droppedLoud pc | saveFailed pc | requestUndo pc | retryUndo pc =>
    exact accounted.release (by simp [pc]) (by simp)
  | requestInc pc | retryInc pc =>
    exact accounted.reserve (by simp [pc]) (by simp)
  | requestPosted pc accepted | retryPosted pc accepted =>
    exact accounted.post _ (by simp [pc]) (by simp [accepted])
  | requestRefused pc refused | retryRefused pc refused =>
    exact accounted.post _ (by simp [pc]) (by simp [refused])
  | send pc ops room => exact accounted.sendOp ops
  | _ pc => exact accounted.goto (by simp [pc])

/-! ## Steps of the persister -/

theorem PersisterMove.accounted {ok : Bool} (move : PersisterMove s ok s')
    (accounted : s.Accounted) : s'.Accounted := by
  have count := accounted.count
  cases move with
  | receive pc queue =>
    refine ⟨accounted.alive, ?_⟩
    simp only [Engine.outstanding, PersisterPc.holds, pc, queue, countP_cons,
      Bool.toNat_false] at count ⊢
    omega
  | dec pc =>
    have token : 0 < s.inflight.count := by
      simp [count, Engine.outstanding, PersisterPc.holds, pc]
    obtain ⟨alive, spent⟩ := Engine.dec_inflight token
    refine ⟨alive.trans accounted.alive, ?_⟩
    simp [Engine.outstanding, PersisterPc.holds, pc] at count ⊢
    omega
  | _ pc =>
    refine ⟨accounted.alive, ?_⟩
    simpa [Engine.outstanding, PersisterPc.holds, pc] using count

/-! ## Steps of the calls -/

namespace Engine.Accounted

variable {k i : Nat} {pc next : AddPc} {task later : Task}

theorem setAdd (accounted : s.Accounted) (call : s.adds[k]? = some pc)
    (same : next.holds = pc.holds) : (s.setAdd k next).Accounted where
  alive := accounted.alive
  count := by
    have count := accounted.count
    have := countP_set AddPc.holds call next
    simp only [outstanding, Engine.setAdd, same] at count this ⊢
    omega

theorem setTask (accounted : s.Accounted) (call : s.tasks[i]? = some task)
    (same : later.holds = task.holds) : (s.setTask i later).Accounted where
  alive := accounted.alive
  count := by
    have count := accounted.count
    have := countP_set Task.holds call later
    simp only [outstanding, Engine.setTask, same] at count this ⊢
    omega

theorem reserveAdd (accounted : s.Accounted) (call : s.adds[k]? = some pc)
    (free : pc.holds = false) (holds : next.holds = true) :
    ({ s with inflight := s.inflight.inc }.setAdd k next).Accounted where
  alive := accounted.alive
  count := by
    have count := accounted.count
    have := countP_set AddPc.holds call next
    simp only [outstanding, Engine.setAdd, Inflight.inc, free, holds, Bool.toNat_true,
      Bool.toNat_false] at count this ⊢
    omega

theorem reserveTask (accounted : s.Accounted) (call : s.tasks[i]? = some task)
    (free : task.holds = false) (holds : later.holds = true) :
    ({ s with inflight := s.inflight.inc }.setTask i later).Accounted where
  alive := accounted.alive
  count := by
    have count := accounted.count
    have := countP_set Task.holds call later
    simp only [outstanding, Engine.setTask, Inflight.inc, free, holds, Bool.toNat_true,
      Bool.toNat_false] at count this ⊢
    omega

theorem releaseAdd (accounted : s.Accounted) (call : s.adds[k]? = some pc)
    (held : pc.holds = true) (free : next.holds = false) :
    (s.dec.setAdd k next).Accounted := by
  have count := accounted.count
  have token : 0 < s.inflight.count := by
    have := countP_pos AddPc.holds call held
    rw [count, outstanding]
    omega
  obtain ⟨alive, spent⟩ := dec_inflight token
  refine ⟨alive.trans accounted.alive, ?_⟩
  have := countP_set AddPc.holds call next
  simp only [outstanding, Engine.setAdd, dec_adds, dec_tasks, dec_session, dec_pump, dec_queue,
    dec_persister, held, free, Bool.toNat_true, Bool.toNat_false] at count this ⊢
  omega

theorem releaseTask (accounted : s.Accounted) (call : s.tasks[i]? = some task)
    (held : task.holds = true) (free : later.holds = false) :
    (s.dec.setTask i later).Accounted := by
  have count := accounted.count
  have token : 0 < s.inflight.count := by
    have := countP_pos Task.holds call held
    rw [count, outstanding]
    omega
  obtain ⟨alive, spent⟩ := dec_inflight token
  refine ⟨alive.trans accounted.alive, ?_⟩
  have := countP_set Task.holds call later
  simp only [outstanding, Engine.setTask, dec_adds, dec_tasks, dec_session, dec_pump, dec_queue,
    dec_persister, held, free, Bool.toNat_true, Bool.toNat_false] at count this ⊢
  omega

/-- A task's post was accepted or refused. -/
theorem postTask (accounted : s.Accounted) (call : s.tasks[i]? = some task) (k : Nat)
    (held : task.holds = true) (holds : later.holds = !(s.session.saveResumeData k).2) :
    ({ s with session := (s.session.saveResumeData k).1 }.setTask i later).Accounted where
  alive := accounted.alive
  count := by
    have count := accounted.count
    have := countP_set Task.holds call later
    obtain ⟨saves, alerts⟩ := s.session.saveResumeData_saves k
    simp only [outstanding, Engine.setTask, held, holds, saves, alerts] at count this ⊢
    cases posted : (s.session.saveResumeData k).2 <;> simp [posted] at count this ⊢ <;> omega

/-- The write of an add takes the reserved token into the queue. -/
theorem sendAdd {op : Op} (accounted : s.Accounted) (call : s.adds[k]? = some pc)
    (held : pc.holds = op.isWriteResume) (free : next.holds = false) :
    ((s.enqueue op).setAdd k next).Accounted where
  alive := accounted.alive
  count := by
    have count := accounted.count
    have := countP_set AddPc.holds call next
    simp only [outstanding, Engine.setAdd, enqueue, held, free, countP_concat,
      Bool.toNat_false] at count this ⊢
    omega

end Engine.Accounted

attribute [local simp] AddPc.holds Task.holds

theorem AddMove.accounted {k : Nat} {ok : Bool} {pc : AddPc} (call : s.adds[k]? = some pc)
    (move : AddMove s k ok pc s') (accounted : s.Accounted) : s'.Accounted := by
  have frame : ∀ (registry : Registry) (dirty : Finset Uuid),
      ({ s with registry, dirty } : Engine).Accounted :=
    fun _ _ => ⟨accounted.alive, accounted.count⟩
  have remove : ∀ torrent, ({ s with session := s.session.remove torrent } : Engine).Accounted :=
    fun _ => ⟨accounted.alive, by simpa [Engine.outstanding] using accounted.count⟩
  cases move with
  | reserve => exact accounted.reserveAdd call rfl rfl
  | release => exact accounted.releaseAdd call rfl rfl
  | send | compensateSend => exact accounted.sendAdd call rfl rfl
  | upsert | unwindRegistry => exact (frame _ s.dirty).setAdd call rfl
  | unwind => exact (frame s.registry _).setAdd call rfl
  | removeVanished | unwindRemove => exact (remove _).setAdd call rfl
  | _ => exact accounted.setAdd call rfl

theorem TaskMove.accounted {i : Nat} {task : Task} (call : s.tasks[i]? = some task)
    (move : TaskMove s i task s') (accounted : s.Accounted) : s'.Accounted := by
  cases move with
  | saveInc | flushInc => exact accounted.reserveTask call rfl rfl
  | saveUndo | flushUndo => exact accounted.releaseTask call rfl rfl
  | savePosted accepted | flushPosted accepted =>
    exact accounted.postTask call _ rfl (by simp [accepted])
  | saveRefused refused | flushRefused refused =>
    exact accounted.postTask call _ rfl (by simp [refused])
  | removePost =>
    have removed : ∀ torrent,
        ({ s with session := s.session.remove torrent } : Engine).Accounted := fun _ =>
      ⟨accounted.alive, by simpa [Engine.outstanding] using accounted.count⟩
    exact (removed _).setTask call rfl
  | @flushEnd final => cases final <;> exact accounted.setTask call rfl
  | _ => exact accounted.setTask call rfl

/-! ## Runs -/

/-- A future is dropped: a caller's, or that of the aborted pump. -/
def Action.drops : Action → Bool
  | .dropAdd _ | .dropTask _ | .abortPump => true
  | _ => false

/-- An `add_torrent` future is dropped while it waits for room in the persist
queue, with a token reserved, or the pump is aborted with writes left to send. -/
def Engine.dropsToken (s : Engine) : Action → Bool
  | .dropAdd k =>
    match s.adds[k]? with
    | some (.send _ _) => true
    | _ => false
  | .abortPump => s.pump.ops.any PersistOp.isWriteResume
  | _ => false

theorem Engine.dropsToken_of_drops {a : Action} (kept : a.drops = false) :
    s.dropsToken a = false := by
  cases a with
  | dropAdd k => simp [Action.drops] at kept
  | abortPump => simp [Action.drops] at kept
  | _ => rfl

theorem Move.accounted {a : Action} (move : Move s a s') (kept : s.dropsToken a = false)
    (done : s.pump.BatchDone) (accounted : s.Accounted) : s'.Accounted := by
  have count := accounted.count
  cases move with
  | pump move => exact move.accounted done accounted
  | persister move => exact move.accounted accounted
  | add call move => exact move.accounted call accounted
  | task call move => exact move.accounted call accounted
  | session move =>
    refine ⟨accounted.alive, ?_⟩
    have := move.replies
    simp only [Engine.outstanding] at count ⊢
    omega
  | @startAdd accepted =>
    refine ⟨accounted.alive, ?_⟩
    have free : AddPc.holds (if accepted then .awaitAdd else .done .refused) = false := by
      cases accepted <;> rfl
    simp only [Engine.outstanding, countP_concat, free] at count ⊢
    exact count
  | @startTask task initial =>
    refine ⟨accounted.alive, ?_⟩
    have free : task.holds = false := by
      cases task <;> first | rfl | cases initial
    simp only [Engine.outstanding, countP_concat, free] at count ⊢
    exact count
  | sendSessionState =>
    refine ⟨accounted.alive, ?_⟩
    simp only [Engine.outstanding, Engine.enqueue, countP_concat] at count ⊢
    exact count
  | @dropAdd k pc call awaits =>
    have free : pc.holds = false := by
      cases pc with
      | send => simp [Engine.dropsToken, call] at kept
      | _ => first | rfl | cases awaits
    exact accounted.setAdd call free.symm
  | abortPump _ pc =>
    refine ⟨accounted.alive, ?_⟩
    have unwritten : s.pump.ops.countP PersistOp.isWriteResume = 0 := by
      refine List.countP_eq_zero.mpr fun op unsent => ?_
      simpa using List.any_eq_false.mp kept op unsent
    simp only [Engine.outstanding, pc, unwritten, PumpPc.holds] at count
    simpa [Engine.outstanding, PumpPc.holds] using count
  | @dropTask i task call awaits =>
    have free : task.holds = false := by
      cases task <;> first | rfl | cases awaits
    exact accounted.setTask call free.symm
  | notify | quiesce | takeSession | takePersist | close =>
    exact ⟨accounted.alive, count⟩

theorem Engine.accounted_start (restored : Nat) : (Engine.start restored).Accounted where
  alive := rfl
  count := by
    have free : (List.replicate restored AddPc.restored).countP AddPc.holds = 0 := by
      simp [List.countP_replicate]
    simp [Engine.outstanding, Engine.start, Session.start, PersisterPc.holds, free]

/-- The counter is exact in every run that drops no token. -/
theorem accounted_run {restored : Nat}
    (run : EngineRun (fun s a => s.dropsToken a = false) restored s) : s.Accounted :=
  run.invariant (Engine.accounted_start restored) fun _ _ _ reached accounted kept stepped =>
    (step_move stepped).2.accounted kept (batchDone_run reached) accounted

end Rsbtd
