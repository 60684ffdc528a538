import Rsbtd.Transition.LastWriter
import Rsbtd.Verified.Registered

/-!
# The resume pipeline

The resume file of a torrent is written and deleted by operations that pass
through one FIFO: from the pump's batch or an API call into the persist queue,
from there to the persister.  `Engine.pending` lists the operations that are not
executed yet, in the order in which they will be, and `Engine.leavesFile` says
whether a file exists once they are.
-/

namespace Rsbtd

open Transition

variable {s s' : Engine}

/-- The operation the pump is about to push. -/
def PumpPc.holding : PumpPc → List Op
  | .torrentRemoved entry => [.deleteResume entry.uuid]
  | .saveSerialize uuid bytes => [.writeResume uuid bytes none]
  | _ => []

def PersisterPc.executing : PersisterPc → List Op
  | .execute op => [op]
  | _ => []

/-- What an operation does to the resume file of `u`; with `waiting`, a write
that some call awaits is not counted. -/
def PersistOp.effect (u : Uuid) (waiting : Bool) : Op → Option Bool
  | .writeResume v _ ack => if v = u ∧ ¬ (waiting = true ∧ ack.isSome = true) then some true else none
  | .deleteResume v => if v = u then some false else none
  | .writeSessionState _ _ => none

namespace Engine

def queued (s : Engine) : List Op := s.persister.executing ++ s.queue

def held (s : Engine) : List Op := s.pump.ops ++ s.pump.pc.holding

def pending (s : Engine) : List Op := s.queued ++ s.held

/-- Of an aborted pump only what it has sent is still going to be executed. -/
theorem abortPump_pending (s : Engine) : s.abortPump.pending = s.queued := List.append_nil _

theorem pending_of_send (s : Engine) (pc : s.pump.pc = .send) :
    s.pending = s.queued ++ s.pump.ops := by
  simp [pending, held, pc, PumpPc.holding]

/-- A file is left if every pending operation succeeds. -/
def leavesFile (s : Engine) (u : Uuid) : Bool :=
  leaves (PersistOp.effect u false) (s.disk u).isSome s.pending

end Engine

namespace PersistOp

theorem effect_weakens (u : Uuid) (waiting : Bool) (op : Op) :
    op.effect u waiting = op.effect u false ∨
      op.effect u waiting = none ∧ op.effect u false = some true := by
  cases op with
  | writeResume v bytes ack =>
    cases waiting <;> cases ack <;> by_cases own : v = u <;> simp [effect, own]
  | deleteResume v => exact .inl rfl
  | writeSessionState => exact .inl rfl

theorem effect_other {u v : Uuid} (other : u ≠ v) (waiting : Bool) (bytes : ResumeData)
    (ack : Option Nat) :
    (writeResume v bytes ack : Op).effect u waiting = none ∧
      (deleteResume v : Op).effect u waiting = none := by
  simp [effect, other.symm]

end PersistOp

/-! ## What the pump does to the pipeline -/

/-- One move of the pump, seen by the registry and the pipeline. -/
inductive PipelineMove (s s' : Engine) : Prop where
  | still (registry : s'.registry = s.registry) (queue : s'.queue = s.queue)
      (held : s'.held = s.held)
  | send (op : Op) (registry : s'.registry = s.registry) (queue : s'.queue = s.queue ++ [op])
      (held : s.held = op :: s'.held)
  | register (k : Nat) (pc : s.pump.pc = .addTorrentUpsert k)
      (registry : ∀ j, s'.registry.find j = if j = k then some (entryOf k) else s.registry.find j)
      (queue : s'.queue = s.queue) (held : s'.held = s.held)
  | remove (k : Nat) (handled : .torrentRemoved k ∈ s'.pump.handled)
      (registry : ∀ j, s'.registry.find j = if j = k then none else s.registry.find j)
      (queue : s'.queue = s.queue) (held : s'.held = s.held ++ [.deleteResume k])
  | hold (uuid : Uuid) (bytes : ResumeData) (registered : s.registry.find uuid ≠ none)
      (registry : s'.registry = s.registry) (queue : s'.queue = s.queue)
      (held : s'.held = s.held ++ [.writeResume uuid bytes none])
  | discard (uuid : Uuid) (bytes : ResumeData) (registry : s'.registry = s.registry)
      (queue : s'.queue = s.queue) (held : s.held = s'.held ++ [.writeResume uuid bytes none])

theorem afterTorrentOf_holding (alert : Alert) (torrent : Option Uuid) :
    (afterTorrentOf alert torrent).holding = [] := by
  rcases afterTorrentOf_cases alert torrent with
    pc | ⟨_, pc⟩ | ⟨_, _, pc⟩ | ⟨_, _, _, _, _, pc⟩ | ⟨_, _, _, _, pc⟩ <;> rw [pc] <;> rfl

theorem PumpMove.pipeline (registered : s.Registered) (move : PumpMove s s') :
    PipelineMove s s' := by
  cases move with
  | upsert pc =>
    exact .register _ pc (registered.upsert_find _) rfl (by simp [Engine.held, PumpPc.holding, pc])
  | @removed k rest entry pc todo found =>
    rw [registered.removeByToken, Registry.remove_entry] at found
    obtain rfl := registered.coherent.find_eq found
    refine .remove k (by simp) (fun j => ?_) rfl (by simp [Engine.held, PumpPc.holding, pc, entryOf])
    show (s.registry.removeByToken (entryOf k).token).1.find j = _
    rw [registered.removeByToken]
    exact Registry.remove_find s.registry k j
  | @removedUnknown k rest pc todo unknown =>
    rw [registered.removeByToken, Registry.remove_entry] at unknown
    refine .still ?_ rfl (by simp [Engine.held, PumpPc.holding, pc])
    show (s.registry.removeByToken (entryOf k).token).1 = _
    rw [registered.removeByToken, Registry.remove_of_absent unknown]
  | @saveKnown uuid bytes pc found =>
    exact .hold uuid bytes found rfl rfl (by simp [Engine.held, PumpPc.holding, pc])
  | @notSerialized uuid bytes pc =>
    exact .discard uuid bytes rfl rfl (by simp [Engine.held, PumpPc.holding, pc])
  | send pc ops => exact .send _ rfl rfl (by simp [Engine.held, PumpPc.holding, pc, ops])
  | ofExpired pc | ofRegistered pc | ofData pc =>
    exact .still rfl rfl (by simp only [Engine.held, Engine.goto, afterTorrentOf_holding, pc]; rfl)
  | dropped pc | droppedLoud pc | saveFailed pc | requestUndo pc | retryUndo pc =>
    exact .still (by simp) (by simp) (by simp [Engine.held, PumpPc.holding, pc])
  | _ pc => exact .still rfl rfl (by simp [Engine.held, PumpPc.holding, pc])

/-! ## What an add does to the pipeline -/

/-- Another torrent's add neither registers nor unregisters `j`, and queues
nothing that concerns its file. -/
structure Elsewhere (s s' : Engine) (k : Nat) : Prop where
  registry : ∀ j, j ≠ k → s'.registry.find j = s.registry.find j
  queue : s'.queue = s.queue ∨ ∃ op, s'.queue = s.queue ++ [op] ∧
    ∀ j, j ≠ k → ∀ waiting, PersistOp.effect j waiting op = none

theorem AddMove.elsewhere {k : Nat} {ok : Bool} {pc : AddPc} (registered : s.Registered)
    (call : s.adds[k]? = some pc) (move : AddMove s k ok pc s') : Elsewhere s s' k := by
  have about := registered.calls k pc call
  cases move with
  | upsert =>
    exact ⟨fun j other => (registered.upsert_find k j).trans (if_neg other), .inl rfl⟩
  | @unwindRegistry entry =>
    obtain rfl : entry = entryOf k := about.1
    refine ⟨fun j other => ?_, .inl rfl⟩
    show (s.registry.removeById (entryOf k).id).1.find j = _
    rw [registered.removeById, Registry.remove_find, if_neg other]
  | @send entry =>
    obtain ⟨rfl, _⟩ := about
    exact ⟨fun _ _ => rfl, .inr ⟨_, rfl, fun j other waiting =>
      (PersistOp.effect_other other waiting _ _).1⟩⟩
  | @compensateSend entry =>
    obtain rfl : entry = entryOf k := about
    exact ⟨fun _ _ => rfl, .inr ⟨_, rfl, fun j other waiting =>
      (PersistOp.effect_other other waiting initialRecord none).2⟩⟩
  | release => exact ⟨fun _ _ => by simp, .inl (by simp)⟩
  | _ => exact ⟨fun _ _ => rfl, .inl rfl⟩

end Rsbtd
