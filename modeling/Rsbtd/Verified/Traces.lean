import Rsbtd.Verified.Acks
import Rsbtd.Verified.Alerts

/-!
# What an unregistered torrent leaves behind

`Engine.Traces` is the invariant under the two results on removal: a torrent
that is not registered leaves no resume file once the pending operations are
executed, except for the record whose add call is still going to look.

It is kept by every step that does not take one of the branches named below.
`careful` separates the two results: a run that is not `careful` may also leave
files through a call that succeeded or was dropped.
-/

namespace Rsbtd

open Transition

variable {s s' : Engine} {careful : Prop}

/-! ## The steps that leave a file behind -/

namespace Engine

/-- The deletion of an existing resume file fails. -/
def deletionFails (s : Engine) : Action → Bool
  | .persister false =>
    match s.persister with
    | .execute (.deleteResume uuid) => (s.disk uuid).isSome
    | _ => false
  | _ => false

/-- `unwind_failed_add` unregisters a torrent while a write of another task is
on its way: the later `TorrentRemoved` is not attributed and deletes nothing. -/
def unwindsWrite (s : Engine) : Action → Bool
  | .add k _ =>
    match s.adds[k]? with
    | some (.unwindRegistry entry _) => s.leavesFile entry.uuid
    | _ => false
  | _ => false

/-- `add_torrent` registers a torrent whose removal the pump has handled. -/
def registersRemoved (s : Engine) : Action → Bool
  | .add k _ =>
    match s.adds[k]? with
    | some .upsert => decide (.torrentRemoved k ∈ s.pump.handled)
    | _ => false
  | _ => false

/-- `add_torrent` ends without deleting the file of a torrent that was removed
meanwhile: the persist queue is closed, or its caller dropped the future. -/
def skipsCompensation (s : Engine) : Action → Bool
  | .add k _ =>
    match s.adds[k]? with
    | some (.compensate entry) => !s.shutdown.persistOpen && s.leavesFile entry.uuid
    | _ => false
  | .dropAdd k =>
    match s.adds[k]? with
    | some (.awaitAck entry) | some (.compensateSend entry) =>
      (s.registry.find entry.uuid).isNone && s.leavesFile entry.uuid
    | _ => false
  | _ => false

/-- Shutdown aborts the pump before it has sent the deletion of an unregistered
torrent's file, which what is queued leaves. -/
def abandonsDeletion (s : Engine) : Action → Bool
  | .abortPump =>
    s.pump.ops.any fun op => match op with
      | .deleteResume uuid =>
        (s.registry.find uuid).isNone &&
          leaves (PersistOp.effect uuid false) (s.disk uuid).isSome s.queued
      | _ => false
  | _ => false

end Engine

/-! ## The invariant -/

/-- The persister has written the record that call `c` waits for. -/
def PersisterPc.landed (c : Nat) : PersisterPc → Bool
  | .wrote _ _ ack ok | .marked _ _ ack ok | .published ack ok | .released ack ok =>
    ok && ack == some c
  | _ => false

namespace AddPc

/-- The call will look whether its torrent is still registered, or compensates. -/
def compensating : AddPc → Bool
  | .check _ | .compensate _ | .compensateSend _ => true
  | _ => false

/-- The call ended without an error, or was dropped. -/
def careless : AddPc → Bool
  | .done .ok | .dropped => true
  | _ => false

end AddPc

namespace Engine

def waitsForAck (s : Engine) (k : Nat) : Bool :=
  match s.adds[k]? with
  | some (.awaitAck _) => true
  | _ => false

/-- The file of torrent `k`, if there is one, is the record of a call that is
still going to look whether `k` is registered. -/
def Landed (s : Engine) (k : Nat) : Prop :=
  (s.waitsForAck k = true ∧ (s.persister.landed k = true ∨ s.acks k = some true)) ∨
    ∃ pc, s.adds[k]? = some pc ∧ pc.compensating = true

/-- The call that added torrent `k` is over and left its file to others. -/
def Excused (s : Engine) (careful : Prop) (k : Nat) : Prop :=
  ¬ careful ∧ ∃ pc, s.adds[k]? = some pc ∧ pc.careless = true

structure Traces (s : Engine) (careful : Prop) : Prop where
  /-- Nothing but an awaited record survives the pending operations. -/
  traceless : ∀ k, s.registry.find k = none →
    leaves (PersistOp.effect k (s.waitsForAck k)) (s.disk k).isSome s.pending = false ∨
      s.Landed k ∨ s.Excused careful k
  /-- The pump does not hold a write that a deletion could be queued before. -/
  withheld : ∀ k, s.registry.find k = none →
    leaves (PersistOp.effect k false) false s.held = false
  removed : ∀ k, .torrentRemoved k ∈ s.pump.handled → s.registry.find k = none ∨
    ¬ careful ∧ ∃ pc, s.adds[k]? = some pc ∧ pc.mayRegister = true

end Engine

/-! ## Steps of the pump -/

theorem PumpMove.traceless (registered : s.Registered) (move : PumpMove s s')
    (traces : s.Traces careful) (k : Nat) (absent : s'.registry.find k = none) :
    leaves (PersistOp.effect k (s'.waitsForAck k)) (s'.disk k).isSome s'.pending = false ∨
      s'.Landed k ∨ s'.Excused careful k := by
  obtain ⟨adds, acks, _, persister, disk, _, _⟩ := move.frame
  have waits : s'.waitsForAck k = s.waitsForAck k := by simp [Engine.waitsForAck, adds]
  have excuse : s.Landed k ∨ s.Excused careful k → s'.Landed k ∨ s'.Excused careful k := by
    simp [Engine.Landed, Engine.Excused, waits, adds, acks, persister]
  have keeps : s.registry.find k = none →
      (leaves (PersistOp.effect k (s.waitsForAck k)) (s.disk k).isSome s.pending = false →
        leaves (PersistOp.effect k (s.waitsForAck k)) (s.disk k).isSome s'.pending = false) →
      leaves (PersistOp.effect k (s.waitsForAck k)) (s.disk k).isSome s'.pending = false ∨
        s'.Landed k ∨ s'.Excused careful k :=
    fun gone keeps => (traces.traceless k gone).imp keeps excuse
  rw [waits, disk]
  cases move.pipeline registered with
  | still registry queue held =>
    have pending : s'.pending = s.pending := by
      simp [Engine.pending, Engine.queued, persister, queue, held]
    exact keeps (registry ▸ absent) fun none => pending ▸ none
  | send op registry queue held =>
    have pending : s'.pending = s.pending := by
      simp [Engine.pending, Engine.queued, persister, queue, held]
    exact keeps (registry ▸ absent) fun none => pending ▸ none
  | register j pc registry queue held =>
    -- a torrent that becomes registered is no longer spoken of
    have pending : s'.pending = s.pending := by
      simp [Engine.pending, Engine.queued, persister, queue, held]
    rw [registry] at absent
    split at absent
    case isTrue => cases absent
    case isFalse => exact keeps absent fun none => pending ▸ none
  | remove j _ registry queue held =>
    -- the deletion is queued behind all that is pending: it decides for its own torrent
    have pending : s'.pending = s.pending ++ [.deleteResume j] := by
      simp [Engine.pending, Engine.queued, persister, queue, held]
    rw [pending, leaves_concat] at keeps ⊢
    by_cases same : k = j
    · left; simp [PersistOp.effect, same]
    · rw [registry, if_neg same] at absent
      exact keeps absent fun none => by simpa [PersistOp.effect, Ne.symm same] using none
  | hold uuid bytes found registry queue held =>
    -- the pump held the uuid against the registry before it kept the bytes
    have pending : s'.pending = s.pending ++ [.writeResume uuid bytes none] := by
      simp [Engine.pending, Engine.queued, persister, queue, held]
    rw [registry] at absent
    have other : uuid ≠ k := fun same => found (same ▸ absent)
    rw [pending, leaves_concat] at keeps ⊢
    exact keeps absent fun none => by simpa [PersistOp.effect, other] using none
  | discard uuid bytes registry queue held =>
    -- one write less leaves no file more
    have pending : s.pending = s'.pending ++ [.writeResume uuid bytes none] := by
      simp [Engine.pending, Engine.queued, persister, queue, held]
    refine keeps (registry ▸ absent) fun none => ?_
    rw [pending] at none
    refine leaves_of_append_write ?_ none
    by_cases own : uuid = k <;> simp [PersistOp.effect, own]

theorem PumpMove.withheld (registered : s.Registered) (move : PumpMove s s')
    (traces : s.Traces careful) (k : Nat) (absent : s'.registry.find k = none) :
    leaves (PersistOp.effect k false) false s'.held = false := by
  have before := traces.withheld k
  cases move.pipeline registered with
  | still registry queue held => rw [held]; exact before (registry ▸ absent)
  | send op registry queue held =>
    have := before (registry ▸ absent)
    rw [held] at this
    exact leaves_tail this
  | register j pc registry queue held =>
    rw [registry] at absent
    split at absent
    case isTrue => cases absent
    case isFalse => rw [held]; exact before absent
  | remove j _ registry queue held =>
    rw [held, leaves_concat]
    by_cases same : k = j
    · simp [PersistOp.effect, same]
    · rw [registry, if_neg same] at absent
      simpa [PersistOp.effect, Ne.symm same] using before absent
  | hold uuid bytes found registry queue held =>
    rw [registry] at absent
    have other : uuid ≠ k := fun same => found (same ▸ absent)
    rw [held, leaves_concat]
    simpa [PersistOp.effect, other] using before absent
  | discard uuid bytes registry queue held =>
    have none := before (registry ▸ absent)
    rw [held] at none
    refine leaves_of_append_write ?_ none
    by_cases own : uuid = k <;> simp [PersistOp.effect, own]

/-- Handling a removal unregisters the torrent, and nothing the pump does later
registers it again. -/
theorem PumpMove.removes (registered : s.Registered) (first : s.pump.AddFirst)
    (move : PumpMove s s') {k : Nat} (handled : .torrentRemoved k ∈ s'.pump.handled) :
    s'.registry.find k = none ∨
      .torrentRemoved k ∈ s.pump.handled ∧ s'.registry.find k = s.registry.find k := by
  cases move with
  | @removed j | @removedUnknown j =>
    simp only [Engine.goto, Engine.take] at handled ⊢
    rw [registered.removeByToken, Registry.remove_find]
    by_cases same : k = j
    · exact .inl (if_pos same)
    · exact .inr ⟨by simpa [same] using handled, if_neg same⟩
  | @upsert j pc =>
    -- `AddFirst`: the torrent being registered has no handled removal
    have handled : .torrentRemoved k ∈ s.pump.handled := handled
    have other : k ≠ j := fun same => (first j (.inr pc)).2 (same ▸ handled)
    exact .inr ⟨handled, (registered.upsert_find j k).trans (if_neg other)⟩
  | addRefused | addTorrent | metadata | trigger | saveData | saveDataFailed =>
    exact .inr ⟨by simpa using handled, rfl⟩
  | dropped | droppedLoud | saveFailed | requestUndo | retryUndo =>
    exact .inr ⟨by simpa using handled, by simp⟩
  | _ => exact .inr ⟨handled, rfl⟩

theorem PumpMove.traces (registered : s.Registered) (first : s.pump.AddFirst)
    (move : PumpMove s s') (traces : s.Traces careful) : s'.Traces careful where
  traceless := move.traceless registered traces
  withheld := move.withheld registered traces
  removed k handled := by
    rcases move.removes registered first handled with absent | ⟨before, same⟩
    · exact .inl absent
    · rw [same, move.frame.adds]
      exact traces.removed k before

/-! ## Steps of the persister -/

/-- A step of the persister keeps the invariant if it keeps what it says about files. -/
theorem Engine.Traces.persister (traces : s.Traces careful) (frame : PersisterFrame s s')
    (files : ∀ k, leaves (PersistOp.effect k (s.waitsForAck k)) (s.disk k).isSome s.pending = false →
      leaves (PersistOp.effect k (s.waitsForAck k)) (s'.disk k).isSome (s'.queued ++ s.held) =
        false ∨ s'.Landed k)
    (landed : ∀ k, s.Landed k → s'.Landed k) : s'.Traces careful where
  traceless k absent := by
    have waits : s'.waitsForAck k = s.waitsForAck k := by simp [waitsForAck, frame.adds]
    have same : s'.held = s.held := by rw [held, held, frame.pump]
    rw [waits, pending, same]
    rcases traces.traceless k (frame.registry ▸ absent) with none | still | excused
    · exact (files k none).imp_right .inl
    · exact .inr (.inl (landed k still))
    · exact .inr (.inr (by simpa [Excused, frame.adds] using excused))
  withheld k absent := by
    rw [held, frame.pump]
    exact traces.withheld k (frame.registry ▸ absent)
  removed k handled := by
    rw [frame.registry, frame.adds]
    exact traces.removed k (frame.pump ▸ handled)

/-- Only the persister's own progress counts for `Landed`. -/
theorem Engine.Landed.mono {k : Nat} (landed : s.Landed k) (adds : s'.adds = s.adds)
    (record : s.persister.landed k = true → s'.persister.landed k = true ∨ s'.acks k = some true)
    (acks : s.acks k = some true → s'.acks k = some true) : s'.Landed k := by
  rcases landed with ⟨waits, record_or_ack⟩ | compensating
  · refine .inl ⟨by simpa [waitsForAck, adds] using waits, ?_⟩
    rcases record_or_ack with now | acked
    · exact record now
    · exact .inr (acks acked)
  · exact .inr (adds ▸ compensating)

theorem PersisterMove.traces {ok : Bool} (acknowledged : s.Acknowledged)
    (move : PersisterMove s ok s') (kept : s.deletionFails (.persister ok) = false)
    (traces : s.Traces careful) : s'.Traces careful := by
  have frame := move.frame
  cases move with
  | receive pc queue =>
    refine traces.persister frame (fun k none => .inl ?_) fun k landed =>
      landed.mono rfl (by simp [PersisterPc.landed, pc]) id
    simpa [Engine.pending, Engine.queued, PersisterPc.executing, pc, queue] using none
  | @write uuid bytes ack pc =>
    refine traces.persister frame (fun k none => ?_) fun k landed =>
      landed.mono rfl (by simp [PersisterPc.landed, pc]) id
    simp only [Engine.pending, Engine.queued, PersisterPc.executing, pc, List.cons_append,
      List.nil_append, leaves_cons] at none
    simp only [Engine.queued, PersisterPc.executing, List.nil_append]
    by_cases same : k = uuid
    · subst same
      by_cases ignored : s.waitsForAck k = true ∧ ack.isSome = true
      · -- the record has landed, and its call will look
        right
        obtain ⟨c, rfl⟩ := Option.isSome_iff_exists.mp ignored.2
        have own := acknowledged.own (.writeResume k bytes (some c))
          (by simp [Engine.queued, PersisterPc.executing, pc]) k bytes c rfl
        exact .inl ⟨ignored.1, .inl (by simp [PersisterPc.landed, own])⟩
      · left
        simpa [PersistOp.effect, ignored] using none
    · left
      simpa [PersistOp.effect, same, Ne.symm same] using none
  | @writeFails uuid bytes ack pc =>
    -- the file stays as it is, where the pending write was counted as leaving one
    refine traces.persister frame (fun k none => .inl ?_) fun k landed =>
      landed.mono rfl (by simp [PersisterPc.landed, pc]) id
    simp only [Engine.pending, Engine.queued, PersisterPc.executing, pc, List.cons_append,
      List.nil_append, leaves_cons] at none
    refine leaves_mono (fun present => ?_) none
    cases affects : PersistOp.effect k (s.waitsForAck k) (.writeResume uuid bytes ack) with
    | none => exact present
    | some state =>
      simp only [PersistOp.effect] at affects
      split at affects <;> cases affects
      rfl
  | @delete uuid pc =>
    refine traces.persister frame (fun k none => .inl ?_) fun k landed =>
      landed.mono rfl (by simp [PersisterPc.landed, pc]) id
    simp only [Engine.pending, Engine.queued, PersisterPc.executing, pc, List.cons_append,
      List.nil_append, leaves_cons] at none
    simp only [Engine.queued, PersisterPc.executing, List.nil_append]
    by_cases same : k = uuid
    · subst same; simpa [PersistOp.effect] using none
    · simpa [PersistOp.effect, same, Ne.symm same] using none
  | @deleteFails uuid pc =>
    -- a deletion that fails found no file
    have gone : (s.disk uuid).isSome = false := by simpa [Engine.deletionFails, pc] using kept
    refine traces.persister frame (fun k none => .inl ?_) fun k landed =>
      landed.mono rfl (by simp [PersisterPc.landed, pc]) id
    simp only [Engine.pending, Engine.queued, PersisterPc.executing, pc, List.cons_append,
      List.nil_append, leaves_cons] at none
    simp only [Engine.queued, PersisterPc.executing, List.nil_append]
    by_cases same : k = uuid
    · subst same; rw [gone]; simpa [PersistOp.effect] using none
    · simpa [PersistOp.effect, same, Ne.symm same] using none
  | sessionState pc =>
    refine traces.persister frame (fun k none => .inl ?_) fun k landed =>
      landed.mono rfl (by simp [PersisterPc.landed, pc]) id
    simpa [Engine.pending, Engine.queued, PersisterPc.executing, pc,
      PersistOp.effect] using none
  | @acknowledge call done ok pc =>
    -- `landed` passes from the persister to the ack channel
    have unacked : s.acks call = none := acknowledged.acks_none (by
      simp [Engine.awaited, PersisterPc.awaitedBy, pc])
    refine traces.persister frame (fun k none => .inl ?_) fun k landed =>
      landed.mono rfl (fun record => .inr ?_) fun acked => ?_
    · simpa [Engine.pending, Engine.queued, PersisterPc.executing, pc] using none
    · simp only [PersisterPc.landed, pc, Bool.and_eq_true, beq_iff_eq, Option.some.injEq] at record
      simp [record.1, record.2]
    · have other : k ≠ call := fun same => by rw [same, unacked] at acked; cases acked
      simpa [other] using acked
  | dec pc =>
    refine traces.persister frame (fun k none => .inl ?_) fun k landed =>
      landed.mono (by simp)
        (fun record => .inl (by simpa [PersisterPc.landed, pc] using record)) (by simp)
    simpa [Engine.pending, Engine.queued, PersisterPc.executing, pc] using none
  | unmark pc | publishSaved pc =>
    refine traces.persister frame (fun k none => .inl ?_) fun k landed =>
      landed.mono rfl (fun record => .inl (by simpa [PersisterPc.landed, pc] using record)) id
    simpa [Engine.pending, Engine.queued, PersisterPc.executing, pc] using none
  | mark pc | publishFailed pc | unheard pc =>
    refine traces.persister frame (fun k none => .inl ?_) fun k landed =>
      landed.mono rfl (by simp [PersisterPc.landed, pc]) id
    simpa [Engine.pending, Engine.queued, PersisterPc.executing, pc] using none

/-! ## Steps of the add calls -/

def AddPc.waits : AddPc → Bool
  | .awaitAck _ => true
  | _ => false

theorem Engine.waitsForAck_eq {k : Nat} {pc : AddPc} (entry : s.adds[k]? = some pc) :
    s.waitsForAck k = pc.waits := by
  cases pc <;> simp [waitsForAck, entry, AddPc.waits]

/-- A call that is neither waiting nor compensating does not excuse a file. -/
theorem Engine.Traces.tracked {k : Nat} {pc : AddPc} (traces : s.Traces careful)
    (call : s.adds[k]? = some pc) (waits : pc.waits = false) (compensating : pc.compensating = false)
    (careless : pc.careless = false) (absent : s.registry.find k = none) :
    leaves (PersistOp.effect k false) (s.disk k).isSome s.pending = false := by
  rcases traces.traceless k absent with none | (⟨waiting, _⟩ | ⟨before, entry, looks⟩) |
    ⟨_, before, entry, ended⟩
  · rwa [waitsForAck_eq call, waits] at none
  · rw [waitsForAck_eq call, waits] at waiting; cases waiting
  · obtain rfl := Option.some.inj (call.symm.trans entry)
    rw [compensating] at looks; cases looks
  · obtain rfl := Option.some.inj (call.symm.trans entry)
    rw [careless] at ended; cases ended

/-- A step of the call that adds torrent `k` keeps the invariant if it keeps
what the invariant says about `k`. -/
theorem Engine.Traces.call {k : Nat} {pc next : AddPc} (traces : s.Traces careful)
    (frame : AddFrame s s' k) (elsewhere : Elsewhere s s' k) (current : s.adds[k]? = some pc)
    (adds : s'.adds = s.adds.set k next)
    (traceless : s'.registry.find k = none →
      leaves (PersistOp.effect k next.waits) (s.disk k).isSome
          (s.persister.executing ++ s'.queue ++ s.held) = false ∨
        s'.Landed k ∨ s'.Excused careful k)
    (withheld : s'.registry.find k = none →
      leaves (PersistOp.effect k false) false s.held = false)
    (removed : .torrentRemoved k ∈ s.pump.handled →
      s'.registry.find k = none ∨ ¬ careful ∧ next.mayRegister = true) : s'.Traces careful := by
  have now : s'.adds[k]? = some next := by rw [adds]; exact get_set_self current next
  have other : ∀ j, j ≠ k → s'.adds[j]? = s.adds[j]? := by
    intro j different
    rw [adds, List.getElem?_set_ne (Ne.symm different)]
  have held : s'.held = s.held := by rw [Engine.held, Engine.held, frame.pump]
  have pending : s'.pending = s.persister.executing ++ s'.queue ++ s.held := by
    rw [Engine.pending, Engine.queued, frame.persister, held]
  constructor
  case traceless =>
    intro j absent
    by_cases same : j = k
    · subst same
      rw [waitsForAck_eq now, frame.disk, pending]
      exact traceless absent
    · have waits : s'.waitsForAck j = s.waitsForAck j := by simp [waitsForAck, other j same]
      have unaffected : leaves (PersistOp.effect j (s.waitsForAck j)) (s.disk j).isSome s.pending
          = leaves (PersistOp.effect j (s.waitsForAck j)) (s.disk j).isSome
            (s.persister.executing ++ s'.queue ++ s.held) := by
        rcases elsewhere.queue with queue | ⟨op, queue, foreign⟩
        · rw [queue, Engine.pending, queued]
        · rw [queue, Engine.pending, queued, ← List.append_assoc, List.append_assoc _ [op],
            List.singleton_append, leaves_skip (foreign j same _)]
      rw [waits, frame.disk, pending, ← unaffected]
      refine (traces.traceless j (elsewhere.registry j same ▸ absent)).imp_right ?_
      simp [Landed, Excused, waits, other j same, frame.persister, frame.acks]
  case withheld =>
    intro j absent
    rw [held]
    by_cases same : j = k
    · subst same; exact withheld absent
    · exact traces.withheld j (elsewhere.registry j same ▸ absent)
  case removed =>
    intro j handled
    rw [frame.pump] at handled
    by_cases same : j = k
    · subst same
      refine (removed handled).imp_right ?_
      rintro ⟨careless, holds⟩
      exact ⟨careless, next, now, holds⟩
    · rw [elsewhere.registry j same, other j same]
      exact traces.removed j handled

/-- A step that neither registers, unregisters, queues nor hears anything. -/
theorem Engine.Traces.quiet {k : Nat} {pc next : AddPc} (traces : s.Traces careful)
    (frame : AddFrame s s' k) (current : s.adds[k]? = some pc)
    (adds : s'.adds = s.adds.set k next) (registry : s'.registry = s.registry)
    (queue : s'.queue = s.queue) (waits : next.waits = pc.waits)
    (compensating : pc.compensating = true → next.compensating = true)
    (careless : pc.careless = true → next.careless = true)
    (registers : pc.mayRegister = true → next.mayRegister = true) : s'.Traces careful := by
  have now : s'.adds[k]? = some next := by rw [adds]; exact get_set_self current next
  refine traces.call frame ⟨fun _ _ => by rw [registry], .inl queue⟩ current adds (fun absent => ?_)
    (fun absent => traces.withheld k (registry ▸ absent)) (fun handled => ?_)
  · rw [queue, waits, ← waitsForAck_eq current]
    refine (traces.traceless k (registry ▸ absent)).imp_right (Or.imp ?_ ?_)
    · rintro (⟨waiting, landed⟩ | ⟨before, entry, looks⟩)
      · refine .inl ⟨?_, by rwa [frame.persister, frame.acks]⟩
        rw [waitsForAck_eq now, waits, ← waitsForAck_eq current]
        exact waiting
      · obtain rfl := Option.some.inj (current.symm.trans entry)
        exact .inr ⟨next, now, compensating looks⟩
    · rintro ⟨lax, before, entry, ended⟩
      obtain rfl := Option.some.inj (current.symm.trans entry)
      exact ⟨lax, next, now, careless ended⟩
  · rw [registry]
    refine (traces.removed k handled).imp_right ?_
    rintro ⟨lax, before, entry, holds⟩
    obtain rfl := Option.some.inj (current.symm.trans entry)
    exact ⟨lax, registers holds⟩

/-- No write that call `k` waits for is pending, so all writes count. -/
theorem Engine.Acknowledged.counts (acknowledged : s.Acknowledged) {k : Nat}
    (silent : s.awaited k = 0) (present waiting : Bool) :
    leaves (PersistOp.effect k waiting) present s.pending =
      leaves (PersistOp.effect k false) present s.pending := by
  refine leaves_congr fun op member => ?_
  cases op with
  | writeResume uuid bytes ack =>
    cases ack with
    | none => simp [PersistOp.effect]
    | some c =>
      have other : uuid ≠ k := by
        rintro rfl
        rcases List.mem_append.mp member with queued | held
        · obtain rfl := acknowledged.own _ queued uuid bytes c rfl
          simp only [Engine.awaited, Nat.add_eq_zero_iff, List.countP_eq_zero] at silent
          rcases List.mem_append.mp queued with executing | waits
          · cases pc : s.persister <;> simp [PersisterPc.executing, pc] at executing
            simp [PersisterPc.awaitedBy, PersistOp.awaitedBy, pc, ← executing] at silent
          · simpa [PersistOp.awaitedBy] using silent.1 _ waits
        · simpa [PersistOp.awaitedBy] using acknowledged.held _ held c
      simp [PersistOp.effect, other]
  | deleteResume => rfl
  | writeSessionState => rfl

theorem AddMove.traces {k : Nat} {ok : Bool} {pc : AddPc} (registered : s.Registered)
    (acknowledged : s.Acknowledged) (call : s.adds[k]? = some pc) (move : AddMove s k ok pc s')
    (unwinds : s.unwindsWrite (.add k ok) = false)
    (late : careful → s.registersRemoved (.add k ok) = false)
    (compensates : careful → s.skipsCompensation (.add k ok) = false)
    (traces : s.Traces careful) : s'.Traces careful := by
  have about := registered.calls k pc call
  have frame := move.frame
  have elsewhere := move.elsewhere registered call
  have removed := traces.removed k
  have stays : ∀ next : AddPc, (pc.mayRegister = true → next.mayRegister = true) →
      .torrentRemoved k ∈ s.pump.handled →
      s.registry.find k = none ∨ ¬ careful ∧ next.mayRegister = true := by
    intro next keeps handled
    refine (removed handled).imp_right ?_
    rintro ⟨lax, before, entry, holds⟩
    obtain rfl := Option.some.inj (call.symm.trans entry)
    exact ⟨lax, keeps holds⟩
  cases move with
  | upsert =>
    -- the torrent becomes registered, which only a late call may do after its removal
    have present := (registered.upsert_find k k).trans (if_pos rfl)
    refine traces.call frame elsewhere call rfl
      (fun absent => by cases present.symm.trans absent)
      (fun absent => by cases present.symm.trans absent) fun handled => ?_
    by_cases attentive : careful
    · have fresh := late attentive
      simp only [Engine.registersRemoved, call, decide_eq_false_iff_not] at fresh
      exact absurd handled fresh
    · exact .inr ⟨attentive, rfl⟩
  | @send entry bytes =>
    -- from here the call answers for its own write, so `effect` leaves it out
    obtain ⟨rfl, rfl⟩ := about
    refine traces.call frame elsewhere call rfl (fun absent => .inl ?_) (traces.withheld k)
      (stays _ fun _ => rfl)
    show leaves _ _ (s.persister.executing ++ (s.queue ++ [_]) ++ s.held) = false
    rw [← List.append_assoc, List.append_assoc _ [_], List.singleton_append, leaves_skip]
    · exact leaves_of_weaker (PersistOp.effect_weakens k true)
        (traces.tracked call rfl rfl rfl absent)
    · simp [PersistOp.effect, AddPc.waits]
  | durable ack =>
    exact traces.call frame elsewhere call rfl
      (fun _ => .inr (.inl (.inr ⟨_, get_set_self call _, rfl⟩))) (traces.withheld k)
      (stays _ fun _ => rfl)
  | notWritten ack =>
    -- the write failed, so there is no landed record to account for
    refine traces.call frame elsewhere call rfl (fun absent => .inl ?_) (traces.withheld k)
      (stays _ fun _ => rfl)
    have silent := acknowledged.awaited_zero (c := k) (by simp [ack])
    show leaves (PersistOp.effect k false) _ s.pending = false
    rcases traces.traceless k absent with none | (⟨_, landed | acked⟩ | ⟨before, entry, looks⟩) |
      ⟨_, before, entry, ended⟩
    · rwa [Engine.waitsForAck_eq call, acknowledged.counts silent] at none
    · have heard : s.persister.awaitedBy k = true := by
        cases pc : s.persister <;> simp_all [PersisterPc.landed, PersisterPc.awaitedBy]
      simp [Engine.awaited, heard] at silent
    · rw [ack] at acked; cases acked
    · obtain rfl := Option.some.inj (call.symm.trans entry)
      cases looks
    · obtain rfl := Option.some.inj (call.symm.trans entry)
      cases ended
  | @present entry _ found =>
    obtain rfl : entry = entryOf k := about
    exact traces.call frame elsewhere call rfl (fun absent => absurd absent found)
      (traces.withheld k) (stays _ fun _ => rfl)
  | gone =>
    exact traces.call frame elsewhere call rfl
      (fun _ => .inr (.inl (.inr ⟨_, get_set_self call _, rfl⟩))) (traces.withheld k)
      (stays _ fun _ => rfl)
  | @compensateShut entry _ shut =>
    -- nothing can be queued any more: the branch that a careful run does not take
    obtain rfl : entry = entryOf k := about
    refine traces.call frame elsewhere call rfl (fun absent => ?_) (traces.withheld k)
      (stays _ fun _ => rfl)
    by_cases attentive : careful
    · have none := compensates attentive
      simp only [Engine.skipsCompensation, call, shut, Bool.not_false, Bool.true_and] at none
      exact .inl none
    · exact .inr (.inr ⟨attentive, _, get_set_self call _, rfl⟩)
  | @compensateSend entry =>
    -- the deletion goes behind the queue, but before what the pump still holds
    obtain rfl : entry = entryOf k := about
    refine traces.call frame elsewhere call rfl (fun absent => .inl ?_) (traces.withheld k)
      (stays _ fun _ => rfl)
    show leaves _ _ (s.persister.executing ++ (s.queue ++ [_]) ++ s.held) = false
    rw [← List.append_assoc, leaves_append, leaves_concat]
    simpa [PersistOp.effect, entryOf, AddPc.waits] using traces.withheld k absent
  | @unwindRegistry entry =>
    -- the torrent is unregistered here: what is pending must not leave its file
    obtain rfl : entry = entryOf k := about.1
    have none : s.leavesFile k = false := by
      simpa [Engine.unwindsWrite, call, entryOf] using unwinds
    have gone : (s.registry.removeById (entryOf k).id).1.find k = Option.none := by
      rw [registered.removeById, Registry.remove_find, if_pos rfl]
    refine traces.call frame elsewhere call rfl (fun _ => .inl none) (fun _ => ?_)
      fun _ => .inl gone
    rw [Engine.leavesFile, Engine.pending, leaves_append] at none
    exact leaves_mono (by simp) none
  | @release entry =>
    have released : (s.dec.setAdd k (.unwind entry .shuttingDown)).adds =
      s.adds.set k (.unwind entry .shuttingDown) := by simp
    exact traces.quiet frame call released (by simp) (by simp) rfl (fun h => by cases h)
      (fun h => by cases h) fun _ => rfl
  | compensate =>
    exact traces.quiet frame call rfl rfl rfl rfl (fun _ => rfl) (fun h => by cases h)
      fun _ => rfl
  | serialize | notSerialized | reserve | opened | shut | unwind =>
    exact traces.quiet frame call rfl rfl rfl rfl (fun h => by cases h) (fun h => by cases h)
      fun _ => rfl
  | _ =>
    exact traces.quiet frame call rfl rfl rfl rfl (fun h => by cases h) (fun h => by cases h)
      (fun h => by cases h)

/-! ## Steps of the engine -/

/-- The step leaves no file of an unregistered torrent behind. -/
structure Engine.Clean (careful : Prop) (s : Engine) (a : Action) : Prop where
  deletes : s.deletionFails a = false
  unwinds : s.unwindsWrite a = false
  late : careful → s.registersRemoved a = false
  compensates : careful → s.skipsCompensation a = false
  sends : s.abandonsDeletion a = false

/-- Steps that leave the pipeline, the registry and the calls alone. -/
theorem Engine.Traces.mono (traces : s.Traces careful) (registry : s'.registry = s.registry)
    (adds : ∀ k, s'.waitsForAck k = s.waitsForAck k)
    (calls : ∀ (k : Nat) (pc : AddPc), s.adds[k]? = some pc → s'.adds[k]? = some pc)
    (acks : s'.acks = s.acks) (persister : s'.persister = s.persister) (disk : s'.disk = s.disk)
    (files : ∀ k waiting present, leaves (PersistOp.effect k waiting) present s'.pending =
      leaves (PersistOp.effect k waiting) present s.pending)
    (pump : s'.pump = s.pump) : s'.Traces careful where
  traceless k absent := by
    rw [adds, disk, files]
    refine (traces.traceless k (registry ▸ absent)).imp_right (Or.imp ?_ ?_)
    · rintro (⟨waiting, landed⟩ | ⟨pc, entry, looks⟩)
      · exact .inl ⟨by rwa [adds], by rwa [persister, acks]⟩
      · exact .inr ⟨pc, calls k pc entry, looks⟩
    · rintro ⟨lax, pc, entry, ended⟩
      exact ⟨lax, pc, calls k pc entry, ended⟩
  withheld k absent := by
    rw [held, pump]
    exact traces.withheld k (registry ▸ absent)
  removed k handled := by
    rw [registry]
    refine (traces.removed k (pump ▸ handled)).imp_right ?_
    rintro ⟨lax, pc, entry, holds⟩
    exact ⟨lax, pc, calls k pc entry, holds⟩

/-- The caller of `add_torrent` drops its future. -/
theorem Engine.Traces.dropAdd {k : Nat} {pc : AddPc} (registered : s.Registered)
    (call : s.adds[k]? = some pc) (awaits : pc.awaits = true)
    (compensates : careful → s.skipsCompensation (.dropAdd k) = false)
    (traces : s.Traces careful) : (s.setAdd k .dropped).Traces careful := by
  have about := registered.calls k pc call
  refine traces.call
    ⟨⟨_, rfl⟩, rfl, rfl, rfl, rfl, rfl, rfl, rfl, rfl, .inl rfl⟩ ⟨fun _ _ => rfl, .inl rfl⟩ call rfl
    (fun absent => ?_) (traces.withheld k) fun handled => ?_
  · by_cases attentive : careful
    · refine .inl ?_
      show leaves (PersistOp.effect k false) _ s.pending = false
      have kept := compensates attentive
      cases pc with
      -- the future was dropped before its write was queued
      | awaitAdd | send => exact traces.tracked call rfl rfl rfl absent
      | awaitAck entry | compensateSend entry =>
        obtain rfl : entry = entryOf k := about
        have absent : s.registry.find k = none := absent
        have none : s.leavesFile k = false := by
          simpa [Engine.skipsCompensation, call, entryOf, absent] using kept
        exact none
      | _ => cases awaits
    · exact .inr (.inr ⟨attentive, _, get_set_self call _, rfl⟩)
  · refine (traces.removed k handled).imp_right ?_
    rintro ⟨lax, _⟩
    exact ⟨lax, rfl⟩

/-- Shutdown aborts the pump. -/
theorem Engine.Traces.abortPump (pc : s.pump.pc = .send)
    (sends : s.abandonsDeletion .abortPump = false) (traces : s.Traces careful) :
    s.abortPump.Traces careful where
  traceless k absent := by
    refine (traces.traceless k absent).imp_left fun none => ?_
    show leaves (PersistOp.effect k (s.waitsForAck k)) (s.disk k).isSome s.abortPump.pending = false
    rw [s.pending_of_send pc] at none
    rw [s.abortPump_pending]
    -- the deletions among the lost operations are those `abandonsDeletion` looks at
    by_cases deletes : .deleteResume k ∈ s.pump.ops
    · have left := List.any_eq_false.mp sends _ deletes
      have gone : s.registry.find k = Option.none := absent
      simp only [gone, Option.isNone_none, Bool.true_and, Bool.not_eq_true] at left
      exact leaves_of_weaker (PersistOp.effect_weakens k _) left
    · -- what is lost does not delete the file of `k`
      refine leaves_of_append_writes (fun op member affects => ?_) none
      cases op with
      | writeResume => simp [PersistOp.effect] at affects
      | deleteResume uuid =>
        obtain rfl : uuid = k := by simpa [PersistOp.effect] using affects
        exact deletes member
      | writeSessionState => cases affects
  withheld _ _ := rfl
  removed := traces.removed

theorem Move.traces {a : Action} (registered : s.Registered) (acknowledged : s.Acknowledged)
    (first : s.pump.AddFirst) (clean : s.Clean careful a) (move : Move s a s')
    (traces : s.Traces careful) : s'.Traces careful := by
  cases move with
  | pump move => exact move.traces registered first traces
  | persister move => exact move.traces acknowledged clean.deletes traces
  | add call move =>
    exact move.traces registered acknowledged call clean.unwinds clean.late clean.compensates traces
  | dropAdd call awaits => exact traces.dropAdd registered call awaits clean.compensates
  | abortPump _ pc => exact traces.abortPump pc clean.sends
  | task call move =>
    obtain ⟨_, adds, acks, registry, _, _, queue, persister, disk, _, pump, _⟩ := move.frame
    refine traces.mono registry (fun k => by simp [Engine.waitsForAck, adds])
      (fun k pc entry => adds ▸ entry) acks persister disk (fun k waiting present => ?_) pump
    simp [Engine.pending, Engine.queued, Engine.held, queue, persister, pump]
  | @startAdd accepted =>
    refine traces.mono rfl (fun k => ?_) (fun k pc entry => get_append_of_get entry _) rfl rfl rfl
      (fun _ _ _ => rfl) rfl
    have idle : AddPc.waits (if accepted then .awaitAdd else .done .refused) = false := by
      cases accepted <;> rfl
    by_cases old : k < s.adds.length
    · simp [Engine.waitsForAck, List.getElem?_append_left old]
    · have unknown : s.adds[k]? = none := List.getElem?_eq_none (Nat.le_of_not_lt old)
      cases entry : (s.adds ++ [if accepted then .awaitAdd else .done .refused])[k]? with
      | none => simp only [Engine.waitsForAck, entry, unknown]
      | some pc =>
        obtain ⟨_, rfl⟩ := (get_append entry).resolve_left (by simp [unknown])
        rw [Engine.waitsForAck_eq entry, idle, Engine.waitsForAck, unknown]
  | sendSessionState =>
    refine traces.mono rfl (fun _ => rfl) (fun _ _ => id) rfl rfl rfl
      (fun k waiting present => ?_) rfl
    show leaves _ present (s.persister.executing ++ (s.queue ++ [_]) ++ s.held) = _
    rw [← List.append_assoc, List.append_assoc _ [_], List.singleton_append, leaves_skip rfl]
    rfl
  | session | notify | startTask | quiesce | takeSession | takePersist | close | dropTask =>
    exact traces.mono rfl (fun _ => rfl) (fun _ _ => id) rfl rfl rfl (fun _ _ _ => rfl) rfl

theorem traces_run {restored : Nat} (run : EngineRun (Engine.Clean careful) restored s) :
    s.Traces careful := by
  refine run.invariant (I := fun s => s.Traces careful)
    ⟨fun k absent => .inl ?_, fun k _ => ?_, fun k handled => ?_⟩
    fun _ _ _ reached traces clean stepped =>
      (step_move stepped).2.traces (registered_run reached) (acknowledged_run reached)
        (addFirst_run reached) clean traces
  · have unknown : ¬ k < restored := fun known => by
      have := (restored_find restored k).symm.trans absent
      simp [known] at this
    simp [Engine.start, Engine.pending, Engine.queued, Engine.held, PersisterPc.executing,
      PumpPc.holding, unknown]
  · simp [Engine.start, Engine.held, PumpPc.holding]
  · simp [Engine.start] at handled

end Rsbtd
