import Rsbtd.Verified.Leaving
import Rsbtd.Verified.Records

/-!
# Torrents in the session

What the engine keeps of a torrent that the session holds: it is registered once
its add was handled, and nothing is going to delete its file.  A torrent whose
add has failed, or whose call was dropped, is not covered.
-/

namespace Rsbtd

open Transition

variable {s s' : Engine}

namespace AddPc

/-- The call did not fail and was not dropped. -/
def tracked : AddPc → Bool
  | .removeVanished | .release _ | .unwind _ _ | .unwindRegistry _ _ | .unwindFind _ _
  | .unwindRemove _ _ | .dropped => false
  | .done result => match result with
    | .ok => true
    | _ => false
  | _ => true

/-- The call has found its torrent gone. -/
def lost : AddPc → Bool
  | .removeVanished | .compensate _ | .compensateSend _ => true
  | .done result => match result with
    | .refused | .vanished => true
    | _ => false
  | _ => false

theorem tracked_done_of_failed {result : AddResult} (failed : result.failed = true) :
    (done result).tracked = false := by
  cases result <;> first | rfl | cases failed

end AddPc

/-- The pump has handled the `AddTorrent` of torrent `k`. -/
def Pump.Added (pump : Pump) (k : Nat) : Prop :=
  .addTorrent k true ∈ pump.handled ∧ ¬ pump.pc.Adding k

/-- A pump that is aborted was not in the middle of a batch. -/
theorem Engine.abortPump_added {k : Nat} (pc : s.pump.pc = .send)
    (added : s.abortPump.pump.Added k) : s.pump.Added k :=
  ⟨added.1, by simp [pc, PumpPc.Adding]⟩

namespace Engine

/-- A torrent that the session holds is registered. -/
def Present (s : Engine) : Prop :=
  ∀ (k : Nat) (pc : AddPc), s.adds[k]? = some pc → pc.tracked = true → s.session.Holds k →
    pc.mayRegister = true ∨ s.pump.Added k → s.registry.find k ≠ none

end Engine

/-- An alert of a torrent that the session holds finds the client data. -/
theorem Session.Ordered.owned {s : Session} {k : Nat} {closed : Prop} {stream : List Alert}
    (ordered : s.Ordered closed stream) {alert : Alert} (member : alert ∈ stream)
    (about : alert.torrent = k) (held : s.Holds k) : s.clientDataUuid k = some k := by
  have order := ordered.torrents k
  have attached : (s.torrents k).phase = .attached :=
    held.resolve_left (order.decided alert member about).2
  simp [Session.clientDataUuid, Session.alive, attached, order.owned (.inr attached), entryOf]

theorem Engine.handled_stream {alert : Alert} (handled : alert ∈ s.pump.handled) :
    alert ∈ s.stream := by
  simp [Engine.stream, Engine.taken, handled]

/-- The pump registers a torrent when it handles its `AddTorrent`. -/
theorem PumpMove.added (registered : s.Registered) (first : s.pump.AddFirst)
    (move : PumpMove s s') {k : Nat} (added : s'.pump.Added k) :
    s.pump.Added k ∨ s'.registry.find k ≠ none ∨
      s.session.clientDataUuid k = none ∧ .addTorrent k true ∈ s.pump.handled := by
  obtain ⟨handled, done⟩ := added
  cases move with
  | @addTorrent j rest pc todo =>
    have other : k ≠ j := fun same => done (.inl (same ▸ rfl))
    exact .inl ⟨by simpa [other] using handled, by simp [pc, PumpPc.Adding]⟩
  | @addKnown j pc =>
    have other : k ≠ j := fun same => done (.inr (same ▸ rfl))
    exact .inl ⟨handled, by simp [pc, PumpPc.Adding, Ne.symm other]⟩
  | @addVanished j pc vanished =>
    by_cases same : k = j
    · subst same
      exact .inr (.inr ⟨vanished, (first k (.inl pc)).1⟩)
    · exact .inl ⟨handled, by simp [pc, PumpPc.Adding, Ne.symm same]⟩
  | @upsert j pc =>
    by_cases same : k = j
    · subst same
      exact .inr (.inl (by simp [registered.upsert_find]))
    · exact .inl ⟨handled, by simp [pc, PumpPc.Adding, Ne.symm same]⟩
  | send pc => exact .inl ⟨handled, done⟩
  | addRefused pc | removed pc | removedUnknown pc | metadata pc | trigger pc | saveData pc
  | saveDataFailed pc =>
    exact .inl ⟨by simpa using handled, by simp [pc, PumpPc.Adding]⟩
  | dropped pc | droppedLoud pc | saveFailed pc | requestUndo pc | retryUndo pc =>
    exact .inl ⟨by simpa using handled, by simp [pc, PumpPc.Adding]⟩
  | _ pc => exact .inl ⟨handled, by simp [pc, PumpPc.Adding]⟩

theorem PumpMove.keepsPresent (registered : s.Registered) (ordered : s.AlertsOrdered)
    (first : s.pump.AddFirst) (move : PumpMove s s') (present : s.Present) : s'.Present := by
  intro k pc call tracked held registers
  have holds : s.session.Holds k := by simpa only [Session.Holds, (move.torrent k).1] using held
  rw [move.frame.adds] at call
  have stays : s.registry.find k ≠ none ∨ s'.registry.find k ≠ none := by
    rcases registers with own | added
    · exact .inl (present k pc call tracked holds (.inl own))
    · rcases move.added registered first added with before | now | ⟨unowned, handled⟩
      · exact .inl (present k pc call tracked holds (.inr before))
      · exact .inr now
      · have owned := ordered.session.owned (Engine.handled_stream handled) rfl holds
        cases owned.symm.trans unowned
  rcases stays with before | now
  case inr => exact now
  case inl =>
    cases move.pipeline registered with
    | still registry | send _ registry | hold _ _ _ registry | discard _ _ registry =>
      rwa [registry]
    | register j _ registry =>
      rw [registry]
      split
      · simp
      · exact before
    | remove j handled registry =>
      have other : k ≠ j := by
        rintro rfl
        have removed := Engine.handled_stream handled
        rw [move.stream ordered.batch] at removed
        exact ordered.session.not_held_of_removed removed holds
      rwa [registry, if_neg other]

/-- A step of the call that adds torrent `k`. -/
theorem Engine.Present.call {k : Nat} {next : AddPc} (present : s.Present)
    (frame : AddFrame s s' k) (elsewhere : Elsewhere s s' k)
    (adds : s'.adds = s.adds.set k next)
    (own : next.tracked = true → s.session.Holds k →
      next.mayRegister = true ∨ s.pump.Added k → s'.registry.find k ≠ none) : s'.Present := by
  intro j pc entry tracked held registers
  have torrents : s'.session.torrents = s.session.torrents := by
    rcases frame.session with same | ⟨torrent, same⟩ <;> simp [same]
  have holds : s.session.Holds j := by simpa only [Session.Holds, torrents] using held
  rw [frame.pump] at registers
  rcases get_set (adds ▸ entry) with ⟨rfl, rfl⟩ | ⟨other, old⟩
  · exact own tracked holds registers
  · rw [elsewhere.registry j other]
    exact present j pc old tracked holds registers

theorem AddMove.keepsPresent {k : Nat} {ok : Bool} {pc : AddPc} (registered : s.Registered)
    (call : s.adds[k]? = some pc) (move : AddMove s k ok pc s') (present : s.Present) :
    s'.Present := by
  have about := registered.calls k pc call
  have before := present k pc call
  have frame := move.frame
  have elsewhere := move.elsewhere registered call
  cases move with
  | upsert =>
    refine present.call frame elsewhere rfl fun _ _ _ => ?_
    simp [registered.upsert_find]
  | added | readHandle =>
    exact present.call frame elsewhere rfl fun _ held added =>
      before rfl held (.inr (added.resolve_left nofun))
  | serialize | reserve | opened | send | durable | present | gone | compensate | compensateShut
  | compensateSend =>
    exact present.call frame elsewhere rfl fun _ held _ => before rfl held (.inl rfl)
  | @release entry =>
    have released : (s.dec.setAdd k (.unwind entry .shuttingDown)).adds =
      s.adds.set k (.unwind entry .shuttingDown) := by simp
    exact present.call frame elsewhere released nofun
  | unwindShut | unwindGone | unwindRemove =>
    refine present.call frame elsewhere rfl fun tracked => ?_
    rw [AddPc.tracked_done_of_failed about.2] at tracked
    cases tracked
  | _ => exact present.call frame elsewhere rfl nofun

/-- Steps that leave the registry, the pump and the add calls alone. -/
theorem Engine.Present.mono {a : Action} (present : s.Present) (ordered : s.AlertsOrdered)
    (move : Move s a s') (registry : s'.registry = s.registry) (pump : s'.pump = s.pump)
    (adds : ∀ (k : Nat) (pc : AddPc), s'.adds[k]? = some pc → pc.tracked = true →
      s.adds[k]? = some pc) : s'.Present := by
  intro k pc entry tracked held registers
  rw [pump] at registers
  rw [registry]
  have old := adds k pc entry tracked
  have known := (List.getElem?_eq_some_iff.mp old).1
  exact present k pc old tracked (move.holds ordered known held) registers

theorem Move.keepsPresent {a : Action} (registered : s.Registered) (ordered : s.AlertsOrdered)
    (first : s.pump.AddFirst) (move : Move s a s') (present : s.Present) : s'.Present := by
  have stays := present.mono ordered move
  cases move with
  | pump move => exact move.keepsPresent registered ordered first present
  | add call move => exact move.keepsPresent registered call present
  | persister move =>
    exact stays move.frame.registry move.frame.pump fun _ _ entry _ => move.frame.adds ▸ entry
  | task _ move =>
    exact stays move.frame.registry move.frame.pump fun _ _ entry _ => move.frame.adds ▸ entry
  | @startAdd accepted isOpen =>
    intro k pc entry tracked held registers
    rcases get_append entry with old | ⟨rfl, rfl⟩
    · have known := (List.getElem?_eq_some_iff.mp old).1
      exact present k pc old tracked ((Move.startAdd isOpen).holds ordered known held) registers
    · have unused := ordered.session.fresh s.adds.length (Nat.le_of_eq ordered.adds.symm)
      rcases registers with own | ⟨handled, _⟩
      · cases accepted <;> cases own
      · have decided : (s.session.torrents s.adds.length).Decided :=
          (ordered.session.torrents _).decided _ (Engine.handled_stream handled) rfl
        exact absurd (by rw [unused]; rfl) decided.1
  | dropAdd call =>
    refine stays rfl rfl fun k pc entry tracked => ?_
    rcases get_set entry with ⟨_, rfl⟩ | ⟨_, old⟩
    · cases tracked
    · exact old
  | abortPump _ pc =>
    exact fun k add entry tracked held registers =>
      present k add entry tracked held (registers.imp_right (Engine.abortPump_added pc))
  | session | notify | startTask | sendSessionState | quiesce | takeSession | takePersist | close
  | dropTask => exact stays rfl rfl fun _ _ entry _ => entry

theorem calls_start {restored k : Nat} {pc : AddPc}
    (entry : (Engine.start restored).adds[k]? = some pc) : k < restored ∧ pc = .restored := by
  rw [Engine.start, List.getElem?_replicate, Option.ite_none_right_eq_some] at entry
  exact ⟨entry.1, (Option.some.inj entry.2).symm⟩

theorem present_run {ok : Engine → Action → Prop} {restored : Nat} (run : EngineRun ok restored s) :
    s.Present := by
  refine run.invariant (I := Engine.Present) (fun k pc entry _ _ _ => ?_)
    fun _ _ _ reached present _ stepped => (step_move stepped).2.keepsPresent
      (registered_run reached) (ordered_run reached) (addFirst_run reached) present
  have found := restored_find restored k
  rw [if_pos (calls_start entry).1] at found
  show (Engine.restoredRegistry restored).find k ≠ none
  simp [found]

/-! ## Torrents that are lost -/

/-- A call that has found its torrent gone is right. -/
def Engine.LostGone (s : Engine) : Prop :=
  ∀ (k : Nat) (pc : AddPc), s.adds[k]? = some pc → pc.lost = true → ¬ s.session.Holds k

theorem AddMove.lost {k : Nat} {ok : Bool} {pc next : AddPc} (registered : s.Registered)
    (ordered : s.AlertsOrdered) (leaving : s.Leaving) (present : s.Present)
    (call : s.adds[k]? = some pc) (move : AddMove s k ok pc s') (entry : s'.adds[k]? = some next)
    (lost : next.lost = true) : pc.lost = true ∨ ¬ s.session.Holds k := by
  have about := registered.calls k pc call
  have order := ordered.session.torrents k
  cases move with
  | removeVanished | compensate => exact .inl rfl
  | refused reply =>
    refine .inr fun held => ?_
    rcases order.rejected (order.replied false reply) with phase | phase <;>
      simp [Session.Holds, phase] at held
  | expired dead =>
    have accepted := order.replied true (leaving.replied k _ call rfl)
    have out : ¬ s.session.alive k = true := by simp [dead]
    rw [Session.alive_iff, not_or] at out
    exact .inr fun held => held.elim (order.decided _ accepted rfl).2 out.1
  | @gone torrent _ unregistered =>
    obtain rfl : torrent = entryOf k := about
    exact .inr fun held => present k _ call rfl held (.inl rfl) unregistered
  | @unwindShut _ result | @unwindGone _ result | @unwindRemove _ result =>
    simp [get_set_self call] at entry
    subst entry
    have failed := about.2
    cases result <;> simp [AddResult.failed, AddPc.lost] at failed lost
  | release =>
    simp [get_set_self call] at entry
    subst entry
    cases lost
  | _ =>
    simp [get_set_self call] at entry
    subst entry
    cases lost

theorem Move.lostGone {a : Action} (registered : s.Registered) (ordered : s.AlertsOrdered)
    (leaving : s.Leaving) (present : s.Present) (move : Move s a s') (lost : s.LostGone) :
    s'.LostGone := by
  have holds : ∀ k, k < s.adds.length → s'.session.Holds k → s.session.Holds k :=
    fun _ => move.holds ordered
  have old : ∀ (k : Nat) (pc : AddPc), s.adds[k]? = some pc → pc.lost = true →
      ¬ s'.session.Holds k := fun k pc entry gone held =>
    lost k pc entry gone (holds k (List.getElem?_eq_some_iff.mp entry).1 held)
  intro k pc entry gone
  cases move with
  | pump move => exact old k pc (move.frame.adds ▸ entry) gone
  | persister move => exact old k pc (move.frame.adds ▸ entry) gone
  | task _ move => exact old k pc (move.frame.adds ▸ entry) gone
  | @add j ok before _ call move =>
    obtain ⟨next, adds⟩ := move.frame.call
    rcases get_set (adds ▸ entry) with ⟨rfl, _⟩ | ⟨_, same⟩
    · rcases move.lost registered ordered leaving present call entry gone with already | out
      · exact old k before call already
      · exact fun held => out (holds k (List.getElem?_eq_some_iff.mp call).1 held)
    · exact old k pc same gone
  | @startAdd accepted =>
    rcases get_append entry with same | ⟨rfl, rfl⟩
    · exact old k pc same gone
    · cases accepted with
      | true => cases gone
      | false => simp [Session.Holds, Session.addTorrent, ordered.adds]
  | dropAdd call =>
    rcases get_set entry with ⟨_, rfl⟩ | ⟨_, same⟩
    · cases gone
    · exact old k pc same gone
  | session | notify | startTask | sendSessionState | quiesce | takeSession | takePersist | abortPump
  | close | dropTask => exact old k pc entry gone

theorem lostGone_run {ok : Engine → Action → Prop} {restored : Nat}
    (run : EngineRun ok restored s) : s.LostGone := by
  refine run.invariant (I := Engine.LostGone) (fun k pc entry gone => ?_)
    fun _ _ _ reached lost _ stepped => (step_move stepped).2.lostGone (registered_run reached)
      (ordered_run reached) (leaving_run reached) (present_run reached) lost
  rw [(calls_start entry).2] at gone
  cases gone

/-! ## Files of torrents in the session -/

/-- Only the file of a torrent that has left the session is going to be deleted. -/
def Engine.DeletesGone (s : Engine) : Prop :=
  ∀ k, .deleteResume k ∈ s.pending → k < s.adds.length ∧ ¬ s.session.Holds k

theorem Engine.AlertsOrdered.known (ordered : s.AlertsOrdered) {k : Nat}
    (decided : (s.session.torrents k).Decided) : k < s.adds.length := by
  rw [ordered.adds]
  exact ordered.session.known decided

theorem Move.adds_length {a : Action} (move : Move s a s') : s.adds.length ≤ s'.adds.length := by
  cases move with
  | pump move => exact Nat.le_of_eq (by rw [move.frame.adds])
  | persister move => exact Nat.le_of_eq (by rw [move.frame.adds])
  | task _ move => exact Nat.le_of_eq (by rw [move.frame.adds])
  | add _ move =>
    obtain ⟨next, adds⟩ := move.frame.call
    simp [adds]
  | startAdd => simp
  | dropAdd => simp
  | _ => exact Nat.le_refl _

theorem Move.deletesGone {a : Action} (registered : s.Registered) (ordered : s.AlertsOrdered)
    (lost : s.LostGone) (move : Move s a s') (deletes : s.DeletesGone) : s'.DeletesGone := by
  have old : ∀ k, .deleteResume k ∈ s.pending ∨ k < s.adds.length ∧ ¬ s.session.Holds k →
      k < s'.adds.length ∧ ¬ s'.session.Holds k := by
    intro k was
    obtain ⟨known, out⟩ := was.elim (deletes k) id
    exact ⟨Nat.lt_of_lt_of_le known move.adds_length, fun held => out (move.holds ordered known held)⟩
  intro k pending
  refine old k ?_
  cases move with
  | pump move =>
    have frame := move.frame
    rw [Engine.pending, Engine.queued, frame.persister] at pending
    cases move.pipeline registered with
    | still _ queue held => exact .inl (by rwa [queue, held] at pending)
    | send op _ queue held =>
      exact .inl (by simpa [Engine.pending, Engine.queued, queue, held] using pending)
    | register _ _ _ queue held => exact .inl (by rwa [queue, held] at pending)
    | remove j handled _ queue held =>
      rw [queue, held, ← List.append_assoc] at pending
      rcases List.mem_append.mp pending with before | last
      · exact .inl before
      · cases List.mem_singleton.mp last
        have removed := Engine.handled_stream handled
        rw [move.stream ordered.batch] at removed
        exact .inr ⟨ordered.known ((ordered.session.torrents k).decided _ removed rfl),
          ordered.session.not_held_of_removed removed⟩
    | hold uuid bytes _ _ queue held =>
      exact .inl (by simpa [Engine.pending, Engine.queued, queue, held] using pending)
    | discard uuid bytes _ queue held =>
      refine .inl ?_
      rw [queue] at pending
      rw [Engine.pending, held, ← List.append_assoc]
      exact List.mem_append_left _ pending
  | persister move =>
    refine .inl ?_
    have held : s'.held = s.held := by rw [Engine.held, Engine.held, move.frame.pump]
    rw [Engine.pending, held] at pending
    refine List.mem_append.mpr ((List.mem_append.mp pending).imp_left fun queued => ?_)
    cases move with
    | receive pc queue =>
      simpa [Engine.queued, PersisterPc.executing, pc, queue] using queued
    | _ pc =>
      simp [Engine.queued, PersisterPc.executing] at queued ⊢
      simp [queued]
  | @add j ok before _ call move =>
    have about := registered.calls j before call
    have frame := move.frame
    rw [Engine.pending, Engine.held, Engine.queued, frame.pump, frame.persister] at pending
    cases move with
    | send =>
      exact .inl (by simpa [Engine.pending, Engine.queued, Engine.held] using pending)
    | @compensateSend entry =>
      obtain rfl : entry = entryOf j := about
      by_cases own : k = j
      · subst own
        exact .inr ⟨(List.getElem?_eq_some_iff.mp call).1, lost k _ call rfl⟩
      · refine .inl ?_
        simpa [Engine.pending, Engine.queued, Engine.held, entryOf, own] using pending
    | release => exact .inl (by simpa [Engine.pending, Engine.queued, Engine.held] using pending)
    | _ => exact .inl pending
  | task _ move =>
    have frame := move.frame
    refine .inl ?_
    rwa [Engine.pending, Engine.queued, Engine.held, frame.queue, frame.persister, frame.pump]
      at pending
  | sendSessionState =>
    exact .inl (by simpa [Engine.pending, Engine.queued, Engine.held] using pending)
  | abortPump =>
    rw [s.abortPump_pending] at pending
    exact .inl (List.mem_append_left _ pending)
  | session | notify | startAdd | startTask | quiesce | takeSession | takePersist | close
  | dropAdd | dropTask => exact .inl pending

theorem deletesGone_run {ok : Engine → Action → Prop} {restored : Nat}
    (run : EngineRun ok restored s) : s.DeletesGone := by
  refine run.invariant (I := Engine.DeletesGone) (fun k pending => ?_)
    fun _ _ _ reached deletes _ stepped => (step_move stepped).2.deletesGone
      (registered_run reached) (ordered_run reached) (lostGone_run reached) deletes
  simp [Engine.pending, Engine.queued, Engine.held, Engine.start, PersisterPc.executing,
    PumpPc.holding] at pending

/-- A torrent that was not added yet has no records. -/
def Engine.Unrecorded (s : Engine) : Prop :=
  ∀ k, s.adds.length ≤ k → s.disk k = none ∧ ∀ bytes, (k, bytes) ∉ s.records

theorem Move.unrecorded {a : Action} (registered : s.Registered) (attributed : s.pump.Attributed)
    (ordered : s.AlertsOrdered) (move : Move s a s') (unrecorded : s.Unrecorded) :
    s'.Unrecorded := by
  intro k late
  have before := unrecorded k (move.adds_length.trans late)
  cases move with
  | pump move =>
    refine ⟨by rw [move.frame.disk]; exact before.1, fun bytes member => ?_⟩
    cases move.records registered attributed ordered.batch with
    | kept same => exact before.2 bytes (same ▸ member)
    | dropped _ _ _ _ _ _ was now =>
      rw [was] at before
      rw [now] at member
      exact before.2 bytes
        (List.mem_append.mpr ((List.mem_append.mp member).imp_right (List.mem_cons_of_mem _)))
  | persister move =>
    have records : ∀ bytes, (k, bytes) ∉ s'.records := by
      intro bytes member
      rcases move.records with ⟨_, same⟩ | ⟨_, _, _, _, was⟩
      · exact before.2 bytes (same ▸ member)
      · exact before.2 bytes (by rw [was]; exact List.mem_cons_of_mem _ member)
    refine ⟨?_, records⟩
    cases move with
    | @write uuid bytes ack pc =>
      have other : k ≠ uuid := by
        rintro rfl
        exact before.2 bytes (by simp [Engine.records, Engine.queued, PersisterPc.executing,
          PersistOp.record, pc])
      simpa [other] using before.1
    | @delete uuid pc =>
      by_cases same : k = uuid
      · simp [same]
      · simpa [same] using before.1
    | dec => simpa using before.1
    | _ => exact before.1
  | @add j ok pc _ call move =>
    refine ⟨by rw [move.frame.disk]; exact before.1, fun bytes member => ?_⟩
    rcases move.records registered call with same | ⟨_, adds, inserted⟩
    · exact before.2 bytes (same ▸ member)
    · have known := (List.getElem?_eq_some_iff.mp call).1
      have other : k ≠ j := by
        rw [adds, List.length_set] at late
        omega
      rw [inserted] at member
      exact before.2 bytes (by simpa [Engine.records, other] using member)
  | task _ move =>
    exact ⟨by rw [move.frame.disk]; exact before.1, fun bytes member =>
      before.2 bytes (move.records ▸ member)⟩
  | session move =>
    refine ⟨before.1, fun bytes member => ?_⟩
    rcases move.records with ⟨same, _⟩ | ⟨j, saved, _, _, same⟩ <;> rw [same] at member
    · exact before.2 bytes member
    · have known := ordered.known (ordered.session.saves j saved)
      have other : k ≠ j := by
        have : s.adds.length ≤ k := late
        omega
      exact before.2 bytes (by simpa [other] using member)
  | sendSessionState =>
    refine ⟨before.1, fun bytes member => before.2 bytes ?_⟩
    simpa [Engine.records, Engine.queued, Engine.delivered, PersistOp.record] using member
  | abortPump =>
    exact ⟨before.1, fun bytes member => before.2 bytes (s.abortPump_records.subset member)⟩
  | notify | startAdd | startTask | quiesce | takeSession | takePersist | close | dropAdd
  | dropTask => exact before

theorem unrecorded_run {ok : Engine → Action → Prop} {restored : Nat}
    (run : EngineRun ok restored s) : s.Unrecorded := by
  refine run.invariant (I := Engine.Unrecorded) (fun k late => ?_)
    fun _ _ _ reached unrecorded _ stepped => (step_move stepped).2.unrecorded
      (registered_run reached) (attributed_run reached) (ordered_run reached) unrecorded
  have unknown : ¬ k < restored := by simpa [Engine.start] using late
  simp [Engine.start, Engine.records, Engine.queued, Engine.delivered, Session.start,
    PersisterPc.executing, PumpPc.record, unknown]

end Rsbtd
