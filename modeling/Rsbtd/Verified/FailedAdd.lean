import Rsbtd.Verified.Removal
import Rsbtd.Verified.Leaving

/-!
# Failed adds

What is left of a torrent whose add failed after libtorrent had accepted it.
`unwind_failed_add` clears the dirty set, unregisters the torrent and removes it
from the session; with `Engine.Leaving`, `Engine.Tidy` says that none of the
three comes back.
-/

namespace Rsbtd

open Transition

variable {s s' : Engine}

namespace AddPc

/-- The unwinding call has cleared the dirty set of its torrent. -/
def cleared : AddPc → Bool
  | .unwindRegistry _ _ | .unwindFind _ _ | .unwindRemove _ _ => true
  | .done result => result.failed
  | _ => false

/-- The unwinding call has unregistered its torrent. -/
def unregistered : AddPc → Bool
  | .unwindFind _ _ | .unwindRemove _ _ => true
  | .done result => result.failed
  | _ => false

end AddPc

/-! ## The steps that leave a trace behind -/

namespace Engine

def cleared (s : Engine) (k : Nat) : Bool := s.adds[k]?.any AddPc.cleared

def unregistered (s : Engine) (k : Nat) : Bool := s.adds[k]?.any AddPc.unregistered

/-- The persister marks a torrent dirty whose add is unwound already, and the
pump does not retry any more. -/
def marksUnwound (s : Engine) : Action → Bool
  | .persister _ =>
    match s.persister with
    | .wrote uuid _ _ false => s.shutdown.quiesce && s.cleared uuid
    | _ => false
  | _ => false

/-- Shutdown begins while a torrent is dirty whose add is unwound already. -/
def quiescesDirty (s : Engine) : Action → Bool
  | .shutdown =>
    match s.shutdown with
    | .running => decide (∃ uuid ∈ s.dirty, s.cleared uuid = true)
    | _ => false
  | _ => false

/-- The pump stops, or is aborted, while it has registered a torrent after the add
unregistered it, and before it handles the torrent's removal. -/
def stopsRegistered (s : Engine) : Action → Bool
  | .shutdown | .abortPump =>
    match s.shutdown with
    | .sessionTaken =>
      (List.range s.adds.length).any fun k => s.unregistered k && (s.registry.find k).isSome
    | _ => false
  | _ => false

/-- The step takes a branch that can leave a trace of a failed add. -/
def leavesTrace (s : Engine) (a : Action) : Bool :=
  s.deletionFails a || s.unwindsWrite a || s.marksUnwound a || s.quiescesDirty a ||
    s.stopsRegistered a || s.abandonsDeletion a

end Engine

/-! ## Nothing is marked or registered again -/

namespace Engine

/-- What the shutdown leaves as it is: the dirty set once `quiesce` is set, and the
registry once the pump has stopped. -/
structure Tidy (s : Engine) : Prop where
  clean : s.shutdown.quiesce = true → ∀ k ∈ s.dirty, s.cleared k = false
  stopped : s.shutdown.persistOpen = false → ∀ k, s.unregistered k = true →
    s.registry.find k = none

namespace Tidy

/-- Steps that leave the shutdown and the add calls alone. -/
theorem mono (tidy : s.Tidy) (adds : s'.adds = s.adds) (shutdown : s'.shutdown = s.shutdown)
    (dirty : ∀ k, s.shutdown.quiesce = true → k ∈ s'.dirty → k ∈ s.dirty ∨ s.cleared k = false)
    (registry : s.shutdown.persistOpen = false → s'.registry = s.registry) : s'.Tidy where
  clean quiesced k marked := by
    rw [shutdown] at quiesced
    rw [cleared, adds]
    rcases dirty k quiesced marked with before | fine
    · exact tidy.clean quiesced k before
    · exact fine
  stopped shut k unwound := by
    rw [shutdown] at shut
    rw [unregistered, adds] at unwound
    rw [registry shut]
    exact tidy.stopped shut k unwound

/-- A step of the call that adds torrent `k`. -/
theorem call (tidy : s.Tidy) {k : Nat} {pc next : AddPc} (frame : AddFrame s s' k)
    (elsewhere : Elsewhere s s' k) (current : s.adds[k]? = some pc)
    (adds : s'.adds = s.adds.set k next) (dirty : s'.dirty ⊆ s.dirty)
    (clean : next.cleared = true → pc.cleared = true ∨ k ∉ s'.dirty)
    (gone : next.unregistered = true →
      s'.registry.find k = none ∨ pc.unregistered = true ∧ s'.registry = s.registry) :
    s'.Tidy := by
  have now : s'.adds[k]? = some next := by rw [adds]; exact get_set_self current next
  have other : ∀ j, j ≠ k → s'.adds[j]? = s.adds[j]? := fun j different => by
    rw [adds, List.getElem?_set_ne (Ne.symm different)]
  refine ⟨fun quiesced j marked => ?_, fun shut j unwound => ?_⟩
  · rw [frame.shutdown] at quiesced
    have before := tidy.clean quiesced j (dirty marked)
    by_cases same : j = k
    · subst same
      rw [cleared, current] at before
      rw [cleared, now, Option.any_some, Bool.eq_false_iff]
      intro unwound
      rcases clean unwound with already | unmarked
      · simp [already] at before
      · exact unmarked marked
    · rwa [cleared, other j same]
  · rw [frame.shutdown] at shut
    by_cases same : j = k
    · subst same
      rw [unregistered, now, Option.any_some] at unwound
      rcases gone unwound with absent | ⟨already, registry⟩
      · exact absent
      · rw [registry]
        exact tidy.stopped shut j (by rw [unregistered, current]; exact already)
    · rw [unregistered, other j same] at unwound
      rw [elsewhere.registry j same]
      exact tidy.stopped shut j unwound

end Tidy

end Engine

theorem PumpMove.dirty_subset (move : PumpMove s s') : s'.dirty ⊆ s.dirty := by
  cases move with
  | pushDelete | retryForget => exact Finset.erase_subset _ _
  | _ => simp

theorem AddMove.tidy {k : Nat} {ok : Bool} {pc : AddPc} (registered : s.Registered)
    (call : s.adds[k]? = some pc) (move : AddMove s k ok pc s') (tidy : s.Tidy) : s'.Tidy := by
  have about := registered.calls k pc call
  have frame := move.frame
  have elsewhere := move.elsewhere registered call
  cases move with
  | @unwind entry result =>
    obtain rfl : entry = entryOf k := about.1
    exact tidy.call frame elsewhere call rfl (Finset.erase_subset _ _)
      (fun _ => .inr (by simp [entryOf])) (fun h => by cases h)
  | @unwindRegistry entry result =>
    obtain rfl : entry = entryOf k := about.1
    refine tidy.call frame elsewhere call rfl (Finset.Subset.refl _) (fun _ => .inl rfl)
      (fun _ => .inl ?_)
    show (s.registry.removeById (entryOf k).id).1.find k = none
    rw [registered.removeById, Registry.remove_find, if_pos rfl]
  | @release entry =>
    have released : (s.dec.setAdd k (.unwind entry .shuttingDown)).adds =
      s.adds.set k (.unwind entry .shuttingDown) := by simp
    exact tidy.call frame elsewhere call released (by simp) (fun h => by cases h) (fun h => by cases h)
  | unwindShut | unwindFind | unwindGone | unwindRemove =>
    exact tidy.call frame elsewhere call rfl (Finset.Subset.refl _) (fun _ => .inl rfl)
      (fun _ => .inr ⟨rfl, rfl⟩)
  | _ =>
    exact tidy.call frame elsewhere call rfl (Finset.Subset.refl _) (fun h => by cases h)
      (fun h => by cases h)

theorem PersisterMove.tidy {ok : Bool} (move : PersisterMove s ok s')
    (kept : s.marksUnwound (.persister ok) = false) (tidy : s.Tidy) : s'.Tidy := by
  obtain ⟨_, adds, _, registry, _, shutdown⟩ := move.frame
  refine tidy.mono adds shutdown (fun k quiesced marked => ?_) fun _ => registry
  cases move with
  | mark pc =>
    simp only [Engine.marksUnwound, pc, quiesced, Bool.true_and] at kept
    rcases Finset.mem_insert.mp marked with rfl | before
    · exact .inr kept
    · exact .inl before
  | unmark => exact .inl (Finset.erase_subset _ _ marked)
  | dec => exact .inl (by simpa using marked)
  | _ => exact .inl marked

theorem Move.tidy {a : Action} (registered : s.Registered) (kept : s.leavesTrace a = false)
    (move : Move s a s') (tidy : s.Tidy) : s'.Tidy := by
  simp only [Engine.leavesTrace, Bool.or_eq_false_iff] at kept
  obtain ⟨⟨⟨⟨_, marks⟩, quiesces⟩, stops⟩, _⟩ := kept
  cases move with
  | pump move running =>
    refine tidy.mono move.frame.adds move.frame.shutdown
      (fun _ _ marked => .inl (move.dirty_subset marked)) fun shut => ?_
    rw [running] at shut
    cases shut
  | persister move => exact move.tidy marks tidy
  | add call move => exact move.tidy registered call tidy
  | task call move =>
    have frame := move.frame
    exact tidy.mono frame.adds frame.shutdown (fun _ _ marked => .inl (frame.dirty ▸ marked))
      fun _ => frame.registry
  | @startAdd accepted =>
    refine ⟨fun quiesced k marked => ?_, fun shut k unwound => ?_⟩
    · exact (any_append (by cases accepted <;> rfl) k).trans (tidy.clean quiesced k marked)
    · exact tidy.stopped shut k
        ((any_append (by cases accepted <;> rfl) k).symm.trans unwound)
  | quiesce running =>
    refine ⟨fun _ k marked => ?_, fun shut => (by cases shut)⟩
    simp only [Engine.quiescesDirty, running, decide_eq_false_iff_not, not_exists, not_and]
      at quiesces
    exact Bool.eq_false_iff.mpr (quiesces k marked)
  | takeSession quiescing =>
    exact ⟨fun _ => tidy.clean (by rw [quiescing]; rfl), fun shut => (by cases shut)⟩
  | takePersist taken | abortPump taken =>
    refine ⟨fun _ => tidy.clean (by rw [taken]; rfl),
      fun _ k (unwound : s.unregistered k = true) => ?_⟩
    simp only [Engine.stopsRegistered, taken, List.any_eq_false, List.mem_range,
      Bool.and_eq_true, not_and, Bool.not_eq_true, Option.isSome_eq_false_iff,
      Option.isNone_iff_eq_none] at stops
    refine stops k ?_ unwound
    by_contra unknown
    rw [Engine.unregistered, List.getElem?_eq_none (Nat.le_of_not_lt unknown)] at unwound
    cases unwound
  | close taken =>
    exact ⟨fun _ => tidy.clean (by rw [taken]; rfl), fun _ => tidy.stopped (by rw [taken]; rfl)⟩
  | @dropAdd k pc call =>
    have dropped : (s.setAdd k .dropped).adds = s.adds.set k .dropped := rfl
    exact tidy.call ⟨⟨_, rfl⟩, rfl, rfl, rfl, rfl, rfl, rfl, rfl, rfl, .inl rfl⟩
      ⟨fun _ _ => rfl, .inl rfl⟩ call dropped (Finset.Subset.refl _) (fun h => by cases h)
      (fun h => by cases h)
  | session | notify | startTask | sendSessionState | dropTask =>
    exact tidy.mono rfl rfl (fun _ _ => .inl) fun _ => rfl

/-- With the pump at rest, every alert is handled. -/
theorem Engine.Drained.stream (drained : s.Drained) (ordered : s.AlertsOrdered)
    (alerts : s.session.alerts = []) : s.stream = s.pump.handled := by
  have batch := ordered.batch (by rw [drained.select]; rfl)
  simp [Engine.stream, taken, batch, alerts]

/-- The torrent of a failed add that is out of the session was removed from it. -/
theorem Engine.Leaving.gone {k : Nat} {pc : AddPc} (leaving : s.Leaving)
    (ordered : s.AlertsOrdered) (call : s.adds[k]? = some pc) (accepted : pc.accepted = true)
    (out : ¬ s.session.Holds k) : (s.session.torrents k).Gone := by
  have order := ordered.session.torrents k
  have added := order.replied true (leaving.replied k pc call accepted)
  have decided := order.decided _ added rfl
  have notRejected := order.accepted added
  cases phase : (s.session.torrents k).phase <;>
    simp_all [Session.Holds, Torrent.Gone, Torrent.Decided]

end Rsbtd
