import Mathlib.Data.List.Nodup
import Mathlib.Data.List.Perm.Basic

/-!
# A notification cell

What tokio's `Notify` promises to the tasks that wait on it, a definition for each
documented law.

* `notifyOne`, of `notify_one`: the task that has waited longest is woken; with nobody
  waiting a permit is left, and there is at most one.
* `poll`, of the future of `notified`: it is over when it was woken or takes the permit;
  else it is on the list from its first poll on.
* `cancel`, of dropping that future: a wakeup it has not seen is handed on.

`signals` counts the wakeups that are still good for something.
-/

namespace Rsbtd.Sync

structure Notify (ι : Type*) where
  permit : Bool
  waiters : List ι
  /-- Woken, and not polled since. -/
  woken : List ι
deriving DecidableEq, Repr

namespace Notify

variable {ι : Type*} {n : Notify ι} {i j : ι}

def empty : Notify ι := ⟨false, [], []⟩

def notifyOne (n : Notify ι) : Notify ι :=
  match n.waiters with
  | [] => { n with permit := true }
  | first :: rest => { n with waiters := rest, woken := n.woken ++ [first] }

def signals (n : Notify ι) : Nat := n.permit.toNat + n.woken.length

/-- A task is in one place only, and nobody waits beside a permit. -/
structure Sound (n : Notify ι) : Prop where
  nodup : (n.waiters ++ n.woken).Nodup
  permit : n.permit = true → n.waiters = []

theorem sound_empty : (empty : Notify ι).Sound := ⟨List.nodup_nil, by simp [empty]⟩

theorem Sound.notifyOne (sound : n.Sound) : n.notifyOne.Sound := by
  unfold Notify.notifyOne
  split
  case h_1 here => exact ⟨sound.nodup, fun _ => here⟩
  case h_2 first rest here =>
    have nodup := sound.nodup
    rw [here] at nodup
    refine ⟨(List.perm_append_singleton first n.woken).append_left rest |>.trans
      List.perm_middle |>.nodup_iff.mpr nodup, fun permit => ?_⟩
    have none := sound.permit permit
    rw [here] at none
    cases none

theorem signals_notifyOne_pos : 0 < n.notifyOne.signals := by
  unfold Notify.notifyOne
  split <;>
    simp only [signals, Bool.toNat_true, List.length_append, List.length_singleton] <;>
    omega

theorem signals_notifyOne_le : n.notifyOne.signals ≤ n.signals + 1 := by
  unfold Notify.notifyOne
  split
  · cases n.permit <;> simp [signals] <;> omega
  · simp [signals]
    omega

/-- Nobody joins or leaves the cell by a wakeup. -/
theorem mem_notifyOne : j ∈ n.notifyOne.waiters ++ n.notifyOne.woken ↔
    j ∈ n.waiters ++ n.woken := by
  unfold Notify.notifyOne
  split
  case h_1 => exact Iff.rfl
  case h_2 first rest here =>
    simp only [here, List.mem_append, List.mem_cons, List.not_mem_nil, or_false]
    tauto

section Tasks

variable [DecidableEq ι]

/-- A poll by task `i`; `true` when its wait is over. -/
def poll (n : Notify ι) (i : ι) : Notify ι × Bool :=
  if i ∈ n.woken then ({ n with woken := n.woken.erase i }, true)
  else if i ∈ n.waiters then (n, false)
  else if n.permit then ({ n with permit := false }, true)
  else ({ n with waiters := n.waiters ++ [i] }, false)

/-- Task `i` stops waiting. -/
def cancel (n : Notify ι) (i : ι) : Notify ι :=
  if i ∈ n.woken then Notify.notifyOne { n with woken := n.woken.erase i }
  else { n with waiters := n.waiters.erase i }

theorem Sound.erase_woken (sound : n.Sound) (i : ι) :
    Sound { n with woken := n.woken.erase i } :=
  ⟨sound.nodup.sublist (List.erase_sublist.append_left n.waiters), sound.permit⟩

theorem Sound.poll (sound : n.Sound) (i : ι) : (n.poll i).1.Sound := by
  unfold Notify.poll
  split
  case isTrue => exact sound.erase_woken i
  case isFalse notWoken =>
    split
    case isTrue => exact sound
    case isFalse notWaiting =>
      split
      case isTrue => exact ⟨sound.nodup, by simp⟩
      case isFalse noPermit =>
        refine ⟨?_, fun permit => absurd permit noPermit⟩
        rw [List.append_assoc, List.singleton_append, List.nodup_middle, List.nodup_cons]
        exact ⟨by simp [notWaiting, notWoken], sound.nodup⟩

theorem Sound.cancel (sound : n.Sound) (i : ι) : (n.cancel i).Sound := by
  unfold Notify.cancel
  split
  case isTrue => exact (sound.erase_woken i).notifyOne
  case isFalse =>
    refine ⟨sound.nodup.sublist (List.erase_sublist.append_right n.woken), fun permit => ?_⟩
    simp [sound.permit permit]

theorem signals_erase_woken (woken : i ∈ n.woken) :
    signals { n with woken := n.woken.erase i } + 1 = n.signals := by
  have some := List.length_pos_of_mem woken
  simp only [signals, List.length_erase_of_mem woken]
  omega

/-- A wait that is over has used one signal up. -/
theorem signals_poll (ready : (n.poll i).2 = true) : (n.poll i).1.signals + 1 = n.signals := by
  unfold Notify.poll at ready ⊢
  split at ready
  case isTrue woken => simpa [woken] using signals_erase_woken woken
  case isFalse notWoken =>
    split at ready
    case isTrue => cases ready
    case isFalse notWaiting =>
      split at ready
      case isTrue permit =>
        simp [notWoken, notWaiting, permit, signals]
        omega
      case isFalse => cases ready

/-- A wait that goes on leaves the signals alone. -/
theorem signals_poll_pending (pending : (n.poll i).2 = false) :
    (n.poll i).1.signals = n.signals := by
  unfold Notify.poll at pending ⊢
  split at pending
  case isTrue => cases pending
  case isFalse notWoken =>
    split at pending
    case isTrue waiting => simp [notWoken, waiting]
    case isFalse notWaiting =>
      split at pending
      case isTrue => cases pending
      case isFalse noPermit => simp [notWoken, notWaiting, noPermit, signals]

/-- When `i` is the only task that can be in the cell, a signal is for `i`. -/
theorem poll_ready (sound : n.Sound) (only : ∀ j ∈ n.waiters ++ n.woken, j = i)
    (signaled : 0 < n.signals) : (n.poll i).2 = true := by
  unfold Notify.poll
  split
  case isTrue => rfl
  case isFalse notWoken =>
    have none : n.woken = [] := List.eq_nil_iff_forall_not_mem.mpr fun j member =>
      notWoken (only j (List.mem_append_right _ member) ▸ member)
    have permit : n.permit = true := by
      cases permit : n.permit with
      | true => rfl
      | false => simp [signals, none, permit] at signaled
    simp [sound.permit permit, permit]

theorem mem_poll_ready (sound : n.Sound) (ready : (n.poll i).2 = true) :
    j ∈ (n.poll i).1.waiters ++ (n.poll i).1.woken ↔ j ∈ n.waiters ++ n.woken ∧ j ≠ i := by
  unfold Notify.poll at ready ⊢
  split at ready
  case isTrue woken =>
    have apart := List.nodup_append.mp sound.nodup
    have notWaiting : i ∉ n.waiters := fun waiting => apart.2.2 i waiting i woken rfl
    simp only [woken, if_true, List.mem_append, apart.2.1.mem_erase_iff]
    constructor
    · rintro (waiting | ⟨different, member⟩)
      · exact ⟨.inl waiting, fun same => notWaiting (same ▸ waiting)⟩
      · exact ⟨.inr member, different⟩
    · rintro ⟨waiting | member, different⟩
      · exact .inl waiting
      · exact .inr ⟨different, member⟩
  case isFalse notWoken =>
    split at ready
    case isTrue => cases ready
    case isFalse notWaiting =>
      split at ready
      case isTrue permit =>
        simp only [notWoken, notWaiting, permit, if_true, if_false, List.mem_append]
        refine ⟨fun member => ⟨member, ?_⟩, And.left⟩
        rintro rfl
        exact member.elim notWaiting notWoken
      case isFalse => cases ready

theorem mem_poll_pending (pending : (n.poll i).2 = false) :
    j ∈ (n.poll i).1.waiters ++ (n.poll i).1.woken ↔ j ∈ n.waiters ++ n.woken ∨ j = i := by
  unfold Notify.poll at pending ⊢
  split at pending
  case isTrue => cases pending
  case isFalse notWoken =>
    split at pending
    case isTrue waiting =>
      simp only [notWoken, waiting, if_true, if_false, List.mem_append]
      exact ⟨.inl, fun member => member.elim id fun same => .inl (same ▸ waiting)⟩
    case isFalse notWaiting =>
      split at pending
      case isTrue => cases pending
      case isFalse noPermit =>
        simp only [notWoken, notWaiting, noPermit, if_false, List.mem_append, List.mem_singleton,
          Bool.false_eq_true]
        tauto

theorem mem_cancel (sound : n.Sound) :
    j ∈ (n.cancel i).waiters ++ (n.cancel i).woken ↔ j ∈ n.waiters ++ n.woken ∧ j ≠ i := by
  have apart := List.nodup_append.mp sound.nodup
  unfold Notify.cancel
  split
  case isTrue woken =>
    have ready : (n.poll i).2 = true := by simp [Notify.poll, woken]
    have left := mem_poll_ready (j := j) sound ready
    simp only [Notify.poll, woken, if_true] at left
    rw [mem_notifyOne]
    exact left
  case isFalse notWoken =>
    simp only [List.mem_append, apart.1.mem_erase_iff]
    constructor
    · rintro (⟨different, member⟩ | member)
      · exact ⟨.inl member, different⟩
      · exact ⟨.inr member, fun same => notWoken (same ▸ member)⟩
    · rintro ⟨member | member, different⟩
      · exact .inl ⟨different, member⟩
      · exact .inr member

end Tasks

end Notify

end Rsbtd.Sync
