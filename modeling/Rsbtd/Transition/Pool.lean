import Mathlib.Algebra.GroupWithZero.Nat
import Mathlib.Data.List.Basic

/-!
# Pools of tasks

A pool is a list with one entry per task, its program counter.  A step of task
`i` replaces entry `i`; a new task is appended.  The lemmas say what that does
to the number of tasks with some property and to facts about single tasks.
-/

namespace Rsbtd.Transition

variable {α : Type*} {pool : List α} {i : Nat} {a : α}

theorem countP_cons (p : α → Bool) (a : α) (rest : List α) :
    (a :: rest).countP p = (p a).toNat + rest.countP p := by
  cases holds : p a <;> simp [holds, Nat.add_comm]

theorem countP_concat (p : α → Bool) (rest : List α) (a : α) :
    (rest ++ [a]).countP p = rest.countP p + (p a).toNat := by
  rw [List.countP_append, countP_cons]
  rfl

/-- A step of one task moves the count by what the task itself gained or lost. -/
theorem countP_set (p : α → Bool) (current : pool[i]? = some a) (b : α) :
    (pool.set i b).countP p + (p a).toNat = pool.countP p + (p b).toNat := by
  induction pool generalizing i with
  | nil => simp at current
  | cons head rest ih =>
    cases i with
    | zero =>
      obtain rfl : head = a := by simpa using current
      simp only [List.set_cons_zero, countP_cons]
      omega
    | succ i =>
      have := ih (by simpa using current)
      simp only [List.set_cons_succ, countP_cons]
      omega

/-- The same for a sum over the tasks. -/
theorem sum_set (f : α → Nat) (current : pool[i]? = some a) (b : α) :
    ((pool.set i b).map f).sum + f a = (pool.map f).sum + f b := by
  induction pool generalizing i with
  | nil => simp at current
  | cons head rest ih =>
    cases i with
    | zero =>
      obtain rfl : head = a := by simpa using current
      simp only [List.set_cons_zero, List.map_cons, List.sum_cons]
      omega
    | succ i =>
      have := ih (by simpa using current)
      simp only [List.set_cons_succ, List.map_cons, List.sum_cons]
      omega

/-- A task that has the property contributes one. -/
theorem countP_pos (p : α → Bool) (current : pool[i]? = some a) (holds : p a = true) :
    0 < pool.countP p :=
  List.countP_pos_iff.mpr ⟨a, List.mem_of_getElem? current, holds⟩

/-- If at most one task has the property, two tasks that have it are the same. -/
theorem index_unique {b : α} {j : Nat} (p : α → Bool) (one : pool.countP p ≤ 1)
    (first : pool[i]? = some a) (second : pool[j]? = some b) (holds : p a = true)
    (holds' : p b = true) : i = j := by
  induction pool generalizing i j with
  | nil => simp at first
  | cons head rest ih =>
    rw [countP_cons] at one
    cases i with
    | zero =>
      obtain rfl : head = a := by simpa using first
      cases j with
      | zero => rfl
      | succ j =>
        have other := countP_pos p (show rest[j]? = _ by simpa using second) holds'
        rw [holds, Bool.toNat_true] at one
        omega
    | succ i =>
      have other := countP_pos p (show rest[i]? = _ by simpa using first) holds
      cases j with
      | zero =>
        obtain rfl : head = b := by simpa using second
        rw [holds', Bool.toNat_true] at one
        omega
      | succ j => exact congrArg _ (ih (by omega) (by simpa using first) (by simpa using second))

theorem get_set_self (current : pool[i]? = some a) (b : α) : (pool.set i b)[i]? = some b := by
  rw [List.getElem?_set_self]
  exact (List.getElem?_eq_some_iff.mp current).1

/-- An entry after a step of task `i`: the new one of `i`, or an old one. -/
theorem get_set {b c : α} {j : Nat} (entry : (pool.set i b)[j]? = some c) :
    (j = i ∧ c = b) ∨ (j ≠ i ∧ pool[j]? = some c) := by
  rw [List.getElem?_set] at entry
  split at entry
  case isTrue same =>
    split at entry
    case isTrue => exact .inl ⟨same.symm, (Option.some.inj entry).symm⟩
    case isFalse => cases entry
  case isFalse different => exact .inr ⟨fun same => different same.symm, entry⟩

/-- An entry after a task was started: an old one, or the new task's. -/
theorem get_append {b c : α} {j : Nat} (entry : (pool ++ [b])[j]? = some c) :
    pool[j]? = some c ∨ (j = pool.length ∧ c = b) := by
  by_cases old : j < pool.length
  · rw [List.getElem?_append_left old] at entry
    exact .inl entry
  · rw [List.getElem?_append_right (Nat.le_of_not_lt old)] at entry
    rw [List.getElem?_singleton, Option.ite_none_right_eq_some] at entry
    obtain ⟨index, same⟩ := entry
    exact .inr ⟨by omega, (Option.some.inj same).symm⟩

theorem get_append_of_get {c : α} {j : Nat} (entry : pool[j]? = some c) (b : α) :
    (pool ++ [b])[j]? = some c := by
  rwa [List.getElem?_append_left (List.getElem?_eq_some_iff.mp entry).1]

/-- A new task without the property changes nothing about who has it. -/
theorem any_append {p : α → Bool} {b : α} (idle : p b = false) (k : Nat) :
    (pool ++ [b])[k]?.any p = pool[k]?.any p := by
  by_cases old : k < pool.length
  · rw [List.getElem?_append_left old]
  · have unknown : pool[k]? = none := List.getElem?_eq_none (Nat.le_of_not_lt old)
    cases entry : (pool ++ [b])[k]? with
    | none => rw [unknown]
    | some c =>
      obtain ⟨_, rfl⟩ := (get_append entry).resolve_left (by simp [unknown])
      rw [unknown, Option.any_some, idle, Option.any_none]

end Rsbtd.Transition
