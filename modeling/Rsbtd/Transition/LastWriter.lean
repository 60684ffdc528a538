import Mathlib.Data.List.Induction
import Mathlib.Logic.Basic

/-!
# The last operation on a cell

Operations are applied in order to a cell that is present or absent.  `effect`
says what an operation does to it: it writes (`some true`), it deletes
(`some false`), or it concerns another cell (`none`).  `leaves` is the state of
the cell once the operations of a queue are applied.
-/

namespace Rsbtd.Transition

variable {ω : Type*}

def leaves (effect : ω → Option Bool) (present : Bool) (ops : List ω) : Bool :=
  ops.foldl (fun state op => (effect op).getD state) present

variable {effect weaker : ω → Option Bool} {present : Bool} {ops rest : List ω} {op : ω}

@[simp] theorem leaves_nil : leaves effect present [] = present := rfl

@[simp] theorem leaves_cons :
    leaves effect present (op :: ops) = leaves effect ((effect op).getD present) ops := rfl

theorem leaves_append :
    leaves effect present (ops ++ rest) = leaves effect (leaves effect present ops) rest := by
  simp [leaves, List.foldl_append]

/-- The last operation decides, if it concerns the cell. -/
theorem leaves_concat :
    leaves effect present (ops ++ [op]) = (effect op).getD (leaves effect present ops) := by
  simp [leaves_append]

/-- An operation on another cell can be dropped anywhere. -/
theorem leaves_skip (other : effect op = none) :
    leaves effect present (ops ++ op :: rest) = leaves effect present (ops ++ rest) := by
  simp [leaves_append, other]

/-- What is absent after the queue was applied to a present cell is absent anyway. -/
theorem leaves_of_present (absent : leaves effect true ops = false) :
    leaves effect present ops = false := by
  induction ops generalizing present with
  | nil => cases absent
  | cons op ops ih =>
    cases affects : effect op with
    | some state => simpa [affects] using absent
    | none =>
      simp only [leaves_cons, affects, Option.getD_none] at absent ⊢
      exact ih absent

theorem leaves_mono {before after : Bool} (grows : before = true → after = true)
    (absent : leaves effect after ops = false) : leaves effect before ops = false := by
  cases after with
  | true => exact leaves_of_present absent
  | false =>
    cases before with
    | true => cases grows rfl
    | false => exact absent

/-- The last operation of the queue is dropped; it did not delete. -/
theorem leaves_of_append_write (write : effect op ≠ some false)
    (absent : leaves effect present (ops ++ [op]) = false) : leaves effect present ops = false := by
  rw [leaves_concat] at absent
  cases affects : effect op with
  | none => simpa [affects] using absent
  | some state =>
    cases state with
    | true => simp [affects] at absent
    | false => exact absurd affects write

/-- The end of the queue is dropped; nothing in it deleted. -/
theorem leaves_of_append_writes (writes : ∀ op ∈ rest, effect op ≠ some false)
    (absent : leaves effect present (ops ++ rest) = false) : leaves effect present ops = false := by
  induction rest using List.reverseRecOn with
  | nil => simpa using absent
  | append_singleton rest op ih =>
    rw [← List.append_assoc] at absent
    exact ih (fun other member => writes other (List.mem_append_left _ member))
      (leaves_of_append_write (writes op (by simp)) absent)

/-- The first operation of the queue is dropped; the cell was absent before it. -/
theorem leaves_tail (absent : leaves effect false (op :: ops) = false) :
    leaves effect false ops = false :=
  leaves_mono (by simp) absent

/-- The operations that count agree on this queue. -/
theorem leaves_congr {other : ω → Option Bool} (same : ∀ op ∈ ops, effect op = other op) :
    leaves effect present ops = leaves other present ops := by
  induction ops generalizing present with
  | nil => rfl
  | cons op ops ih =>
    rw [leaves_cons, leaves_cons, same op List.mem_cons_self]
    exact ih fun later member => same later (List.mem_cons_of_mem _ member)

/-- Ignoring some of the writes leaves less. -/
theorem leaves_of_weaker (weakens : ∀ op, weaker op = effect op ∨
    weaker op = none ∧ effect op = some true) (absent : leaves effect present ops = false) :
    leaves weaker present ops = false := by
  induction ops generalizing present with
  | nil => exact absent
  | cons op ops ih =>
    rw [leaves_cons] at absent ⊢
    rcases weakens op with same | ⟨ignored, write⟩
    · rw [same]; exact ih absent
    · rw [ignored]
      rw [write] at absent
      exact ih (leaves_of_present absent)

end Rsbtd.Transition
