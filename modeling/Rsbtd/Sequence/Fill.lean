import Mathlib.Data.List.Basic

/-!
# Filling a list up

`fill d values n` has `n` elements: the first ones of `values`, and where these run out the last
of them again, or `d` if there is none.
-/

namespace Rsbtd.Sequence

variable {α : Type*} {d x : α} {values : List α} {n : Nat}

def fill (d : α) : List α → Nat → List α
  | _, 0 => []
  | [], n + 1 => d :: fill d [] n
  | v :: values, n + 1 => v :: fill v values n

@[simp] theorem length_fill : (fill d values n).length = n := by
  induction n generalizing d values with
  | zero => simp [fill]
  | succ n ih =>
    cases values with
    | nil => rw [fill, List.length_cons, ih]
    | cons v values => rw [fill, List.length_cons, ih]

theorem fill_nil : fill d [] n = List.replicate n d := by
  induction n with
  | zero => rfl
  | succ n ih => rw [fill, ih, List.replicate_succ]

/-- When an element put at the end of the values comes out at the end. -/
theorem fill_append_iff :
    fill d (values ++ [x]) (n + 1) = fill d values n ++ [x] ↔
      values.length = n ∨ (values.length < n ∧ values.getLastD d = x) ∨
        values[n]? = some x := by
  induction values generalizing d n with
  | nil =>
    rw [List.nil_append, fill, fill_nil, fill_nil, List.getLastD_nil]
    cases n with
    | zero => simp
    | succ n =>
      rw [← List.replicate_succ, List.replicate_succ', List.append_cancel_right_eq,
        List.replicate_inj]
      simp [eq_comm]
  | cons v values ih =>
    cases n with
    | zero => simp [fill]
    | succ n =>
      rw [List.cons_append, fill, fill, List.cons_append, List.cons.injEq, ih,
        List.getLastD_cons, List.getElem?_cons_succ, List.length_cons]
      simp

end Rsbtd.Sequence
