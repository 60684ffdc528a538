import Mathlib.Data.List.Basic

/-!
# The part of a list between two elements
-/

namespace Rsbtd.Sequence

variable {α : Type*} {l part : List α} {a b : α} {i j : Nat}

/-- The part is contiguous, and these are its ends, in either order. -/
def Between (l : List α) (a b : α) (part : List α) : Prop :=
  ∃ before after, l = before ++ part ++ after ∧
    (part.head? = some a ∧ part.getLast? = some b ∨ part.head? = some b ∧ part.getLast? = some a)

theorem Between.symm (between : Between l a b part) : Between l b a part := by
  obtain ⟨before, after, split, ends⟩ := between
  exact ⟨before, after, split, ends.symm⟩

theorem Between.mem (between : Between l a b part) {x : α} (inside : x ∈ part) : x ∈ l := by
  obtain ⟨before, after, rfl, -⟩ := between
  exact List.mem_append_left _ (List.mem_append_right _ inside)

theorem head?_extract (ordered : i ≤ j) : (l.extract i (j + 1)).head? = l[i]? := by
  rw [List.extract_eq_take_drop, List.head?_take, if_neg (by omega), List.head?_drop]

theorem getLast?_extract (ordered : i ≤ j) (last : l[j]? = some b) :
    (l.extract i (j + 1)).getLast? = some b := by
  have inside : j < l.length := (List.getElem?_eq_some_iff.mp last).1
  have length : (l.extract i (j + 1)).length = j + 1 - i := by
    rw [List.extract_eq_take_drop, List.length_take, List.length_drop]
    omega
  rw [List.getLast?_eq_getElem?, length, List.extract_eq_take_drop,
    List.getElem?_take_of_lt (by omega), List.getElem?_drop, ← last]
  congr 1
  omega

theorem between_extract (ordered : i ≤ j) (first : l[i]? = some a) (last : l[j]? = some b) :
    Between l a b (l.extract i (j + 1)) := by
  refine ⟨l.take i, l.drop (j + 1), ?_, .inl ⟨?_, getLast?_extract ordered last⟩⟩
  · have tail : l.drop (j + 1) = (l.drop i).drop (j + 1 - i) := by
      rw [List.drop_drop]
      congr 1
      omega
    rw [List.append_assoc, tail, List.extract_eq_take_drop, List.take_append_drop,
      List.take_append_drop]
  · rw [head?_extract ordered, first]

end Rsbtd.Sequence
