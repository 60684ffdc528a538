import Mathlib.Data.List.Basic

/-!
# The last entries of a growing list

`window n xs` is what a buffer of capacity `n` holds after the entries of `xs`
were appended one by one and the oldest dropped whenever there were too many.
-/

namespace Rsbtd.Sequence

variable {α : Type*} {n : Nat} {xs : List α} {a : α}

def window (n : Nat) (xs : List α) : List α := xs.drop (xs.length - n)

@[simp] theorem window_nil : window n ([] : List α) = [] := by simp [window]

@[simp] theorem length_window : (window n xs).length = min n xs.length := by
  rw [window, List.length_drop]
  omega

theorem window_of_le (fits : xs.length ≤ n) : window n xs = xs := by
  rw [window, Nat.sub_eq_zero_of_le fits, List.drop_zero]

theorem window_replicate {k : Nat} : window n (List.replicate k a) =
    List.replicate (min n k) a := by
  rw [window, List.drop_replicate, List.length_replicate]
  congr 1
  omega

/-- Appending to the buffer and dropping from it is appending to the whole list. -/
theorem window_concat : window n (window n xs ++ [a]) = window n (xs ++ [a]) := by
  by_cases fits : xs.length ≤ n
  · rw [window_of_le fits]
  · simp only [window, List.length_append, List.length_drop, List.length_singleton,
      List.drop_append, List.drop_drop]
    congr 2 <;> omega

theorem reverse_window : (window n xs).reverse = xs.reverse.take n := by
  rw [window, List.reverse_drop]
  by_cases fits : xs.length ≤ n
  · rw [Nat.sub_eq_zero_of_le fits, Nat.sub_zero, List.take_of_length_le (by simp),
      List.take_of_length_le (by simpa using fits)]
  · congr 1
    omega

end Rsbtd.Sequence
