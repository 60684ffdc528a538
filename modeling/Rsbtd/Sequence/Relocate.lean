import Mathlib.Data.List.Nodup

/-!
# One element taken to the place of another

`relocate a b l` takes `a` out of `l` and puts it at the index that `b` had: after
`b` when it comes from before it, and before `b` when it comes from after it.
-/

namespace Rsbtd.Sequence

variable {α : Type*} [DecidableEq α] {a b : α} {l front between back : List α} {p : α → Bool}

def relocate (a b : α) (l : List α) : List α :=
  let rest := l.eraseIdx (l.idxOf a)
  rest.take (l.idxOf b) ++ a :: rest.drop (l.idxOf b)

theorem idxOf_split (fresh : a ∉ front) : (front ++ a :: back).idxOf a = front.length := by
  rw [List.idxOf_append_of_notMem fresh, List.idxOf_cons_self, Nat.add_zero]

theorem eraseIdx_split (fresh : a ∉ front) :
    (front ++ a :: back).eraseIdx ((front ++ a :: back).idxOf a) = front ++ back := by
  rw [idxOf_split fresh, List.eraseIdx_append_of_length_le (Nat.le_refl _), Nat.sub_self]
  rfl

omit [DecidableEq α] in
/-- An element is not among those before it. -/
theorem not_mem_front (nodup : (front ++ a :: back).Nodup) : a ∉ front := fun early =>
  (List.nodup_append.mp nodup).2.2 a early a List.mem_cons_self rfl

theorem relocate_right (nodup : (front ++ a :: (between ++ b :: back)).Nodup) :
    relocate a b (front ++ a :: (between ++ b :: back)) = front ++ (between ++ b :: a :: back) := by
  have fresh := not_mem_front nodup
  have regrouped : front ++ a :: (between ++ b :: back) = (front ++ a :: between) ++ b :: back := by
    simp
  have target : (front ++ a :: (between ++ b :: back)).idxOf b =
      (front ++ (between ++ [b])).length := by
    rw [regrouped] at nodup ⊢
    rw [idxOf_split (not_mem_front nodup)]
    simp
  have rest : front ++ (between ++ b :: back) = (front ++ (between ++ [b])) ++ back := by simp
  simp only [relocate]
  rw [eraseIdx_split fresh, target, rest, List.take_left, List.drop_left]
  simp

theorem relocate_left (nodup : (front ++ b :: (between ++ a :: back)).Nodup) :
    relocate a b (front ++ b :: (between ++ a :: back)) = front ++ a :: b :: (between ++ back) := by
  have target : (front ++ b :: (between ++ a :: back)).idxOf b = front.length :=
    idxOf_split (not_mem_front nodup)
  have regrouped : front ++ b :: (between ++ a :: back) = (front ++ b :: between) ++ a :: back := by
    simp
  have fresh : a ∉ front ++ b :: between := by
    rw [regrouped] at nodup
    exact not_mem_front nodup
  have rest : (front ++ b :: (between ++ a :: back)).eraseIdx
      ((front ++ b :: (between ++ a :: back)).idxOf a) = front ++ b :: (between ++ back) := by
    rw [regrouped, eraseIdx_split fresh]
    simp
  simp only [relocate]
  rw [rest, target, List.take_left, List.drop_left]

omit [DecidableEq α] in
/-- Two neighbours in a filtered list, in the list itself. -/
theorem filter_neighbours (split : l.filter p = front ++ a :: b :: back) :
    ∃ A M B, l = A ++ a :: (M ++ b :: B) ∧ A.filter p = front ∧ M.filter p = [] ∧
      B.filter p = back ∧ p a = true ∧ p b = true := by
  obtain ⟨A, rest, rfl, first, tail⟩ := List.filter_eq_append_iff.mp split
  obtain ⟨skipped, rest, rfl, none₁, kept, tail⟩ := List.filter_eq_cons_iff.mp tail
  obtain ⟨M, B, rfl, none₂, kept', last⟩ := List.filter_eq_cons_iff.mp tail
  refine ⟨A ++ skipped, M, B, by simp, ?_, List.filter_eq_nil_iff.mpr none₂, last, kept, kept'⟩
  rw [List.filter_append, first, List.filter_eq_nil_iff.mpr none₁, List.append_nil]

/-- Past the elements that the filter drops, the two swap. -/
theorem filter_relocate_right (nodup : l.Nodup) (split : l.filter p = front ++ a :: b :: back) :
    (relocate a b l).filter p = front ++ b :: a :: back := by
  obtain ⟨A, M, B, rfl, first, none_, last, kept, kept'⟩ := filter_neighbours split
  rw [relocate_right nodup]
  simp [first, none_, last, kept, kept']

theorem filter_relocate_left (nodup : l.Nodup) (split : l.filter p = front ++ b :: a :: back) :
    (relocate a b l).filter p = front ++ a :: b :: back := by
  obtain ⟨A, M, B, rfl, first, none_, last, kept, kept'⟩ := filter_neighbours split
  rw [relocate_left nodup]
  simp [first, none_, last, kept, kept']

theorem relocate_perm (listed : a ∈ l) : (relocate a b l).Perm l := by
  have moved : (relocate a b l).Perm (a :: l.eraseIdx (l.idxOf a)) := by
    simp only [relocate]
    refine List.perm_middle.trans (.cons a ?_)
    rw [List.take_append_drop]
  rw [List.eraseIdx_idxOf_eq_erase] at moved
  exact moved.trans (List.perm_cons_erase listed).symm

/-- An element the filter drops moves unseen. -/
theorem filter_relocate_dropped (listed : a ∈ l) (dropped : p a = false) :
    (relocate a b l).filter p = l.filter p := by
  obtain ⟨front, back, rfl, fresh⟩ := List.eq_append_cons_of_mem listed
  simp only [relocate]
  rw [eraseIdx_split fresh, List.filter_append, List.filter_cons_of_neg (by simp [dropped]),
    ← List.filter_append, List.take_append_drop, List.filter_append, List.filter_append,
    List.filter_cons_of_neg (by simp [dropped])]

end Rsbtd.Sequence
