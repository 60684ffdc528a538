import Rsbtd.Sequence.Relocate

/-!
# First occurrences

Of the elements of a list that pass, those that no earlier one equals.
-/

namespace Rsbtd.Sequence

variable {α : Type*} [DecidableEq α] {keep p : α → Bool} {front rest : List α} {a b : α}

/-- Those of `rest`, when the elements of `front` came before. -/
def firstsAfter (keep : α → Bool) : List α → List α → List α
  | _, [] => []
  | front, a :: rest =>
    if keep a ∧ a ∉ front then a :: firstsAfter keep (front ++ [a]) rest
    else firstsAfter keep (front ++ [a]) rest

/-- The elements whose index is the first one that they have. -/
theorem zipIdx_firstsAfter : ((rest.zipIdx front.length).filter fun (a, i) =>
    keep a && decide ((front ++ rest).idxOf a = i)).map Prod.fst =
      firstsAfter keep front rest := by
  induction rest generalizing front with
  | nil => rfl
  | cons a rest ih =>
    -- The index of `a` is the one it has here when it is not among those before.
    have first : (front ++ a :: rest).idxOf a = front.length ↔ a ∉ front := by
      constructor
      · intro index early
        have := List.idxOf_lt_length_of_mem early
        rw [List.idxOf_append_of_mem early] at index
        omega
      · exact idxOf_split
    have others := @ih (front ++ [a])
    rw [List.length_append, List.length_singleton, List.append_assoc, List.singleton_append]
      at others
    rw [List.zipIdx_cons, List.filter_cons, firstsAfter]
    by_cases kept : keep a ∧ a ∉ front
    · have passes : (keep a && decide ((front ++ a :: rest).idxOf a = front.length)) = true :=
        by simpa [first] using kept
      rw [if_pos kept, if_pos passes, List.map_cons, others]
    · have fails : ¬ (keep a && decide ((front ++ a :: rest).idxOf a = front.length)) = true :=
        by simpa [first] using kept
      rw [if_neg kept, if_neg fails, others]

theorem mem_firstsAfter :
    a ∈ firstsAfter keep front rest ↔ a ∈ rest ∧ keep a ∧ a ∉ front := by
  induction rest generalizing front with
  | nil => simp [firstsAfter]
  | cons b rest ih =>
    rw [firstsAfter]
    by_cases same : a = b
    · subst same
      split <;> simp_all
    · split <;> simp [ih, same]

theorem nodup_firstsAfter : (firstsAfter keep front rest).Nodup := by
  induction rest generalizing front with
  | nil => exact List.nodup_nil
  | cons b rest ih =>
    rw [firstsAfter]
    split
    · refine List.nodup_cons.mpr ⟨fun again => ?_, ih⟩
      simp [mem_firstsAfter] at again
    · exact ih

/-- Elements that are not repeated all stay, in their order. -/
theorem filter_firstsAfter (kept : ∀ a, p a → keep a) (nodup : (rest.filter p).Nodup)
    (fresh : ∀ a ∈ rest, p a → a ∉ front) :
    (firstsAfter keep front rest).filter p = rest.filter p := by
  induction rest generalizing front with
  | nil => rfl
  | cons a rest ih =>
    have later : ∀ b ∈ rest, p b → b ≠ a → b ∉ front ++ [a] := by
      intro b listed passes distinct early
      rw [List.mem_append, List.mem_singleton] at early
      exact early.elim (fresh b (List.mem_cons_of_mem _ listed) passes) distinct
    rw [firstsAfter]
    by_cases passes : p a
    · rw [List.filter_cons_of_pos passes] at nodup ⊢
      obtain ⟨once, nodup⟩ := List.nodup_cons.mp nodup
      have distinct : ∀ b ∈ rest, b ≠ a := fun b listed same =>
        once (List.mem_filter.mpr ⟨same ▸ listed, passes⟩)
      rw [if_pos ⟨kept a passes, fresh a List.mem_cons_self passes⟩,
        List.filter_cons_of_pos passes,
        ih nodup fun b listed passes => later b listed passes (distinct b listed)]
    · rw [List.filter_cons_of_neg passes] at nodup ⊢
      have others := ih nodup fun b listed passes' =>
        later b listed passes' fun same => passes (same ▸ passes')
      split
      · rw [List.filter_cons_of_neg passes, others]
      · exact others

end Rsbtd.Sequence
