import Mathlib.Data.List.Perm.Basic

/-!
# Grouping by a key

A list is, up to order, the elements under each key and those without one.
-/

namespace Rsbtd.Sequence

variable {α κ : Type*} [DecidableEq κ] {keys : List κ}

theorem perm_groups (key : α → Option κ) (nodup : keys.Nodup) (l : List α)
    (covered : ∀ a ∈ l, ∀ k, key a = some k → k ∈ keys) :
    l.Perm (keys.flatMap (fun k => l.filter fun a => key a = some k) ++
      l.filter fun a => key a = none) := by
  induction keys generalizing l with
  | nil =>
    have all : (l.filter fun a => key a = none) = l := by
      apply List.filter_eq_self.mpr
      intro a mem
      cases keyed : key a with
      | none => rfl
      | some k => exact absurd (covered a mem k keyed) List.not_mem_nil
    rw [List.flatMap_nil, List.nil_append, all]
  | cons k keys ih =>
    obtain ⟨fresh, nodup⟩ := List.nodup_cons.mp nodup
    have parted := List.filter_append_perm (fun a => decide (key a = some k)) l
    have others := ih nodup (l.filter fun a => !decide (key a = some k)) (by
      intro a mem m keyed
      obtain ⟨inside, other⟩ := List.mem_filter.mp mem
      obtain rfl | later := List.mem_cons.mp (covered a inside m keyed)
      · rw [keyed] at other
        simp at other
      · exact later)
    have groups : (keys.flatMap fun m =>
        (l.filter fun a => !decide (key a = some k)).filter fun a => key a = some m) =
        keys.flatMap fun m => l.filter fun a => key a = some m := by
      apply List.flatMap_congr
      intro m mem
      rw [List.filter_filter]
      apply List.filter_congr
      intro a _
      have ne : m ≠ k := fun same => fresh (same ▸ mem)
      by_cases keyed : key a = some m
      · simp [keyed, ne]
      · simp [keyed]
    have rest : ((l.filter fun a => !decide (key a = some k)).filter fun a => key a = none) =
        l.filter fun a => key a = none := by
      rw [List.filter_filter]
      apply List.filter_congr
      intro a _
      by_cases keyed : key a = none
      · simp [keyed]
      · simp [keyed]
    rw [groups, rest] at others
    rw [List.flatMap_cons, List.append_assoc]
    exact parted.symm.trans (others.append_left _)

end Rsbtd.Sequence
