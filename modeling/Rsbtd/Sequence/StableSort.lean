import Mathlib.Data.List.Basic
import Mathlib.Order.Compare

/-!
# Stable sorting

Sorting by a comparator that is a total preorder: the result is ordered, and equal elements
keep their order.  `missingLast` compares by a value that may be missing; elements without
one are equal to each other and after all others.
-/

namespace Rsbtd.Sequence

open Std

variable {α β : Type*} {cmp : α → α → Ordering} {l : List α} {a b : α}

def stableSort (cmp : α → α → Ordering) (l : List α) : List α :=
  l.mergeSort fun a b => (cmp a b).isLE

theorem stableSort_perm (cmp : α → α → Ordering) (l : List α) : (stableSort cmp l).Perm l :=
  List.mergeSort_perm _ _

section Sorted

variable [TransCmp cmp]

theorem isLE_trans (a b c : α) (ab : (cmp a b).isLE = true) (bc : (cmp b c).isLE = true) :
    (cmp a c).isLE = true :=
  TransCmp.isLE_trans ab bc

theorem isLE_total (a b : α) : ((cmp a b).isLE || (cmp b a).isLE) = true := by
  have swapped : cmp b a = (cmp a b).swap := OrientedCmp.eq_swap
  rw [swapped]
  cases cmp a b <;> rfl

theorem pairwise_stableSort (cmp : α → α → Ordering) [TransCmp cmp] (l : List α) :
    (stableSort cmp l).Pairwise fun a b => (cmp a b).isLE = true :=
  List.pairwise_mergeSort isLE_trans isLE_total l

/-- The elements equal to one stay in their order. -/
theorem filter_stableSort (a : α) :
    ((stableSort cmp l).filter fun b => cmp a b == .eq) = l.filter fun b => cmp a b == .eq := by
  have ordered : (l.filter fun b => cmp a b == .eq).Pairwise fun b c => (cmp b c).isLE = true := by
    apply List.pairwise_of_forall_mem_list
    intro b mem c mem'
    have toB : cmp a b = .eq := beq_iff_eq.mp (List.mem_filter.mp mem).2
    have toC : cmp a c = .eq := beq_iff_eq.mp (List.mem_filter.mp mem').2
    have same : cmp b c = .eq := TransCmp.eq_trans (OrientedCmp.eq_symm toB) toC
    rw [same]
    rfl
  have inside := List.sublist_mergeSort isLE_trans isLE_total ordered List.filter_sublist
  have kept := inside.filter fun b => cmp a b == .eq
  rw [List.filter_filter] at kept
  simp only [Bool.and_self] at kept
  have count := (stableSort_perm cmp l).filter fun b => cmp a b == .eq
  exact (kept.eq_of_length count.length_eq.symm).symm

end Sorted

/-- A list in which nothing with the property stands behind something without. -/
theorem eq_filter_append_filter {p : α → Bool}
    (ordered : l.Pairwise fun a b => p b = true → p a = true) :
    l = l.filter p ++ l.filter fun a => !p a := by
  induction l with
  | nil => rfl
  | cons a rest ih =>
    rw [List.pairwise_cons] at ordered
    by_cases holds : p a = true
    · rw [List.filter_cons_of_pos holds, List.filter_cons_of_neg (by simp [holds]),
        List.cons_append, ← ih ordered.2]
    · have none_ : rest.filter p = [] :=
        List.filter_eq_nil_iff.mpr fun b mem both => holds (ordered.1 b mem both)
      have all : (rest.filter fun a => !p a) = rest := by
        have split := ih ordered.2
        rw [none_, List.nil_append] at split
        exact split.symm
      rw [List.filter_cons_of_neg holds, none_, List.nil_append,
        List.filter_cons_of_pos (by simpa using holds), all]

/-! ## Missing values -/

def missingLast (value : α → Option β) (cmp : β → β → Ordering) (a b : α) : Ordering :=
  match value a, value b with
  | none, none => .eq
  | none, some _ => .gt
  | some _, none => .lt
  | some x, some y => cmp x y

variable {value : α → Option β} {order : β → β → Ordering}

instance [TransCmp order] : TransCmp (missingLast value order) where
  eq_swap {a b} := by
    rw [missingLast, missingLast]
    cases value a with
    | none => cases value b <;> rfl
    | some x =>
      cases value b with
      | none => rfl
      | some y => exact OrientedCmp.eq_swap
  isLE_trans {a b c} ab bc := by
    rw [missingLast] at ab bc ⊢
    cases first : value a with
    | none =>
      rw [first] at ab
      cases second : value b with
      | none =>
        rw [second] at bc
        exact bc
      | some y =>
        rw [second] at ab
        cases ab
    | some x =>
      cases third : value c with
      | none => rfl
      | some z =>
        cases second : value b with
        | none =>
          rw [second, third] at bc
          cases bc
        | some y =>
          rw [first, second] at ab
          rw [second, third] at bc
          have ordered : (order x z).isLE = true := TransCmp.isLE_trans ab bc
          exact ordered

/-- Elements without a value keep their order. -/
theorem filter_missing_stableSort (value : α → Option β) (order : β → β → Ordering)
    [TransCmp order] (l : List α) :
    ((stableSort (missingLast value order) l).filter fun a => !(value a).isSome) =
      l.filter fun a => !(value a).isSome := by
  by_cases exists_ : ∃ a, value a = none
  · obtain ⟨a, missing⟩ := exists_
    have same : (fun b => missingLast value order a b == .eq) = fun b => !(value b).isSome := by
      funext b
      rw [missingLast, missing]
      cases value b <;> rfl
    rw [← same]
    exact filter_stableSort a
  · have present : ∀ a, (!(value a).isSome) = false := by
      intro a
      cases found : value a with
      | none => exact absurd ⟨a, found⟩ exists_
      | some x => rfl
    simp only [present, List.filter_false]

/-- The elements with a value, and after them those without. -/
theorem stableSort_missingLast (value : α → Option β) (order : β → β → Ordering)
    [TransCmp order] (l : List α) :
    stableSort (missingLast value order) l =
      ((stableSort (missingLast value order) l).filter fun a => (value a).isSome) ++
        l.filter fun a => !(value a).isSome := by
  have ordered : (stableSort (missingLast value order) l).Pairwise fun a b =>
      (value b).isSome = true → (value a).isSome = true := by
    apply (pairwise_stableSort (missingLast value order) l).imp
    intro a b before present
    rw [missingLast] at before
    cases first : value a with
    | some x => rfl
    | none =>
      obtain ⟨y, second⟩ := Option.isSome_iff_exists.mp present
      rw [first, second] at before
      cases before
  rw [← filter_missing_stableSort value order]
  exact eq_filter_append_filter ordered

end Rsbtd.Sequence
