import Mathlib.Data.List.Nodup
import Mathlib.Data.List.Basic

/-!
# Moves in a sequence

Moving an element one place up or down swaps it with its neighbour, and moving it to
the top or the bottom takes it there; at the end of the sequence nothing moves.  For
a selection moved up in its own order, the element above it is carried down past
each run of selected elements; `shift` is that pass over the rest of the sequence.
-/

namespace Rsbtd.Sequence

variable {α : Type*} {a x : α} {q rest : List α} {chosen : α → Bool}

/-! ## Carrying an element down -/

/-- What the rest becomes when `x`, which is not chosen, is carried down past the chosen elements
under it, and in its turn every other element that is not. -/
def shift (chosen : α → Bool) (x : α) : List α → List α
  | [] => [x]
  | y :: rest => if chosen y then y :: shift chosen x rest else x :: shift chosen y rest

theorem shift_perm : (shift chosen x rest).Perm (x :: rest) := by
  induction rest generalizing x with
  | nil => exact .refl _
  | cons y rest ih =>
    by_cases selected : chosen y = true
    · rw [shift, if_pos selected]
      exact (ih.cons y).trans (.swap x y rest)
    · rw [shift, if_neg selected]
      exact ih.cons x

theorem filter_shift (above : chosen x = false) :
    (shift chosen x rest).filter chosen = rest.filter chosen := by
  induction rest generalizing x with
  | nil => simp [shift, above]
  | cons y rest ih =>
    by_cases selected : chosen y = true
    · simp [shift, selected, ih above]
    · have unselected : chosen y = false := Bool.eq_false_iff.mpr selected
      simp [shift, above, ih unselected, unselected]

theorem filter_not_shift (above : chosen x = false) :
    (shift chosen x rest).filter (fun a => !chosen a) = x :: rest.filter (fun a => !chosen a) := by
  induction rest generalizing x with
  | nil => simp [shift, above]
  | cons y rest ih =>
    by_cases selected : chosen y = true
    · simp [shift, selected, ih above]
    · have unselected : chosen y = false := Bool.eq_false_iff.mpr selected
      simp [shift, above, ih unselected, unselected]

/-- What was filtered out stays out. -/
theorem filter_gathered (q : List α) (chosen : α → Bool) :
    (q.filter chosen).filter chosen = q.filter chosen ∧
      (q.filter fun a => !chosen a).filter chosen = [] := by
  constructor
  · rw [List.filter_filter]
    apply List.filter_congr
    simp
  · rw [List.filter_filter, List.filter_eq_nil_iff]
    simp

/-! ## The moves -/

variable [DecidableEq α]

def up (a : α) : List α → List α
  | [] => []
  | [x] => [x]
  | x :: y :: rest => if y = a then y :: x :: rest else x :: up a (y :: rest)

def down (a : α) : List α → List α
  | [] => []
  | [x] => [x]
  | x :: y :: rest => if x = a then y :: x :: rest else x :: down a (y :: rest)

def top (a : α) (q : List α) : List α := if a ∈ q then a :: q.erase a else q

def bottom (a : α) (q : List α) : List α := if a ∈ q then q.erase a ++ [a] else q

theorem up_perm (a : α) (q : List α) : (up a q).Perm q := by
  fun_induction up a q with
  | case1 => exact .refl _
  | case2 => exact .refl _
  | case3 x rest => exact .swap x a rest
  | case4 x y rest _ ih => exact ih.cons x

theorem down_perm (a : α) (q : List α) : (down a q).Perm q := by
  fun_induction down a q with
  | case1 => exact .refl _
  | case2 => exact .refl _
  | case3 y rest => exact .swap a y rest
  | case4 x y rest _ ih => exact ih.cons x

theorem top_perm (a : α) (q : List α) : (top a q).Perm q := by
  by_cases listed : a ∈ q
  · rw [top, if_pos listed]
    exact (List.perm_cons_erase listed).symm
  · rw [top, if_neg listed]

theorem bottom_perm (a : α) (q : List α) : (bottom a q).Perm q := by
  by_cases listed : a ∈ q
  · rw [bottom, if_pos listed]
    exact (List.perm_append_singleton a _).trans (List.perm_cons_erase listed).symm
  · rw [bottom, if_neg listed]

/-- Elements other than the moved one keep their order. -/
theorem filter_up {p : α → Bool} (unmoved : p a = false) : (up a q).filter p = q.filter p := by
  fun_induction up a q with
  | case1 => rfl
  | case2 => rfl
  | case3 x rest => simp [List.filter_cons, unmoved]
  | case4 x y rest _ ih => rw [List.filter_cons, List.filter_cons, ih]

theorem up_absent (absent : a ∉ q) : up a q = q := by
  fun_induction up a q with
  | case1 => rfl
  | case2 => rfl
  | case3 x rest => simp at absent
  | case4 x y rest _ ih =>
    rw [List.mem_cons, not_or] at absent
    rw [ih absent.2]

/-- The first element has no neighbour above it. -/
theorem up_head (fresh : a ∉ rest) : up a (a :: rest) = a :: rest := by
  cases rest with
  | nil => rfl
  | cons y rest =>
    have distinct : y ≠ a := fun same => fresh (by simp [same])
    rw [up, if_neg distinct, up_absent fresh]

/-- Further down, it swaps with the element above. -/
theorem up_append {before after : List α} (fresh : a ∉ before) (distinct : x ≠ a) :
    up a (before ++ x :: a :: after) = before ++ a :: x :: after := by
  induction before with
  | nil => simp [up]
  | cons first before ih =>
    rw [List.mem_cons, not_or] at fresh
    cases before with
    | nil => simp [up, distinct]
    | cons second before =>
      have other : second ≠ a := fun same => fresh.2 (by simp [same])
      have step := ih fresh.2
      simp only [List.cons_append] at step ⊢
      rw [up, if_neg other, step]

/-- Moving the chosen elements up in order carries the element above them down. -/
theorem foldl_up (before : List α) (nodup : (before ++ x :: rest).Nodup) (above : chosen x = false) :
    (rest.filter chosen).foldl (fun q a => up a q) (before ++ x :: rest) =
      before ++ shift chosen x rest := by
  induction rest generalizing before x with
  | nil => rfl
  | cons y rest ih =>
    by_cases selected : chosen y = true
    · have fresh : y ∉ before := by
        intro earlier
        exact (List.nodup_append.mp nodup).2.2 y earlier y (by simp) rfl
      have distinct : x ≠ y := by
        intro same
        have tail := (List.nodup_append.mp nodup).2.1
        simp [same] at tail
      have moved : (before ++ [y] ++ x :: rest).Nodup := by
        have swapped : (before ++ [y] ++ x :: rest).Perm (before ++ x :: y :: rest) := by
          rw [List.append_assoc]
          exact (List.Perm.swap x y rest).append_left before
        exact swapped.nodup_iff.mpr nodup
      rw [List.filter_cons_of_pos selected, List.foldl_cons, up_append fresh distinct, shift,
        if_pos selected]
      have step := ih (before ++ [y]) moved above
      simpa using step
    · have unselected : chosen y = false := Bool.eq_false_iff.mpr selected
      have regrouped : (before ++ [x] ++ y :: rest).Nodup := by simpa using nodup
      rw [List.filter_cons_of_neg selected, shift, if_neg selected]
      have step := ih (before ++ [x]) regrouped unselected
      simpa using step

/-- Every chosen element is one place further up. -/
theorem idxOf_shift (nodup : (x :: rest).Nodup) (above : chosen x = false) (listed : a ∈ rest)
    (selected : chosen a = true) : (shift chosen x rest).idxOf a + 1 = (x :: rest).idxOf a := by
  induction rest generalizing x with
  | nil => cases listed
  | cons y rest ih =>
    have distinct : x ≠ a := by
      rintro rfl
      rw [above] at selected
      cases selected
    rw [List.idxOf_cons_ne _ distinct]
    by_cases first : y = a
    · subst first
      simp [shift, selected]
    · have later : a ∈ rest := (List.mem_cons.mp listed).resolve_left (Ne.symm first)
      rw [List.idxOf_cons_ne _ first]
      by_cases passed : chosen y = true
      · have nodup' : (x :: rest).Nodup := nodup.sublist (by simp)
        have step := ih nodup' above later
        rw [List.idxOf_cons_ne _ distinct] at step
        rw [shift, if_pos passed, List.idxOf_cons_ne _ first]
        omega
      · have unselected : chosen y = false := Bool.eq_false_iff.mpr passed
        have step := ih (List.nodup_cons.mp nodup).2 unselected later
        rw [List.idxOf_cons_ne _ first] at step
        rw [shift, if_neg passed, List.idxOf_cons_ne _ distinct]
        omega

/-! ## Down is up, read backwards -/

theorem down_absent (absent : a ∉ q) : down a q = q := by
  fun_induction down a q with
  | case1 => rfl
  | case2 => rfl
  | case3 y rest => simp at absent
  | case4 x y rest _ ih =>
    rw [List.mem_cons, not_or] at absent
    rw [ih absent.2]

theorem down_append {before after : List α} (fresh : a ∉ before) :
    down a (before ++ a :: x :: after) = before ++ x :: a :: after := by
  induction before with
  | nil => simp [down]
  | cons first before ih =>
    rw [List.mem_cons, not_or] at fresh
    have other : first ≠ a := fun same => fresh.1 same.symm
    cases before with
    | nil => simp [down, other]
    | cons second before =>
      have step := ih fresh.2
      simp only [List.cons_append] at step ⊢
      rw [down, if_neg other, step]

theorem down_last {before : List α} (fresh : a ∉ before) :
    down a (before ++ [a]) = before ++ [a] := by
  induction before with
  | nil => rfl
  | cons first before ih =>
    rw [List.mem_cons, not_or] at fresh
    have other : first ≠ a := fun same => fresh.1 same.symm
    cases before with
    | nil => simp [down, other]
    | cons second before =>
      have step := ih fresh.2
      simp only [List.cons_append] at step ⊢
      rw [down, if_neg other, step]

theorem down_eq (nodup : q.Nodup) : down a q = (up a q.reverse).reverse := by
  by_cases listed : a ∈ q
  · obtain ⟨before, after, rfl⟩ := List.append_of_mem listed
    have fresh : a ∉ before := by
      intro earlier
      exact (List.nodup_append.mp nodup).2.2 a earlier a (by simp) rfl
    have later : a ∉ after :=
      (List.nodup_cons.mp (List.nodup_append.mp nodup).2.1).1
    cases after with
    | nil =>
      have backwards : a ∉ before.reverse := by simpa using fresh
      simp [down_last fresh, up_head backwards]
    | cons y after =>
      rw [List.mem_cons, not_or] at later
      have backwards : a ∉ after.reverse := by simpa using later.2
      have spelled : (before ++ a :: y :: after).reverse =
          after.reverse ++ y :: a :: before.reverse := by simp
      rw [down_append fresh, spelled, up_append backwards (Ne.symm later.1)]
      simp
  · rw [down_absent listed, up_absent (by simpa using listed), List.reverse_reverse]

theorem foldl_down {moves : List α} (nodup : q.Nodup) :
    moves.foldl (fun q a => down a q) q =
      (moves.foldl (fun q a => up a q) q.reverse).reverse := by
  induction moves generalizing q with
  | nil => simp
  | cons a moves ih =>
    have moved : (down a q).Nodup := (down_perm a q).nodup_iff.mpr nodup
    rw [List.foldl_cons, List.foldl_cons, ih moved, down_eq nodup, List.reverse_reverse]

/-! ## To the ends -/

theorem filter_not_erase (nodup : q.Nodup) {moves : List α} :
    (q.erase a).filter (fun b => b ∉ moves) = q.filter fun b => b ∉ a :: moves := by
  rw [nodup.erase_eq_filter, List.filter_filter]
  apply List.filter_congr
  intro b _
  by_cases same : b = a
  · simp [same]
  · simp [same]

theorem erase_filter_not (nodup : q.Nodup) {moves : List α} :
    (q.filter fun b => b ∉ moves).erase a = q.filter fun b => b ∉ a :: moves := by
  rw [(nodup.filter _).erase_eq_filter, List.filter_comm, ← nodup.erase_eq_filter,
    filter_not_erase nodup]

/-- What is moved to the top last comes first. -/
theorem foldl_top {moves : List α} (unique : q.Nodup) (nodup : moves.Nodup)
    (listed : ∀ a ∈ moves, a ∈ q) :
    moves.reverse.foldl (fun q a => top a q) q = moves ++ q.filter fun b => b ∉ moves := by
  rw [List.foldl_reverse]
  induction moves with
  | nil => simp
  | cons a moves ih =>
    obtain ⟨fresh, nodup⟩ := List.nodup_cons.mp nodup
    rw [List.forall_mem_cons] at listed
    rw [List.foldr_cons, ih nodup listed.2, top, if_pos (by simp [listed.1, fresh]),
      List.erase_append_right _ fresh, erase_filter_not unique, List.cons_append]

/-- After some moves to the bottom, `moved` is what they left there. -/
theorem foldl_bottom_append (moved : List α) {moves : List α} (unique : q.Nodup) (nodup : moves.Nodup)
    (listed : ∀ a ∈ moves, a ∈ q) :
    moves.foldl (fun q a => bottom a q) (q ++ moved) =
      (q.filter fun b => b ∉ moves) ++ (moved ++ moves) := by
  induction moves generalizing q moved with
  | nil => simp
  | cons a moves ih =>
    obtain ⟨fresh, nodup⟩ := List.nodup_cons.mp nodup
    rw [List.forall_mem_cons] at listed
    have step : bottom a (q ++ moved) = q.erase a ++ (moved ++ [a]) := by
      rw [bottom, if_pos (by simp [listed.1]), List.erase_append_left _ listed.1,
        List.append_assoc]
    have left : ∀ b ∈ moves, b ∈ q.erase a := by
      intro b later
      have distinct : b ≠ a := by
        rintro rfl
        exact fresh later
      exact (List.mem_erase_of_ne distinct).mpr (listed.2 b later)
    rw [List.foldl_cons, step, ih (moved ++ [a]) (unique.erase a) nodup left,
      filter_not_erase unique]
    simp

/-- What is moved to the bottom last comes last. -/
theorem foldl_bottom {moves : List α} (unique : q.Nodup) (nodup : moves.Nodup)
    (listed : ∀ a ∈ moves, a ∈ q) :
    moves.foldl (fun q a => bottom a q) q = (q.filter fun b => b ∉ moves) ++ moves := by
  have loop := foldl_bottom_append [] unique nodup listed
  rwa [List.append_nil, List.nil_append] at loop

/-! ## Places -/

theorem idxOf_filter_le {p : α → Bool} (kept : p a = true) : (q.filter p).idxOf a ≤ q.idxOf a := by
  induction q with
  | nil => simp
  | cons x rest ih =>
    by_cases same : x = a
    · subst same
      simp [kept]
    · by_cases chosen : p x = true
      · rw [List.filter_cons_of_pos chosen, List.idxOf_cons_ne _ same, List.idxOf_cons_ne _ same]
        omega
      · rw [List.filter_cons_of_neg chosen, List.idxOf_cons_ne _ same]
        omega

/-- What stands before an element is dropped by the filter or stands before it afterwards. -/
theorem idxOf_le_filter {p : α → Bool} :
    q.idxOf a ≤ (q.filter fun b => !p b).length + (q.filter p).idxOf a := by
  induction q with
  | nil => simp
  | cons x rest ih =>
    by_cases same : x = a
    · simp [same]
    · by_cases chosen : p x = true
      · simp only [List.filter_cons, chosen, List.idxOf_cons_ne _ same, Bool.not_true,
          Bool.false_eq_true, if_true, if_false]
        omega
      · have unchosen : p x = false := Bool.eq_false_iff.mpr chosen
        simp only [List.filter_cons, unchosen, List.idxOf_cons_ne _ same, Bool.not_false,
          Bool.false_eq_true, if_true, if_false, List.length_cons]
        omega

theorem idxOf_reverse (nodup : q.Nodup) (listed : a ∈ q) :
    q.reverse.idxOf a + q.idxOf a + 1 = q.length := by
  obtain ⟨before, after, rfl⟩ := List.append_of_mem listed
  have fresh : a ∉ before := by
    intro earlier
    exact (List.nodup_append.mp nodup).2.2 a earlier a (by simp) rfl
  have later : a ∉ after := (List.nodup_cons.mp (List.nodup_append.mp nodup).2.1).1
  have spelled : (before ++ a :: after).reverse = after.reverse ++ a :: before.reverse := by simp
  rw [spelled, List.idxOf_append_of_notMem (by simpa using later),
    List.idxOf_append_of_notMem fresh]
  simp
  omega

/-! ## One pass of moves up -/

/-- The chosen elements rose by at most one place each, and neither they nor the others changed
their order. -/
structure Climbed (chosen : α → Bool) (q r : List α) : Prop where
  perm : r.Perm q
  selection : r.filter chosen = q.filter chosen
  others : r.filter (fun a => !chosen a) = q.filter fun a => !chosen a
  rose : ∀ a ∈ q, chosen a = true → r.idxOf a ≤ q.idxOf a
  one : ∀ a ∈ q, chosen a = true → q.idxOf a ≤ r.idxOf a + 1

theorem Climbed.refl : Climbed chosen q q :=
  ⟨.refl _, rfl, rfl, fun _ _ _ => Nat.le_refl _, fun _ _ _ => Nat.le_succ _⟩

theorem Climbed.cons {r : List α} (climbed : Climbed chosen q r) :
    Climbed chosen (x :: q) (x :: r) := by
  constructor
  · exact climbed.perm.cons x
  · rw [List.filter_cons, List.filter_cons, climbed.selection]
  · rw [List.filter_cons, List.filter_cons, climbed.others]
  · intro a listed selected
    by_cases same : x = a
    · simp [same]
    · have later : a ∈ q := (List.mem_cons.mp listed).resolve_left (Ne.symm same)
      have rose := climbed.rose a later selected
      rw [List.idxOf_cons_ne _ same, List.idxOf_cons_ne _ same]
      omega
  · intro a listed selected
    by_cases same : x = a
    · simp [same]
    · have later : a ∈ q := (List.mem_cons.mp listed).resolve_left (Ne.symm same)
      have one := climbed.one a later selected
      rw [List.idxOf_cons_ne _ same, List.idxOf_cons_ne _ same]
      omega

theorem shift_climbed (nodup : (x :: rest).Nodup) (above : chosen x = false) :
    Climbed chosen (x :: rest) (shift chosen x rest) := by
  have place : ∀ a ∈ x :: rest, chosen a = true →
      (shift chosen x rest).idxOf a + 1 = (x :: rest).idxOf a := by
    intro a listed selected
    have distinct : a ≠ x := by
      rintro rfl
      rw [above] at selected
      cases selected
    exact idxOf_shift nodup above ((List.mem_cons.mp listed).resolve_left distinct) selected
  constructor
  · exact shift_perm
  · rw [filter_shift above, List.filter_cons_of_neg (by simp [above])]
  · rw [filter_not_shift above, List.filter_cons_of_pos (by simp [above])]
  · intro a listed selected
    have := place a listed selected
    omega
  · intro a listed selected
    have := place a listed selected
    omega

/-- The first two elements are chosen: the second is then moved above the first, which cannot
rise. -/
def blocked (chosen : α → Bool) : List α → Bool
  | x :: y :: _ => chosen x && chosen y
  | _ => false

theorem foldl_up_climbed (nodup : q.Nodup) (free : blocked chosen q = false) :
    Climbed chosen q ((q.filter chosen).foldl (fun q a => up a q) q) := by
  cases q with
  | nil => exact .refl
  | cons x rest =>
    by_cases selected : chosen x = true
    · have fresh : x ∉ rest := (List.nodup_cons.mp nodup).1
      rw [List.filter_cons_of_pos selected, List.foldl_cons, up_head fresh]
      cases rest with
      | nil => exact .refl
      | cons y rest =>
        -- the first element stays, the second carries the pass
        have above : chosen y = false := by simpa [blocked, selected] using free
        have pass := foldl_up [x] (by simpa using nodup) above
        rw [List.filter_cons_of_neg (by simp [above])]
        rw [List.singleton_append, List.singleton_append] at pass
        rw [pass]
        exact (shift_climbed (List.nodup_cons.mp nodup).2 above).cons
    · have above : chosen x = false := Bool.eq_false_iff.mpr selected
      have pass := foldl_up [] (by simpa using nodup) above
      rw [List.nil_append, List.nil_append] at pass
      rw [List.filter_cons_of_neg selected, pass]
      exact shift_climbed nodup above

theorem filter_foldl_up {p : α → Bool} {moves : List α} (unmoved : ∀ a ∈ moves, p a = false) :
    (moves.foldl (fun q a => up a q) q).filter p = q.filter p := by
  induction moves generalizing q with
  | nil => rfl
  | cons a moves ih =>
    rw [List.forall_mem_cons] at unmoved
    rw [List.foldl_cons, ih unmoved.2, filter_up unmoved.1]

/-- Two chosen elements at the head end up in the other order. -/
theorem foldl_up_blocked (nodup : q.Nodup) (jam : blocked chosen q = true) :
    ((q.filter chosen).foldl (fun q a => up a q) q).filter chosen ≠ q.filter chosen := by
  cases q with
  | nil => cases jam
  | cons x rest =>
    cases rest with
    | nil => cases jam
    | cons y rest =>
      obtain ⟨first, second⟩ := Bool.and_eq_true_iff.mp jam
      have fresh : x ∉ y :: rest := (List.nodup_cons.mp nodup).1
      have distinct : x ≠ y := fun same => fresh (by simp [same])
      rw [List.filter_cons_of_pos first, List.filter_cons_of_pos second, List.foldl_cons,
        up_head fresh, List.foldl_cons, up, if_pos rfl]
      intro kept
      -- no later move is one of the two, so their order is the one of after the second move
      let two : α → Bool := fun a => a = x || a = y
      have unmoved : ∀ a ∈ rest.filter chosen, two a = false := by
        intro a later
        have tail := (List.mem_filter.mp later).1
        have notFirst : a ≠ x := by
          rintro rfl
          exact fresh (by simp [tail])
        have notSecond : a ≠ y := by
          rintro rfl
          exact (List.nodup_cons.mp (List.nodup_cons.mp nodup).2).1 tail
        simp [two, notFirst, notSecond]
      have within : ∀ l : List α, (l.filter chosen).filter two = l.filter two := by
        intro l
        rw [List.filter_filter]
        apply List.filter_congr
        intro a _
        by_cases one : a = x
        · simp [two, one, first]
        · by_cases other : a = y
          · simp [two, other, second]
          · simp [two, one, other]
      have swapped := within ((rest.filter chosen).foldl (fun q a => up a q) (y :: x :: rest))
      rw [kept, filter_foldl_up unmoved] at swapped
      simp [two] at swapped
      exact distinct swapped.1

end Rsbtd.Sequence
