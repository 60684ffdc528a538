import Mathlib.Data.List.Chain

/-!
# Ranges

A map on an interval of the numbers, kept as ranges that follow each other
without a gap.  `assign` overwrites one range of it, and `merge` joins neighbours
that have one value.  Ranges that cannot be joined any further are determined by
the map.
-/

namespace Rsbtd.Sequence

/-- The numbers from `first` to `last`, both included. -/
structure Range (β : Type*) where
  first : Nat
  last : Nat
  value : β
deriving DecidableEq, Repr

variable {β : Type*} {stop lo mid x y : Nat} {r new : Range β} {rs ts : List (Range β)} {v : β}
  {f : Nat → β}

namespace Range

def Covers (r : Range β) (x : Nat) : Prop := r.first ≤ x ∧ x ≤ r.last

instance : Decidable (r.Covers x) := inferInstanceAs (Decidable (_ ∧ _))

/-- What of a range lies before a number. -/
def before (x : Nat) (r : Range β) : List (Range β) :=
  if r.first < x then [{ r with last := min r.last (x - 1) }] else []

/-- What of a range lies after a number. -/
def after (x : Nat) (r : Range β) : List (Range β) :=
  if x < r.last then [{ r with first := max r.first (x + 1) }] else []

end Range

/-- What the last of the ranges that cover a number says about it. -/
def lastCover (rs : List (Range β)) (value : β) (x : Nat) : β :=
  rs.foldl (fun value r => if r.Covers x then r.value else value) value

@[simp] theorem lastCover_nil : lastCover [] v x = v := rfl

theorem lastCover_cons :
    lastCover (r :: rs) v x = lastCover rs (if r.Covers x then r.value else v) x := rfl

theorem lastCover_absent (absent : ∀ r ∈ rs, ¬ r.Covers x) : lastCover rs v x = v := by
  induction rs with
  | nil => rfl
  | cons r rs ih =>
    rw [lastCover_cons, if_neg (absent r List.mem_cons_self)]
    exact ih fun other listed => absent other (List.mem_cons_of_mem _ listed)

/-- The ranges follow each other from `lo` up to, and without, `stop`. -/
inductive Tiles (stop : Nat) : Nat → List (Range β) → Prop where
  | nil : Tiles stop stop []
  | cons {lo : Nat} {r : Range β} {rs : List (Range β)} (starts : r.first = lo)
      (ordered : lo ≤ r.last) (rest : Tiles stop (r.last + 1) rs) : Tiles stop lo (r :: rs)

/-- The ranges agree with a map. -/
def Reads (rs : List (Range β)) (f : Nat → β) : Prop :=
  ∀ r ∈ rs, ∀ x, r.Covers x → f x = r.value

/-- No two neighbours have one value. -/
def Minimal (rs : List (Range β)) : Prop := rs.IsChain fun a b => a.value ≠ b.value

namespace Tiles

theorem le (tiles : Tiles stop lo rs) : lo ≤ stop := by
  induction tiles with
  | nil => exact Nat.le_refl _
  | cons _ ordered _ ih => omega

theorem bounds (tiles : Tiles stop lo rs) (listed : r ∈ rs) :
    lo ≤ r.first ∧ r.first ≤ r.last ∧ r.last < stop := by
  induction tiles with
  | nil => cases listed
  | cons starts ordered rest ih =>
    have below := rest.le
    cases List.mem_cons.mp listed with
    | inl same => subst same; omega
    | inr later => have := ih later; omega

theorem covered (tiles : Tiles stop lo rs) (inside : lo ≤ x) (below : x < stop) :
    ∃ r ∈ rs, r.Covers x := by
  induction tiles with
  | nil => omega
  | @cons lo r rs starts ordered rest ih =>
    by_cases here : x ≤ r.last
    · exact ⟨r, List.mem_cons_self, by omega, here⟩
    · obtain ⟨other, listed, covers⟩ := ih (by omega)
      exact ⟨other, List.mem_cons_of_mem _ listed, covers⟩

/-- Nothing that comes later covers a number of the first range. -/
theorem not_later (rest : Tiles stop (r.last + 1) rs) (covers : r.Covers x) :
    ∀ other ∈ rs, ¬ other.Covers x := by
  intro other listed there
  have := rest.bounds listed
  have := covers.2
  have := there.1
  omega

theorem lastCover_eq (tiles : Tiles stop lo rs) (listed : r ∈ rs) (covers : r.Covers x) :
    lastCover rs v x = r.value := by
  induction tiles generalizing v with
  | nil => cases listed
  | cons _ _ rest ih =>
    rw [lastCover_cons]
    cases List.mem_cons.mp listed with
    | inl same =>
      subst same
      rw [if_pos covers]
      exact lastCover_absent (rest.not_later covers)
    | inr later => exact ih later

theorem reads_lastCover (tiles : Tiles stop lo rs) : Reads rs (lastCover rs v) :=
  fun _ listed _ covers => tiles.lastCover_eq listed covers

/-- Overwriting with the ranges one after the other gives the map they agree with. -/
theorem lastCover_reads (tiles : Tiles stop lo rs) (reads : Reads rs f) (inside : lo ≤ x)
    (below : x < stop) : lastCover rs v x = f x := by
  obtain ⟨r, listed, covers⟩ := tiles.covered inside below
  rw [tiles.lastCover_eq listed covers, reads r listed x covers]

theorem append (front : Tiles mid lo rs) (back : Tiles stop mid ts) : Tiles stop lo (rs ++ ts) := by
  induction front with
  | nil => exact back
  | cons starts ordered rest ih => exact .cons starts ordered ih

/-- A range that stopped early would have a neighbour with its own value. -/
theorem last_le (rest : Tiles stop (r.last + 1) rs) (minimal : Minimal (r :: rs))
    (reads : Reads rs f) (same : f (r.last + 1) = r.value) (further : r.last + 1 < stop) :
    False := by
  cases rest with
  | nil => omega
  | @cons _ next rs starts ordered _ =>
    have distinct := (List.isChain_cons_cons.mp minimal).1
    have value := reads next List.mem_cons_self (r.last + 1) ⟨by omega, ordered⟩
    exact distinct (same.symm.trans value)

/-- Ranges that cannot be joined any further are determined by the map. -/
theorem unique (left : Tiles stop lo rs) (right : Tiles stop lo ts) (minimal₁ : Minimal rs)
    (minimal₂ : Minimal ts) (reads₁ : Reads rs f) (reads₂ : Reads ts f) : rs = ts := by
  induction left generalizing ts with
  | nil =>
    cases right with
    | nil => rfl
    | cons starts ordered rest => have := rest.le; omega
  | @cons lo r rs starts ordered rest ih =>
    cases right with
    | nil => have := rest.le; omega
    | @cons _ t ts starts' ordered' rest' =>
      have below := rest.le
      have below' := rest'.le
      have tail₁ : Reads rs f := fun x listed => reads₁ x (List.mem_cons_of_mem _ listed)
      have tail₂ : Reads ts f := fun x listed => reads₂ x (List.mem_cons_of_mem _ listed)
      have here := fun x => reads₁ r List.mem_cons_self x
      have there := fun x => reads₂ t List.mem_cons_self x
      have values : r.value = t.value :=
        (here lo ⟨by omega, ordered⟩).symm.trans (there lo ⟨by omega, ordered'⟩)
      have ends : r.last = t.last := by
        by_contra apart
        -- The map goes on with the value of the longer one, so the shorter one could be joined.
        by_cases shorter : r.last < t.last
        · refine last_le rest minimal₁ tail₁ ?_ (by omega)
          rw [there (r.last + 1) ⟨by omega, by omega⟩, values]
        · refine last_le rest' minimal₂ tail₂ ?_ (by omega)
          rw [here (t.last + 1) ⟨by omega, by omega⟩, values]
      have same : r = t := by
        cases r
        cases t
        simp_all
      subst same
      rw [ih rest' minimal₁.tail minimal₂.tail tail₁ tail₂]

end Tiles

/-- One range overwritten. -/
def assign (new : Range β) (rs : List (Range β)) : List (Range β) :=
  rs.flatMap (·.before new.first) ++ new :: rs.flatMap (·.after new.last)

/-- Neighbours with one value joined. -/
def merge [DecidableEq β] : List (Range β) → List (Range β)
  | [] => []
  | r :: rs =>
    match merge rs with
    | [] => [r]
    | next :: more =>
      if r.value = next.value then { r with last := next.last } :: more else r :: next :: more

theorem flatMap_before (later : ∀ r ∈ rs, x ≤ r.first) : rs.flatMap (·.before x) = [] := by
  rw [List.flatMap_eq_nil_iff]
  intro r listed
  have := later r listed
  rw [Range.before, if_neg (by omega)]

theorem flatMap_after (later : ∀ r ∈ rs, x < r.first ∧ r.first ≤ r.last) :
    rs.flatMap (·.after x) = rs := by
  induction rs with
  | nil => rfl
  | cons r rs ih =>
    have here := later r List.mem_cons_self
    rw [List.flatMap_cons, ih fun other listed => later other (List.mem_cons_of_mem _ listed),
      Range.after, if_pos (by omega), Nat.max_eq_left (by omega), List.singleton_append]

namespace Tiles

theorem before (tiles : Tiles stop lo rs) (inside : lo ≤ x) (below : x ≤ stop) :
    Tiles x lo (rs.flatMap (·.before x)) := by
  induction tiles with
  | nil =>
    have : x = stop := by omega
    subst this
    exact .nil
  | @cons lo r rs starts ordered rest ih =>
    rw [List.flatMap_cons]
    by_cases whole : r.last < x
    · rw [Range.before, if_pos (by omega), Nat.min_eq_left (by omega)]
      exact .cons starts ordered (ih (by omega))
    · -- The range reaches past the number, so nothing later is left.
      rw [flatMap_before fun other listed => by have := rest.bounds listed; omega,
        List.append_nil, Range.before]
      by_cases part : r.first < x
      · rw [if_pos part, Nat.min_eq_right (by omega)]
        refine .cons starts (by show lo ≤ x - 1; omega) ?_
        rw [show x - 1 + 1 = x by omega]
        exact .nil
      · rw [if_neg part, show lo = x by omega]
        exact .nil

theorem after (tiles : Tiles stop lo rs) (inside : lo ≤ x + 1) (below : x < stop) :
    Tiles stop (x + 1) (rs.flatMap (·.after x)) := by
  induction tiles with
  | nil =>
    have : x + 1 = stop := by omega
    subst this
    exact .nil
  | @cons lo r rs starts ordered rest ih =>
    rw [List.flatMap_cons, Range.after]
    by_cases reaches : x < r.last
    · -- The first range that reaches past the number is cut, those after it are whole.
      rw [if_pos reaches, Nat.max_eq_right (by omega), List.singleton_append,
        flatMap_after fun other listed => by have := rest.bounds listed; omega]
      exact .cons rfl reaches rest
    · rw [if_neg reaches, List.nil_append]
      exact ih (by omega)

theorem assign (tiles : Tiles stop lo rs) (inside : lo ≤ new.first)
    (ordered : new.first ≤ new.last) (below : new.last < stop) :
    Tiles stop lo (assign new rs) :=
  (tiles.before inside (by omega)).append
    (.cons rfl ordered (tiles.after (by omega) below))

theorem merge [DecidableEq β] (tiles : Tiles stop lo rs) : Tiles stop lo (merge rs) := by
  induction tiles with
  | nil => exact .nil
  | @cons lo r rs starts ordered rest ih =>
    unfold Sequence.merge
    cases merged : Sequence.merge rs with
    | nil =>
      rw [merged] at ih
      exact .cons starts ordered ih
    | cons next more =>
      rw [merged] at ih
      by_cases same : r.value = next.value
      · simp only [same, if_true]
        cases ih with
        | cons starts' ordered' rest' => exact .cons starts (by show lo ≤ next.last; omega) rest'
      · simp only [same, if_false]
        exact .cons starts ordered ih

end Tiles

namespace Reads

theorem assign (reads : Reads rs f) :
    Reads (assign new rs) fun x => if new.Covers x then new.value else f x := by
  intro part listed x covers
  have inside := covers.1
  have inside' := covers.2
  rw [Sequence.assign, List.mem_append, List.mem_cons, List.mem_flatMap, List.mem_flatMap] at listed
  match listed with
  | .inl ⟨r, kept, cut⟩ =>
    rw [Range.before, List.mem_ite_nil_right, List.mem_singleton] at cut
    obtain ⟨first, rfl⟩ := cut
    -- What is left of a range ends before the new one.
    have bound : x ≤ min r.last (new.first - 1) := inside'
    have outside : ¬ new.Covers x := fun there => by have := there.1; omega
    exact (reads r kept x ⟨inside, by omega⟩).symm ▸ if_neg outside
  | .inr (.inl same) =>
    subst same
    exact if_pos covers
  | .inr (.inr ⟨r, kept, cut⟩) =>
    rw [Range.after, List.mem_ite_nil_right, List.mem_singleton] at cut
    obtain ⟨last, rfl⟩ := cut
    -- What is left of a range starts after the new one.
    have bound : max r.first (new.last + 1) ≤ x := inside
    have outside : ¬ new.Covers x := fun there => by have := there.2; omega
    exact (reads r kept x ⟨by omega, inside'⟩).symm ▸ if_neg outside

theorem merge [DecidableEq β] (reads : Reads rs f) (tiles : Tiles stop lo rs) :
    Reads (merge rs) f := by
  induction tiles with
  | nil => exact reads
  | @cons lo r rs starts ordered rest ih =>
    have tail := ih fun other listed => reads other (List.mem_cons_of_mem _ listed)
    have follows := rest.merge
    unfold Sequence.merge
    cases merged : Sequence.merge rs with
    | nil =>
      intro part listed
      rw [List.mem_singleton] at listed
      exact listed ▸ reads r List.mem_cons_self
    | cons next more =>
      rw [merged] at tail follows
      intro part listed x covers
      by_cases same : r.value = next.value
      · simp only [same, if_true, List.mem_cons] at listed
        cases listed with
        | inl joined =>
          subst joined
          by_cases here : x ≤ r.last
          · exact (reads r List.mem_cons_self x ⟨covers.1, here⟩).trans same
          · -- Past the range itself its neighbour covers the number.
            cases follows with
            | cons starts' _ _ =>
              exact tail next List.mem_cons_self x ⟨by omega, covers.2⟩
        | inr later => exact tail part (List.mem_cons_of_mem _ later) x covers
      · simp only [same, if_false, List.mem_cons] at listed
        cases listed with
        | inl first => exact first ▸ reads r List.mem_cons_self x (first ▸ covers)
        | inr later => exact tail part (List.mem_cons.mpr later) x covers

end Reads

theorem minimal_merge [DecidableEq β] : Minimal (merge rs) := by
  induction rs with
  | nil => exact .nil
  | cons r rs ih =>
    unfold merge
    cases merged : merge rs with
    | nil => exact .singleton _
    | cons next more =>
      rw [merged] at ih
      by_cases same : r.value = next.value
      · simp only [same, if_true]
        cases more with
        | nil => exact .singleton _
        | cons second more =>
          -- The joined range has the value that its successor was apart from already.
          have chain := List.isChain_cons_cons.mp ih
          exact List.isChain_cons_cons.mpr chain
      · simp only [same, if_false]
        exact List.isChain_cons_cons.mpr ⟨same, ih⟩

end Rsbtd.Sequence
