import Mathlib.Logic.Unique
import Mathlib.Data.List.Basic

/-!
# Deltas on a keyed store

A store holds a value for some of its keys.  A delta is a store as well, and
applying it copies the values it holds.  A writer stages values into a delta and
may fail.  It is oblivious when it does not look at what is staged already: what
it does to a delta is then what it does to the empty one, copied on top.
-/

namespace Rsbtd.Keyed

variable {K V E α β : Type}

abbrev Store (K V : Type) := K → Option V

namespace Store

def empty : Store K V := fun _ => none

def set [DecidableEq K] (s : Store K V) (key : K) (value : V) : Store K V :=
  fun other => if other = key then some value else s other

def has (s : Store K V) (key : K) : Bool := (s key).isSome

def apply (s delta : Store K V) : Store K V := fun key => (delta key).or (s key)

variable {s t delta : Store K V} {key other : K} {value : V} {keys : List K}

@[simp] theorem empty_apply_key : (empty : Store K V) key = none := rfl

@[simp] theorem has_empty : (empty : Store K V).has key = false := rfl

@[simp] theorem set_self [DecidableEq K] : s.set key value key = some value := by
  simp [set]

@[simp] theorem set_other [DecidableEq K] (distinct : other ≠ key) :
    s.set key value other = s other := by
  simp [set, distinct]

@[simp] theorem has_set [DecidableEq K] :
    (s.set key value).has other = (decide (other = key) || s.has other) := by
  by_cases same : other = key
  · subst same
    simp [has]
  · simp [has, set, same]

theorem has_eq_true : s.has key = true ↔ ∃ value, s key = some value := by
  simp [has, Option.isSome_iff_exists]

theorem has_eq_false : s.has key = false ↔ s key = none := by
  simp [has]

@[simp] theorem apply_empty : s.apply empty = s := by
  funext key
  simp [apply]

@[simp] theorem empty_apply : (empty : Store K V).apply delta = delta := by
  funext key
  simp [apply]

theorem apply_apply : s.apply (t.apply delta) = (s.apply t).apply delta := by
  funext key
  simp [apply, Option.or_assoc]

theorem apply_set [DecidableEq K] : s.apply (t.set key value) = (s.apply t).set key value := by
  funext other
  by_cases same : other = key
  · subst same
    simp [apply]
  · simp [apply, set, same]

theorem apply_of_staged (staged : delta key = some value) : s.apply delta key = some value := by
  simp [apply, staged]

theorem apply_of_absent (absent : delta key = none) : s.apply delta key = s key := by
  simp [apply, absent]

theorem has_apply : (s.apply delta).has key = (delta.has key || s.has key) := by
  cases staged : delta key with
  | none => simp [has, apply, staged]
  | some value => simp [has, apply, staged]

/-- The two stores hold the same at the given keys. -/
def Agrees (keys : List K) (s t : Store K V) : Prop := ∀ key ∈ keys, s key = t key

theorem Agrees.symm (agrees : Agrees keys s t) : Agrees keys t s :=
  fun key listed => (agrees key listed).symm

theorem Agrees.trans (first : Agrees keys s t) (second : Agrees keys t delta) :
    Agrees keys s delta :=
  fun key listed => (first key listed).trans (second key listed)

end Store

open Store

abbrev Writer (K V E α : Type) := EStateM E (Store K V) α

/-- A result on the empty delta, copied on top of what `s` holds. -/
def onto (s : Store K V) : EStateM.Result E (Store K V) α → EStateM.Result E (Store K V) α
  | .ok a delta => .ok a (s.apply delta)
  | .error e delta => .error e (s.apply delta)

def Oblivious (w : Writer K V E α) : Prop := ∀ s, w s = onto s (w .empty)

section Oblivious

variable {s d delta : Store K V} {w : Writer K V E α} {a : α} {e : E}

theorem onto_onto (t : Store K V) (r : EStateM.Result E (Store K V) α) :
    onto s (onto t r) = onto (s.apply t) r := by
  cases r with
  | ok a delta => simp [onto, apply_apply]
  | error e delta => simp [onto, apply_apply]

theorem Oblivious.ok (oblivious : Oblivious w) (empty : w .empty = .ok a delta) :
    w s = .ok a (s.apply delta) := by
  rw [oblivious s, empty]
  rfl

/-- What a writer staged on some delta, it stages on the empty one. -/
theorem Oblivious.of_ok (oblivious : Oblivious w) (ran : w s = .ok a d) :
    ∃ delta, w .empty = .ok a delta ∧ d = s.apply delta := by
  have copied := oblivious s
  rw [ran] at copied
  cases empty : w .empty with
  | ok b delta =>
    rw [empty] at copied
    obtain ⟨rfl, rfl⟩ : a = b ∧ d = s.apply delta := by simpa [onto] using copied
    exact ⟨delta, rfl, rfl⟩
  | error e delta =>
    rw [empty] at copied
    cases copied

theorem oblivious_pure (a : α) : Oblivious (pure a : Writer K V E α) := by
  intro s
  change EStateM.Result.ok a s = .ok a (s.apply .empty)
  rw [apply_empty]

theorem oblivious_throw (e : E) : Oblivious (throw e : Writer K V E α) := by
  intro s
  change EStateM.Result.error e s = .error e (s.apply .empty)
  rw [apply_empty]

theorem Oblivious.bind {f : α → Writer K V E β} (first : Oblivious w)
    (then_ : ∀ a, Oblivious (f a)) : Oblivious (w >>= f) := by
  intro s
  change EStateM.bind w f s = onto s (EStateM.bind w f .empty)
  unfold EStateM.bind
  rw [first s]
  cases w .empty with
  | ok a delta =>
    change f a (s.apply delta) = onto s (f a delta)
    rw [then_ a (s.apply delta), then_ a delta, onto_onto]
  | error e delta => rfl

theorem Oblivious.seq {w w' : Writer K V E Unit} (first : Oblivious w) (second : Oblivious w') :
    Oblivious (do w; w') :=
  first.bind (fun _ => second)

theorem Oblivious.ite {c : Prop} [Decidable c] {w w' : Writer K V E α} (first : Oblivious w)
    (second : Oblivious w') : Oblivious (if c then w else w') := by
  split
  · exact first
  · exact second

theorem Oblivious.adapt {F : Type} {f : E → F} (oblivious : Oblivious w) :
    Oblivious (EStateM.adaptExcept f w : Writer K V F α) := by
  intro s
  simp only [EStateM.adaptExcept]
  rw [oblivious s]
  cases w .empty with
  | ok a delta => rfl
  | error e delta => rfl

end Oblivious

/-- Stages one value. -/
def stage [DecidableEq K] (key : K) (value : V) : Writer K V E Unit := modify (·.set key value)

theorem stage_apply [DecidableEq K] {s : Store K V} {key : K} {value : V} :
    (stage key value : Writer K V E Unit) s = .ok () (s.set key value) := rfl

theorem oblivious_stage [DecidableEq K] (key : K) (value : V) :
    Oblivious (stage key value : Writer K V E Unit) := by
  intro s
  change EStateM.Result.ok () (s.set key value) = .ok () (s.apply (Store.empty.set key value))
  rw [apply_set, apply_empty]

/-- Passes on the outcome of a check that does not touch the delta. -/
def check : Except E α → Writer K V E α
  | .ok a => pure a
  | .error e => throw e

theorem check_eq_ok {r : Except E α} {a : α} {s d : Store K V} :
    check r s = .ok a d ↔ r = .ok a ∧ d = s := by
  cases r with
  | ok b =>
    change EStateM.Result.ok b s = .ok a d ↔ _
    simp [eq_comm]
  | error e =>
    change EStateM.Result.error e s = .ok a d ↔ _
    simp

theorem oblivious_check (r : Except E α) : Oblivious (check r : Writer K V E α) := by
  cases r with
  | ok a => exact oblivious_pure a
  | error e => exact oblivious_throw e

theorem exists_unit {P : Unit → Prop} : (∃ u, P u) ↔ P () := Unique.exists_iff

theorem bind_eq_ok {w : Writer K V E α} {f : α → Writer K V E β} {b : β} {s d : Store K V} :
    (w >>= f) s = .ok b d ↔ ∃ a t, w s = .ok a t ∧ f a t = .ok b d := by
  change EStateM.bind w f s = .ok b d ↔ _
  unfold EStateM.bind
  cases ran : w s with
  | ok a t => simp
  | error e t => simp

end Rsbtd.Keyed
