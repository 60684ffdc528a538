import Rsbtd.Keyed.Store
import Mathlib.Data.List.Nodup
import Mathlib.Data.Nat.Bitwise

/-!
# Groups of keys with a typed view

A `Part` is a writer that stages among its own keys only.  Parts over disjoint
keys do not see each other: a sequence of them is accepted exactly when each is,
and leaves under a part's keys what that part stages alone.

A `Group` reads a typed value from its keys and stages such a value.  A value is
stable when staging it is accepted and gives it back when read; a store is
settled when it reads as a stable value.
-/

namespace Rsbtd.Keyed

open Store

variable {K V E α : Type}

structure Part (K V E : Type) where
  keys : List K
  write : Writer K V E Unit
  oblivious : Oblivious write
  frame : ∀ {delta}, write .empty = .ok () delta → ∀ key, delta.has key = true → key ∈ keys

namespace Part

def accepts (p : Part K V E) : Prop := ∃ delta, p.write .empty = .ok () delta

def writeAll (parts : List (Part K V E)) : Writer K V E Unit := parts.forM Part.write

def Apart (parts : List (Part K V E)) : Prop :=
  parts.Pairwise fun p q => List.Disjoint p.keys q.keys

variable {p : Part K V E} {parts : List (Part K V E)} {d delta : Store K V} {key : K}

@[simp] theorem writeAll_nil : writeAll ([] : List (Part K V E)) = pure () := rfl

theorem writeAll_cons : writeAll (p :: parts) = (do p.write; writeAll parts) := rfl

theorem writeAll_cons_cons {q : Part K V E} :
    writeAll (p :: q :: parts) = (do p.write; writeAll (q :: parts)) := rfl

theorem writeAll_singleton : writeAll [p] = p.write := by
  funext s
  change EStateM.bind p.write (fun _ => pure ()) s = p.write s
  rw [EStateM.bind]
  cases p.write s with
  | ok a delta => rfl
  | error e delta => rfl

theorem writeAll_append (more : List (Part K V E)) :
    writeAll (parts ++ more) = (do writeAll parts; writeAll more) := by
  simp [writeAll, List.forM_append]

theorem oblivious_writeAll : Oblivious (writeAll parts) := by
  induction parts with
  | nil => exact oblivious_pure ()
  | cons p parts ih => exact p.oblivious.seq ih

theorem writeAll_cons_ok :
    writeAll (p :: parts) .empty = .ok () d ↔
      ∃ own rest, p.write .empty = .ok () own ∧ writeAll parts .empty = .ok () rest ∧
        d = own.apply rest := by
  rw [writeAll_cons, bind_eq_ok]
  constructor
  · rintro ⟨⟨⟩, own, first, second⟩
    obtain ⟨rest, staged, rfl⟩ := oblivious_writeAll.of_ok second
    exact ⟨own, rest, first, staged, rfl⟩
  · rintro ⟨own, rest, first, staged, rfl⟩
    exact ⟨(), own, first, oblivious_writeAll.ok staged⟩

/-- A sequence is accepted exactly when each of its parts is. -/
theorem writeAll_accepts :
    (∃ d, writeAll parts .empty = .ok () d) ↔ ∀ p ∈ parts, p.accepts := by
  induction parts with
  | nil =>
    exact ⟨fun _ p listed => (by cases listed), fun _ => ⟨.empty, rfl⟩⟩
  | cons p parts ih =>
    simp only [writeAll_cons_ok, List.forall_mem_cons, ← ih]
    constructor
    · rintro ⟨d, own, rest, first, staged, -⟩
      exact ⟨⟨own, first⟩, rest, staged⟩
    · rintro ⟨⟨own, first⟩, rest, staged⟩
      exact ⟨_, own, rest, first, staged, rfl⟩

/-- Nothing is staged outside the keys of some part, and there only what the part stages. -/
theorem writeAll_has (ran : writeAll parts .empty = .ok () d) :
    d.has key = true ↔ ∃ p ∈ parts, ∃ own, p.write .empty = .ok () own ∧ own.has key = true := by
  induction parts generalizing d with
  | nil =>
    obtain rfl : Store.empty = d := by
      have same : EStateM.Result.ok () Store.empty = EStateM.Result.ok () d := ran
      injection same
    simp
  | cons p parts ih =>
    obtain ⟨own, rest, first, staged, rfl⟩ := writeAll_cons_ok.mp ran
    rw [has_apply, Bool.or_eq_true, ih staged, or_comm]
    constructor
    · rintro (here | ⟨q, listed, there⟩)
      · exact ⟨p, by simp, own, first, here⟩
      · exact ⟨q, by simp [listed], there⟩
    · rintro ⟨q, listed, there, run, here⟩
      rcases List.mem_cons.mp listed with rfl | later
      · rw [first] at run
        injection run with _ same
        exact .inl (same ▸ here)
      · exact .inr ⟨q, later, there, run, here⟩

/-- Under the keys of a part stands what the part stages alone. -/
theorem writeAll_own (apart : Apart parts) (ran : writeAll parts .empty = .ok () d)
    (listed : p ∈ parts) : ∃ own, p.write .empty = .ok () own ∧ Agrees p.keys d own := by
  induction parts generalizing d with
  | nil => cases listed
  | cons q parts ih =>
    obtain ⟨own, rest, first, staged, rfl⟩ := writeAll_cons_ok.mp ran
    obtain ⟨here, later⟩ := List.pairwise_cons.mp apart
    rcases List.mem_cons.mp listed with rfl | listed
    · refine ⟨own, first, fun key mine => apply_of_absent ?_⟩
      -- the later parts have other keys
      rw [← has_eq_false, Bool.eq_false_iff]
      intro there
      obtain ⟨r, after, own', run, has⟩ := (writeAll_has staged).mp there
      exact here r after mine (r.frame run key has)
    · obtain ⟨own', run, agrees⟩ := ih later staged listed
      refine ⟨own', run, fun key mine => ?_⟩
      have absent : own key = none := by
        rw [← has_eq_false, Bool.eq_false_iff]
        exact fun there => here p listed (q.frame first key there) mine
      rw [← agrees key mine]
      simp [apply, absent]

end Part

structure Group (K V E α : Type) where
  keys : List K
  read : Store K V → Except E α
  put : α → Writer K V E Unit
  read_local : ∀ {s t}, Agrees keys s t → read s = read t
  oblivious : ∀ a, Oblivious (put a)
  stages : ∀ {a delta}, put a .empty = .ok () delta → ∀ key, delta.has key = true ↔ key ∈ keys

namespace Group

variable {g : Group K V E α} {s t delta own : Store K V} {a : α} {w : Writer K V E Unit}

/-- Staging the value is accepted, and reads as the value. -/
def Stable (g : Group K V E α) (a : α) : Prop :=
  ∃ own, g.put a .empty = .ok () own ∧ g.read own = .ok a

def Settled (g : Group K V E α) (s : Store K V) : Prop := ∃ a, g.read s = .ok a ∧ g.Stable a

/-- What an accepted value leaves under the keys reads as a stable value. -/
def Keeps (g : Group K V E α) (a : α) : Prop := ∀ own, g.put a .empty = .ok () own → g.Settled own

theorem Settled.of_agrees (agrees : Agrees g.keys s t) (settled : g.Settled s) : g.Settled t := by
  obtain ⟨a, reads, stable⟩ := settled
  exact ⟨a, by rw [← g.read_local agrees, reads], stable⟩

/-- An accepted value reads back as itself. -/
def Exact (g : Group K V E α) (a : α) : Prop :=
  ∀ own, g.put a .empty = .ok () own → g.read own = .ok a

theorem Exact.keeps (exact_ : g.Exact a) : g.Keeps a :=
  fun own staged => ⟨a, exact_ own staged, own, staged, exact_ own staged⟩

theorem Exact.settled (exact_ : g.Exact a) (reads : g.read s = .ok a)
    (staged : g.put a .empty = .ok () own) : g.Settled s :=
  ⟨a, reads, own, staged, exact_ own staged⟩

theorem agrees_apply (staged : g.put a .empty = .ok () own) (agrees : Agrees g.keys delta own) :
    Agrees g.keys (s.apply delta) own := by
  intro key listed
  obtain ⟨value, held⟩ := has_eq_true.mp ((g.stages staged key).mpr listed)
  rw [held]
  exact apply_of_staged ((agrees key listed).trans held)

/-- A writer that stages nothing, or one value of the group. -/
def Admits (g : Group K V E α) (w : Writer K V E Unit) : Prop :=
  ∀ own, w .empty = .ok () own → own = .empty ∨ ∃ a, g.Keeps a ∧ g.put a .empty = .ok () own

/-- A delta that holds under the keys what an admitted writer staged keeps the store settled. -/
theorem Settled.apply (admits : g.Admits w) (staged : w .empty = .ok () own)
    (agrees : Agrees g.keys delta own) (settled : g.Settled s) : g.Settled (s.apply delta) := by
  rcases admits own staged with rfl | ⟨a, keeps, put⟩
  · apply settled.of_agrees
    exact fun key listed => (apply_of_absent (agrees key listed)).symm
  · exact (keeps own put).of_agrees (agrees_apply put agrees).symm

end Group

/-- A group with a value of it. -/
structure Slot (K V E : Type) where
  Value : Type
  group : Group K V E Value
  value : Value

namespace Slot

variable {slots : List (Slot K V E)} {s : Store K V}

def reads (slot : Slot K V E) (s : Store K V) : Prop := slot.group.read s = .ok slot.value

def stable (slot : Slot K V E) : Prop := slot.group.Stable slot.value

def part (slot : Slot K V E) : Part K V E where
  keys := slot.group.keys
  write := slot.group.put slot.value
  oblivious := slot.group.oblivious slot.value
  frame staged key has := (slot.group.stages staged key).mp has

/-- Writing the values is accepted and read again exactly when each of them is stable. -/
theorem rewrite_iff (apart : Part.Apart (slots.map part)) :
    (∃ delta, Part.writeAll (slots.map part) .empty = .ok () delta ∧
        ∀ slot ∈ slots, slot.reads (s.apply delta)) ↔ ∀ slot ∈ slots, slot.stable := by
  -- what stands under the keys of a slot is what the slot alone stages
  have reads_own : ∀ {delta}, Part.writeAll (slots.map part) .empty = .ok () delta →
      ∀ slot ∈ slots, ∃ own, slot.group.put slot.value .empty = .ok () own ∧
        slot.group.read (s.apply delta) = slot.group.read own := by
    intro delta staged slot listed
    obtain ⟨own, put, agrees⟩ := Part.writeAll_own apart staged (List.mem_map_of_mem listed)
    exact ⟨own, put, slot.group.read_local (Group.agrees_apply put agrees)⟩
  constructor
  · rintro ⟨delta, staged, reads⟩ slot listed
    obtain ⟨own, put, same⟩ := reads_own staged slot listed
    exact ⟨own, put, by rw [← same, reads slot listed]⟩
  · intro stable
    have accepts : ∀ p ∈ slots.map part, p.accepts := by
      rw [List.forall_mem_map]
      intro slot listed
      obtain ⟨own, put, -⟩ := stable slot listed
      exact ⟨own, put⟩
    obtain ⟨delta, staged⟩ := Part.writeAll_accepts.mpr accepts
    refine ⟨delta, staged, ?_⟩
    intro slot listed
    obtain ⟨own, put, same⟩ := reads_own staged slot listed
    obtain ⟨own', put', reads⟩ := stable slot listed
    rw [put] at put'
    injection put' with _ equal
    rw [Slot.reads, same, equal, reads]

end Slot

/-- Whether the numbers differ from each other and from those already seen, a bit each. -/
def distinctBits (seen : Nat) : List Nat → Bool
  | [] => true
  | n :: rest => !seen.testBit n && distinctBits (seen ||| 1 <<< n) rest

theorem nodup_of_distinctBits {numbers : List Nat} {seen : Nat}
    (distinct : distinctBits seen numbers = true) :
    numbers.Nodup ∧ ∀ n ∈ numbers, seen.testBit n = false := by
  induction numbers generalizing seen with
  | nil => simp
  | cons n rest ih =>
    simp only [distinctBits, Bool.and_eq_true, Bool.not_eq_true'] at distinct
    obtain ⟨fresh, later⟩ := distinct
    obtain ⟨nodup, unseen⟩ := ih later
    have apart : ∀ m ∈ rest, seen.testBit m = false ∧ m ≠ n := by
      intro m listed
      have clear := unseen m listed
      rw [Nat.testBit_or, Bool.or_eq_false_iff] at clear
      refine ⟨clear.1, ?_⟩
      rintro rfl
      simp [Nat.testBit_shiftLeft] at clear
    refine ⟨List.nodup_cons.mpr ⟨fun listed => (apart n listed).2 rfl, nodup⟩, ?_⟩
    rw [List.forall_mem_cons]
    exact ⟨fresh, fun m listed => (apart m listed).1⟩

end Rsbtd.Keyed
