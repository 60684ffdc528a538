import Mathlib.Data.List.Basic
import Mathlib.Data.List.DropRight

/-!
# Text

The string operations of the standard library that the settings are parsed and
formatted with, on lists of characters.
-/

namespace Rsbtd

abbrev Text := List Char

namespace Text

/-- The length in bytes. -/
def len (s : Text) : Nat := s.foldr (fun c n => c.utf8Size + n) 0

def stripPrefix (c : Char) : Text → Option Text
  | [] => none
  | first :: rest => if first = c then some rest else none

/-- The text after a literal that it starts with. -/
def stripStart (literal s : Text) : Option Text :=
  if literal.isPrefixOf s then some (s.drop literal.length) else none

def eqIgnoreAsciiCase (s t : Text) : Bool := s.map Char.toLower = t.map Char.toLower

def stripSuffix (c : Char) (s : Text) : Option Text := (stripPrefix c s.reverse).map List.reverse

def splitOnce (c : Char) (s : Text) : Option (Text × Text) :=
  if c ∈ s then some (s.takeWhile (· ≠ c), (s.dropWhile (· ≠ c)).tail) else none

def rsplitOnce (c : Char) (s : Text) : Option (Text × Text) :=
  if c ∈ s then some ((s.rdropWhile (· ≠ c)).dropLast, s.rtakeWhile (· ≠ c)) else none

def split (c : Char) (s : Text) : List Text := List.splitOn c s

def join (c : Char) (parts : List Text) : Text := List.intercalate [c] parts

def trimEndMatches (cs : List Char) (s : Text) : Text := s.rdropWhile (cs.contains ·)

/-- The characters with the Unicode property `White_Space`. -/
def isWhitespace (c : Char) : Bool :=
  (0x9 ≤ c.toNat && c.toNat ≤ 0xd) || c.toNat = 0x20 || c.toNat = 0x85 || c.toNat = 0xa0 ||
    c.toNat = 0x1680 || (0x2000 ≤ c.toNat && c.toNat ≤ 0x200a) || c.toNat = 0x2028 ||
    c.toNat = 0x2029 || c.toNat = 0x202f || c.toNat = 0x205f || c.toNat = 0x3000

/-- A number as `{}` formats it. -/
def decimal (n : Nat) : Text := Nat.toDigits 10 n

def parseDigits (s : Text) : Option Nat :=
  if s ≠ [] ∧ s.all Char.isDigit = true then some (Nat.ofDigitChars 10 s 0) else none

/-- `str::parse::<u16>`, which accepts a leading plus sign. -/
def parseU16 (s : Text) : Option UInt16 := do
  let n ← parseDigits ((stripPrefix '+' s).getD s)
  if n ≤ 65535 then some (UInt16.ofNat n) else none

section Lemmas

variable {c : Char} {s t : Text} {parts : List Text}

@[simp] theorem stripPrefix_cons : stripPrefix c (c :: s) = some s := by
  simp [stripPrefix]

theorem stripPrefix_eq_some : stripPrefix c s = some t ↔ s = c :: t := by
  cases s with
  | nil => simp [stripPrefix]
  | cons first rest =>
    by_cases same : first = c
    · subst same
      simp [stripPrefix]
    · simp [stripPrefix, same]

theorem stripSuffix_eq_some : stripSuffix c s = some t ↔ s = t ++ [c] := by
  simp only [stripSuffix, Option.map_eq_some_iff, stripPrefix_eq_some]
  constructor
  · rintro ⟨rest, reversed, rfl⟩
    simpa using congrArg List.reverse reversed
  · rintro rfl
    exact ⟨t.reverse, by simp, by simp⟩

theorem rsplitOnce_append (absent : c ∉ t) : rsplitOnce c (s ++ c :: t) = some (s, t) := by
  have kept : ∀ x ∈ t.reverse, decide (x ≠ c) = true := by
    intro x listed
    have distinct : x ≠ c := fun same => absent (same ▸ List.mem_reverse.mp listed)
    simpa using distinct
  have reversed : (s ++ c :: t).reverse = t.reverse ++ c :: s.reverse := by simp
  simp only [rsplitOnce, List.mem_append, List.mem_cons, true_or, or_true, if_true,
    List.rdropWhile, List.rtakeWhile, reversed]
  rw [List.dropWhile_append_of_pos kept, List.takeWhile_append_of_pos kept]
  simp

theorem split_join (absent : ∀ part ∈ parts, c ∉ part) (some_ : parts ≠ []) :
    split c (join c parts) = parts :=
  List.splitOn_intercalate c absent some_

@[simp] theorem join_nil : join c [] = [] := rfl

theorem decimal_digit {n : Nat} (listed : c ∈ decimal n) : c.isDigit = true :=
  Nat.isDigit_of_mem_toDigits (by decide) (by decide) listed

theorem decimal_ne_nil {n : Nat} : decimal n ≠ [] := Nat.toDigits_ne_nil

theorem not_mem_decimal {n : Nat} (digit : c.isDigit = false) : c ∉ decimal n := by
  intro listed
  rw [decimal_digit listed] at digit
  cases digit

theorem parseDigits_decimal (n : Nat) : parseDigits (decimal n) = some n := by
  have digits : (decimal n).all Char.isDigit = true :=
    List.all_eq_true.mpr (fun _ => decimal_digit)
  rw [parseDigits, if_pos ⟨decimal_ne_nil, digits⟩, decimal,
    Nat.ofDigitChars_toDigits (by decide) (by decide)]

theorem stripPrefix_plus_decimal (n : Nat) : stripPrefix '+' (decimal n) = none := by
  rw [Option.eq_none_iff_forall_ne_some]
  intro rest stripped
  apply not_mem_decimal (c := '+') (n := n) (by decide)
  simp [stripPrefix_eq_some.mp stripped]

theorem parseU16_decimal (port : UInt16) : parseU16 (decimal port.toNat) = some port := by
  have small : port.toNat ≤ 65535 := Nat.le_of_lt_succ port.toNat_lt
  simp [parseU16, stripPrefix_plus_decimal, parseDigits_decimal, small]

/-- Trimming the flags off a number. -/
theorem trimEndMatches_decimal {cs : List Char} {n : Nat} {flags : Text}
    (digits : ∀ x ∈ cs, x.isDigit = false) (among : ∀ x ∈ flags, x ∈ cs) :
    trimEndMatches cs (decimal n ++ flags) = decimal n := by
  have dropped : ∀ x ∈ flags.reverse, cs.contains x = true := by
    intro x listed
    simpa using among x (List.mem_reverse.mp listed)
  rw [trimEndMatches, List.rdropWhile, List.reverse_append, List.dropWhile_append_of_pos dropped]
  rw [← List.rdropWhile, List.rdropWhile_eq_self_iff]
  intro some_ last
  have listed : (decimal n).getLast some_ ∈ cs := by simpa using last
  exact not_mem_decimal (digits _ listed) (List.getLast_mem some_)

end Lemmas

end Text

end Rsbtd
