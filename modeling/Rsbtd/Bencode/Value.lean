import Mathlib.Data.Nat.Digits.Defs
import Mathlib.Data.List.Basic

/-!
# Bencoded values

A `Value` is a bencoded value as it is written, so that its bytes can be given back:
an integer keeps its digits, a string the digits of its length.  Whether these are
fit is `WellFormed`.  A dictionary keeps its pairs in the order they are written in.
-/

namespace Rsbtd.Bencode

abbrev Bytes := List UInt8

def isDigit (b : UInt8) : Bool := 48 ≤ b ∧ b ≤ 57

/-- The number that digits denote. -/
def number (digits : Bytes) : Nat := digits.foldl (fun n b => 10 * n + (b.toNat - 48)) 0

def decimal (n : Nat) : Bytes :=
  if n = 0 then [48] else (Nat.digits 10 n).reverse.map fun d => UInt8.ofNat (48 + d)

/-- A string, with its length as written. -/
structure Text where
  length : Bytes
  payload : Bytes
deriving DecidableEq, Repr

namespace Text

def of (payload : Bytes) : Text := ⟨decimal payload.length, payload⟩

@[simp] theorem payload_of (payload : Bytes) : (of payload).payload = payload := rfl

def bytes (t : Text) : Bytes := t.length ++ 58 :: t.payload

structure WellFormed (t : Text) : Prop where
  nonempty : t.length ≠ []
  digits : ∀ b ∈ t.length, isDigit b = true
  length : number t.length = t.payload.length

end Text

mutual

inductive Value where
  | int (text : Bytes)
  | str (text : Text)
  | list (items : Items)
  | dict (pairs : Pairs)

inductive Items where
  | nil
  | cons (value : Value) (rest : Items)

inductive Pairs where
  | nil
  | cons (key : Text) (value : Value) (rest : Pairs)

end

/-- An optional sign and digits. -/
def isInteger : Bytes → Bool
  | 45 :: digits => digits ≠ [] ∧ digits.all isDigit
  | digits => digits ≠ [] ∧ digits.all isDigit

mutual

def Value.bytes : Value → Bytes
  | .int text => 105 :: text ++ [101]
  | .str text => text.bytes
  | .list items => 108 :: items.bytes ++ [101]
  | .dict pairs => 100 :: pairs.bytes ++ [101]

def Items.bytes : Items → Bytes
  | .nil => []
  | .cons value rest => value.bytes ++ rest.bytes

def Pairs.bytes : Pairs → Bytes
  | .nil => []
  | .cons key value rest => key.bytes ++ (value.bytes ++ rest.bytes)

end

mutual

def Value.WellFormed : Value → Prop
  | .int text => isInteger text = true
  | .str text => text.WellFormed
  | .list items => items.WellFormed
  | .dict pairs => pairs.WellFormed

def Items.WellFormed : Items → Prop
  | .nil => True
  | .cons value rest => value.WellFormed ∧ rest.WellFormed

def Pairs.WellFormed : Pairs → Prop
  | .nil => True
  | .cons key value rest => key.WellFormed ∧ value.WellFormed ∧ rest.WellFormed

end

mutual

/-- How deep lists and dictionaries are nested. -/
def Value.depth : Value → Nat
  | .int _ | .str _ => 0
  | .list items => items.depth + 1
  | .dict pairs => pairs.depth + 1

def Items.depth : Items → Nat
  | .nil => 0
  | .cons value rest => max value.depth rest.depth

def Pairs.depth : Pairs → Nat
  | .nil => 0
  | .cons _ value rest => max value.depth rest.depth

end

mutual

/-- One token an integer and a string, and two a list and a dictionary. -/
def Value.tokens : Value → Nat
  | .int _ | .str _ => 1
  | .list items => items.tokens + 2
  | .dict pairs => pairs.tokens + 2

def Items.tokens : Items → Nat
  | .nil => 0
  | .cons value rest => value.tokens + rest.tokens

def Pairs.tokens : Pairs → Nat
  | .nil => 0
  | .cons _ value rest => value.tokens + rest.tokens + 1

end

/-! ## Dictionaries -/

namespace Pairs

/-- The first value under a key. -/
def find (key : Bytes) : Pairs → Option Value
  | .nil => none
  | .cons text value rest => if text.payload = key then some value else rest.find key

/-- A map's entries, with their keys written as usual. -/
def of : List (Bytes × Value) → Pairs
  | [] => .nil
  | (key, value) :: rest => .cons (.of key) value (of rest)

end Pairs

/-- The value under a key of a dictionary. -/
def Value.find (key : Bytes) : Value → Option Value
  | .dict pairs => pairs.find key
  | _ => none

section Assign

variable {α : Type*}

/-- Sets the value under a key in a map kept in the order of its keys. -/
def assign (key : Bytes) (value : α) : List (Bytes × α) → List (Bytes × α)
  | [] => [(key, value)]
  | (key', value') :: rest =>
    if key = key' then (key, value) :: rest
    else if key < key' then (key, value) :: (key', value') :: rest
    else (key', value') :: assign key value rest

theorem mem_assign {key : Bytes} {value : α} {entries : List (Bytes × α)} {entry : Bytes × α}
    (listed : entry ∈ assign key value entries) : entry = (key, value) ∨ entry ∈ entries := by
  induction entries with
  | nil => exact .inl (List.mem_singleton.mp listed)
  | cons first rest ih =>
    obtain ⟨key', value'⟩ := first
    rw [assign] at listed
    split at listed
    · rcases List.mem_cons.mp listed with same | later
      · exact .inl same
      · exact .inr (List.mem_cons_of_mem _ later)
    · split at listed
      · exact List.mem_cons.mp listed
      · rcases List.mem_cons.mp listed with same | later
        · exact .inr (by simp [same])
        · exact (ih later).imp_right (List.mem_cons_of_mem _)

end Assign

section Find

variable {key other : Bytes} {value : Value} {entries : List (Bytes × Value)}

theorem find_of_none (absent : key ∉ entries.map Prod.fst) : (Pairs.of entries).find key = none := by
  induction entries with
  | nil => rfl
  | cons first rest ih =>
    rw [List.map_cons, List.mem_cons, not_or] at absent
    rw [Pairs.of, Pairs.find, Text.payload_of, if_neg (Ne.symm absent.1), ih absent.2]

theorem find_assign (absent : key ∉ entries.map Prod.fst) :
    (Pairs.of (assign key value entries)).find key = some value := by
  induction entries with
  | nil => exact if_pos rfl
  | cons first rest ih =>
    rw [List.map_cons, List.mem_cons, not_or] at absent
    rw [assign, if_neg absent.1]
    split
    · exact if_pos rfl
    · rw [Pairs.of, Pairs.find, Text.payload_of, if_neg (Ne.symm absent.1), ih absent.2]

theorem find_assign_other (distinct : key ≠ other) (absent : key ∉ entries.map Prod.fst) :
    (Pairs.of (assign key value entries)).find other = (Pairs.of entries).find other := by
  induction entries with
  | nil => exact if_neg distinct
  | cons first rest ih =>
    rw [List.map_cons, List.mem_cons, not_or] at absent
    rw [assign, if_neg absent.1]
    split
    · exact if_neg distinct
    · rw [Pairs.of, Pairs.of, Pairs.find, Pairs.find, ih absent.2]

theorem depth_assign (absent : key ∉ entries.map Prod.fst) :
    (Pairs.of (assign key value entries)).depth = max (Pairs.of entries).depth value.depth := by
  induction entries with
  | nil => simp [assign, Pairs.of, Pairs.depth]
  | cons first rest ih =>
    rw [List.map_cons, List.mem_cons, not_or] at absent
    rw [assign, if_neg absent.1]
    split
    · simp only [Pairs.of, Pairs.depth]
      omega
    · simp only [Pairs.of, Pairs.depth, ih absent.2]
      omega

theorem tokens_assign (absent : key ∉ entries.map Prod.fst) :
    (Pairs.of (assign key value entries)).tokens = (Pairs.of entries).tokens + (value.tokens + 1) := by
  induction entries with
  | nil => simp [assign, Pairs.of, Pairs.tokens]
  | cons first rest ih =>
    rw [List.map_cons, List.mem_cons, not_or] at absent
    rw [assign, if_neg absent.1]
    split
    · simp only [Pairs.of, Pairs.tokens]
      omega
    · simp only [Pairs.of, Pairs.tokens, ih absent.2]
      omega

end Find

end Rsbtd.Bencode
