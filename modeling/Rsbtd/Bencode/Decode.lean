import Mathlib.Data.List.TakeWhile
import Rsbtd.Bencode.Value

/-!
# Decoding bencoded values

`decodeValue` reads the value that a buffer begins with and returns it with what
follows.  It reads exactly the well-formed values: what it returns is written in the
buffer, and a buffer that begins with a well-formed value gives that value.
-/

namespace Rsbtd.Bencode

def decodeText (buf : Bytes) : Option (Text × Bytes) :=
  let length := buf.takeWhile isDigit
  match buf.dropWhile isDigit with
  | 58 :: rest =>
    if length ≠ [] ∧ number length ≤ rest.length then
      some (⟨length, rest.take (number length)⟩, rest.drop (number length))
    else none
  | _ => none

def decodeInt (buf : Bytes) : Option (Bytes × Bytes) :=
  let text := buf.takeWhile (· ≠ 101)
  match buf.dropWhile (· ≠ 101) with
  | [] => none
  | _ :: rest => if isInteger text then some (text, rest) else none

mutual

def decodeValue : Nat → Bytes → Option (Value × Bytes)
  | 0, _ => none
  | fuel + 1, buf =>
    match buf with
    | 105 :: rest => (decodeInt rest).map fun (text, rest) => (.int text, rest)
    | 108 :: rest => (decodeItems fuel rest).map fun (items, rest) => (.list items, rest)
    | 100 :: rest => (decodePairs fuel rest).map fun (pairs, rest) => (.dict pairs, rest)
    | buf => (decodeText buf).map fun (text, rest) => (.str text, rest)

def decodeItems : Nat → Bytes → Option (Items × Bytes)
  | 0, _ => none
  | fuel + 1, buf =>
    match buf with
    | 101 :: rest => some (.nil, rest)
    | buf =>
      (decodeValue fuel buf).bind fun (value, rest) =>
        (decodeItems fuel rest).map fun (items, rest) => (.cons value items, rest)

def decodePairs : Nat → Bytes → Option (Pairs × Bytes)
  | 0, _ => none
  | fuel + 1, buf =>
    match buf with
    | 101 :: rest => some (.nil, rest)
    | buf =>
      (decodeText buf).bind fun (key, rest) =>
        (decodeValue fuel rest).bind fun (value, rest) =>
          (decodePairs fuel rest).map fun (pairs, rest) => (.cons key value pairs, rest)

end

variable {buf rest : Bytes} {fuel : Nat}

/-! ## What is decoded is written there -/

theorem decodeText_sound {text : Text} (decoded : decodeText buf = some (text, rest)) :
    buf = text.bytes ++ rest ∧ text.WellFormed := by
  unfold decodeText at decoded
  split at decoded
  case h_1 tail after =>
    obtain ⟨⟨nonempty, fits⟩, same⟩ := Option.ite_none_right_eq_some.mp decoded
    obtain ⟨rfl, rfl⟩ := Prod.mk.inj (Option.some.inj same)
    constructor
    · calc
        buf = buf.takeWhile isDigit ++ buf.dropWhile isDigit := List.takeWhile_append_dropWhile.symm
        _ = _ := by rw [after, Text.bytes]; simp
    · exact ⟨nonempty, fun b listed => List.mem_takeWhile_imp listed, by simp [fits]⟩
  case h_2 => cases decoded

theorem decodeInt_sound {text : Bytes} (decoded : decodeInt buf = some (text, rest)) :
    buf = text ++ 101 :: rest ∧ isInteger text = true := by
  unfold decodeInt at decoded
  split at decoded
  case h_1 => cases decoded
  case h_2 last tail after =>
    obtain ⟨integer, same⟩ := Option.ite_none_right_eq_some.mp decoded
    obtain ⟨rfl, rfl⟩ := Prod.mk.inj (Option.some.inj same)
    have stop : last = 101 := by
      have head := List.head?_dropWhile_not (fun b : UInt8 => decide (b ≠ 101)) buf
      rw [after] at head
      simpa using head
    subst stop
    refine ⟨?_, integer⟩
    calc
      buf = buf.takeWhile (· ≠ 101) ++ buf.dropWhile (· ≠ 101) :=
        List.takeWhile_append_dropWhile.symm
      _ = _ := by rw [after]

/-- The three decoders, with some fuel. -/
structure Sound (fuel : Nat) : Prop where
  value : ∀ {buf rest value}, decodeValue fuel buf = some (value, rest) →
    buf = value.bytes ++ rest ∧ value.WellFormed
  items : ∀ {buf rest items}, decodeItems fuel buf = some (items, rest) →
    buf = items.bytes ++ 101 :: rest ∧ items.WellFormed
  pairs : ∀ {buf rest pairs}, decodePairs fuel buf = some (pairs, rest) →
    buf = pairs.bytes ++ 101 :: rest ∧ pairs.WellFormed

theorem decodeValue_succ (sound : Sound fuel) {value : Value}
    (decoded : decodeValue (fuel + 1) buf = some (value, rest)) :
    buf = value.bytes ++ rest ∧ value.WellFormed := by
  unfold decodeValue at decoded
  split at decoded
  case h_1 tail =>
    obtain ⟨⟨text, rest⟩, found, same⟩ := Option.map_eq_some_iff.mp decoded
    obtain ⟨rfl, rfl⟩ := Prod.mk.inj same
    obtain ⟨rfl, integer⟩ := decodeInt_sound found
    exact ⟨by simp [Value.bytes], integer⟩
  case h_2 tail =>
    obtain ⟨⟨items, rest⟩, found, same⟩ := Option.map_eq_some_iff.mp decoded
    obtain ⟨rfl, rfl⟩ := Prod.mk.inj same
    obtain ⟨rfl, wellFormed⟩ := sound.items found
    exact ⟨by simp [Value.bytes], wellFormed⟩
  case h_3 tail =>
    obtain ⟨⟨pairs, rest⟩, found, same⟩ := Option.map_eq_some_iff.mp decoded
    obtain ⟨rfl, rfl⟩ := Prod.mk.inj same
    obtain ⟨rfl, wellFormed⟩ := sound.pairs found
    exact ⟨by simp [Value.bytes], wellFormed⟩
  case h_4 =>
    obtain ⟨⟨text, rest⟩, found, same⟩ := Option.map_eq_some_iff.mp decoded
    obtain ⟨rfl, rfl⟩ := Prod.mk.inj same
    exact decodeText_sound found

theorem decodeItems_succ (sound : Sound fuel) {items : Items}
    (decoded : decodeItems (fuel + 1) buf = some (items, rest)) :
    buf = items.bytes ++ 101 :: rest ∧ items.WellFormed := by
  unfold decodeItems at decoded
  split at decoded
  case h_1 tail =>
    obtain ⟨rfl, rfl⟩ := Prod.mk.inj (Option.some.inj decoded)
    exact ⟨rfl, trivial⟩
  case h_2 =>
    obtain ⟨⟨value, tail⟩, first, decoded⟩ := Option.bind_eq_some_iff.mp decoded
    obtain ⟨⟨others, rest⟩, later, same⟩ := Option.map_eq_some_iff.mp decoded
    obtain ⟨rfl, rfl⟩ := Prod.mk.inj same
    obtain ⟨rfl, valueFormed⟩ := sound.value first
    obtain ⟨rfl, restFormed⟩ := sound.items later
    exact ⟨by simp [Items.bytes], valueFormed, restFormed⟩

theorem decodePairs_succ (sound : Sound fuel) {pairs : Pairs}
    (decoded : decodePairs (fuel + 1) buf = some (pairs, rest)) :
    buf = pairs.bytes ++ 101 :: rest ∧ pairs.WellFormed := by
  unfold decodePairs at decoded
  split at decoded
  case h_1 tail =>
    obtain ⟨rfl, rfl⟩ := Prod.mk.inj (Option.some.inj decoded)
    exact ⟨rfl, trivial⟩
  case h_2 =>
    obtain ⟨⟨key, tail⟩, named, decoded⟩ := Option.bind_eq_some_iff.mp decoded
    obtain ⟨⟨value, tail'⟩, first, decoded⟩ := Option.bind_eq_some_iff.mp decoded
    obtain ⟨⟨others, rest⟩, later, same⟩ := Option.map_eq_some_iff.mp decoded
    obtain ⟨rfl, rfl⟩ := Prod.mk.inj same
    obtain ⟨rfl, keyFormed⟩ := decodeText_sound named
    obtain ⟨rfl, valueFormed⟩ := sound.value first
    obtain ⟨rfl, restFormed⟩ := sound.pairs later
    exact ⟨by simp [Pairs.bytes], keyFormed, valueFormed, restFormed⟩

theorem decode_sound (fuel : Nat) : Sound fuel := by
  induction fuel with
  | zero =>
    constructor
    · intro buf rest value decoded
      cases decoded
    · intro buf rest items decoded
      cases decoded
    · intro buf rest pairs decoded
      cases decoded
  | succ fuel sound => exact ⟨decodeValue_succ sound, decodeItems_succ sound, decodePairs_succ sound⟩

/-! ## What is written is decoded -/

theorem isDigit_colon : isDigit 58 = false := by decide

theorem decodeText_bytes {text : Text} (rest : Bytes) (wellFormed : text.WellFormed) :
    decodeText (text.bytes ++ rest) = some (text, rest) := by
  have spelled : text.bytes ++ rest = text.length ++ 58 :: (text.payload ++ rest) := by
    simp [Text.bytes]
  have length : (text.length ++ 58 :: (text.payload ++ rest)).takeWhile isDigit = text.length := by
    rw [List.takeWhile_append_of_pos wellFormed.digits]
    simp [isDigit_colon]
  have after : (text.length ++ 58 :: (text.payload ++ rest)).dropWhile isDigit =
      58 :: (text.payload ++ rest) := by
    rw [List.dropWhile_append_of_pos wellFormed.digits]
    simp [isDigit_colon]
  rw [spelled, decodeText, length, after]
  have fits : text.length ≠ [] ∧ text.payload.length ≤ (text.payload ++ rest).length := by
    refine ⟨wellFormed.nonempty, ?_⟩
    rw [List.length_append]
    omega
  simp only [wellFormed.length, List.take_left, List.drop_left, if_pos fits]

theorem isDigit_of_isInteger {text : Bytes} (integer : isInteger text = true) :
    ∀ b ∈ text, b ≠ 101 := by
  have digit : ∀ b, isDigit b = true → b ≠ 101 := by
    rintro b digit rfl
    revert digit
    decide
  have all : ∀ digits : Bytes, digits.all isDigit = true → ∀ b ∈ digits, b ≠ 101 := by
    intro digits valid b listed
    exact digit b (List.all_eq_true.mp valid b listed)
  unfold isInteger at integer
  split at integer
  case h_1 digits =>
    have valid := (of_decide_eq_true integer).2
    intro b listed
    rcases List.mem_cons.mp listed with rfl | later
    · decide
    · exact all digits valid b later
  case h_2 => exact all text (of_decide_eq_true integer).2

theorem decodeInt_bytes {text : Bytes} (rest : Bytes) (integer : isInteger text = true) :
    decodeInt (text ++ 101 :: rest) = some (text, rest) := by
  have digits : ∀ b ∈ text, decide (b ≠ 101) = true := by
    intro b listed
    exact decide_eq_true (isDigit_of_isInteger integer b listed)
  have before : (text ++ 101 :: rest).takeWhile (fun b => decide (b ≠ 101)) = text := by
    rw [List.takeWhile_append_of_pos digits]
    simp
  have after : (text ++ 101 :: rest).dropWhile (fun b => decide (b ≠ 101)) = 101 :: rest := by
    rw [List.dropWhile_append_of_pos digits]
    simp
  simp only [decodeInt, before, after, integer, if_true]

/-- How a text and a value begin. -/
theorem bytes_text {text : Text} (wellFormed : text.WellFormed) :
    ∃ b tail, text.bytes = b :: tail ∧ isDigit b = true := by
  cases digits : text.length with
  | nil => exact absurd digits wellFormed.nonempty
  | cons b tail =>
    refine ⟨b, tail ++ 58 :: text.payload, by simp [Text.bytes, digits], ?_⟩
    exact wellFormed.digits b (by simp [digits])

theorem bytes_value {value : Value} (wellFormed : value.WellFormed) :
    ∃ b tail, value.bytes = b :: tail ∧ b ≠ 101 := by
  cases value with
  | int text => exact ⟨105, _, rfl, by decide⟩
  | str text =>
    obtain ⟨b, tail, begins, digit⟩ := bytes_text wellFormed
    refine ⟨b, tail, begins, ?_⟩
    rintro rfl
    revert digit
    decide
  | list items => exact ⟨108, _, rfl, by decide⟩
  | dict pairs => exact ⟨100, _, rfl, by decide⟩

theorem decodeValue_text {text : Text} (wellFormed : text.WellFormed) :
    decodeValue (fuel + 1) (text.bytes ++ rest) = some (.str text, rest) := by
  have decoded := decodeText_bytes rest wellFormed
  obtain ⟨b, tail, begins, digit⟩ := bytes_text wellFormed
  rw [begins, List.cons_append] at decoded ⊢
  unfold decodeValue
  split
  case h_1 same =>
    obtain rfl := (List.cons.inj same).1
    exact absurd digit (by decide)
  case h_2 same =>
    obtain rfl := (List.cons.inj same).1
    exact absurd digit (by decide)
  case h_3 same =>
    obtain rfl := (List.cons.inj same).1
    exact absurd digit (by decide)
  case h_4 => rw [decoded, Option.map_some]

theorem decodeItems_cons {b : UInt8} {buf after : Bytes} {value : Value} {items : Items}
    (other : b ≠ 101) (first : decodeValue fuel (b :: buf) = some (value, after))
    (later : decodeItems fuel after = some (items, rest)) :
    decodeItems (fuel + 1) (b :: buf) = some (.cons value items, rest) := by
  unfold decodeItems
  split
  case h_1 same => exact absurd (List.cons.inj same).1 other
  case h_2 => simp [first, later]

theorem decodePairs_cons {b : UInt8} {buf middle after : Bytes} {key : Text} {value : Value}
    {pairs : Pairs} (other : b ≠ 101) (named : decodeText (b :: buf) = some (key, middle))
    (first : decodeValue fuel middle = some (value, after))
    (later : decodePairs fuel after = some (pairs, rest)) :
    decodePairs (fuel + 1) (b :: buf) = some (.cons key value pairs, rest) := by
  unfold decodePairs
  split
  case h_1 same => exact absurd (List.cons.inj same).1 other
  case h_2 => simp [named, first, later]

mutual

theorem decodeValue_bytes : ∀ {value : Value} {fuel : Nat} (rest : Bytes), value.WellFormed →
    value.bytes.length ≤ fuel → decodeValue fuel (value.bytes ++ rest) = some (value, rest)
  | value, 0, rest, wellFormed, enough => by
    obtain ⟨b, tail, begins, -⟩ := bytes_value wellFormed
    simp [begins] at enough
  | .int text, fuel + 1, rest, wellFormed, _ => by
    have decoded := decodeInt_bytes rest wellFormed
    simp [Value.bytes, decodeValue, decoded]
  | .str text, fuel + 1, rest, wellFormed, _ => decodeValue_text wellFormed
  | .list items, fuel + 1, rest, wellFormed, enough => by
    have fits : items.bytes.length + 1 ≤ fuel := by
      simp only [Value.bytes, List.length_append, List.length_cons, List.length_nil] at enough
      omega
    have decoded := decodeItems_bytes rest wellFormed fits
    simp [Value.bytes, decodeValue, decoded]
  | .dict pairs, fuel + 1, rest, wellFormed, enough => by
    have fits : pairs.bytes.length + 1 ≤ fuel := by
      simp only [Value.bytes, List.length_append, List.length_cons, List.length_nil] at enough
      omega
    have decoded := decodePairs_bytes rest wellFormed fits
    simp [Value.bytes, decodeValue, decoded]

theorem decodeItems_bytes : ∀ {items : Items} {fuel : Nat} (rest : Bytes), items.WellFormed →
    items.bytes.length + 1 ≤ fuel →
    decodeItems fuel (items.bytes ++ 101 :: rest) = some (items, rest)
  | items, 0, rest, _, enough => by omega
  | .nil, fuel + 1, rest, _, _ => by simp [Items.bytes, decodeItems]
  | .cons value items, fuel + 1, rest, wellFormed, enough => by
    obtain ⟨valueFormed, restFormed⟩ := wellFormed
    obtain ⟨b, tail, begins, other⟩ := bytes_value valueFormed
    simp only [Items.bytes, List.length_append] at enough
    have long : 1 ≤ value.bytes.length := by simp [begins]
    have first := decodeValue_bytes (items.bytes ++ 101 :: rest) valueFormed
      (show value.bytes.length ≤ fuel by omega)
    have later := decodeItems_bytes rest restFormed
      (show items.bytes.length + 1 ≤ fuel by omega)
    rw [Items.bytes, List.append_assoc]
    rw [begins, List.cons_append] at first ⊢
    exact decodeItems_cons other first later

theorem decodePairs_bytes : ∀ {pairs : Pairs} {fuel : Nat} (rest : Bytes), pairs.WellFormed →
    pairs.bytes.length + 1 ≤ fuel →
    decodePairs fuel (pairs.bytes ++ 101 :: rest) = some (pairs, rest)
  | pairs, 0, rest, _, enough => by omega
  | .nil, fuel + 1, rest, _, _ => by simp [Pairs.bytes, decodePairs]
  | .cons key value pairs, fuel + 1, rest, wellFormed, enough => by
    obtain ⟨keyFormed, valueFormed, restFormed⟩ := wellFormed
    obtain ⟨b, tail, begins, digit⟩ := bytes_text keyFormed
    have other : b ≠ 101 := by
      rintro rfl
      exact absurd digit (by decide)
    simp only [Pairs.bytes, List.length_append] at enough
    have long : 1 ≤ key.bytes.length := by simp [begins]
    have named := decodeText_bytes (value.bytes ++ (pairs.bytes ++ 101 :: rest)) keyFormed
    have first := decodeValue_bytes (pairs.bytes ++ 101 :: rest) valueFormed
      (show value.bytes.length ≤ fuel by omega)
    have later := decodePairs_bytes rest restFormed
      (show pairs.bytes.length + 1 ≤ fuel by omega)
    rw [Pairs.bytes, List.append_assoc, List.append_assoc]
    rw [begins, List.cons_append] at named ⊢
    exact decodePairs_cons other named first later

end

/-! ## Decoding a buffer -/

/-- The value a buffer begins with. -/
def decode (buf : Bytes) : Option (Value × Bytes) := decodeValue (buf.length + 1) buf

theorem decode_iff {value : Value} :
    decode buf = some (value, rest) ↔ buf = value.bytes ++ rest ∧ value.WellFormed := by
  constructor
  · exact (decode_sound _).value
  · rintro ⟨rfl, wellFormed⟩
    apply decodeValue_bytes rest wellFormed
    rw [List.length_append]
    omega

/-- No buffer begins with two values. -/
theorem bytes_unique {value value' : Value} {rest rest' : Bytes} (wellFormed : value.WellFormed)
    (wellFormed' : value'.WellFormed) (same : value.bytes ++ rest = value'.bytes ++ rest') :
    value = value' ∧ rest = rest' := by
  have decoded := decode_iff.mpr ⟨same, wellFormed'⟩
  rw [decode_iff.mpr ⟨rfl, wellFormed⟩] at decoded
  exact Prod.mk.inj (Option.some.inj decoded)

/-! ## Lengths -/

theorem number_append (digits : Bytes) (b : UInt8) :
    number (digits ++ [b]) = 10 * number digits + (b.toNat - 48) := by
  simp [number]

theorem digit_toNat {d : Nat} (small : d < 10) : (UInt8.ofNat (48 + d)).toNat = 48 + d := by
  rw [UInt8.toNat_ofNat']
  omega

theorem number_reverse {digits : List Nat} (small : ∀ d ∈ digits, d < 10) :
    number (digits.reverse.map fun d => UInt8.ofNat (48 + d)) = Nat.ofDigits 10 digits := by
  induction digits with
  | nil => rfl
  | cons d digits ih =>
    rw [List.forall_mem_cons] at small
    rw [List.reverse_cons, List.map_append, List.map_singleton, number_append, ih small.2,
      digit_toNat small.1, Nat.ofDigits_cons]
    omega

theorem number_decimal (n : Nat) : number (decimal n) = n := by
  by_cases zero : n = 0
  · subst zero
    decide
  · rw [decimal, if_neg zero, number_reverse fun d => Nat.digits_lt_base (by decide),
      Nat.ofDigits_digits]

theorem isDigit_decimal (n : Nat) : ∀ b ∈ decimal n, isDigit b = true := by
  by_cases zero : n = 0
  · subst zero
    intro b listed
    obtain rfl := List.mem_singleton.mp listed
    rfl
  · intro b listed
    rw [decimal, if_neg zero] at listed
    obtain ⟨d, digit, rfl⟩ := List.mem_map.mp listed
    have small : d < 10 := Nat.digits_lt_base (by decide) (List.mem_reverse.mp digit)
    have value := digit_toNat small
    simp only [isDigit, decide_eq_true_eq, UInt8.le_iff_toNat_le, value]
    constructor
    · change 48 ≤ 48 + d
      omega
    · change 48 + d ≤ 57
      omega

theorem Text.wellFormed_of (payload : Bytes) : (Text.of payload).WellFormed where
  nonempty := by
    intro empty
    have length := number_decimal payload.length
    have none : decimal payload.length = [] := empty
    by_cases zero : payload.length = 0
    · rw [zero] at none
      exact absurd none (by decide)
    · rw [none] at length
      exact zero length.symm
  digits := isDigit_decimal payload.length
  length := number_decimal payload.length

end Rsbtd.Bencode
