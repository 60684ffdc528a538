import Mathlib.Data.List.Basic
import Mathlib.Data.List.TakeWhile
import Mathlib.Data.UInt

/-!
# Form data in URLs

Names with values, as `application/x-www-form-urlencoded`.  Texts are of UTF-16 code units;
how they are coded as bytes is a parameter, which replaces what is not UTF-8.
-/

namespace Rsbtd.FormData

abbrev Bytes := List UInt8

abbrev Units := List UInt16

def byte (c : Char) : UInt8 := c.toNat.toUInt8

/-- UTF-8.  Decoding replaces what is malformed, and resumes at a byte of ASCII at the latest. -/
structure Utf8 where
  decode : Bytes → Units
  encode : Units → Bytes
  decode_encode : ∀ bytes, decode (encode (decode bytes)) = decode bytes
  decode_nil : decode [] = []
  decode_ascii : ∀ before b after, b < 128 →
    decode (before ++ b :: after) = decode before ++ b.toUInt16 :: decode after

/-! ## Bytes -/

def hexValue (b : UInt8) : Option UInt8 :=
  if byte '0' ≤ b ∧ b ≤ byte '9' then some (b - byte '0')
  else if byte 'A' ≤ b ∧ b ≤ byte 'F' then some (b - byte 'A' + 10)
  else if byte 'a' ≤ b ∧ b ≤ byte 'f' then some (b - byte 'a' + 10)
  else none

def hexDigit (n : UInt8) : UInt8 := if n < 10 then byte '0' + n else byte 'A' + (n - 10)

def percentDecode : Bytes → Bytes
  | [] => []
  | [b] => [b]
  | [b, c] => [b, c]
  | b :: high :: low :: rest =>
    if b = byte '%' then
      match hexValue high, hexValue low with
      | some h, some l => (16 * h + l) :: percentDecode rest
      | _, _ => b :: percentDecode (high :: low :: rest)
    else b :: percentDecode (high :: low :: rest)

def plusToSpace (bytes : Bytes) : Bytes :=
  bytes.map fun b => if b = byte '+' then byte ' ' else b

def isPlain (b : UInt8) : Bool :=
  (byte '0' ≤ b && b ≤ byte '9') || (byte 'A' ≤ b && b ≤ byte 'Z') ||
    (byte 'a' ≤ b && b ≤ byte 'z') || b = byte '*' || b = byte '-' || b = byte '.' || b = byte '_'

def encodeByte (b : UInt8) : Bytes :=
  if isPlain b then [b]
  else if b = byte ' ' then [byte '+']
  else [byte '%', hexDigit (b / 16), hexDigit (b % 16)]

/-! ## Texts and pairs -/

section

variable (utf8 : Utf8)

def decodeText (bytes : Bytes) : Units := utf8.decode (percentDecode (plusToSpace bytes))

def encodeText (text : Units) : Bytes := (utf8.encode text).flatMap encodeByte

/-- A name and a value, at the first `=`. -/
def parsePair (segment : Bytes) : Units × Units :=
  (decodeText utf8 (segment.takeWhile (· ≠ byte '=')),
    decodeText utf8 (segment.dropWhile (· ≠ byte '=')).tail)

def parseSegments (segments : List Bytes) : List (Units × Units) :=
  (segments.filter (· ≠ [])).map (parsePair utf8)

def parseForm (bytes : Bytes) : List (Units × Units) :=
  parseSegments utf8 (bytes.splitOn (byte '&'))

/-- `new URLSearchParams(query)`: a question mark in front is dropped. -/
def searchParams (query : Bytes) : List (Units × Units) :=
  parseForm utf8 (if query.head? = some (byte '?') then query.tail else query)

def serializePair (pair : Units × Units) : Bytes :=
  encodeText utf8 pair.1 ++ byte '=' :: encodeText utf8 pair.2

def serialize (pairs : List (Units × Units)) : Bytes :=
  [byte '&'].intercalate (pairs.map (serializePair utf8))

end

/-! ## Coding of bytes -/

theorem forall_byte {P : UInt8 → Prop} (all : ∀ n < 256, P (UInt8.ofNat n)) (b : UInt8) : P b := by
  have own := all b.toNat b.toNat_lt
  rwa [UInt8.ofNat_toNat] at own

/-- What separates or is written before what is separated: no part of an escape. -/
structure Separator (sep : UInt8) : Prop where
  ascii : sep < 128
  ne_plus : sep ≠ byte '+'
  ne_percent : sep ≠ byte '%'
  no_digit : hexValue sep = none

variable {utf8 : Utf8} {sep b : UInt8} {bytes before after rest : Bytes}

theorem percentDecode_cons (other : b ≠ byte '%') (rest : Bytes) :
    percentDecode (b :: rest) = b :: percentDecode rest := by
  cases rest with
  | nil => rfl
  | cons c rest =>
    cases rest with
    | nil => rfl
    | cons d rest => rw [percentDecode, if_neg other]

theorem percentDecode_high (no_digit : hexValue sep = none) (b : UInt8) (rest : Bytes) :
    percentDecode (b :: sep :: rest) = b :: percentDecode (sep :: rest) := by
  cases rest with
  | nil => rfl
  | cons d rest =>
    rw [percentDecode]
    split
    · rw [no_digit]
    · rfl

theorem percentDecode_low (no_digit : hexValue sep = none) (b c : UInt8) (rest : Bytes) :
    percentDecode (b :: c :: sep :: rest) = b :: percentDecode (c :: sep :: rest) := by
  rw [percentDecode]
  split
  · rw [no_digit]
    cases hexValue c <;> rfl
  · rfl

theorem percentDecode_separator (separator : Separator sep) (before after : Bytes) :
    percentDecode (before ++ sep :: after) =
      percentDecode before ++ sep :: percentDecode after := by
  have alone := percentDecode_cons separator.ne_percent after
  fun_induction percentDecode before with
  | case1 => exact alone
  | case2 b =>
    rw [List.singleton_append, percentDecode_high separator.no_digit, alone]
    rfl
  | case3 b c =>
    rw [List.cons_append, List.singleton_append, percentDecode_low separator.no_digit,
      percentDecode_high separator.no_digit, alone]
    rfl
  | case4 high low rest h l first second ih =>
    rw [List.cons_append, List.cons_append, List.cons_append, percentDecode, if_pos rfl, second,
      first, List.cons_append, ← ih]
  | case5 high low rest malformed ih =>
    rw [List.cons_append, List.cons_append, List.cons_append, percentDecode, if_pos rfl]
    split
    case h_1 h l second first => exact absurd first (malformed h l second)
    case h_2 => exact congrArg _ ih
  | case6 b high low rest other ih =>
    rw [List.cons_append, percentDecode_cons other, ih]
    rfl

/-- What is written for a byte is read as the byte. -/
theorem percentDecode_encodeByte (b : UInt8) (rest : Bytes) :
    percentDecode (plusToSpace (encodeByte b ++ rest)) = b :: percentDecode (plusToSpace rest) := by
  have plain : ∀ b, isPlain b = true → b ≠ byte '+' ∧ b ≠ byte '%' :=
    forall_byte (by decide +kernel)
  have high : ∀ b, hexDigit (b / 16) ≠ byte '+' ∧ hexDigit (b % 16) ≠ byte '+' ∧
      hexValue (hexDigit (b / 16)) = some (b / 16) ∧
      hexValue (hexDigit (b % 16)) = some (b % 16) ∧ 16 * (b / 16) + b % 16 = b :=
    forall_byte (by decide +kernel)
  rw [plusToSpace, List.map_append, encodeByte]
  split
  case isTrue itself =>
    rw [List.map_singleton, if_neg (plain b itself).1]
    exact percentDecode_cons (plain b itself).2 _
  case isFalse =>
    split
    case isTrue space =>
      rw [List.map_singleton, if_pos rfl, space]
      exact percentDecode_cons (by decide) _
    case isFalse =>
      obtain ⟨noPlus, noPlus', first, second, sum⟩ := high b
      rw [List.map_cons, List.map_cons, List.map_singleton, if_neg (by decide), if_neg noPlus,
        if_neg noPlus', List.cons_append, List.cons_append, List.singleton_append, percentDecode,
        if_pos rfl, first, second]
      dsimp only
      rw [sum]
      rfl

theorem percentDecode_encode (bytes : Bytes) :
    percentDecode (plusToSpace (bytes.flatMap encodeByte)) = bytes := by
  induction bytes with
  | nil => rfl
  | cons b bytes ih => rw [List.flatMap_cons, percentDecode_encodeByte, ih]

/-! ## Texts -/

/-- A text that is coded and decoded to itself, as all are that were decoded. -/
def Decoded (utf8 : Utf8) (text : Units) : Prop := utf8.decode (utf8.encode text) = text

theorem decoded_decodeText (bytes : Bytes) : Decoded utf8 (decodeText utf8 bytes) :=
  utf8.decode_encode _

theorem decodeText_nil : decodeText utf8 [] = [] := utf8.decode_nil

theorem decodeText_encodeText {text : Units} (decoded : Decoded utf8 text) :
    decodeText utf8 (encodeText utf8 text) = text := by
  rw [decodeText, encodeText, percentDecode_encode]
  exact decoded

theorem decodeText_separator (separator : Separator sep) (before after : Bytes) :
    decodeText utf8 (before ++ sep :: after) =
      decodeText utf8 before ++ sep.toUInt16 :: decodeText utf8 after := by
  have kept : plusToSpace (before ++ sep :: after) =
      plusToSpace before ++ sep :: plusToSpace after := by
    rw [plusToSpace, List.map_append, List.map_cons, if_neg separator.ne_plus]
    rfl
  rw [decodeText, kept, percentDecode_separator separator, utf8.decode_ascii _ _ _ separator.ascii]
  rfl

/-- No separator is written for a text. -/
theorem not_mem_encodeText (text : Units) :
    byte '&' ∉ encodeText utf8 text ∧ byte '=' ∉ encodeText utf8 text ∧
      byte '?' ∉ encodeText utf8 text := by
  have each : ∀ b, byte '&' ∉ encodeByte b ∧ byte '=' ∉ encodeByte b ∧ byte '?' ∉ encodeByte b :=
    forall_byte (by decide +kernel)
  refine ⟨?_, ?_, ?_⟩ <;> intro mem <;> obtain ⟨b, -, inside⟩ := List.mem_flatMap.mp mem
  · exact (each b).1 inside
  · exact (each b).2.1 inside
  · exact (each b).2.2 inside

theorem separator_equals : Separator (byte '=') := by
  constructor <;> decide

theorem separator_question : Separator (byte '?') := by
  constructor <;> decide

/-! ## Pairs -/

def DecodedPair (utf8 : Utf8) (pair : Units × Units) : Prop :=
  Decoded utf8 pair.1 ∧ Decoded utf8 pair.2

theorem decoded_parsePair (segment : Bytes) : DecodedPair utf8 (parsePair utf8 segment) :=
  ⟨decoded_decodeText _, decoded_decodeText _⟩

theorem parsePair_equals (absent : byte '=' ∉ before) (after : Bytes) :
    parsePair utf8 (before ++ byte '=' :: after) =
      (decodeText utf8 before, decodeText utf8 after) := by
  have none_ : ∀ b ∈ before, decide (b ≠ byte '=') = true := by
    intro b mem
    exact decide_eq_true fun same => absent (same ▸ mem)
  rw [parsePair, List.takeWhile_append_of_pos none_, List.dropWhile_append_of_pos none_]
  simp

theorem parsePair_name (absent : byte '=' ∉ before) :
    parsePair utf8 before = (decodeText utf8 before, []) := by
  have none_ : ∀ b ∈ before, decide (b ≠ byte '=') = true := by
    intro b mem
    exact decide_eq_true fun same => absent (same ▸ mem)
  rw [parsePair, List.takeWhile_eq_self_iff.mpr none_, List.dropWhile_eq_nil_iff.mpr none_]
  exact congrArg _ decodeText_nil

theorem parsePair_serializePair {pair : Units × Units} (decoded : DecodedPair utf8 pair) :
    parsePair utf8 (serializePair utf8 pair) = pair := by
  rw [serializePair, parsePair_equals (not_mem_encodeText _).2.1,
    decodeText_encodeText decoded.1, decodeText_encodeText decoded.2]

theorem exists_equals (present : byte '=' ∈ before) :
    ∃ name value, before = name ++ byte '=' :: value ∧ byte '=' ∉ name :=
  List.eq_append_cons_of_mem present

/-- A text as the pair it is read as. -/
theorem decodeText_of_equals (present : byte '=' ∈ bytes) :
    decodeText utf8 bytes =
      (parsePair utf8 bytes).1 ++ (byte '=').toUInt16 :: (parsePair utf8 bytes).2 := by
  obtain ⟨name, value, rfl, absent⟩ := exists_equals present
  rw [parsePair_equals absent, decodeText_separator separator_equals]

theorem decodeText_of_name (absent : byte '=' ∉ bytes) :
    decodeText utf8 bytes = (parsePair utf8 bytes).1 ∧ (parsePair utf8 bytes).2 = [] := by
  rw [parsePair_name absent]
  exact ⟨rfl, rfl⟩

theorem equals_mem_serializePair (pair : Units × Units) :
    byte '=' ∈ serializePair utf8 pair :=
  List.mem_append_right _ List.mem_cons_self

/-- A question mark and more in the value. -/
theorem parsePair_value_question (present : byte '=' ∈ before) (after : Bytes) :
    parsePair utf8 (before ++ byte '?' :: after) =
      ((parsePair utf8 before).1,
        (parsePair utf8 before).2 ++ (byte '?').toUInt16 :: decodeText utf8 after) := by
  obtain ⟨name, value, rfl, absent⟩ := exists_equals present
  rw [List.append_assoc, List.cons_append, parsePair_equals absent, parsePair_equals absent,
    decodeText_separator separator_question]

/-- A question mark and more in the name. -/
theorem parsePair_name_question (absent : byte '=' ∉ before) (after : Bytes) :
    parsePair utf8 (before ++ byte '?' :: after) =
      (decodeText utf8 before ++ (byte '?').toUInt16 :: (parsePair utf8 after).1,
        (parsePair utf8 after).2) := by
  have joined : ∀ name, byte '=' ∉ name → byte '=' ∉ before ++ byte '?' :: name := by
    intro name absent'
    rw [List.mem_append, List.mem_cons]
    exact not_or.mpr ⟨absent, not_or.mpr ⟨by decide, absent'⟩⟩
  by_cases present : byte '=' ∈ after
  · obtain ⟨name, value, rfl, absent'⟩ := exists_equals present
    rw [← List.cons_append, ← List.append_assoc, parsePair_equals (joined name absent'),
      parsePair_equals absent', decodeText_separator separator_question]
  · rw [parsePair_name (joined after present), parsePair_name present,
      decodeText_separator separator_question]

theorem serializePair_ne_nil (pair : Units × Units) : serializePair utf8 pair ≠ [] :=
  List.append_ne_nil_of_right_ne_nil _ (List.cons_ne_nil _ _)

theorem not_mem_serializePair (pair : Units × Units) :
    byte '&' ∉ serializePair utf8 pair ∧ byte '?' ∉ serializePair utf8 pair := by
  obtain ⟨amp, -, question⟩ := @not_mem_encodeText utf8 pair.1
  obtain ⟨amp', -, question'⟩ := @not_mem_encodeText utf8 pair.2
  have others : byte '&' ≠ byte '=' ∧ byte '?' ≠ byte '=' := by decide
  rw [serializePair, List.mem_append, List.mem_cons, List.mem_append, List.mem_cons]
  exact ⟨not_or.mpr ⟨amp, not_or.mpr ⟨others.1, amp'⟩⟩,
    not_or.mpr ⟨question, not_or.mpr ⟨others.2, question'⟩⟩⟩

theorem parseSegments_append (first rest : List Bytes) :
    parseSegments utf8 (first ++ rest) = parseSegments utf8 first ++ parseSegments utf8 rest := by
  rw [parseSegments, List.filter_append, List.map_append]
  rfl

theorem parseSegments_cons {segment : Bytes} (nonempty : segment ≠ []) (rest : List Bytes) :
    parseSegments utf8 (segment :: rest) = parsePair utf8 segment :: parseSegments utf8 rest := by
  have kept : (segment :: rest).filter (· ≠ []) = segment :: rest.filter (· ≠ []) :=
    List.filter_cons_of_pos (by simpa using nonempty)
  rw [parseSegments, kept, List.map_cons]
  rfl

theorem parseSegments_nil : parseSegments utf8 [] = [] := rfl

theorem parseSegments_serializePair {pairs : List (Units × Units)}
    (decoded : ∀ pair ∈ pairs, DecodedPair utf8 pair) :
    parseSegments utf8 (pairs.map (serializePair utf8)) = pairs := by
  induction pairs with
  | nil => rfl
  | cons pair pairs ih =>
    obtain ⟨first, others⟩ := List.forall_mem_cons.mp decoded
    rw [List.map_cons, parseSegments_cons (serializePair_ne_nil pair),
      parsePair_serializePair first, ih others]

theorem decoded_parseSegments (segments : List Bytes) :
    ∀ pair ∈ parseSegments utf8 segments, DecodedPair utf8 pair := by
  intro pair mem
  obtain ⟨segment, -, rfl⟩ := List.mem_map.mp mem
  exact decoded_parsePair segment

/-! ## Forms -/

theorem parseForm_join {segments : List Bytes} (whole : ∀ segment ∈ segments, byte '&' ∉ segment)
    (nonempty : segments ≠ []) :
    parseForm utf8 ([byte '&'].intercalate segments) = parseSegments utf8 segments := by
  rw [parseForm, List.splitOn_intercalate _ whole nonempty]

theorem parseForm_serialize {pairs : List (Units × Units)}
    (decoded : ∀ pair ∈ pairs, DecodedPair utf8 pair) :
    parseForm utf8 (serialize utf8 pairs) = pairs := by
  cases pairs with
  | nil => rfl
  | cons pair pairs =>
    rw [serialize, parseForm_join, parseSegments_serializePair decoded]
    · intro segment mem
      obtain ⟨other, -, rfl⟩ := List.mem_map.mp mem
      exact (not_mem_serializePair other).1
    · exact List.cons_ne_nil _ _

theorem join_cons_cons (b : UInt8) (first : Bytes) (rest : List Bytes) :
    [byte '&'].intercalate ((b :: first) :: rest) =
      b :: [byte '&'].intercalate (first :: rest) := by
  cases rest with
  | nil => rw [List.intercalate_singleton, List.intercalate_singleton]
  | cons next rest =>
    rw [List.intercalate_cons_cons, List.intercalate_cons_cons, List.cons_append, List.cons_append]

theorem mem_join {b : UInt8} {segments : List Bytes}
    (mem : b ∈ [byte '&'].intercalate segments) :
    b = byte '&' ∨ ∃ segment ∈ segments, b ∈ segment := by
  induction segments with
  | nil => cases mem
  | cons segment segments ih =>
    cases segments with
    | nil =>
      rw [List.intercalate_singleton] at mem
      exact .inr ⟨segment, List.mem_cons_self, mem⟩
    | cons next segments =>
      rw [List.intercalate_cons_cons, List.append_assoc, List.mem_append, List.singleton_append,
        List.mem_cons] at mem
      obtain here | rfl | later := mem
      · exact .inr ⟨segment, List.mem_cons_self, here⟩
      · exact .inl rfl
      · exact (ih later).imp_right fun found =>
          found.imp fun _ inside => ⟨List.mem_cons_of_mem _ inside.1, inside.2⟩

theorem exists_join (bytes : Bytes) : ∃ first rest,
    (∀ segment ∈ first :: rest, byte '&' ∉ segment) ∧
      bytes = [byte '&'].intercalate (first :: rest) := by
  induction bytes with
  | nil => exact ⟨[], [], by simp, rfl⟩
  | cons b bytes ih =>
    obtain ⟨first, rest, whole, rfl⟩ := ih
    by_cases amp : b = byte '&'
    · refine ⟨[], first :: rest, List.forall_mem_cons.mpr ⟨List.not_mem_nil, whole⟩, ?_⟩
      rw [List.intercalate_cons_cons, amp]
      rfl
    · refine ⟨b :: first, rest, ?_, ?_⟩
      · obtain ⟨own, others⟩ := List.forall_mem_cons.mp whole
        refine List.forall_mem_cons.mpr ⟨?_, others⟩
        rw [List.mem_cons]
        exact not_or.mpr ⟨fun same => amp same.symm, own⟩
      · exact (join_cons_cons b first rest).symm

/-- Segments joined where the last of the first ones goes on. -/
theorem join_glue (segments : List Bytes) (last middle first : Bytes) (rest : List Bytes) :
    [byte '&'].intercalate (segments ++ [last]) ++
        (middle ++ [byte '&'].intercalate (first :: rest)) =
      [byte '&'].intercalate (segments ++ (last ++ middle ++ first) :: rest) := by
  induction segments with
  | nil =>
    rw [List.nil_append, List.nil_append, List.intercalate_singleton]
    cases rest with
    | nil => rw [List.intercalate_singleton, List.intercalate_singleton, List.append_assoc]
    | cons next rest =>
      rw [List.intercalate_cons_cons, List.intercalate_cons_cons]
      simp only [List.append_assoc]
  | cons segment segments ih =>
    have left : segments ++ [last] ≠ [] := by simp
    have right : segments ++ (last ++ middle ++ first) :: rest ≠ [] := by simp
    rw [List.cons_append, List.cons_append, List.intercalate_cons_of_ne_nil left,
      List.intercalate_cons_of_ne_nil right, ← ih]
    simp only [List.append_assoc]

theorem serialize_cons (pair : Units × Units) (pairs : List (Units × Units)) :
    ∃ more, serialize utf8 (pair :: pairs) = serializePair utf8 pair ++ more := by
  cases pairs with
  | nil => exact ⟨[], by rw [List.append_nil]; exact List.intercalate_singleton⟩
  | cons next pairs =>
    refine ⟨[byte '&'] ++ serialize utf8 (next :: pairs), ?_⟩
    rw [← List.append_assoc]
    exact List.intercalate_cons_cons

theorem serialize_ne_nil {pairs : List (Units × Units)} (nonempty : pairs ≠ []) :
    serialize utf8 pairs ≠ [] := by
  cases pairs with
  | nil => exact absurd rfl nonempty
  | cons pair pairs =>
    obtain ⟨more, written⟩ := @serialize_cons utf8 pair pairs
    rw [written]
    exact List.append_ne_nil_of_left_ne_nil (serializePair_ne_nil pair) more

theorem question_not_mem_serialize (pairs : List (Units × Units)) :
    byte '?' ∉ serialize utf8 pairs := by
  intro mem
  obtain amp | ⟨segment, written, inside⟩ := mem_join mem
  · cases amp
  · obtain ⟨pair, -, rfl⟩ := List.mem_map.mp written
    exact (not_mem_serializePair pair).2 inside

end Rsbtd.FormData
