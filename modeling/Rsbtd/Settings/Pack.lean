import Rsbtd.Keyed.Group
import Rsbtd.Settings.Keys
import Rsbtd.Text.Address

/-!
# Settings packs

A pack holds the settings explicitly set on it, each of the kind of its key; a
setter of another kind is ignored.  What the linked libtorrent supplies, its
version and its default pack, is a parameter.
-/

namespace Rsbtd.Settings

open Rsbtd.Keyed

inductive SettingValue
  | str (value : Text)
  | int (value : Int32)
  | bool (value : Bool)
  deriving DecidableEq

abbrev SettingsPack := Store SettingKey SettingValue

/-- `SettingsPack::defaults()` is dense: the string settings with an empty default are filled in. -/
structure Libtorrent where
  version : Text
  defaults : SettingsPack

namespace SettingsPack

def getStr (pack : SettingsPack) (key : SettingKey) : Option Text :=
  match pack key with
  | some (.str value) => some value
  | _ => none

def getInt (pack : SettingsPack) (key : SettingKey) : Option Int32 :=
  match pack key with
  | some (.int value) => some value
  | _ => none

def getBool (pack : SettingsPack) (key : SettingKey) : Option Bool :=
  match pack key with
  | some (.bool value) => some value
  | _ => none

end SettingsPack

/-! ## Integer widths -/

def i32OfU8 (value : UInt8) : Int32 := Int32.ofInt value.toNat

def i32OfU16 (value : UInt16) : Int32 := Int32.ofInt value.toNat

def i32OfI8 (value : Int8) : Int32 := Int32.ofInt value.toInt

/-- `u8::try_from`. -/
def u8OfI32 (value : Int32) : Option UInt8 :=
  if 0 ≤ value.toInt ∧ value.toInt ≤ 255 then some (UInt8.ofNat value.toInt.toNat) else none

/-- `u16::try_from`. -/
def u16OfI32 (value : Int32) : Option UInt16 :=
  if 0 ≤ value.toInt ∧ value.toInt ≤ 65535 then some (UInt16.ofNat value.toInt.toNat) else none

/-- `i8::try_from`. -/
def i8OfI32 (value : Int32) : Option Int8 :=
  if -128 ≤ value.toInt ∧ value.toInt ≤ 127 then some (Int8.ofInt value.toInt) else none

theorem u8OfI32_i32OfU8 (value : UInt8) : u8OfI32 (i32OfU8 value) = some value := by
  have small : value.toNat < 256 := value.toNat_lt
  have exact_ : (i32OfU8 value).toInt = value.toNat :=
    Int32.toInt_ofInt_of_le (by omega) (by omega)
  rw [u8OfI32, if_pos (by omega), exact_]
  simp

theorem u16OfI32_i32OfU16 (value : UInt16) : u16OfI32 (i32OfU16 value) = some value := by
  have small : value.toNat < 65536 := value.toNat_lt
  have exact_ : (i32OfU16 value).toInt = value.toNat :=
    Int32.toInt_ofInt_of_le (by omega) (by omega)
  rw [u16OfI32, if_pos (by omega), exact_]
  simp

theorem i8OfI32_i32OfI8 (value : Int8) : i8OfI32 (i32OfI8 value) = some value := by
  have low := value.le_toInt
  have high := value.toInt_lt
  have exact_ : (i32OfI8 value).toInt = value.toInt :=
    Int32.toInt_ofInt_of_le (by omega) (by omega)
  rw [i8OfI32, if_pos (by omega), exact_]
  simp

/-- A part of an error text.  What `{:?}` escapes is up to the Unicode tables of the standard
library, so a string shown that way stays a part of its own. -/
inductive Fragment
  | text (s : String)
  | debug (s : Text)
  deriving DecidableEq

/-- What `format!` joins. -/
abbrev Message := List Fragment

instance : Coe String Message := ⟨fun s => [.text s]⟩

def debug (s : Text) : Message := [.debug s]

namespace Lt

/-- A value outside a setting's domain, rejected by a typed setter. -/
structure SettingsError where
  setting : String
  message : Message
  deriving DecidableEq

abbrev Setter := Writer SettingKey SettingValue SettingsError Unit

section Setters

variable {E : Type}

def setStr (key : SettingKey) (value : Text) : Writer SettingKey SettingValue E Unit :=
  if key.kind = .str then stage key (.str value) else pure ()

def setInt (key : SettingKey) (value : Int32) : Writer SettingKey SettingValue E Unit :=
  if key.kind = .int then stage key (.int value) else pure ()

def setBool (key : SettingKey) (value : Bool) : Writer SettingKey SettingValue E Unit :=
  if key.kind = .bool then stage key (.bool value) else pure ()

def setDefault (lt : Libtorrent) (key : SettingKey) : Writer SettingKey SettingValue E Unit :=
  match key.kind with
  | .str => setStr key ((lt.defaults.getStr key).getD [])
  | .int => setInt key ((lt.defaults.getInt key).getD 0)
  | .bool => setBool key ((lt.defaults.getBool key).getD false)

end Setters

def inRange (setting : String) (value low high : Int32) : Except SettingsError Unit :=
  if low ≤ value ∧ value ≤ high then .ok ()
  else .error ⟨setting, s!"{value} is outside the valid range {low}..={high}"⟩

/-! ## Token validation -/

/-- An IPv6 address with an optional `%scope`. -/
def ipv6Literal (s : Text) : Bool := Text.isIpv6 (((Text.splitOnce '%' s).map Prod.fst).getD s)

/-- The content of a bracketed token. -/
def unbracketed (s : Text) : Option Text := (Text.stripPrefix '[' s).bind (Text.stripSuffix ']')

/-- A token of a setting whose entries carry a port: a colon only inside a bracketed literal. -/
def hostToken (setting field : String) (s : Text) : Except SettingsError Unit :=
  if s = [] then .error ⟨setting, field ++ " must not be empty"⟩
  else if ',' ∈ s ∨ s.any Text.isWhitespace = true then
    .error ⟨setting, field ++ " " ++ debug s ++ " must not contain commas or whitespace"⟩
  else
    match unbracketed s with
    | some inner =>
      if ipv6Literal inner = true then .ok ()
      else .error ⟨setting, field ++ " " ++ debug s ++ " brackets must contain an IPv6 address"⟩
    | none =>
      if ':' ∈ s then
        .error ⟨setting,
          field ++ " " ++ debug s ++ " contains `:` but is not a bracketed IPv6 literal"⟩
      else .ok ()

/-- A token that stands alone: a colon only in a bare literal. -/
def bareHostToken (setting field : String) (s : Text) : Except SettingsError Unit :=
  if s = [] then .error ⟨setting, field ++ " must not be empty"⟩
  else if ',' ∈ s ∨ s.any Text.isWhitespace = true then
    .error ⟨setting, field ++ " " ++ debug s ++ " must not contain commas or whitespace"⟩
  else if ':' ∈ s ∧ ipv6Literal s = false then
    .error ⟨setting,
      field ++ " " ++ debug s ++ " contains `:` but is not a bare (unbracketed) IPv6 address"⟩
  else .ok ()

section Lemmas

variable {E : Type} {setting field : String} {s inner : Text} {d e : SettingsPack} {key : SettingKey}

theorem unbracketed_eq_some : unbracketed s = some inner ↔ s = '[' :: (inner ++ [']']) := by
  simp only [unbracketed, Option.bind_eq_some_iff, Text.stripPrefix_eq_some,
    Text.stripSuffix_eq_some]
  constructor
  · rintro ⟨rest, rfl, rfl⟩
    rfl
  · intro spelled
    exact ⟨_, spelled, rfl⟩

theorem bareHostToken_ok :
    bareHostToken setting field s = .ok () ↔
      s ≠ [] ∧ ',' ∉ s ∧ s.any Text.isWhitespace = false ∧ (':' ∈ s → ipv6Literal s = true) := by
  unfold bareHostToken
  split
  case isTrue empty => simp [empty]
  case isFalse some_ =>
    split
    case isTrue delimiter =>
      constructor
      · intro accepted
        cases accepted
      · rintro ⟨-, comma, blank, -⟩
        rcases delimiter with listed | listed
        · exact absurd listed comma
        · rw [listed] at blank
          cases blank
    case isFalse clean =>
      obtain ⟨comma, blank⟩ := not_or.mp clean
      have blank : s.any Text.isWhitespace = false := Bool.eq_false_iff.mpr blank
      split
      case isTrue colon => simp [colon.1, colon.2]
      case isFalse plain =>
        refine ⟨fun _ => ⟨some_, comma, blank, fun colon => ?_⟩, fun _ => rfl⟩
        cases literal : ipv6Literal s with
        | true => rfl
        | false => exact absurd ⟨colon, literal⟩ plain

theorem hostToken_ok (accepted : hostToken setting field s = .ok ()) : s ≠ [] ∧ ',' ∉ s := by
  unfold hostToken at accepted
  split at accepted
  case isTrue => cases accepted
  case isFalse some_ =>
    split at accepted
    case isTrue => cases accepted
    case isFalse clean => exact ⟨some_, fun comma => clean (.inl comma)⟩

theorem oblivious_setStr (value : Text) :
    Oblivious (setStr key value : Writer SettingKey SettingValue E Unit) :=
  .ite (oblivious_stage _ _) (oblivious_pure _)

theorem oblivious_setInt (value : Int32) :
    Oblivious (setInt key value : Writer SettingKey SettingValue E Unit) :=
  .ite (oblivious_stage _ _) (oblivious_pure _)

theorem oblivious_setBool (value : Bool) :
    Oblivious (setBool key value : Writer SettingKey SettingValue E Unit) :=
  .ite (oblivious_stage _ _) (oblivious_pure _)

theorem setStr_ok {value : Text} {u : Unit} (kind : key.kind = .str) :
    (setStr key value : Writer SettingKey SettingValue E Unit) d = .ok u e ↔
      e = d.set key (.str value) := by
  rw [setStr, if_pos kind, stage_apply]
  simp [eq_comm]

theorem setInt_ok {value : Int32} {u : Unit} (kind : key.kind = .int) :
    (setInt key value : Writer SettingKey SettingValue E Unit) d = .ok u e ↔
      e = d.set key (.int value) := by
  rw [setInt, if_pos kind, stage_apply]
  simp [eq_comm]

theorem setBool_ok {value : Bool} {u : Unit} (kind : key.kind = .bool) :
    (setBool key value : Writer SettingKey SettingValue E Unit) d = .ok u e ↔
      e = d.set key (.bool value) := by
  rw [setBool, if_pos kind, stage_apply]
  simp [eq_comm]

/-- The default of a setting, as `set_default` stages it. -/
def defaultValue (lt : Libtorrent) (key : SettingKey) : SettingValue :=
  match key.kind with
  | .str => .str ((lt.defaults.getStr key).getD [])
  | .int => .int ((lt.defaults.getInt key).getD 0)
  | .bool => .bool ((lt.defaults.getBool key).getD false)

theorem setDefault_eq (lt : Libtorrent) (key : SettingKey) :
    (setDefault lt key : Writer SettingKey SettingValue E Unit) =
      stage key (defaultValue lt key) := by
  unfold setDefault defaultValue
  cases kind : key.kind with
  | str => rw [setStr, if_pos kind]
  | int => rw [setInt, if_pos kind]
  | bool => rw [setBool, if_pos kind]

theorem oblivious_setDefault (lt : Libtorrent) :
    Oblivious (setDefault lt key : Writer SettingKey SettingValue E Unit) := by
  rw [setDefault_eq]
  exact oblivious_stage _ _

end Lemmas

end Lt

end Rsbtd.Settings
