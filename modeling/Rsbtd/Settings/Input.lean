import Rsbtd.Settings.Groups

/-!
# Fields of the public surface

An input field distinguishes an omitted field from an explicit null.  The
helpers shared by the scalar and the structured settings are here, with the
texts of their errors.
-/

namespace Rsbtd.Settings

open Rsbtd.Keyed

/-- Why a settings write or read was refused. -/
structure SettingsError where
  message : Message
  deriving DecidableEq

abbrev Write := Writer SettingKey SettingValue SettingsError Unit

inductive MaybeUndefined (α : Type)
  | undefined
  | null
  | value (a : α)
  deriving DecidableEq

def missing (name : String) : SettingsError := ⟨name ++ ": effective value unavailable"⟩

def orMissing {α : Type} (name : String) : Option α → Except SettingsError α
  | some a => .ok a
  | none => .error (missing name)

def camelChars (upper : Bool) : List Char → List Char
  | [] => []
  | c :: rest =>
    if c = '_' then camelChars true rest
    else if upper = true then c.toUpper :: camelChars false rest
    else c :: camelChars false rest

/-- The name of a field in the schema. -/
def camel (name : String) : String := String.ofList (camelChars false name.toList)

example : camel "i2p_inbound_length" = "i2pInboundLength" := by decide

/-- Unwraps a field that does not accept null. -/
def defined {α : Type} (value : MaybeUndefined α) (field : String) :
    Except SettingsError (Option α) :=
  match value with
  | .undefined => .ok none
  | .null =>
    .error ⟨camel field ++ ": null is not a valid value; omit the field to leave it unchanged"⟩
  | .value v => .ok (some v)

/-- A change to one of the nullable groups. -/
inductive Nullable (α : Type)
  | unchanged
  | disable
  | set (a : α)

def nullable {α : Type} : MaybeUndefined α → Nullable α
  | .undefined => .unchanged
  | .null => .disable
  | .value v => .set v

/-- Maps the rejection of a typed setter onto the field. -/
def rbErr (field : String) (setter : Lt.Setter) : Write :=
  EStateM.adaptExcept (fun e => ⟨camel field ++ ": " ++ e.message⟩) setter

/-- Writes a field that does not accept null. -/
def whenDefined {α : Type} (value : MaybeUndefined α) (field : String) (set : α → Write) : Write := do
  match ← check (defined value field) with
  | none => pure ()
  | some v => set v

/-- Saturating narrowing, for values that were not written through the typed setters. -/
def satU16 (value : Int32) : UInt16 := UInt16.ofNat (min (max value.toInt 0) 65535).toNat

def satU8 (value : Int32) : UInt8 := UInt8.ofNat (min (max value.toInt 0) 255).toNat

section Lemmas

variable {α : Type} {value : MaybeUndefined α} {field : String} {set : α → Write} {a : α}
  {d e : SettingsPack}

@[simp] theorem whenDefined_undefined : whenDefined .undefined field set = pure () := rfl

@[simp] theorem whenDefined_value : whenDefined (.value a) field set = set a := rfl

theorem whenDefined_null_ne_ok : whenDefined .null field set d ≠ .ok () e := by
  intro accepted
  cases accepted

theorem oblivious_whenDefined (oblivious : ∀ a, Oblivious (set a)) :
    Oblivious (whenDefined value field set) := by
  apply (oblivious_check _).bind
  intro defined
  cases defined with
  | none => exact oblivious_pure ()
  | some a => exact oblivious a

theorem oblivious_rbErr {setter : Lt.Setter} (oblivious : Oblivious setter) :
    Oblivious (rbErr field setter) :=
  oblivious.adapt

theorem rbErr_ok {setter : Lt.Setter} : rbErr field setter d = .ok () e ↔ setter d = .ok () e := by
  simp only [rbErr, EStateM.adaptExcept]
  cases setter d with
  | ok a t => simp
  | error failure t => simp

@[simp] theorem orMissing_ok {α : Type} {name : String} {read : Option α} {a : α} :
    orMissing name read = .ok a ↔ read = some a := by
  cases read with
  | none => simp [orMissing]
  | some b => simp [orMissing]

theorem satU16_i32OfU16 (port : UInt16) : satU16 (i32OfU16 port) = port := by
  have small : port.toNat < 65536 := port.toNat_lt
  have exact_ : (i32OfU16 port).toInt = port.toNat :=
    Int32.toInt_ofInt_of_le (by omega) (by omega)
  have kept : min (max (port.toNat : Int) 0) 65535 = port.toNat := by omega
  rw [satU16, exact_, kept]
  simp

theorem satU8_i32OfU8 (boost : UInt8) : satU8 (i32OfU8 boost) = boost := by
  have small : boost.toNat < 256 := boost.toNat_lt
  have exact_ : (i32OfU8 boost).toInt = boost.toNat :=
    Int32.toInt_ofInt_of_le (by omega) (by omega)
  have kept : min (max (boost.toNat : Int) 0) 255 = boost.toNat := by omega
  rw [satU8, exact_, kept]
  simp

end Lemmas

end Rsbtd.Settings
