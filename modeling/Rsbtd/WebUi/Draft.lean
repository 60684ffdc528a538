import Rsbtd.Json.Value
import Rsbtd.Keyed.Store

/-!
# The settings draft

`draft.ts` and the apply bar of `SettingsPage.tsx`: the snapshot the daemon last gave, the
edits on top of it, and the delta that is being applied.  A snapshot, a draft and a delta
hold a value under the name of a field; what the loops of the source do to the fields one
by one is written here for any field.
-/

namespace Rsbtd.WebUi

open Json (JsonValue Shape)

variable {ν : Type}

mutual

/-- Deep-copy dropping GraphQL's `__typename` keys. -/
def stripTypename : JsonValue ν → JsonValue ν
  | .list elements => .list (stripElements elements)
  | .object fields => .object (stripFields fields)
  | value => value

def stripElements : List (JsonValue ν) → List (JsonValue ν)
  | [] => []
  | value :: rest => stripTypename value :: stripElements rest

def stripFields : List (String × JsonValue ν) → List (String × JsonValue ν)
  | [] => []
  | (key, value) :: rest =>
    if key = "__typename" then stripFields rest
    else (key, stripTypename value) :: stripFields rest

end

/-- `b[key]`; `none` stands for `undefined`.  An array has its indices for keys.  What every
object or array has besides, such as a `length`, is not looked at. -/
def property : JsonValue ν → String → Option (JsonValue ν)
  | .object fields, key => fields.lookup key
  | .list elements, key => (elements.zipIdx.find? fun p => toString p.2 = key).map (·.1)
  | _, _ => none

section Equal

variable [DecidableEq ν]

mutual

/-- Numbers are told apart as by `Object.is`.  The source takes one object to equal itself
without looking inside, which is what looking inside gives. -/
def deepEqual : JsonValue ν → JsonValue ν → Bool
  | .null, .null => true
  | .bool a, .bool b => a = b
  | .number a, .number b => a = b
  | .string a, .string b => a = b
  | .list as, .list bs => as.length = bs.length && everyElement as bs
  | .list as, .object bs => as.length = bs.length && everyIndex as 0 (.object bs)
  | .object as, .list bs => as.length = bs.length && everyKey as (.list bs)
  | .object as, .object bs => as.length = bs.length && everyKey as (.object bs)
  | _, _ => false
termination_by structural a => a

def everyElement : List (JsonValue ν) → List (JsonValue ν) → Bool
  | [], _ => true
  | _ :: _, [] => false
  | a :: as, b :: bs => deepEqual a b && everyElement as bs
termination_by structural as => as

def everyIndex : List (JsonValue ν) → Nat → JsonValue ν → Bool
  | [], _, _ => true
  | a :: as, i, b => (property b (toString i)).any (deepEqual a ·) && everyIndex as (i + 1) b
termination_by structural as => as

def everyKey : List (String × JsonValue ν) → JsonValue ν → Bool
  | [], _ => true
  | (key, a) :: as, b => (property b key).any (deepEqual a ·) && everyKey as b
termination_by structural as => as

end

/-- `deepEqual` where either may be `undefined`. -/
def deepEqualDefined : Option (JsonValue ν) → Option (JsonValue ν) → Bool
  | some a, some b => deepEqual a b
  | none, none => true
  | _, _ => false

end Equal

abbrev Record (ν : Type) := Keyed.Store String (JsonValue ν)

/-- The settings there are: `SETTINGS_CATALOG` with the shape of each, and
`NULLABLE_DISABLE_GROUPS`. -/
structure SettingsCatalog where
  has : String → Bool
  nullable : String → Bool
  shape : String → Shape

/-- What the user does to the draft. -/
inductive DraftEdit (ν : Type) where
  | setField (name : String) (value : JsonValue ν)
  | clearField (name : String)
  | reset

namespace DraftEdit

def apply (draft : Record ν) : DraftEdit ν → Record ν
  | setField name value => draft.set name value
  | clearField name => fun other => if other = name then none else draft other
  | reset => .empty

/-- What the draft has under the name is replaced or dropped. -/
def touches (name : String) : DraftEdit ν → Prop
  | setField other _ | clearField other => other = name
  | reset => True

end DraftEdit

section Delta

variable [DecidableEq ν] (catalog : SettingsCatalog)

def pruneApplied (draft applied : Record ν) : Record ν := fun name =>
  match draft name, applied name with
  | some value, some submitted => if deepEqual value submitted then none else some value
  | entry, _ => entry

/-- Effective (draft-over-snapshot) value of a field, typename-free. -/
def effectiveValue (snapshot draft : Record ν) (name : String) : Option (JsonValue ν) :=
  match draft name with
  | some value => some value
  | none => (snapshot name).map stripTypename

def isNull : JsonValue ν → Bool
  | .null => true
  | _ => false

def buildDelta (snapshot draft : Record ν) : Record ν := fun name =>
  match draft name with
  | none => none
  | some value =>
    if catalog.has name = false then none
    else if isNull value && !catalog.nullable name then none
    else if deepEqualDefined (some value) ((snapshot name).map stripTypename) then none
    else some value

/-- An apply on its way.  `since` are the edits made after it was submitted, which nothing
reads. -/
structure PendingApply (ν : Type) where
  delta : Record ν
  since : List (DraftEdit ν)

structure SettingsPage (ν : Type) where
  snapshot : Record ν
  draft : Record ν
  applying : Option (PendingApply ν)

namespace SettingsPage

/-- The page with the settings the daemon has. -/
def opened (snapshot : Record ν) : SettingsPage ν := ⟨snapshot, .empty, none⟩

inductive Action (ν : Type) where
  | edit (edit : DraftEdit ν)
  | submit
  | succeed (applySettings : Record ν)
  | fail

/-- The button is disabled while an apply is on its way. -/
def step (s : SettingsPage ν) : Action ν → Option (SettingsPage ν)
  | .edit edit => some
    { s with
      draft := edit.apply s.draft
      applying := s.applying.map fun pending => { pending with since := pending.since ++ [edit] } }
  | .submit =>
    if s.applying.isSome then none
    else some { s with applying := some ⟨buildDelta catalog s.snapshot s.draft, []⟩ }
  | .succeed applySettings =>
    match s.applying with
    | none => none
    | some pending => some ⟨applySettings, pruneApplied s.draft pending.delta, none⟩
  | .fail =>
    match s.applying with
    | none => none
    | some _ => some { s with applying := none }

end SettingsPage

end Delta

end Rsbtd.WebUi
