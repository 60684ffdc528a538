import Rsbtd.Ctl.Names
import Rsbtd.Json.Value

/-!
# Values on the command line

`rsbtctl` reads the types of the settings from the introspection of the daemon's schema,
which is JSON itself, and coerces a JSON value by them: keys may be in snake_case, and
members of enumerations in any case.
-/

namespace Rsbtd.Ctl

open Json

variable {ν : Type}

/-! ## JSON -/

/-- `value[key]`: null where there is nothing. -/
def index (value : JsonValue ν) (key : String) : JsonValue ν :=
  (value.child (.field key)).getD .null

def as_str : JsonValue ν → Option String
  | .string s => some s
  | _ => none

def as_array : JsonValue ν → Option (List (JsonValue ν))
  | .list elements => some elements
  | _ => none

def is_null : JsonValue ν → Bool
  | .null => true
  | _ => false

/-- Inserts into an object: the place of a key that exists stays. -/
def insertKey (key : String) (value : JsonValue ν) (fields : List (String × JsonValue ν)) :
    List (String × JsonValue ν) :=
  if key ∈ fields.map Prod.fst then
    fields.map fun field => if field.1 = key then (key, value) else field
  else
    fields ++ [(key, value)]

def eq_ignore_ascii_case (a b : String) : Bool :=
  a.toList.map Char.toLower == b.toList.map Char.toLower

/-! ## The schema -/

structure Schema (ν : Type) where
  /-- The types by their names. -/
  types : String → Option (JsonValue ν)

/-- Of types with one name the last. -/
def Schema.from_introspection (data : JsonValue ν) : Option (Schema ν) :=
  (as_array (index (index data "__schema") "types")).map fun types =>
    { types := fun name => types.reverse.find? fun t => as_str (index t "name") == some name }

def fields_of (ty : JsonValue ν) (key : String) : Option (List (String × JsonValue ν)) :=
  (as_array (index ty key)).map fun fields =>
    fields.filterMap fun f => (as_str (index f "name")).map fun name => (name, index f "type")

/-- The kind of a type reference. -/
def kind (t : JsonValue ν) : String := (as_str (index t "kind")).getD ""

def refName (t : JsonValue ν) : String := (as_str (index t "name")).getD ""

mutual

/-- The loop that strips NON_NULL. -/
def stripNonNull : JsonValue ν → JsonValue ν
  | .object fields =>
    if kind (.object fields) = "NON_NULL" then stripOfType fields else .object fields
  | t => t
termination_by structural t => t

def stripOfType : List (String × JsonValue ν) → JsonValue ν
  | [] => .null
  | (key, t) :: rest => if key = "ofType" then stripNonNull t else stripOfType rest
termination_by structural fields => fields

end

namespace Schema

variable (schema : Schema ν)

def ty (name : String) : Except String (JsonValue ν) :=
  match schema.types name with
  | some t => .ok t
  | none => .error ("daemon schema has no type " ++ name)

/-- The fields of an input object type, with their types. -/
def input_fields (type_name : String) : Except String (List (String × JsonValue ν)) :=
  match schema.ty type_name with
  | .error e => .error e
  | .ok t =>
    match fields_of t "inputFields" with
    | some fields => .ok fields
    | none => .error ("daemon type " ++ type_name ++ " has no input fields")

/-- The members of an enumeration. -/
def enum_values (type_name : String) : Except String (List String) :=
  match schema.ty type_name with
  | .error e => .error e
  | .ok t =>
    .ok (((as_array (index t "enumValues")).map fun values =>
      values.filterMap fun v => as_str (index v "name")).getD [])

def coerce_enum (type_name raw : String) : Except String (JsonValue ν) :=
  match schema.enum_values type_name with
  | .error e => .error e
  | .ok values =>
    match values.find? fun v => eq_ignore_ascii_case v raw with
    | some v => .ok (.string v)
    | none => .error ("expects one of " ++ ", ".intercalate values ++ ", got " ++ raw)

-- `display` is how a value is formatted in an error
variable (casing : Casing) (display : JsonValue ν → String)

mutual

def coerce_json (type_ref value : JsonValue ν) : Except String (JsonValue ν) :=
  if is_null value then
    .ok value
  else if kind (stripNonNull type_ref) = "LIST" then
    match value with
    | .list items =>
      match coerceItems (index (stripNonNull type_ref) "ofType") items with
      | .error e => .error e
      | .ok items => .ok (.list items)
    | _ => .error ("expects a JSON array, got " ++ display value)
  else if kind (stripNonNull type_ref) = "ENUM" then
    match value with
    | .string raw => schema.coerce_enum (refName (stripNonNull type_ref)) raw
    | _ =>
      .error ("expects a " ++ refName (stripNonNull type_ref) ++ " name, got " ++ display value)
  else if kind (stripNonNull type_ref) = "INPUT_OBJECT" then
    match value with
    | .object members =>
      match schema.input_fields (refName (stripNonNull type_ref)) with
      | .error e => .error e
      | .ok fields =>
        match coerceMembers fields (refName (stripNonNull type_ref)) [] members with
        | .error e => .error e
        | .ok out => .ok (.object out)
    | _ => .error ("expects a JSON object, got " ++ display value)
  else
    .ok value
termination_by structural value

/-- The items of a list, up to the first that is not accepted. -/
def coerceItems (type_ref : JsonValue ν) :
    List (JsonValue ν) → Except String (List (JsonValue ν))
  | [] => .ok []
  | item :: rest =>
    match coerce_json type_ref item with
    | .error e => .error e
    | .ok item =>
      match coerceItems type_ref rest with
      | .error e => .error e
      | .ok rest => .ok (item :: rest)
termination_by structural items => items

/-- The loop over the members of an object; `out` are the ones inserted. -/
def coerceMembers (fields : List (String × JsonValue ν)) (name : String)
    (out : List (String × JsonValue ν)) :
    List (String × JsonValue ν) → Except String (List (String × JsonValue ν))
  | [] => .ok out
  | (key, member) :: rest =>
    match fields.find? fun f => f.1 == to_camel casing key with
    | none => .error ("unknown field " ++ key ++ " in " ++ name)
    | some field =>
      match coerce_json field.2 member with
      | .error e => .error (key ++ ": " ++ e)
      | .ok member =>
        coerceMembers fields name (insertKey (to_camel casing key) member out) rest
termination_by structural members => members

end

end Schema

end Rsbtd.Ctl
