import Mathlib.Data.List.Perm.Subperm

/-!
# JSON values

A `JsonValue` is a JSON value; `ν` are its numbers.  An object keeps the order its fields were
written in, which no lookup sees: two values are the `Same` if every path through the one
leads to the same in the other.  A `Shape` says what a value may look like.
-/

namespace Rsbtd.Json

inductive JsonValue (ν : Type) where
  | null
  | bool (value : Bool)
  | number (value : ν)
  | string (value : String)
  | list (elements : List (JsonValue ν))
  | object (fields : List (String × JsonValue ν))

/-- What is at a place of a value, but for what is inside. -/
inductive Root (ν : Type) where
  | null
  | bool (value : Bool)
  | number (value : ν)
  | string (value : String)
  | list (length : Nat)
  | object

inductive Step where
  | index (i : Nat)
  | field (name : String)

/-- A scalar, a list of one shape, or an object of fixed keys; each may be null. -/
inductive Shape where
  | scalar
  | list (element : Shape)
  | object (keys : List String) (field : String → Shape)

variable {ν : Type}

namespace JsonValue

def root : JsonValue ν → Root ν
  | null => .null
  | bool value => .bool value
  | number value => .number value
  | string value => .string value
  | list elements => .list elements.length
  | object _ => .object

def child : JsonValue ν → Step → Option (JsonValue ν)
  | list elements, .index i => elements[i]?
  | object fields, .field name => fields.lookup name
  | _, _ => none

def find : JsonValue ν → List Step → Option (JsonValue ν)
  | value, [] => some value
  | value, step :: path => (value.child step).bind (find · path)

/-- No path tells the two apart. -/
def Same (a b : JsonValue ν) : Prop := ∀ path, (a.find path).map root = (b.find path).map root

end JsonValue

mutual

def JsonValue.Conforms : JsonValue ν → Shape → Prop
  | .null, _ => True
  | .list elements, .list element => ElementsConform elements element
  | .object fields, .object keys field =>
    (fields.map Prod.fst).Nodup ∧ (∀ name, name ∈ fields.map Prod.fst ↔ name ∈ keys) ∧
      FieldsConform fields field
  | .bool _, .scalar | .number _, .scalar | .string _, .scalar => True
  | _, _ => False

def ElementsConform : List (JsonValue ν) → Shape → Prop
  | [], _ => True
  | value :: rest, element => value.Conforms element ∧ ElementsConform rest element

def FieldsConform : List (String × JsonValue ν) → (String → Shape) → Prop
  | [], _ => True
  | (name, value) :: rest, field => value.Conforms (field name) ∧ FieldsConform rest field

end

/-! ### Induction -/

/-- The cases of an induction on a value, with what holds of all that is inside. -/
@[elab_as_elim, induction_eliminator]
theorem JsonValue.inductInside {motive : JsonValue ν → Prop} (null : motive .null)
    (bool : ∀ value, motive (.bool value)) (number : ∀ value, motive (.number value))
    (string : ∀ value, motive (.string value))
    (list : ∀ elements, (∀ value ∈ elements, motive value) → motive (.list elements))
    (object : ∀ fields, (∀ field ∈ fields, motive field.2) → motive (.object fields))
    (value : JsonValue ν) : motive value := by
  refine @JsonValue.rec ν motive (fun elements => ∀ value ∈ elements, motive value)
    (fun fields => ∀ field ∈ fields, motive field.2) (fun field => motive field.2)
    null bool number string list object ?_ ?_ ?_ ?_ ?_ value
  · simp
  · intro value rest first others
    exact List.forall_mem_cons.mpr ⟨first, others⟩
  · simp
  · intro field rest first others
    exact List.forall_mem_cons.mpr ⟨first, others⟩
  · intro name value holds
    exact holds

theorem elementsConform_iff {elements : List (JsonValue ν)} {element : Shape} :
    ElementsConform elements element ↔ ∀ value ∈ elements, value.Conforms element := by
  induction elements with
  | nil => simp [ElementsConform]
  | cons value rest ih => rw [ElementsConform, ih, List.forall_mem_cons]

theorem fieldsConform_iff {fields : List (String × JsonValue ν)} {field : String → Shape} :
    FieldsConform fields field ↔ ∀ p ∈ fields, p.2.Conforms (field p.1) := by
  induction fields with
  | nil => simp [FieldsConform]
  | cons first rest ih =>
    obtain ⟨name, value⟩ := first
    rw [FieldsConform, ih, List.forall_mem_cons]

/-! ### Paths -/

namespace JsonValue

variable {a b c : JsonValue ν}

@[simp] theorem find_nil : a.find [] = some a := rfl

theorem find_cons {step : Step} {path : List Step} :
    a.find (step :: path) = (a.child step).bind (find · path) := rfl

theorem Same.refl (a : JsonValue ν) : Same a a := fun _ => rfl

theorem Same.root_eq (same : Same a b) : a.root = b.root := by
  simpa using same []

/-- Values are the same if they look the same and have the same at each place. -/
theorem same_iff : Same a b ↔
    a.root = b.root ∧ ∀ step, Option.Rel Same (a.child step) (b.child step) := by
  constructor
  · intro same
    refine ⟨same.root_eq, ?_⟩
    intro step
    have below : ∀ path, ((a.child step).bind (find · path)).map root =
        ((b.child step).bind (find · path)).map root := fun path => same (step :: path)
    cases left : a.child step with
    | none =>
      cases right : b.child step with
      | none => exact .none
      | some w => simpa [left, right] using below []
    | some v =>
      cases right : b.child step with
      | none => simpa [left, right] using below []
      | some w =>
        apply Option.Rel.some
        intro path
        simpa [left, right] using below path
  · rintro ⟨looks, inside⟩ path
    cases path with
    | nil => simp [looks]
    | cons step path =>
      have below := inside step
      rw [find_cons, find_cons]
      revert below
      generalize a.child step = left
      generalize b.child step = right
      intro below
      cases below with
      | none => rfl
      | some same => exact same path

end JsonValue

end Rsbtd.Json
