import Rsbtd.Ctl.Coerce
import Rsbtd.Verified.SettingNames

/-!
# What a value is coerced to

`Coerced` says what an accepted value becomes, by the type alone: names are respelled and
nothing else changes, except that of the keys that name one field only the last is kept.
A value that `Conforms` to the type is accepted and stays as it is; so does every output.
-/

namespace Rsbtd.Ctl

open Json

variable {ν : Type} {casing : Casing} {display : JsonValue ν → String} {schema : Schema ν}

/-! ## Type references -/

theorem stripOfType_eq (fields : List (String × JsonValue ν)) :
    stripOfType fields = stripNonNull (index (.object fields) "ofType") := by
  induction fields with
  | nil => rfl
  | cons field rest ih =>
    obtain ⟨key, inner⟩ := field
    rw [stripOfType]
    by_cases here : key = "ofType"
    · subst here
      rw [if_pos rfl]
      rfl
    · have other : ("ofType" == key) = false := beq_eq_false_iff_ne.mpr (Ne.symm here)
      rw [if_neg here, ih, index, index, JsonValue.child, JsonValue.child, List.lookup_cons, other]

theorem stripNonNull_eq (t : JsonValue ν) :
    stripNonNull t = if kind t = "NON_NULL" then stripNonNull (index t "ofType") else t := by
  cases t with
  | object fields => rw [stripNonNull, stripOfType_eq]
  | _ => rfl

/-- An induction on a type reference, one NON_NULL after the other. -/
theorem stripNonNull_induct {motive : JsonValue ν → Prop}
    (wrapped : ∀ t, kind t = "NON_NULL" → motive (index t "ofType") → motive t)
    (bare : ∀ t, kind t ≠ "NON_NULL" → motive t) (t : JsonValue ν) : motive t := by
  have other : "" ≠ "NON_NULL" := by decide
  induction t with
  | object fields ih =>
    by_cases nonNull : kind (.object fields) = "NON_NULL"
    · apply wrapped _ nonNull
      rw [index, JsonValue.child]
      cases found : fields.lookup "ofType" with
      | none => exact bare .null other
      | some inner =>
        obtain ⟨before, after, split, -⟩ := List.lookup_eq_some_iff.mp found
        have listed : ("ofType", inner) ∈ fields := by simp [split]
        exact ih _ listed
    · exact bare _ nonNull
  | null => exact bare .null other
  | bool b => exact bare (.bool b) other
  | number n => exact bare (.number n) other
  | string s => exact bare (.string s) other
  | list elements _ => exact bare (.list elements) other

section

variable {t value : JsonValue ν}

/-- What is coerced by a type is coerced by the type without its NON_NULLs. -/
theorem coerce_json_nonNull (nonNull : kind t = "NON_NULL") :
    schema.coerce_json casing display t value =
      schema.coerce_json casing display (index t "ofType") value := by
  have stripped : stripNonNull t = stripNonNull (index t "ofType") := by
    rw [stripNonNull_eq, if_pos nonNull]
  unfold Schema.coerce_json
  rw [stripped]

end

/-! ## What an accepted value becomes -/

/-- A member of an object: what it is called before and after, its type, and its values. -/
structure Respelling (ν : Type) where
  key : String
  field : String
  type : JsonValue ν
  value : JsonValue ν
  out : JsonValue ν

/-- The last of the entries with the key. -/
def LastOf (entries : List (String × JsonValue ν)) (key : String) (value : JsonValue ν) : Prop :=
  ∃ before after, entries = before ++ (key, value) :: after ∧ key ∉ after.map Prod.fst

inductive Coerced (schema : Schema ν) (casing : Casing) :
    JsonValue ν → JsonValue ν → JsonValue ν → Prop where
  | null {t} : Coerced schema casing t .null .null
  | nonNull {t value out} : kind t = "NON_NULL" →
      Coerced schema casing (index t "ofType") value out → Coerced schema casing t value out
  /-- The items in their order. -/
  | list {t} (items : List (JsonValue ν × JsonValue ν)) : kind t = "LIST" →
      (∀ item ∈ items, Coerced schema casing (index t "ofType") item.1 item.2) →
      Coerced schema casing t (.list (items.map Prod.fst)) (.list (items.map Prod.snd))
  | enum {t raw member members} : kind t = "ENUM" →
      schema.enum_values (refName t) = .ok members → member ∈ members →
      eq_ignore_ascii_case member raw = true →
      Coerced schema casing t (.string raw) (.string member)
  /-- The members under the names of their fields, of those with one name the last. -/
  | object {t fields out} (members : List (Respelling ν)) : kind t = "INPUT_OBJECT" →
      schema.input_fields (refName t) = .ok fields →
      (∀ m ∈ members, m.field = to_camel casing m.key) →
      (∀ m ∈ members, fields.find? (fun f => f.1 == m.field) = some (m.field, m.type)) →
      (∀ m ∈ members, Coerced schema casing m.type m.value m.out) →
      (out.map Prod.fst).Nodup →
      (∀ key value, (key, value) ∈ out ↔
        LastOf (members.map fun m => (m.field, m.out)) key value) →
      Coerced schema casing t (.object (members.map fun m => (m.key, m.value))) (.object out)
  | scalar {t value} : kind t ≠ "NON_NULL" → kind t ≠ "LIST" → kind t ≠ "ENUM" →
      kind t ≠ "INPUT_OBJECT" → Coerced schema casing t value value

/-- The type of the field with the name. -/
def fieldType (fields : List (String × JsonValue ν)) (name : String) : JsonValue ν :=
  ((fields.find? fun f => f.1 == name).map Prod.snd).getD .null

/-- The value has the type; of the keys of its objects all are `allowed`. -/
inductive Conforms (schema : Schema ν) (allowed : String → Prop) :
    JsonValue ν → JsonValue ν → Prop where
  | null {t} : Conforms schema allowed t .null
  | nonNull {t value} : kind t = "NON_NULL" →
      Conforms schema allowed (index t "ofType") value → Conforms schema allowed t value
  | list {t items} : kind t = "LIST" →
      (∀ item ∈ items, Conforms schema allowed (index t "ofType") item) →
      Conforms schema allowed t (.list items)
  | enum {t member members} : kind t = "ENUM" →
      schema.enum_values (refName t) = .ok members → member ∈ members →
      Conforms schema allowed t (.string member)
  | object {t fields members} : kind t = "INPUT_OBJECT" →
      schema.input_fields (refName t) = .ok fields → (members.map Prod.fst).Nodup →
      (∀ m ∈ members, allowed m.1) → (∀ m ∈ members, m.1 ∈ fields.map Prod.fst) →
      (∀ m ∈ members, Conforms schema allowed (fieldType fields m.1) m.2) →
      Conforms schema allowed t (.object members)
  | scalar {t value} : kind t ≠ "NON_NULL" → kind t ≠ "LIST" → kind t ≠ "ENUM" →
      kind t ≠ "INPUT_OBJECT" → Conforms schema allowed t value

variable {t value out : JsonValue ν}

/-! ## Objects -/

theorem map_fst_insertKey {key : String} {fields : List (String × JsonValue ν)} :
    (insertKey key value fields).map Prod.fst =
      if key ∈ fields.map Prod.fst then fields.map Prod.fst
      else fields.map Prod.fst ++ [key] := by
  rw [insertKey]
  split
  · rw [List.map_map]
    apply List.map_congr_left
    intro field _
    by_cases same : field.1 = key
    · simp [same]
    · simp [same]
  · rw [List.map_append, List.map_singleton]

theorem nodup_insertKey {key : String} {fields : List (String × JsonValue ν)}
    (nodup : (fields.map Prod.fst).Nodup) : ((insertKey key value fields).map Prod.fst).Nodup := by
  rw [map_fst_insertKey]
  split
  · exact nodup
  · rename_i absent
    exact List.nodup_append.mpr ⟨nodup, List.nodup_singleton key,
      fun a inside b single => by
        rw [List.mem_singleton.mp single]
        rintro rfl
        exact absent inside⟩

theorem mem_insertKey {key : String} {fields : List (String × JsonValue ν)}
    {field : String × JsonValue ν} :
    field ∈ insertKey key value fields ↔
      field = (key, value) ∨ (field.1 ≠ key ∧ field ∈ fields) := by
  rw [insertKey]
  split
  · rename_i present
    rw [List.mem_map]
    constructor
    · rintro ⟨old, listed, rfl⟩
      by_cases same : old.1 = key
      · exact Or.inl (if_pos same)
      · rw [if_neg same]
        exact Or.inr ⟨same, listed⟩
    · rintro (rfl | ⟨other, listed⟩)
      · obtain ⟨old, listed, named⟩ := List.mem_map.mp present
        exact ⟨old, listed, if_pos named⟩
      · exact ⟨field, listed, if_neg other⟩
  · rename_i absent
    rw [List.mem_append, List.mem_singleton]
    constructor
    · rintro (listed | rfl)
      · refine Or.inr ⟨?_, listed⟩
        rintro rfl
        exact absent (List.mem_map_of_mem listed)
      · exact Or.inl rfl
    · rintro (rfl | ⟨-, listed⟩)
      · exact Or.inr rfl
      · exact Or.inl listed

/-- The entries inserted in their order. -/
def collect (entries : List (String × JsonValue ν)) : List (String × JsonValue ν) :=
  entries.foldl (fun out entry => insertKey entry.1 entry.2 out) []

theorem collect_concat (entries : List (String × JsonValue ν)) (entry : String × JsonValue ν) :
    collect (entries ++ [entry]) = insertKey entry.1 entry.2 (collect entries) := by
  rw [collect, List.foldl_append]
  rfl

theorem nodup_collect (entries : List (String × JsonValue ν)) :
    ((collect entries).map Prod.fst).Nodup := by
  induction entries using List.reverseRecOn with
  | nil => exact List.nodup_nil
  | append_singleton entries entry ih =>
    rw [collect_concat]
    exact nodup_insertKey ih

theorem lastOf_concat {entries : List (String × JsonValue ν)} {entry : String × JsonValue ν}
    {key : String} :
    LastOf (entries ++ [entry]) key value ↔
      (key, value) = entry ∨ (key ≠ entry.1 ∧ LastOf entries key value) := by
  constructor
  · rintro ⟨before, after, split, absent⟩
    obtain rfl | ⟨after, last, rfl⟩ := after.eq_nil_or_concat
    · obtain ⟨-, same⟩ := List.append_inj' split rfl
      exact Or.inl (List.singleton_inj.mp same).symm
    · rw [List.concat_eq_append, ← List.cons_append, ← List.append_assoc] at split
      rw [List.concat_eq_append] at absent
      obtain ⟨init, same⟩ := List.append_inj' split rfl
      obtain rfl := List.singleton_inj.mp same
      rw [List.map_append, List.mem_append, not_or] at absent
      refine Or.inr ⟨fun same => absent.2 (by simp [same]), before, after, init, absent.1⟩
  · rintro (rfl | ⟨other, before, after, rfl, absent⟩)
    · exact ⟨entries, [], rfl, List.not_mem_nil⟩
    · refine ⟨before, after ++ [entry], by simp, ?_⟩
      rw [List.map_append, List.mem_append, not_or]
      exact ⟨absent, by simpa using other⟩

theorem mem_collect {entries : List (String × JsonValue ν)} {key : String} :
    (key, value) ∈ collect entries ↔ LastOf entries key value := by
  induction entries using List.reverseRecOn with
  | nil =>
    constructor
    · intro none_
      cases none_
    · rintro ⟨before, after, split, -⟩
      cases before with
      | nil => cases split
      | cons first rest => cases split
  | append_singleton entries entry ih => rw [collect_concat, mem_insertKey, lastOf_concat, ih]

/-! ## Accepted values -/

theorem coerceItems_eq_ok {items outs : List (JsonValue ν)}
    (accepted : schema.coerceItems casing display t items = .ok outs) :
    ∃ pairs : List (JsonValue ν × JsonValue ν), items = pairs.map Prod.fst ∧
      outs = pairs.map Prod.snd ∧
      ∀ pair ∈ pairs, schema.coerce_json casing display t pair.1 = .ok pair.2 := by
  induction items generalizing outs with
  | nil =>
    obtain rfl := Except.ok.inj accepted
    exact ⟨[], rfl, rfl, fun pair none_ => by cases none_⟩
  | cons item rest ih =>
    rw [Schema.coerceItems] at accepted
    cases first : schema.coerce_json casing display t item with
    | error e =>
      rw [first] at accepted
      cases accepted
    | ok out =>
      cases others : schema.coerceItems casing display t rest with
      | error e =>
        rw [first, others] at accepted
        cases accepted
      | ok more =>
        rw [first, others] at accepted
        obtain rfl := Except.ok.inj accepted
        obtain ⟨pairs, rfl, rfl, each⟩ := ih others
        exact ⟨(item, out) :: pairs, rfl, rfl, List.forall_mem_cons.mpr ⟨first, each⟩⟩

theorem coerceMembers_eq_ok {fields members inserted outs : List (String × JsonValue ν)}
    {name : String}
    (accepted : schema.coerceMembers casing display fields name inserted members = .ok outs) :
    ∃ steps : List (Respelling ν), members = (steps.map fun m => (m.key, m.value)) ∧
      outs = (steps.map fun m => (m.field, m.out)).foldl
        (fun out entry => insertKey entry.1 entry.2 out) inserted ∧
      (∀ m ∈ steps, m.field = to_camel casing m.key) ∧
      (∀ m ∈ steps, fields.find? (fun f => f.1 == m.field) = some (m.field, m.type)) ∧
      ∀ m ∈ steps, schema.coerce_json casing display m.type m.value = .ok m.out := by
  induction members generalizing inserted with
  | nil =>
    rw [Schema.coerceMembers] at accepted
    obtain rfl := Except.ok.inj accepted
    exact ⟨[], rfl, rfl, by simp, by simp, by simp⟩
  | cons member rest ih =>
    obtain ⟨key, value⟩ := member
    rw [Schema.coerceMembers] at accepted
    cases search : fields.find? fun f => f.1 == to_camel casing key with
    | none =>
      rw [search] at accepted
      cases accepted
    | some field =>
      rw [search] at accepted
      cases inner : schema.coerce_json casing display field.2 value with
      | error e =>
        simp only [inner] at accepted
        cases accepted
      | ok out =>
        simp only [inner] at accepted
        obtain ⟨steps, rfl, rfl, spelled, typed, each⟩ := ih accepted
        have named : field = (to_camel casing key, field.2) := by
          have same := List.find?_some search
          rw [beq_iff_eq] at same
          rw [← same]
        refine ⟨⟨key, to_camel casing key, field.2, value, out⟩ :: steps, rfl, rfl, ?_, ?_, ?_⟩
        · exact List.forall_mem_cons.mpr ⟨rfl, spelled⟩
        · exact List.forall_mem_cons.mpr ⟨search.trans (congrArg some named), typed⟩
        · exact List.forall_mem_cons.mpr ⟨inner, each⟩

theorem coerce_json_list_iff (list : kind t = "LIST") (present : is_null value = false) :
    schema.coerce_json casing display t value = .ok out ↔
      ∃ items outs, value = .list items ∧ out = .list outs ∧
        schema.coerceItems casing display (index t "ofType") items = .ok outs := by
  have stripped : stripNonNull t = t := by rw [stripNonNull_eq, list, if_neg (by decide)]
  rw [Schema.coerce_json.eq_def, present, if_neg Bool.false_ne_true, stripped, if_pos list]
  cases value with
  | list items =>
    cases inner : schema.coerceItems casing display (index t "ofType") items with
    | error e => simp [inner]
    | ok outs => simp [inner, eq_comm]
  | _ => simp

theorem coerce_json_enum_iff (enum : kind t = "ENUM") (present : is_null value = false) :
    schema.coerce_json casing display t value = .ok out ↔
      ∃ raw, value = .string raw ∧ schema.coerce_enum (refName t) raw = .ok out := by
  have stripped : stripNonNull t = t := by rw [stripNonNull_eq, enum, if_neg (by decide)]
  have notList : kind t ≠ "LIST" := by rw [enum]; decide
  rw [Schema.coerce_json.eq_def, present, if_neg Bool.false_ne_true, stripped, if_neg notList,
    if_pos enum]
  cases value with
  | string raw => simp
  | _ => simp

theorem coerce_json_object_iff (object : kind t = "INPUT_OBJECT")
    (present : is_null value = false) :
    schema.coerce_json casing display t value = .ok out ↔
      ∃ members fields outs, value = .object members ∧ out = .object outs ∧
        schema.input_fields (refName t) = .ok fields ∧
        schema.coerceMembers casing display fields (refName t) [] members = .ok outs := by
  have stripped : stripNonNull t = t := by rw [stripNonNull_eq, object, if_neg (by decide)]
  have notList : kind t ≠ "LIST" := by rw [object]; decide
  have notEnum : kind t ≠ "ENUM" := by rw [object]; decide
  rw [Schema.coerce_json.eq_def, present, if_neg Bool.false_ne_true, stripped, if_neg notList,
    if_neg notEnum, if_pos object]
  cases value with
  | object members =>
    cases found : schema.input_fields (refName t) with
    | error e => simp
    | ok fields =>
      cases inner : schema.coerceMembers casing display fields (refName t) [] members with
      | error e => simp [inner]
      | ok outs => simp [inner, eq_comm]
  | _ => simp

theorem coerce_json_scalar (nonNull : kind t ≠ "NON_NULL") (list : kind t ≠ "LIST")
    (enum : kind t ≠ "ENUM") (object : kind t ≠ "INPUT_OBJECT") :
    schema.coerce_json casing display t value = .ok value := by
  have stripped : stripNonNull t = t := by rw [stripNonNull_eq, if_neg nonNull]
  rw [Schema.coerce_json.eq_def, stripped, if_neg list, if_neg enum, if_neg object, ite_self]

theorem coerce_enum_eq_ok {name raw : String} (accepted : schema.coerce_enum name raw = .ok out) :
    ∃ members member, schema.enum_values name = .ok members ∧
      members.find? (fun v => eq_ignore_ascii_case v raw) = some member ∧ out = .string member := by
  rw [Schema.coerce_enum] at accepted
  cases listed : schema.enum_values name with
  | error e =>
    rw [listed] at accepted
    cases accepted
  | ok members =>
    rw [listed] at accepted
    cases search : members.find? fun v => eq_ignore_ascii_case v raw with
    | none =>
      simp only [search] at accepted
      cases accepted
    | some member =>
      simp only [search] at accepted
      exact ⟨members, member, rfl, search, (Except.ok.inj accepted).symm⟩

/-- The value is coerced as the type says. -/
def Sound (schema : Schema ν) (casing : Casing) (display : JsonValue ν → String)
    (value : JsonValue ν) : Prop :=
  ∀ t out, schema.coerce_json casing display t value = .ok out → Coerced schema casing t value out

theorem sound_of_inside
    (items : ∀ items, value = .list items → ∀ item ∈ items, Sound schema casing display item)
    (members : ∀ members, value = .object members →
      ∀ m ∈ members, Sound schema casing display m.2) :
    Sound schema casing display value := by
  intro t
  cases null : is_null value with
  | true =>
    cases value with
    | null =>
      intro out accepted
      obtain rfl := Except.ok.inj accepted
      exact .null
    | _ => cases null
  | false =>
    induction t using stripNonNull_induct with
    | wrapped t nonNull ih =>
      intro out accepted
      rw [coerce_json_nonNull nonNull] at accepted
      exact .nonNull nonNull (ih out accepted)
    | bare t nonNull =>
      intro out accepted
      by_cases list : kind t = "LIST"
      · obtain ⟨inputs, outs, rfl, rfl, all⟩ := (coerce_json_list_iff list null).mp accepted
        obtain ⟨pairs, rfl, rfl, each⟩ := coerceItems_eq_ok all
        exact .list pairs list fun pair listed =>
          items _ rfl pair.1 (List.mem_map_of_mem listed) _ _ (each pair listed)
      · by_cases enum : kind t = "ENUM"
        · obtain ⟨raw, rfl, found⟩ := (coerce_json_enum_iff enum null).mp accepted
          obtain ⟨names, member, values, search, rfl⟩ := coerce_enum_eq_ok found
          have same := List.find?_some search
          exact .enum enum values (List.mem_of_find?_eq_some search) same
        · by_cases object : kind t = "INPUT_OBJECT"
          · obtain ⟨inputs, fields, outs, rfl, rfl, known, all⟩ :=
              (coerce_json_object_iff object null).mp accepted
            obtain ⟨steps, rfl, inserted, spelled, typed, each⟩ := coerceMembers_eq_ok all
            have collected : outs = collect (steps.map fun m => (m.field, m.out)) := inserted
            refine .object steps object known spelled typed (fun m listed => ?_) ?_ ?_
            · have member : (m.key, m.value) ∈ steps.map fun m => (m.key, m.value) :=
                List.mem_map_of_mem listed
              exact members _ rfl _ member _ _ (each m listed)
            · rw [collected]
              exact nodup_collect _
            · intro key out
              rw [collected]
              exact mem_collect
          · rw [coerce_json_scalar nonNull list enum object] at accepted
            obtain rfl := Except.ok.inj accepted
            exact .scalar nonNull list enum object

/-- What is accepted becomes what the type says. -/
theorem coerced_of_accepted (value : JsonValue ν) : Sound schema casing display value := by
  induction value with
  | list items ih =>
    apply sound_of_inside
    · rintro _ same item listed
      rw [← JsonValue.list.inj same] at listed
      exact ih item listed
    · intro _ other
      cases other
  | object members ih =>
    apply sound_of_inside
    · intro _ other
      cases other
    · rintro _ same member listed
      rw [← JsonValue.object.inj same] at listed
      exact ih member listed
  | _ =>
    apply sound_of_inside
    · intro _ other
      cases other
    · intro _ other
      cases other

/-! ## Values of the type -/

/-- No two members of an enumeration are the same but for case. -/
def DistinctMembers (schema : Schema ν) : Prop :=
  ∀ name members, schema.enum_values name = .ok members →
    members.Pairwise fun a b => eq_ignore_ascii_case a b = false

theorem eq_ignore_ascii_case_iff {a b : String} :
    eq_ignore_ascii_case a b = true ↔ a.toList.map Char.toLower = b.toList.map Char.toLower := by
  rw [eq_ignore_ascii_case, beq_iff_eq]

/-- An exact member is found itself. -/
theorem coerce_enum_member (distinct : DistinctMembers schema) {name member : String}
    {members : List String} (values : schema.enum_values name = .ok members)
    (listed : member ∈ members) : schema.coerce_enum name member = .ok (.string member) := by
  have apart := distinct name members values
  have search : members.find? (fun v => eq_ignore_ascii_case v member) = some member := by
    clear values
    induction members with
    | nil => cases listed
    | cons first rest ih =>
      rw [List.pairwise_cons] at apart
      rw [List.find?_cons]
      cases listed with
      | head =>
        have same : eq_ignore_ascii_case member member = true := eq_ignore_ascii_case_iff.mpr rfl
        rw [same]
      | tail _ later =>
        rw [apart.1 member later]
        exact ih later apart.2
  rw [Schema.coerce_enum, values]
  simp only [search]

theorem coerceItems_conforming {items : List (JsonValue ν)}
    (each : ∀ item ∈ items, schema.coerce_json casing display t item = .ok item) :
    schema.coerceItems casing display t items = .ok items := by
  induction items with
  | nil => rfl
  | cons item rest ih =>
    obtain ⟨first, others⟩ := List.forall_mem_cons.mp each
    rw [Schema.coerceItems, first, ih others]

/-- Members under the names of their fields are inserted as they are. -/
theorem coerceMembers_conforming {fields members : List (String × JsonValue ν)}
    {name : String} (inserted : List (String × JsonValue ν))
    (nodup : ((inserted ++ members).map Prod.fst).Nodup)
    (spelled : ∀ m ∈ members, to_camel casing m.1 = m.1)
    (known : ∀ m ∈ members, m.1 ∈ fields.map Prod.fst)
    (each : ∀ m ∈ members,
      schema.coerce_json casing display (fieldType fields m.1) m.2 = .ok m.2) :
    schema.coerceMembers casing display fields name inserted members =
      .ok (inserted ++ members) := by
  induction members generalizing inserted with
  | nil => rw [Schema.coerceMembers, List.append_nil]
  | cons member rest ih =>
    obtain ⟨key, value⟩ := member
    obtain ⟨spelledHere, spelledLater⟩ := List.forall_mem_cons.mp spelled
    obtain ⟨knownHere, knownLater⟩ := List.forall_mem_cons.mp known
    obtain ⟨here, later⟩ := List.forall_mem_cons.mp each
    dsimp only at spelledHere knownHere here
    rw [Schema.coerceMembers, spelledHere]
    cases search : fields.find? fun f => f.1 == key with
    | none =>
      obtain ⟨field, listed, named⟩ := List.mem_map.mp knownHere
      have missed := List.find?_eq_none.mp search field listed
      exact absurd (beq_iff_eq.mpr named) missed
    | some field =>
      have typed : fieldType fields key = field.2 := by rw [fieldType, search]; rfl
      have absent : key ∉ inserted.map Prod.fst := by
        intro inside
        rw [List.map_append, List.nodup_append] at nodup
        exact nodup.2.2 key inside key List.mem_cons_self rfl
      have placed : insertKey key value inserted = inserted ++ [(key, value)] := by
        rw [insertKey, if_neg absent]
      rw [typed] at here
      simp only [here, placed]
      have shape : inserted ++ (key, value) :: rest = (inserted ++ [(key, value)]) ++ rest := by
        simp
      rw [shape] at nodup ⊢
      exact ih _ nodup spelledLater knownLater later

/-- A value of the type, whose keys `to_camel` keeps, is accepted and stays as it is. -/
theorem accepted_of_conforms (distinct : DistinctMembers schema) {allowed : String → Prop}
    (plain : ∀ key, allowed key → to_camel casing key = key)
    (conforms : Conforms schema allowed t value) :
    schema.coerce_json casing display t value = .ok value := by
  induction conforms with
  | null => rfl
  | nonNull nonNull _ ih => rw [coerce_json_nonNull nonNull, ih]
  | list list _ ih =>
    exact (coerce_json_list_iff list rfl).mpr ⟨_, _, rfl, rfl, coerceItems_conforming ih⟩
  | enum enum values listed =>
    exact (coerce_json_enum_iff enum rfl).mpr
      ⟨_, rfl, coerce_enum_member distinct values listed⟩
  | object object fields nodup allowed known _ ih =>
    have spelled := fun m listed => plain _ (allowed m listed)
    exact (coerce_json_object_iff object rfl).mpr
      ⟨_, _, _, rfl, rfl, fields, coerceMembers_conforming [] nodup spelled known ih⟩
  | scalar nonNull list enum object => exact coerce_json_scalar nonNull list enum object

theorem Conforms.mono {allowed weaker : String → Prop}
    (names : ∀ name fields, schema.input_fields name = .ok fields →
      ∀ key ∈ fields.map Prod.fst, allowed key → weaker key)
    (conforms : Conforms schema allowed t value) : Conforms schema weaker t value := by
  induction conforms with
  | null => exact .null
  | nonNull nonNull _ ih => exact .nonNull nonNull ih
  | list list _ ih => exact .list list ih
  | enum enum values listed => exact .enum enum values listed
  | object object fields nodup allowed known _ ih =>
    exact .object object fields nodup
      (fun m listed => names _ _ fields m.1 (known m listed) (allowed m listed)) known ih
  | scalar nonNull list enum object => exact .scalar nonNull list enum object

/-! ## Outputs -/

/-- The name has no underscore. -/
def Plain (name : String) : Prop := '_' ∉ name.toList

theorem camelFrom_plain (chars : List Char) (upper : Bool) :
    '_' ∉ camelFrom casing upper chars := by
  induction chars generalizing upper with
  | nil => exact List.not_mem_nil
  | cons c rest ih =>
    rw [camelFrom]
    by_cases underscore : c = '_'
    · rw [if_pos underscore]
      exact ih true
    · rw [if_neg underscore]
      cases upper with
      | true =>
        rw [if_pos rfl, List.mem_append, not_or]
        exact ⟨casing.upper_plain c underscore, ih false⟩
      | false =>
        rw [if_neg Bool.false_ne_true]
        exact List.not_mem_cons_of_ne_of_not_mem (Ne.symm underscore) (ih false)

theorem plain_to_camel (name : String) : Plain (to_camel casing name) := by
  rw [Plain, to_camel, String.toList_ofList]
  exact camelFrom_plain name.toList false

theorem to_camel_of_plain {name : String} (plain : Plain name) : to_camel casing name = name := by
  have kept : ∀ chars : List Char, '_' ∉ chars → camelFrom casing false chars = chars := by
    intro chars
    induction chars with
    | nil => exact fun _ => rfl
    | cons c rest ih =>
      intro absent
      have other : c ≠ '_' := fun same => absent (by simp [same])
      rw [camelFrom, if_neg other, if_neg Bool.false_ne_true,
        ih fun inside => absent (List.mem_cons_of_mem c inside)]
  rw [to_camel, kept name.toList plain, String.ofList_toList]

theorem LastOf.mem {entries : List (String × JsonValue ν)} {key : String}
    (last : LastOf entries key value) : (key, value) ∈ entries := by
  obtain ⟨before, after, rfl, -⟩ := last
  simp

theorem conforms_of_coerced (coerced : Coerced schema casing t value out) :
    Conforms schema Plain t out := by
  induction coerced with
  | null => exact .null
  | nonNull nonNull _ ih => exact .nonNull nonNull ih
  | list items list _ ih =>
    apply Conforms.list list
    intro out listed
    obtain ⟨pair, inside, rfl⟩ := List.mem_map.mp listed
    exact ih pair inside
  | enum enum values listed _ => exact .enum enum values listed
  | @object t fields out members object known spelled typed _ nodup last ih =>
    have origin : ∀ entry ∈ out, ∃ m ∈ members, entry = (m.field, m.out) := by
      intro entry listed
      obtain ⟨m, inside, same⟩ := List.mem_map.mp ((last entry.1 entry.2).mp listed).mem
      exact ⟨m, inside, same.symm⟩
    refine .object object known nodup ?_ ?_ ?_
    · intro entry listed
      obtain ⟨m, inside, rfl⟩ := origin entry listed
      rw [spelled m inside]
      exact plain_to_camel m.key
    · intro entry listed
      obtain ⟨m, inside, rfl⟩ := origin entry listed
      have listed := List.mem_of_find?_eq_some (typed m inside)
      exact List.mem_map.mpr ⟨_, listed, rfl⟩
    · intro entry listed
      obtain ⟨m, inside, rfl⟩ := origin entry listed
      have type : fieldType fields m.field = m.type := by
        rw [fieldType, typed m inside]
        rfl
      rw [type]
      exact ih m inside
  | scalar nonNull list enum object => exact .scalar nonNull list enum object

/-! ## Coercion by a schema -/

theorem coerce_json_sound (schema : Schema ν) (casing : Casing)
    (display : JsonValue ν → String) (distinct : DistinctMembers schema) :
    (∀ t value out, schema.coerce_json casing display t value = .ok out →
      Coerced schema casing t value out ∧ Conforms schema Plain t out ∧
        schema.coerce_json casing display t out = .ok out) ∧
    ((∀ name fields, schema.input_fields name = .ok fields →
        ∀ key ∈ fields.map Prod.fst, Plain key) →
      ∀ t value, Conforms schema (fun _ => True) t value →
        schema.coerce_json casing display t value = .ok value) := by
  constructor
  · intro t value out accepted
    have coerced := coerced_of_accepted value t out accepted
    have conforms := conforms_of_coerced coerced
    exact ⟨coerced, conforms,
      accepted_of_conforms distinct (fun key plain => to_camel_of_plain plain) conforms⟩
  · intro plain t value conforms
    have named : Conforms schema Plain t value :=
      conforms.mono fun name fields known key listed _ => plain name fields known key listed
    exact accepted_of_conforms distinct (fun key plain => to_camel_of_plain plain) named

/-- An input object with a number and an enumeration. -/
def rangeTypes : JsonValue Int :=
  .object [("__schema", .object [("types", .list [
    .object [("name", .string "Range"), ("inputFields", .list [
      .object [("name", .string "aB"),
        ("type", .object [("kind", .string "SCALAR"), ("name", .string "Int")])],
      .object [("name", .string "ua"),
        ("type", .object [("kind", .string "ENUM"), ("name", .string "Agent")])]])],
    .object [("name", .string "Agent"), ("enumValues", .list [
      .object [("name", .string "NONE")], .object [("name", .string "RSBTD")]])]])])]

def rangeSchema : Schema Int :=
  (Schema.from_introspection rangeTypes).getD ⟨fun _ => none⟩

def rangeRef : JsonValue Int :=
  .object [("kind", .string "NON_NULL"), ("ofType",
    .object [("kind", .string "INPUT_OBJECT"), ("name", .string "Range")])]

theorem coerce_json_sound_range :
    Coerced rangeSchema .ascii rangeRef (.object [("a_b", .number 1), ("ua", .string "rsbtd")])
      (.object [("aB", .number 1), ("ua", .string "RSBTD")]) := by
  have distinct : DistinctMembers rangeSchema := by
    intro name members values
    by_cases agent : name = "Agent"
    · subst agent
      obtain rfl : ["NONE", "RSBTD"] = members := Except.ok.inj values
      decide
    · by_cases range : name = "Range"
      · subst range
        obtain rfl : [] = members := Except.ok.inj values
        exact .nil
      · have unknown : rangeSchema.types name = none := by
          apply List.find?_eq_none.mpr
          intro t listed same
          rw [beq_iff_eq] at same
          cases listed with
          | head => exact agent (Option.some.inj same).symm
          | tail _ listed =>
            cases listed with
            | head => exact range (Option.some.inj same).symm
            | tail _ listed => cases listed
        rw [Schema.enum_values, Schema.ty, unknown] at values
        cases values
  exact ((coerce_json_sound rangeSchema .ascii (fun _ => "") distinct).1 _ _ _ rfl).1

/-- Two keys name one field, and the first of the two numbers is gone. -/
theorem coerce_json_drops_number :
    rangeSchema.coerce_json .ascii (fun _ => "") rangeRef
        (.object [("aB", .number 1), ("a_b", .number 2)]) = .ok (.object [("aB", .number 2)]) ∧
      ¬ ∀ (members out : List (String × JsonValue Int)) (key : String) (n : Int),
          rangeSchema.coerce_json .ascii (fun _ => "") rangeRef (.object members) =
            .ok (.object out) →
          (key, .number n) ∈ members → (to_camel .ascii key, .number n) ∈ out := by
  have coerced : rangeSchema.coerce_json .ascii (fun _ => "") rangeRef
      (.object [("aB", .number 1), ("a_b", .number 2)]) = .ok (.object [("aB", .number 2)]) := rfl
  refine ⟨coerced, fun kept => ?_⟩
  have inside := kept _ _ "aB" 1 coerced List.mem_cons_self
  simp at inside

end Rsbtd.Ctl
