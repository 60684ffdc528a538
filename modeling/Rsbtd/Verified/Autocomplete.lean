import Rsbtd.WebUi.Autocomplete
import Rsbtd.Verified.QuerySemantics

/-!
# Accepting a suggestion of the search box

An accepted suggestion changes the term that the caret is in, and no other, into one that the
query resolves as suggested, if the tokenizer splits the text at the word that is replaced.
It need not: the word is found by white space only, and its quotes go with it.
-/

namespace Rsbtd.WebUi

open JsString

variable {runtime : Runtime} {input text token key rhs : JsString} {caret : Nat} {u : CodeUnit}
  {field : TorrentFieldDef} {item : Suggestion}

/-! ### Names and values -/

/-- What `toLowerCase` keeps. -/
def Kept (u : CodeUnit) : Prop := u = unit '"' ∨ isSpace u = true

instance : DecidablePred Kept :=
  fun u => inferInstanceAs (Decidable (u = unit '"' ∨ isSpace u = true))

/-- The code units of names and values. -/
def isPlain (u : CodeUnit) : Bool := isLetter u || isDigit u || u = unit '_'

structure Plain (text : JsString) : Prop where
  some_ : text ≠ []
  all : text.all isPlain = true

instance : DecidablePred Plain := fun text =>
  decidable_of_iff (text ≠ [] ∧ text.all isPlain = true)
    ⟨fun h => ⟨h.1, h.2⟩, fun h => ⟨h.some_, h.all⟩⟩

theorem isPlain_ascii (plain : isPlain u = true) : u < 128 := by
  have codes : (unit 'Z').toNat = 90 ∧ (unit 'z').toNat = 122 ∧ (unit '9').toNat = 57 ∧
      (unit '_').toNat = 95 := by decide
  simp only [isPlain, isLetter, isUpper, isLower, isDigit, Bool.or_eq_true, Bool.and_eq_true,
    decide_eq_true_eq, UInt16.le_iff_toNat_le, ← UInt16.toNat_inj] at plain
  rw [UInt16.lt_iff_toNat_lt]
  have bound : (128 : UInt16).toNat = 128 := rfl
  omega

theorem isPlain_other (plain : isPlain u = true) :
    ¬Kept u ∧ ¬Kept (lowerUnit u) ∧ u ≠ unit ':' ∧ u ≠ unit '-' := by
  have table : ∀ n : Fin 128, isPlain (UInt16.ofNat n) = true →
      ¬Kept (UInt16.ofNat n) ∧ ¬Kept (lowerUnit (UInt16.ofNat n)) ∧
        UInt16.ofNat n ≠ unit ':' ∧ UInt16.ofNat n ≠ unit '-' := by decide +kernel
  have own := table ⟨u.toNat, UInt16.lt_iff_toNat_lt.mp (isPlain_ascii plain)⟩
  simp only [UInt16.ofNat_toNat] at own
  exact own plain

namespace Plain

theorem mem (plain : Plain text) (listed : u ∈ text) : isPlain u = true :=
  List.all_eq_true.mp plain.all u listed

theorem lower (plain : Plain text) : runtime.toLowerCase text = text.map lowerUnit := by
  apply runtime.ascii
  rw [List.all_eq_true]
  intro u listed
  exact decide_eq_true (isPlain_ascii (plain.mem listed))

theorem clean (plain : Plain text) (listed : u ∈ text) : ¬Kept u :=
  (isPlain_other (plain.mem listed)).1

/-- A text whose lower case is part of a plain one is clean as well. -/
theorem clean_of_lower (plain : Plain text) {typed : JsString}
    (sub : runtime.toLowerCase typed ⊆ runtime.toLowerCase text) (listed : u ∈ typed) :
    ¬Kept u := by
  intro kept
  have there := sub (runtime.keeps typed u kept listed)
  rw [plain.lower] at there
  obtain ⟨v, origin, rfl⟩ := List.mem_map.mp there
  exact (isPlain_other (plain.mem origin)).2.1 kept

end Plain

theorem toLowerCase_nil (runtime : Runtime) : runtime.toLowerCase [] = [] := runtime.ascii [] rfl

/-! ### The fields -/

namespace TorrentFieldDef

def names (field : TorrentFieldDef) : List JsString := field.key :: field.aliases

/-- What every field of the registry is like. -/
structure Regular (field : TorrentFieldDef) : Prop where
  names : ∀ name ∈ field.names, Plain name
  values : ∀ value ∈ field.enumValues, Plain value
  distinct : (field.enumValues.map fun value => value.map lowerUnit).Nodup
  filterable : field.filterable = true

instance : DecidablePred Regular := fun field =>
  decidable_of_iff ((∀ name ∈ field.names, Plain name) ∧
      (∀ value ∈ field.enumValues, Plain value) ∧
      (field.enumValues.map fun value => value.map lowerUnit).Nodup ∧ field.filterable = true)
    ⟨fun h => ⟨h.1, h.2.1, h.2.2.1, h.2.2.2⟩,
      fun h => ⟨h.names, h.values, h.distinct, h.filterable⟩⟩

end TorrentFieldDef

theorem torrentFields_regular : ∀ field ∈ torrentFields, field.Regular := by decide +kernel

/-- Every name with its field. -/
def namedFields : List (TorrentFieldDef × JsString) :=
  torrentFields.flatMap fun field => field.names.map fun name => (field, name)

theorem mem_namedFields {name : JsString} :
    (field, name) ∈ namedFields ↔ field ∈ torrentFields ∧ name ∈ field.names := by
  simp only [namedFields, List.mem_flatMap, List.mem_map, Prod.mk.injEq]
  constructor
  · rintro ⟨_, listed, _, named, rfl, rfl⟩
    exact ⟨listed, named⟩
  · rintro ⟨listed, named⟩
    exact ⟨field, listed, name, named, rfl, rfl⟩

/-- A number for a text. -/
def codeOf (text : JsString) : Nat := text.foldl (fun n u => n * 65536 + u.toNat) 0

theorem names_distinct :
    (namedFields.map fun entry => codeOf (entry.2.map lowerUnit)).Nodup := by decide +kernel

/-- A name, in whatever case, is of one field only. -/
theorem name_owner {other : TorrentFieldDef} (listed : field ∈ torrentFields)
    (listed' : other ∈ torrentFields) {name name' : JsString} (named : name ∈ field.names)
    (named' : name' ∈ other.names) (same : runtime.toLowerCase name = runtime.toLowerCase name') :
    field = other := by
  rw [((torrentFields_regular field listed).names name named).lower,
    ((torrentFields_regular other listed').names name' named').lower] at same
  have entry := List.inj_on_of_nodup_map names_distinct (mem_namedFields.mpr ⟨listed, named⟩)
    (mem_namedFields.mpr ⟨listed', named'⟩) (congrArg codeOf same)
  exact congrArg Prod.fst entry

/-- What is found has the name that was looked for, in some case. -/
theorem lookup_some (found : lookupTorrentField runtime key = some field) :
    field ∈ torrentFields ∧
      ∃ name ∈ field.names, runtime.toLowerCase name = runtime.toLowerCase key := by
  unfold lookupTorrentField at found
  rcases Option.or_eq_some_iff.mp found with direct | ⟨-, alias_⟩
  · obtain ⟨listed, same⟩ := List.mem_filter.mp (List.mem_of_getLast? direct)
    exact ⟨listed, field.key, List.mem_cons_self, of_decide_eq_true same⟩
  · have some_ := List.find?_some alias_
    obtain ⟨name, named, same⟩ := List.any_eq_true.mp some_
    exact ⟨List.mem_of_find?_eq_some alias_, name, List.mem_cons_of_mem _ named,
      of_decide_eq_true same⟩

theorem lookup_name (listed : field ∈ torrentFields) {name : JsString}
    (named : name ∈ field.names) : lookupTorrentField runtime name = some field := by
  cases found : lookupTorrentField runtime name with
  | some other =>
    obtain ⟨listed', name', named', same⟩ := lookup_some found
    rw [name_owner listed listed' named named' same.symm]
  | none =>
    unfold lookupTorrentField at found
    obtain ⟨noKey, noAlias⟩ := Option.or_eq_none_iff.mp found
    rw [List.getLast?_eq_none_iff, List.filter_eq_nil_iff] at noKey
    rw [List.find?_eq_none] at noAlias
    rcases List.mem_cons.mp named with rfl | aliased
    · exact absurd (decide_eq_true rfl) (noKey field listed)
    · exact absurd (List.any_eq_true.mpr ⟨name, aliased, decide_eq_true rfl⟩)
        (noAlias field listed)

theorem lookup_clean (found : lookupTorrentField runtime key = some field) :
    key ≠ [] ∧ ∀ u ∈ key, ¬Kept u := by
  obtain ⟨listed, name, named, same⟩ := lookup_some found
  have plain := (torrentFields_regular field listed).names name named
  constructor
  · rintro rfl
    rw [toLowerCase_nil, plain.lower, List.map_eq_nil_iff] at same
    exact plain.some_ same
  · intro u listed
    exact plain.clean_of_lower (by rw [same]; exact fun _ => id) listed

/-! ### What a suggestion stands for -/

/-- A term that the query takes for a filter of a field by a text. -/
def ReadAs (runtime : Runtime) (t : RawToken) (field : TorrentFieldDef) (rhs : JsString) : Prop :=
  (∃ key, Names runtime key field ∧ t.text = key ++ unit ':' :: rhs) ∧
    termNodes runtime t = (parseFilter runtime ⟨[], []⟩ field rhs t.negated).nodes

/-- The value that is suggested for a field. -/
def suggestedValue (field : TorrentFieldDef) (label : JsString) : CompiledValue :=
  match field.type with
  | .bool => .bool (label = js "true")
  | _ => .enum label

/-- The key before the colon of a token. -/
def typedKey (token : JsString) : JsString :=
  (TypedToken.of token).bare.takeWhile fun u => u ≠ unit ':'

/-- A term is resolved to what a suggestion for a token is about: the field and what is typed after
the suggestion, or the field before the colon and the value. -/
def Resolved (runtime : Runtime) (token : JsString) (item : Suggestion) (typed : JsString)
    (t : RawToken) : Prop :=
  match item.kind with
  | .property => ∃ field, item.detail = some field.key ∧ ReadAs runtime t field typed
  | .value => ∃ field, lookupTorrentField runtime (typedKey token) = some field ∧
      ReadAs runtime t field item.label ∧
      termNodes runtime t = [.filter field .eq (suggestedValue field item.label) t.negated]

theorem Names.readAs (names : Names runtime key field) (rhs : JsString) (negated : Bool) :
    ReadAs runtime ⟨key ++ unit ':' :: rhs, negated⟩ field rhs :=
  ⟨⟨key, names, rfl⟩, names.nodes rhs negated⟩

/-- A suggestion for a token. -/
inductive Suggested (runtime : Runtime) (token : JsString) : Suggestion → Prop
  | property {field : TorrentFieldDef} {name : JsString} (listed : field ∈ torrentFields)
      (named : name ∈ field.names)
      (needle : runtime.toLowerCase (TypedToken.of token).bare ≠ [])
      (hit : runtime.toLowerCase (TypedToken.of token).bare <+: runtime.toLowerCase name) :
      Suggested runtime token ⟨.property, name ++ js ":", some field.key,
        (TypedToken.of token).lead ++ name ++ js ":"⟩
  | value {field : TorrentFieldDef} {key typed value : JsString} {values : List JsString}
      (split : (TypedToken.of token).bare = key ++ unit ':' :: typed) (plain : unit ':' ∉ key)
      (found : lookupTorrentField runtime key = some field)
      (some_ : suggestedValues field = some values) (listed : value ∈ values)
      (hit : runtime.toLowerCase typed <+: runtime.toLowerCase value) :
      Suggested runtime token ⟨.value, value, none,
        (TypedToken.of token).lead ++ key ++ js ":" ++ value⟩

theorem suggestProperty_some (needle : runtime.toLowerCase (TypedToken.of token).bare ≠ [])
    (listed : field ∈ torrentFields)
    (some_ : suggestProperty runtime (TypedToken.of token) field = some item) :
    Suggested runtime token item := by
  unfold suggestProperty at some_
  dsimp only at some_
  split at some_
  · cases some_
  · split at some_
    · cases some_
    case h_2 name found =>
      split at some_
      · cases some_
      · obtain rfl := Option.some.inj some_
        have hit := List.find?_some found
        exact .property listed (List.mem_of_find?_eq_some found) needle
          (List.isPrefixOf_iff_prefix.mp hit)

theorem suggestionItems_mem {items : List Suggestion}
    (some_ : suggestionItems runtime token = some items) (listed : item ∈ items) :
    Suggested runtime token item := by
  unfold suggestionItems at some_
  dsimp only at some_
  split at some_
  · split at some_
    · cases some_
    case isFalse needle =>
      obtain rfl := Option.some.inj some_
      obtain ⟨field, field_, own⟩ := List.mem_filterMap.mp (List.mem_of_mem_take listed)
      exact suggestProperty_some needle field_ own
  case h_2 colon found =>
    obtain ⟨inside, own, first⟩ := List.idxOf?_eq_some_iff.mp found
    have split_ : (TypedToken.of token).bare = (TypedToken.of token).bare.take colon ++
        unit ':' :: (TypedToken.of token).bare.drop (colon + 1) := by
      rw [← own, ← List.drop_eq_getElem_cons inside, List.take_append_drop]
    have plain : unit ':' ∉ (TypedToken.of token).bare.take colon := by
      intro there
      obtain ⟨i, before, at_⟩ := List.mem_take_iff_getElem.mp there
      exact first i (by omega) at_
    split at some_
    · cases some_
    case h_2 values found =>
      obtain rfl := Option.some.inj some_
      obtain ⟨field, known, offered⟩ := Option.bind_eq_some_iff.mp found
      obtain ⟨value, hit, rfl⟩ := List.mem_map.mp listed
      obtain ⟨member, fits⟩ := List.mem_filter.mp (List.mem_of_mem_take hit)
      rw [Bool.and_eq_true] at fits
      exact .value split_ plain known offered member (List.isPrefixOf_iff_prefix.mp fits.1)

theorem suggestedValues_parse (runtime : Runtime) (listed : field ∈ torrentFields)
    {values : List JsString} (some_ : suggestedValues field = some values) {value : JsString}
    (member : value ∈ values) :
    Plain value ∧ isNumericType field.type = false ∧
      parseValue runtime field value = some (suggestedValue field value) := by
  have regular := torrentFields_regular field listed
  unfold suggestedValues at some_
  cases type : field.type with
  | bool =>
    rw [type] at some_
    obtain rfl := Option.some.inj some_
    have both : value = js "true" ∨ value = js "false" := by simpa using member
    have plain : Plain value := by
      rcases both with rfl | rfl <;> decide +kernel
    refine ⟨plain, rfl, ?_⟩
    simp only [parseValue, suggestedValue, type, plain.lower]
    rcases both with rfl | rfl <;> rfl
  | enum =>
    rw [type] at some_
    obtain rfl := Option.some.inj some_
    have plain := regular.values value member
    refine ⟨plain, rfl, ?_⟩
    have found : field.enumValues.find? (fun v =>
        runtime.toLowerCase v = runtime.toLowerCase value) = some value := by
      cases first : field.enumValues.find? (fun v =>
          runtime.toLowerCase v = runtime.toLowerCase value) with
      | none =>
        rw [List.find?_eq_none] at first
        exact absurd (decide_eq_true rfl) (first value member)
      | some other =>
        have same := List.find?_some first
        have listed' := List.mem_of_find?_eq_some first
        rw [decide_eq_true_eq, plain.lower, (regular.values other listed').lower] at same
        rw [List.inj_on_of_nodup_map regular.distinct listed' member same]
    simp only [parseValue, suggestedValue, type, found, Option.map_some]
  | _ => simp [type] at some_

theorem typedKey_split (split : (TypedToken.of token).bare = key ++ unit ':' :: rhs)
    (plain : unit ':' ∉ key) : typedKey token = key := by
  rw [typedKey, split]
  have all : ∀ u ∈ key, decide (u ≠ unit ':') = true := by
    intro u listed
    exact decide_eq_true fun same => plain (same ▸ listed)
  rw [List.takeWhile_append_of_pos all, List.takeWhile_cons]
  simp

namespace TypedToken

theorem of_bare_head (positive : (of token).negated = false)
    (unquoted : (of token).quoted = false) : (of token).bare.head? ≠ some (unit '-') := by
  have whole : (of token).bare = token := by
    unfold of at *
    dsimp only at *
    rw [unquoted, positive]
    rfl
  rw [whole]
  intro minus
  cases token with
  | nil => cases minus
  | cons u rest =>
    obtain rfl := Option.some.inj minus
    cases positive

end TypedToken

/-- What a suggestion puts behind the sign and the quote of the token. -/
structure Insertable (runtime : Runtime) (token : JsString) (item : Suggestion) (text : JsString) :
    Prop where
  insert : item.insert = (TypedToken.of token).lead ++ text
  some_ : text ≠ []
  clean : ∀ u ∈ text, ¬Kept u
  plain : (TypedToken.of token).negated = false → (TypedToken.of token).quoted = false →
    text.head? ≠ some (unit '-')
  resolved : ∀ typed negated, (item.kind = .value → typed = []) →
    Resolved runtime token item typed ⟨text ++ typed, negated⟩

theorem clean_colon : ¬Kept (unit ':') := by decide

namespace Suggested

theorem bare (suggested : Suggested runtime token item) :
    (TypedToken.of token).bare ≠ [] ∧ unit '"' ∉ (TypedToken.of token).bare := by
  cases suggested with
  | @property field name listed named needle hit =>
    have plain := (torrentFields_regular field listed).names name named
    constructor
    · intro empty
      rw [empty, toLowerCase_nil] at needle
      exact needle rfl
    · intro quote
      exact plain.clean_of_lower hit.subset quote (.inl rfl)
  | @value field key typed value values split noColon found some_ member hit =>
    have plain := (suggestedValues_parse runtime (lookup_some found).1 some_ member).1
    rw [split]
    refine ⟨by simp, ?_⟩
    rw [List.mem_append, List.mem_cons]
    rintro (quote | quote | quote)
    · exact (lookup_clean found).2 _ quote (.inl rfl)
    · exact absurd quote (by decide)
    · exact plain.clean_of_lower hit.subset quote (.inl rfl)

theorem insertable (suggested : Suggested runtime token item) :
    ∃ text, Insertable runtime token item text := by
  cases suggested with
  | @property field name listed named needle hit =>
    have regular := torrentFields_regular field listed
    have plain := regular.names name named
    have names : Names runtime name field :=
      ⟨plain.some_, fun colon => (isPlain_other (plain.mem colon)).2.2.1 rfl,
        lookup_name listed named, regular.filterable⟩
    refine ⟨name ++ js ":", by simp, by simp [js], ?_, ?_, ?_⟩
    · intro u inside
      rcases List.mem_append.mp inside with own | colon
      · exact plain.clean own
      · rw [List.mem_singleton.mp colon]
        exact clean_colon
    · intro _ _ minus
      cases name with
      | nil => exact plain.some_ rfl
      | cons u rest =>
        exact (isPlain_other (plain.mem List.mem_cons_self)).2.2.2 (Option.some.inj minus)
    · intro typed negated _
      have text : (name ++ js ":") ++ typed = name ++ unit ':' :: typed := by simp [js]
      rw [text]
      exact ⟨field, rfl, names.readAs typed negated⟩
  | @value field key typed value values split noColon found some_ member hit =>
    obtain ⟨plain, other, parsed⟩ :=
      suggestedValues_parse runtime (lookup_some found).1 some_ member
    obtain ⟨keyed, clean⟩ := lookup_clean found
    have names : Names runtime key field :=
      ⟨keyed, noColon, found, (torrentFields_regular field (lookup_some found).1).filterable⟩
    refine ⟨key ++ unit ':' :: value, by simp [js], by simp, ?_, ?_, ?_⟩
    · intro u inside
      rcases List.mem_append.mp inside with own | own
      · exact clean u own
      · rcases List.mem_cons.mp own with rfl | own
        · exact clean_colon
        · exact plain.clean own
    · intro positive unquoted
      have head := TypedToken.of_bare_head positive unquoted
      rw [split] at head
      cases key with
      | nil => exact absurd rfl keyed
      | cons u rest => exact head
    · intro typed negated none
      rw [none rfl, List.append_nil]
      have read := names.readAs value negated
      refine ⟨field, by rw [typedKey_split split noColon, found], read, ?_⟩
      have rest : splitValue field value = (.eq, value) := if_neg (by simp [other])
      rw [read.2, parseFilter, rest]
      simp only [plain.some_, parsed]
      rfl

theorem resolved_clean (suggested : Suggested runtime token item) {t : RawToken}
    (resolved : Resolved runtime token item [] t) : ∀ u ∈ t.text, isSpace u = false := by
  have clean : ∀ key rhs field, Names runtime key field → (∀ u ∈ rhs, ¬Kept u) →
      ∀ u ∈ key ++ unit ':' :: rhs, isSpace u = false := by
    intro key rhs field names rest u inside
    have other : ¬Kept u := by
      rcases List.mem_append.mp inside with own | own
      · exact (lookup_clean names.found).2 u own
      · rcases List.mem_cons.mp own with rfl | own
        · exact clean_colon
        · exact rest u own
    exact Bool.eq_false_iff.mpr fun space => other (.inr space)
  cases suggested with
  | property listed named needle hit =>
    obtain ⟨field, -, ⟨key, names, text⟩, -⟩ := resolved
    rw [text]
    exact clean key [] field names (by simp)
  | value split noColon found some_ member hit =>
    obtain ⟨field, -, ⟨⟨key, names, text⟩, -⟩, -⟩ := resolved
    have plain := (suggestedValues_parse runtime (lookup_some found).1 some_ member).1
    rw [text]
    exact clean key _ field names fun u => plain.clean

end Suggested

/-! ### The word in its place -/

/-- The text before the word that the caret is in. -/
def textBefore (input : JsString) (caret : Nat) : JsString :=
  input.take (caret - (wordBefore input caret).length)

def textAfter (input : JsString) (caret : Nat) : JsString :=
  input.drop (caret + (wordAfter input caret).length)

/-- What the search for the word leaves. -/
theorem textBefore_eq (inside : caret ≤ input.length) : textBefore input caret =
    ((input.take caret).reverse.dropWhile fun u => !isSpace u).reverse := by
  have split := List.takeWhile_append_dropWhile (p := fun u => !isSpace u)
    (l := (input.take caret).reverse)
  have whole := congrArg List.reverse split
  rw [List.reverse_append, List.reverse_reverse] at whole
  have length := congrArg List.length whole
  rw [List.length_append, List.length_take, min_eq_left inside] at length
  have short : caret - (wordBefore input caret).length ≤ caret := Nat.sub_le _ _
  rw [textBefore, ← min_eq_left short, ← List.take_take]
  nth_rewrite 1 [← whole]
  apply List.take_left'
  unfold wordBefore
  omega

theorem take_caret (inside : caret ≤ input.length) :
    input.take caret = textBefore input caret ++ wordBefore input caret := by
  rw [textBefore_eq inside, wordBefore, ← List.reverse_append, List.takeWhile_append_dropWhile,
    List.reverse_reverse]

theorem textAfter_eq :
    textAfter input caret = (input.drop caret).dropWhile fun u => !isSpace u := by
  rw [textAfter, ← List.drop_drop]
  nth_rewrite 1 [← List.takeWhile_append_dropWhile (p := fun u => !isSpace u)
    (l := input.drop caret)]
  exact List.drop_left

theorem drop_caret : input.drop caret = wordAfter input caret ++ textAfter input caret := by
  rw [textAfter_eq, wordAfter, List.takeWhile_append_dropWhile]

theorem input_split (inside : caret ≤ input.length) :
    input = textBefore input caret ++ (wordBefore input caret ++ wordAfter input caret ++
      textAfter input caret) := by
  rw [List.append_assoc, ← drop_caret, ← List.append_assoc, ← take_caret inside,
    List.take_append_drop]

theorem wordBefore_clean : ∀ u ∈ wordBefore input caret, isSpace u = false := by
  intro u inside
  have own := List.all_eq_true.mp List.all_takeWhile u (List.mem_reverse.mp inside)
  simpa using own

theorem wordAfter_clean : ∀ u ∈ wordAfter input caret, isSpace u = false := by
  intro u inside
  have own := List.all_eq_true.mp List.all_takeWhile u inside
  simpa using own

/-- White space ends what is not taken. -/
theorem dropWhile_space (text : JsString) : (text.dropWhile fun u => !isSpace u) = [] ∨
    ∃ w rest, (text.dropWhile fun u => !isSpace u) = w :: rest ∧ isSpace w = true := by
  cases left : text.dropWhile fun u => !isSpace u with
  | nil => exact .inl rfl
  | cons w rest =>
    have first := List.head?_dropWhile_not (fun u => !isSpace u) text
    rw [left] at first
    exact .inr ⟨w, rest, rfl, by simpa using first⟩

theorem textBefore_ends (inside : caret ≤ input.length) : textBefore input caret = [] ∨
    ∃ a w, textBefore input caret = a ++ [w] ∧ isSpace w = true := by
  rw [textBefore_eq inside]
  rcases dropWhile_space (input.take caret).reverse with none | ⟨w, rest, some_, space⟩
  · exact .inl (by rw [none]; rfl)
  · exact .inr ⟨rest.reverse, w, by rw [some_, List.reverse_cons], space⟩

theorem textAfter_starts (input : JsString) (caret : Nat) : textAfter input caret = [] ∨
    ∃ w rest, textAfter input caret = w :: rest ∧ isSpace w = true := by
  rw [textAfter_eq]
  exact dropWhile_space _

/-! ### The term in its place -/

/-- The quote that a term begins with. -/
def opening (quoted : Bool) : JsString := if quoted then js "\"" else []

namespace TypedToken

theorem lead_eq (t : TypedToken) : t.lead = sign t.negated ++ opening t.quoted := rfl

theorem cons_drop (starts : [u].isPrefixOf text = true) : u :: text.drop 1 = text := by
  cases text with
  | nil => cases starts
  | cons v rest =>
    have same : (u == v && true) = true := starts
    rw [Bool.and_true, beq_iff_eq] at same
    rw [same, List.drop_one, List.tail_cons]

theorem lead_bare (token : JsString) : (of token).lead ++ (of token).bare = token := by
  have body : ∀ body : JsString, opening ((js "\"").isPrefixOf body) ++
      (if (js "\"").isPrefixOf body then body.drop 1 else body) = body := by
    intro body
    cases quote : (js "\"").isPrefixOf body with
    | true => exact cons_drop quote
    | false => rfl
  cases minus : (js "-").isPrefixOf token with
  | true =>
    have whole : unit '-' :: token.drop 1 = token := cons_drop minus
    have rest := (congrArg (unit '-' :: ·) (body (token.drop 1))).trans whole
    rw [lead_eq, of]
    simp only [minus, if_true]
    exact rest
  | false =>
    rw [lead_eq, of]
    dsimp only
    rw [minus]
    exact body token

end TypedToken

theorem unbroken_clean (inQuote : Bool) (clean : ∀ u ∈ text, isSpace u = false) :
    unbroken inQuote text = true := by
  induction text generalizing inQuote with
  | nil => rfl
  | cons u text ih =>
    have rest := fun inQuote => ih inQuote fun v inside => clean v (List.mem_cons_of_mem _ inside)
    rw [unbroken]
    split
    · exact rest _
    · simp [clean u List.mem_cons_self, rest]

theorem unquoted_append (a b : JsString) : unquoted (a ++ b) = unquoted a ++ unquoted b :=
  List.filter_append ..

theorem unquoted_eq (clean : unit '"' ∉ text) : unquoted text = text := by
  apply List.filter_eq_self.mpr
  intro u inside
  exact decide_eq_true fun quote => clean (quote ▸ inside)

theorem unquoted_opening (quoted : Bool) (body : JsString) :
    unquoted (opening quoted ++ body) = unquoted body := by
  cases quoted <;> rfl

/-- The terms that end before the word that the caret is in. -/
def termsBefore (input : JsString) (caret : Nat) : List RawToken :=
  (Scan.init.scan (textBefore input caret)).tokens

theorem ends_tokens {before : JsString} (ends : EndsBefore before) :
    (Scan.init.scan before).tokens = (tokenize before).tokens := by
  obtain ⟨paired, rfl | ⟨a, w, rfl, space⟩⟩ := ends
  · rfl
  · have outside : (Scan.init.scan a).inQuote = false :=
      Bool.eq_false_iff.mpr fun inside =>
        scan_init_inQuote.mp inside ((paired_space space).mp paired)
    rw [tokenize_scan, Scan.scan_append, Scan.scan_cons, Scan.scan_nil,
      Scan.step_space outside space]
    rfl

/-- In a quote, the term before the word goes on. -/
theorem scan_inside {before : JsString} (odd : ¬Paired before)
    (ends : before = [] ∨ ∃ a w, before = a ++ [w] ∧ isSpace w = true) :
    (Scan.init.scan before).started = true ∧
      ∃ w ∈ (Scan.init.scan before).current, isSpace w = true := by
  obtain rfl | ⟨a, w, rfl, space⟩ := ends
  · exact absurd ⟨0, rfl⟩ odd
  · have inside : (Scan.init.scan a).inQuote = true :=
      scan_init_inQuote.mpr ((paired_space space).not.mp odd)
    have started := Scan.scan_quoted_started (s := .init) (fun quoted => by cases quoted) a inside
    have stepped := Scan.step_started started (isSpace_ne_quote space) (by rw [inside]; rfl)
    rw [Scan.scan_append, Scan.scan_cons, Scan.scan_nil, stepped]
    exact ⟨started, w, by simp, space⟩

/-- What may stand behind the sign and the quote of a term. -/
structure TermBody (negated quoted : Bool) (body : JsString) : Prop where
  whole : unbroken false (opening quoted ++ body) = true
  some_ : unquoted body ≠ []
  plain : negated = false → quoted = false → body.head? ≠ some (unit '-')

namespace TermBody

variable {negated quoted : Bool} {body before after : JsString}

theorem head (term : TermBody negated quoted body) (positive : negated = false) :
    (opening quoted ++ body).head? ≠ some (unit '-') := by
  cases quoted with
  | true =>
    intro minus
    cases minus
  | false => exact term.plain positive rfl

/-- The term by itself. -/
theorem tokens (term : TermBody negated quoted body) (ends : EndsBefore before)
    (starts : StartsAfter (sign negated ++ (opening quoted ++ body)) after) :
    (tokenize (before ++ (sign negated ++ (opening quoted ++ body) ++ after))).tokens =
      (tokenize before).tokens ++ ⟨unquoted body, negated⟩ :: (tokenize after).tokens := by
  have own := tokenize_signed negated term.whole term.head
    (by rw [unquoted_opening]; exact term.some_)
  rw [tokens_append_before ends, tokens_append_after starts, own, unquoted_opening]
  rfl

/-- The term goes on with whatever follows it. -/
theorem begins (term : TermBody negated quoted body) (ends : EndsBefore before)
    (rest : JsString) : ∃ more others,
      (tokenize (before ++ (sign negated ++ (opening quoted ++ body) ++ rest))).tokens =
        (tokenize before).tokens ++ ⟨unquoted body ++ more, negated⟩ :: others := by
  have some_ : opening quoted ++ body ≠ [] := by
    intro empty
    rw [List.append_eq_nil_iff.mp empty |>.2] at term
    exact term.some_ rfl
  obtain ⟨inQuote, scanned⟩ := scan_term term.whole term.head some_
  obtain ⟨more, others, begun⟩ := Scan.scan_begun
    (s := ⟨[], unquoted (opening quoted ++ body), negated, true, inQuote⟩) rfl
    (by rw [unquoted_opening]; exact term.some_) rest
  refine ⟨more, others, ?_⟩
  have own : (tokenize (sign negated ++ (opening quoted ++ body) ++ rest)).tokens =
      ⟨unquoted body ++ more, negated⟩ :: others := by
    rw [tokenize_scan, Scan.scan_append, Scan.scan_append, scan_sign, scanned, begun,
      unquoted_opening]
    rfl
  rw [tokens_append_before ends, own]

end TermBody

theorem unbroken_append {inQuote : Bool} (clean : ∀ u ∈ text, ¬Kept u) (rest : JsString) :
    unbroken inQuote (text ++ rest) = unbroken inQuote rest := by
  induction text with
  | nil => rfl
  | cons u text ih =>
    have own := clean u List.mem_cons_self
    have space : isSpace u = false := Bool.eq_false_iff.mpr fun space => own (.inr space)
    rw [List.cons_append, unbroken, if_neg fun quote => own (.inl quote), space,
      ih fun v inside => clean v (List.mem_cons_of_mem _ inside)]
    simp

theorem unbroken_quoted (unquoted : unit '"' ∉ text) : unbroken true text = true := by
  induction text with
  | nil => rfl
  | cons u text ih =>
    obtain ⟨first, rest⟩ := not_or.mp (List.mem_cons.not.mp unquoted)
    rw [unbroken, if_neg fun quote => first quote.symm, ih rest]
    rfl

theorem unbroken_opening {quoted : Bool} (body : JsString) :
    unbroken false (opening quoted ++ body) = unbroken quoted body := by
  cases quoted with
  | true => exact if_pos rfl
  | false => rfl

/-! ### Accepting -/

/-- What may be typed after a suggestion: nothing after a value, and after a property a value whose
white space is in quotes. -/
def Follows (item : Suggestion) (quoted : Bool) (typed : JsString) : Prop :=
  match item.kind with
  | .value => typed = []
  | .property =>
    if quoted then unit '"' ∉ typed else unbroken false typed = true ∧ Paired typed

/-- The text once a suggestion is accepted and more is typed where the caret is then. -/
def acceptAndType (input : JsString) (suggestions : SuggestionResult) (item : Suggestion)
    (typed : JsString) : JsString :=
  (accept input suggestions item).take (acceptedCaret suggestions item) ++ typed ++
    (accept input suggestions item).drop (acceptedCaret suggestions item)

/-- A suggestion changes the term that the caret is in, and no other, into one of the same sign
that is resolved as suggested. -/
def Effective (runtime : Runtime) (input : JsString) (caret : Nat) (item : Suggestion) : Prop :=
  let suggestions := suggestionsFor runtime input caret
  ∃ old later, (tokenize input).tokens = termsBefore input caret ++ old :: later ∧
    ∀ typed, Follows item (TypedToken.of (wordBefore input caret)).quoted typed →
      ∃ new, (tokenize (acceptAndType input suggestions item typed)).tokens =
          termsBefore input caret ++ new :: later ∧
        new.negated = old.negated ∧
        Resolved runtime (wordBefore input caret) item (unquoted typed) new

/-- The tokenizer splits the text at the word that the caret is in. -/
structure Fits (input : JsString) (caret : Nat) : Prop where
  outside : Paired (textBefore input caret)
  quoted : (TypedToken.of (wordBefore input caret)).quoted = true → textAfter input caret = []
  unquoted : (TypedToken.of (wordBefore input caret)).quoted = false →
    ∃ old, (tokenize input).tokens = (tokenize (textBefore input caret)).tokens ++
      old :: (tokenize (textAfter input caret)).tokens

/-- A suggestion is given for a word, and is one for what is typed of it. -/
theorem suggestionsFor_mem (listed : item ∈ (suggestionsFor runtime input caret).items) :
    Suggested runtime (wordBefore input caret) item ∧
      (suggestionsFor runtime input caret).replaceStart =
        caret - (wordBefore input caret).length ∧
      (suggestionsFor runtime input caret).replaceEnd =
        caret + (wordAfter input caret).length := by
  unfold suggestionsFor at *
  dsimp only at *
  split at listed
  · cases listed
  case isFalse typed =>
    rw [if_neg typed]
    cases some_ : suggestionItems runtime (wordBefore input caret) with
    | none =>
      rw [some_] at listed
      cases listed
    | some items =>
      rw [some_] at listed
      exact ⟨suggestionItems_mem some_ listed, rfl, rfl⟩

theorem acceptAndType_eq (inside : caret ≤ input.length) {typed : JsString}
    (listed : item ∈ (suggestionsFor runtime input caret).items)
    (insert : item.insert = (TypedToken.of (wordBefore input caret)).lead ++ text) :
    acceptAndType input (suggestionsFor runtime input caret) item typed =
      textBefore input caret ++ (sign (TypedToken.of (wordBefore input caret)).negated ++
        (opening (TypedToken.of (wordBefore input caret)).quoted ++ (text ++ typed)) ++
          textAfter input caret) := by
  obtain ⟨-, start, stop⟩ := suggestionsFor_mem listed
  have accepted : accept input (suggestionsFor runtime input caret) item =
      textBefore input caret ++ item.insert ++ textAfter input caret := by
    rw [accept, start, stop]
    rfl
  have length : acceptedCaret (suggestionsFor runtime input caret) item =
      (textBefore input caret ++ item.insert).length := by
    rw [acceptedCaret, start, List.length_append, textBefore, List.length_take]
    omega
  rw [acceptAndType, accepted, length, List.take_left, List.drop_left, insert,
    TypedToken.lead_eq]
  simp only [List.append_assoc]

theorem input_term (inside : caret ≤ input.length) :
    input = textBefore input caret ++ (sign (TypedToken.of (wordBefore input caret)).negated ++
      (opening (TypedToken.of (wordBefore input caret)).quoted ++
        ((TypedToken.of (wordBefore input caret)).bare ++ wordAfter input caret)) ++
          textAfter input caret) := by
  have word := TypedToken.lead_bare (wordBefore input caret)
  rw [TypedToken.lead_eq] at word
  have split := input_split inside
  nth_rewrite 1 [split, ← word]
  simp only [List.append_assoc]

theorem paired_clean (clean : unit '"' ∉ text) : Paired text := by
  rw [Paired, List.count_eq_zero.mpr clean]
  exact ⟨0, rfl⟩

theorem paired_sign (negated : Bool) : Paired (sign negated) := by
  cases negated <;> exact paired_clean (by decide)

theorem follows_nil (item : Suggestion) (quoted : Bool) : Follows item quoted [] := by
  unfold Follows
  cases item.kind with
  | value => rfl
  | property =>
    cases quoted with
    | true => exact List.not_mem_nil
    | false => exact ⟨rfl, paired_clean List.not_mem_nil⟩

theorem Follows.unbroken {quoted : Bool} {typed : JsString} (follows : Follows item quoted typed) :
    unbroken quoted typed = true ∧ (quoted = false → Paired typed) ∧
      (item.kind = .value → typed = []) := by
  unfold Follows at follows
  cases kind : item.kind with
  | value =>
    simp only [kind] at follows
    rw [follows]
    exact ⟨rfl, fun _ => paired_clean List.not_mem_nil, fun _ => rfl⟩
  | property =>
    simp only [kind] at follows
    cases quoted with
    | true =>
      refine ⟨unbroken_quoted follows, ?_, ?_⟩
      · intro unquoted
        cases unquoted
      · intro value
        cases value
    | false =>
      refine ⟨follows.1, fun _ => follows.2, ?_⟩
      intro value
      cases value

/-- The word that the caret is in, as a term. -/
theorem Suggested.termBody (suggested : Suggested runtime (wordBefore input caret) item) :
    TermBody (TypedToken.of (wordBefore input caret)).negated
      (TypedToken.of (wordBefore input caret)).quoted
      ((TypedToken.of (wordBefore input caret)).bare ++ wordAfter input caret) := by
  obtain ⟨some_, clean⟩ := suggested.bare
  refine ⟨?_, ?_, ?_⟩
  · rw [unbroken_opening]
    apply unbroken_clean
    intro u inside
    rcases List.mem_append.mp inside with own | rest
    · have word : u ∈ wordBefore input caret := by
        rw [← TypedToken.lead_bare (wordBefore input caret)]
        exact List.mem_append_right _ own
      exact wordBefore_clean u word
    · exact wordAfter_clean u rest
  · rw [unquoted_append, unquoted_eq clean]
    exact fun empty => some_ (List.append_eq_nil_iff.mp empty).1
  · intro positive unquoted
    rw [List.head?_append_of_ne_nil _ some_]
    exact TypedToken.of_bare_head positive unquoted

namespace Insertable

theorem unquoted_text (insertable : Insertable runtime token item text) (typed : JsString) :
    unquoted (text ++ typed) = text ++ unquoted typed := by
  rw [unquoted_append, unquoted_eq fun quote => insertable.clean _ quote (.inl rfl)]

theorem termBody (insertable : Insertable runtime token item text) (typed : JsString)
    (whole : unbroken (TypedToken.of token).quoted typed = true) :
    TermBody (TypedToken.of token).negated (TypedToken.of token).quoted (text ++ typed) := by
  refine ⟨?_, ?_, ?_⟩
  · rw [unbroken_opening, unbroken_append insertable.clean, whole]
  · rw [insertable.unquoted_text]
    exact fun empty => insertable.some_ (List.append_eq_nil_iff.mp empty).1
  · intro positive unquoted
    rw [List.head?_append_of_ne_nil _ insertable.some_]
    exact insertable.plain positive unquoted

/-- What is inserted without a quote ends where it did before. -/
theorem startsAfter (insertable : Insertable runtime (wordBefore input caret) item text)
    {typed : JsString} (paired : Paired typed)
    (unquoted : (TypedToken.of (wordBefore input caret)).quoted = false) :
    StartsAfter (sign (TypedToken.of (wordBefore input caret)).negated ++
      (opening (TypedToken.of (wordBefore input caret)).quoted ++ (text ++ typed)))
      (textAfter input caret) := by
  rcases textAfter_starts input caret with none | ⟨w, rest, some_, space⟩
  · exact .inl none
  · refine .inr ⟨?_, w, rest, some_, space⟩
    rw [unquoted, paired_append (paired_sign _)]
    exact (paired_append (paired_clean fun quote => insertable.clean _ quote (.inl rfl))).mpr paired

end Insertable

/-- The term of the caret in its place. -/
theorem Fits.term (fits : Fits input caret) (inside : caret ≤ input.length)
    (suggested : Suggested runtime (wordBefore input caret) item) :
    ∃ text, (tokenize input).tokens = (tokenize (textBefore input caret)).tokens ++
      ⟨text, (TypedToken.of (wordBefore input caret)).negated⟩ ::
        (tokenize (textAfter input caret)).tokens := by
  have ends : EndsBefore (textBefore input caret) := ⟨fits.outside, textBefore_ends inside⟩
  cases quoted : (TypedToken.of (wordBefore input caret)).quoted with
  | true =>
    have own := suggested.termBody.tokens ends (.inl (fits.quoted quoted))
    rw [← input_term inside] at own
    exact ⟨_, own⟩
  | false =>
    obtain ⟨old, own⟩ := fits.unquoted quoted
    obtain ⟨more, others, begins⟩ := suggested.termBody.begins ends (textAfter input caret)
    rw [← input_term inside, own] at begins
    have same := (List.cons.inj (List.append_cancel_left begins)).1
    refine ⟨old.text, ?_⟩
    rw [own, same]

/-- The text is split at a word whose quotes are paired, as are those before it. -/
theorem Fits.of_paired (inside : caret ≤ input.length)
    (suggested : Suggested runtime (wordBefore input caret) item)
    (unquoted : (TypedToken.of (wordBefore input caret)).quoted = false)
    (before : Paired (textBefore input caret))
    (word : Paired (wordBefore input caret ++ wordAfter input caret)) : Fits input caret := by
  have ends : EndsBefore (textBefore input caret) := ⟨before, textBefore_ends inside⟩
  have whole := TypedToken.lead_bare (wordBefore input caret)
  rw [TypedToken.lead_eq] at whole
  have starts : StartsAfter (sign (TypedToken.of (wordBefore input caret)).negated ++
      (opening (TypedToken.of (wordBefore input caret)).quoted ++
        ((TypedToken.of (wordBefore input caret)).bare ++ wordAfter input caret)))
      (textAfter input caret) := by
    rcases textAfter_starts input caret with none | some_
    · exact .inl none
    · refine .inr ⟨?_, some_⟩
      rwa [← List.append_assoc, ← List.append_assoc, whole]
  have own := suggested.termBody.tokens ends starts
  rw [← input_term inside] at own
  refine ⟨before, ?_, fun _ => ⟨_, own⟩⟩
  intro quoted
  rw [unquoted] at quoted
  cases quoted

theorem effective_of_fits (inside : caret ≤ input.length)
    (listed : item ∈ (suggestionsFor runtime input caret).items) (fits : Fits input caret) :
    Effective runtime input caret item := by
  have suggested := (suggestionsFor_mem listed).1
  obtain ⟨text, insertable⟩ := suggested.insertable
  have ends : EndsBefore (textBefore input caret) := ⟨fits.outside, textBefore_ends inside⟩
  have before : termsBefore input caret = (tokenize (textBefore input caret)).tokens :=
    ends_tokens ends
  obtain ⟨old, own⟩ := fits.term inside suggested
  refine ⟨_, _, before.symm ▸ own, ?_⟩
  intro typed follows
  obtain ⟨whole, paired, value⟩ := follows.unbroken
  have starts : StartsAfter (sign (TypedToken.of (wordBefore input caret)).negated ++
      (opening (TypedToken.of (wordBefore input caret)).quoted ++ (text ++ typed)))
      (textAfter input caret) := by
    cases quoted : (TypedToken.of (wordBefore input caret)).quoted with
    | true => exact .inl (fits.quoted quoted)
    | false =>
      rw [← quoted]
      exact insertable.startsAfter (paired quoted) quoted
  have changed := (insertable.termBody typed whole).tokens ends starts
  rw [← acceptAndType_eq inside listed insertable.insert, ← before] at changed
  refine ⟨_, changed, rfl, ?_⟩
  rw [insertable.unquoted_text]
  apply insertable.resolved
  intro kind
  rw [value kind]
  rfl

theorem fits_of_effective (inside : caret ≤ input.length)
    (listed : item ∈ (suggestionsFor runtime input caret).items)
    (effective : Effective runtime input caret item) : Fits input caret := by
  have suggested := (suggestionsFor_mem listed).1
  obtain ⟨text, insertable⟩ := suggested.insertable
  obtain ⟨old, later, own, changes⟩ := effective
  obtain ⟨new, changed, -, resolved⟩ := changes [] (follows_nil item _)
  have clean := suggested.resolved_clean resolved
  rw [acceptAndType_eq inside listed insertable.insert] at changed
  have outside : Paired (textBefore input caret) := by
    by_contra odd
    obtain ⟨started, w, within, space⟩ := scan_inside odd (textBefore_ends inside)
    have some_ : (Scan.init.scan (textBefore input caret)).current ≠ [] :=
      List.ne_nil_of_mem within
    rw [tokenize_scan, Scan.scan_append] at changed
    dsimp only at changed
    obtain ⟨more, others, begun⟩ := Scan.scan_begun started some_ _
    rw [begun] at changed
    have same := (List.cons.inj (List.append_cancel_left changed)).1
    have white := clean w (by rw [← same]; exact List.mem_append_left _ within)
    rw [space] at white
    cases white
  have ends : EndsBefore (textBefore input caret) := ⟨outside, textBefore_ends inside⟩
  rw [termsBefore, ends_tokens ends] at own changed
  refine ⟨outside, ?_, ?_⟩
  · intro quoted
    rcases textAfter_starts input caret with none | ⟨w, rest, some_, space⟩
    · exact none
    · exfalso
      have quote := isSpace_ne_quote space
      have term := insertable.termBody [w] (by
        rw [quoted]
        exact unbroken_quoted (by simpa using quote.symm))
      obtain ⟨more, others, begins⟩ := term.begins ends rest
      rw [some_, List.append_nil] at changed
      have text_ : sign (TypedToken.of (wordBefore input caret)).negated ++
          (opening (TypedToken.of (wordBefore input caret)).quoted ++ text) ++ w :: rest =
            sign (TypedToken.of (wordBefore input caret)).negated ++
              (opening (TypedToken.of (wordBefore input caret)).quoted ++ (text ++ [w])) ++
                rest := by simp
      rw [text_, begins, insertable.unquoted_text] at changed
      have same := (List.cons.inj (List.append_cancel_left changed)).1
      have inside : w ∈ new.text := by
        rw [← same]
        simp [unquoted, quote]
      have white := clean w inside
      rw [space] at white
      cases white
  · intro unquoted
    have starts := insertable.startsAfter (paired_clean List.not_mem_nil) unquoted
    have term := (insertable.termBody [] rfl).tokens ends starts
    rw [changed] at term
    have same := (List.cons.inj (List.append_cancel_left term)).2
    exact ⟨old, by rw [own, same]⟩

/-- Accepting a suggestion is local and effective just if the tokenizer splits the text at the word
that the caret is in: outside of quotes, at the end of the text if the word begins with a quote,
and otherwise such that what follows the word is split by itself. -/
theorem autocomplete_acceptance (runtime : Runtime) (input : JsString) (caret : Nat)
    (item : Suggestion) (inside : caret ≤ input.length)
    (listed : item ∈ (suggestionsFor runtime input caret).items) :
    Effective runtime input caret item ↔ Fits input caret :=
  ⟨fits_of_effective inside listed, effective_of_fits inside listed⟩

/-- The completion of `-sta`, within quotes or not. -/
def statusSuggestion (insert : String) : Suggestion :=
  ⟨.property, js "status:", some (js "status"), js insert⟩

theorem autocomplete_acceptance_status :
    Effective asciiRuntime (js "\"a b\" -sta c") 10 (statusSuggestion "-status:") := by
  have inside : 10 ≤ (js "\"a b\" -sta c").length := by decide +kernel
  have listed : statusSuggestion "-status:" ∈
      (suggestionsFor asciiRuntime (js "\"a b\" -sta c") 10).items := by decide +kernel
  apply (autocomplete_acceptance asciiRuntime _ 10 _ inside listed).mpr
  apply Fits.of_paired inside (suggestionsFor_mem listed).1 (by decide +kernel)
  · exact ⟨1, by decide +kernel⟩
  · exact ⟨0, by decide +kernel⟩

/-- The closing quote is replaced along with the word, and the next term becomes part of this
one. -/
theorem autocomplete_closing_quote :
    statusSuggestion "\"status:" ∈ (suggestionsFor asciiRuntime (js "\"sta\" foo") 4).items ∧
      (tokenize (js "\"sta\" foo")).tokens = [⟨js "sta", false⟩, ⟨js "foo", false⟩] ∧
      (tokenize (accept (js "\"sta\" foo") (suggestionsFor asciiRuntime (js "\"sta\" foo") 4)
        (statusSuggestion "\"status:"))).tokens = [⟨js "status: foo", false⟩] ∧
      ¬Effective asciiRuntime (js "\"sta\" foo") 4 (statusSuggestion "\"status:") := by
  have listed : statusSuggestion "\"status:" ∈
      (suggestionsFor asciiRuntime (js "\"sta\" foo") 4).items := by decide +kernel
  refine ⟨listed, by decide +kernel, by decide +kernel, ?_⟩
  intro effective
  have fits := fits_of_effective (by decide +kernel) listed effective
  exact absurd (fits.quoted (by decide +kernel)) (by decide +kernel)

end Rsbtd.WebUi
