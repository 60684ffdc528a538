import Rsbtd.WebUi.Query

/-!
# Suggestions of the search box

`autocomplete.ts` suggests a property or a value for the word the caret is in, and
`SearchBox.tsx` puts an accepted suggestion in its place.
-/

namespace Rsbtd.WebUi

open JsString

inductive SuggestionKind where
  | property
  | value
deriving DecidableEq, Repr

/-- `detail` is the key of the field whose label is shown. -/
structure Suggestion where
  kind : SuggestionKind
  label : JsString
  detail : Option JsString
  insert : JsString
deriving DecidableEq, Repr

structure SuggestionResult where
  items : List Suggestion
  replaceStart : Nat
  replaceEnd : Nat
deriving DecidableEq, Repr

namespace SuggestionResult

def empty : SuggestionResult := ⟨[], 0, 0⟩

end SuggestionResult

/-- What is typed of the word that the caret is in. -/
def wordBefore (input : JsString) (caret : Nat) : JsString :=
  ((input.take caret).reverse.takeWhile fun u => !isSpace u).reverse

/-- The rest of that word. -/
def wordAfter (input : JsString) (caret : Nat) : JsString :=
  (input.drop caret).takeWhile fun u => !isSpace u

/-- A token without its sign and the quote it begins with. -/
structure TypedToken where
  negated : Bool
  quoted : Bool
  bare : JsString
deriving DecidableEq, Repr

namespace TypedToken

def of (token : JsString) : TypedToken :=
  let negated := (js "-").isPrefixOf token
  let body := if negated then token.drop 1 else token
  let quoted := (js "\"").isPrefixOf body
  ⟨negated, quoted, if quoted then body.drop 1 else body⟩

/-- `negPrefix` and `quotePrefix`. -/
def lead (t : TypedToken) : JsString :=
  (if t.negated then js "-" else []) ++ if t.quoted then js "\"" else []

end TypedToken

section Suggestions

variable (runtime : Runtime)

/-- The suggestion of a field before the colon. -/
def suggestProperty (t : TypedToken) (field : TorrentFieldDef) : Option Suggestion :=
  let needle := runtime.toLowerCase t.bare
  if field.filterable = false then none
  else
    match (field.key :: field.aliases).find? fun n => needle.isPrefixOf (runtime.toLowerCase n) with
    | none => none
    | some hit =>
      -- a name that is typed in full is not suggested
      if runtime.toLowerCase hit = needle then none
      else some ⟨.property, hit ++ js ":", some field.key, t.lead ++ hit ++ js ":"⟩

/-- The values that are suggested for a field, if it is of a type that has them. -/
def suggestedValues (field : TorrentFieldDef) : Option (List JsString) :=
  match field.type with
  | .bool => some [js "true", js "false"]
  | .enum => some field.enumValues
  | _ => none

/-- The suggestions after the colon. -/
def suggestValues (t : TypedToken) (key typed : JsString) (values : List JsString) :
    List Suggestion :=
  let needle := runtime.toLowerCase typed
  let hits := values.filter fun v =>
    needle.isPrefixOf (runtime.toLowerCase v) && runtime.toLowerCase v ≠ needle
  (hits.take 12).map fun v => ⟨.value, v, none, t.lead ++ key ++ js ":" ++ v⟩

/-- The suggestions for what is typed of a word; `none` stands for `EMPTY`. -/
def suggestionItems (token : JsString) : Option (List Suggestion) :=
  let t := TypedToken.of token
  match t.bare.idxOf? (unit ':') with
  | none =>
    if runtime.toLowerCase t.bare = [] then none
    else some ((torrentFields.filterMap (suggestProperty runtime t)).take 12)
  | some colon =>
    let key := t.bare.take colon
    match (lookupTorrentField runtime key).bind suggestedValues with
    | none => none
    | some values => some (suggestValues runtime t key (t.bare.drop (colon + 1)) values)

def suggestionsFor (input : JsString) (caret : Nat) : SuggestionResult :=
  let token := wordBefore input caret -- complete only what's typed so far
  if token = [] then .empty
  else
    match suggestionItems runtime token with
    | none => .empty
    | some items =>
      ⟨items, caret - token.length, caret + (wordAfter input caret).length⟩

end Suggestions

/-- The text once a suggestion is accepted. -/
def accept (input : JsString) (suggestions : SuggestionResult) (item : Suggestion) : JsString :=
  input.take suggestions.replaceStart ++ item.insert ++ input.drop suggestions.replaceEnd

/-- Where the caret is then. -/
def acceptedCaret (suggestions : SuggestionResult) (item : Suggestion) : Nat :=
  suggestions.replaceStart + item.insert.length

end Rsbtd.WebUi
