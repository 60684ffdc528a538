import Mathlib.Data.List.DropRight
import Rsbtd.WebUi.HashParams

/-!
# Parameters consumed from the hash

A hash that starts with a slash has its parameters behind the first question mark, any other
is parameters as a whole.  The code splits every hash at the first question mark, and so does
what it should exactly if nothing of the parameters stands before it, or nothing is given.
-/

namespace Rsbtd.WebUi

open FormData

variable {U : Type} {browser : Browser U} {s : HashState} {hash route query : Bytes}
  {params : List (JsString × JsString)}

/-! ## As documented -/

def documentedRoute (hash : Bytes) : Bytes :=
  if hash.head? = some (byte '/') then hash.takeWhile (· ≠ byte '?') else []

def documentedParams (utf8 : Utf8) (hash : Bytes) : List (JsString × JsString) :=
  searchParams utf8
    (if hash.head? = some (byte '/') then (hash.dropWhile (· ≠ byte '?')).tail else hash)

/-- What `applyHashParams` should do. -/
structure Consumed (browser : Browser U) (s : HashState) : Prop where
  gone : ∀ param ∈ documentedParams browser.utf8 (applyHashParams browser s).hash,
    param.1 ≠ js "url" ∧ param.1 ≠ js "token"
  url : ∀ url, (documentedParams browser.utf8 s.hash).lookup (js "url") = some url →
    trim url ≠ [] →
    (applyHashParams browser s).httpEndpoint browser = normalizeEndpoint browser (trim url)
  token : ∀ token, (documentedParams browser.utf8 s.hash).lookup (js "token") = some token →
    token ≠ [] → (applyHashParams browser s).getToken browser = some token
  route : documentedRoute (applyHashParams browser s).hash = documentedRoute s.hash
  others : documentedParams browser.utf8 (applyHashParams browser s).hash =
    (documentedParams browser.utf8 s.hash).filter fun param =>
      param.1 ≠ js "url" ∧ param.1 ≠ js "token"
  again : applyHashParams browser (applyHashParams browser s) = applyHashParams browser s

/-! ## What is stored -/

theorem trim_trim (text : JsString) : trim (trim text) = trim text := by
  have front : (trim text).dropWhile JsString.isSpace = trim text := by
    have inside : trim text <+: text.dropWhile JsString.isSpace := List.rdropWhile_prefix _ _
    cases trimmed : trim text with
    | nil => rfl
    | cons u rest =>
      rw [trimmed] at inside
      obtain ⟨more, same⟩ := inside
      have first := List.head?_dropWhile_not JsString.isSpace text
      rw [← same] at first
      exact List.dropWhile_cons_of_neg (Bool.eq_false_iff.mp first)
  rw [trim, front]
  exact List.rdropWhile_idempotent _ _

theorem normalizeEndpoint_trimmed {url : JsString} (trimmed : trim url = url)
    (nonempty : url ≠ []) :
    trim (normalizeEndpoint browser url) = normalizeEndpoint browser url ∧
      normalizeEndpoint browser url ≠ [] := by
  rw [normalizeEndpoint]
  split
  · exact ⟨trimmed, nonempty⟩
  · split
    · exact ⟨browser.trim_toString _, browser.toString_ne_nil _⟩
    · exact ⟨browser.trim_toString _, browser.toString_ne_nil _⟩

/-- The default endpoint is not stored, but it is the endpoint then. -/
theorem httpEndpoint_setEndpointSetting {value : JsString} (trimmed : trim value = value)
    (nonempty : value ≠ []) :
    (s.setEndpointSetting browser value).httpEndpoint browser = value := by
  rw [HashState.setEndpointSetting, trimmed]
  split
  case isTrue => rfl
  case isFalse unset =>
    rw [HashState.httpEndpoint]
    by_contra other
    exact unset ⟨nonempty, nonempty, fun same => other same.symm⟩

theorem httpEndpoint_storeUrl {url : JsString} (nonempty : trim url ≠ []) :
    (s.storeUrl browser (some url)).httpEndpoint browser =
      normalizeEndpoint browser (trim url) := by
  obtain ⟨trimmed, some_⟩ := @normalizeEndpoint_trimmed _ browser _ (trim_trim url) nonempty
  rw [HashState.storeUrl, if_pos nonempty, httpEndpoint_setEndpointSetting trimmed some_]

theorem httpEndpoint_storeToken (token : Option JsString) :
    (s.storeToken browser token).httpEndpoint browser = s.httpEndpoint browser := by
  cases token with
  | none => rfl
  | some token =>
    rw [HashState.storeToken]
    split <;> rfl

theorem getToken_storeToken {token : JsString} (nonempty : token ≠ []) :
    (s.storeToken browser (some token)).getToken browser = some token := by
  rw [HashState.storeToken, if_pos nonempty, HashState.getToken]
  have same : (s.setToken browser token).endpointIdentity browser = s.endpointIdentity browser :=
    rfl
  rw [same, HashState.setToken]
  dsimp only
  rw [if_pos rfl, Option.some_or]

/-! ## Parameters -/

/-- A url or a token is given. -/
def Given (params : List (JsString × JsString)) : Prop :=
  ∃ param ∈ params, param.1 = js "url" ∨ param.1 = js "token"

def keptParams (params : List (JsString × JsString)) : List (JsString × JsString) :=
  params.filter fun param => param.1 ≠ js "url" ∧ param.1 ≠ js "token"

theorem withoutConsumed_eq (params : List (JsString × JsString)) :
    withoutConsumed params = keptParams params := by
  rw [withoutConsumed, List.filter_filter, keptParams]
  apply List.filter_congr
  intro param _
  rw [← Bool.decide_and, decide_eq_decide, and_comm]

theorem not_given_iff : ¬Given params ↔ ∀ param ∈ params,
    param.1 ≠ js "url" ∧ param.1 ≠ js "token" := by
  simp only [Given, not_exists, not_and, not_or]

theorem keptParams_of_not_given (none_ : ¬Given params) : keptParams params = params :=
  List.filter_eq_self.mpr fun param mem => decide_eq_true (not_given_iff.mp none_ param mem)

theorem not_given_keptParams (params : List (JsString × JsString)) : ¬Given (keptParams params) :=
  not_given_iff.mpr fun _ mem => of_decide_eq_true (List.mem_filter.mp mem).2

theorem lookup_none_iff :
    params.lookup (js "url") = none ∧ params.lookup (js "token") = none ↔ ¬Given params := by
  rw [List.lookup_eq_none_iff, List.lookup_eq_none_iff, not_given_iff]
  simp only [bne_iff_ne, ← forall₂_and]
  exact forall₂_congr fun _ _ => and_congr ne_comm ne_comm

theorem applyQuery_not_given (none_ : ¬Given (searchParams browser.utf8 query)) :
    applyQuery browser s route query = s :=
  if_pos (lookup_none_iff.mpr none_)

theorem applyQuery_given (given : Given (searchParams browser.utf8 query)) :
    applyQuery browser s route query =
      { (s.storeUrl browser ((searchParams browser.utf8 query).lookup (js "url"))).storeToken
          browser ((searchParams browser.utf8 query).lookup (js "token")) with
        hash := restoredHash route
          (serialize browser.utf8 (keptParams (searchParams browser.utf8 query))) } := by
  rw [← withoutConsumed_eq]
  exact if_neg (lookup_none_iff.not.mpr (not_not.mpr given))

/-! ## Splitting -/

theorem exists_question (mem : byte '?' ∈ hash) :
    ∃ route query, hash = route ++ byte '?' :: query ∧ byte '?' ∉ route :=
  List.eq_append_cons_of_mem mem

theorem splitHash_question (absent : byte '?' ∉ route) (query : Bytes) :
    splitHash (route ++ byte '?' :: query) = (route, query) := by
  have first : (route ++ byte '?' :: query).idxOf? (byte '?') = some route.length := by
    rw [List.idxOf?_eq_some_iff]
    refine ⟨by simp, by simp, fun j before same => absent ?_⟩
    rw [List.getElem_append_left before] at same
    exact same ▸ List.getElem_mem before
  rw [splitHash, first]
  simp

theorem splitHash_none (absent : byte '?' ∉ hash) :
    splitHash hash = if hash.head? = some (byte '/') then (hash, []) else ([], hash) := by
  rw [splitHash, List.idxOf?_eq_none_iff.mpr absent]

theorem searchParams_nil (utf8 : Utf8) : searchParams utf8 [] = [] := rfl

theorem searchParams_question (utf8 : Utf8) (query : Bytes) :
    searchParams utf8 (byte '?' :: query) = parseForm utf8 query := by
  rw [searchParams, if_pos List.head?_cons, List.tail_cons]

theorem searchParams_plain {utf8 : Utf8} (plain : query.head? ≠ some (byte '?')) :
    searchParams utf8 query = parseForm utf8 query := by
  rw [searchParams, if_neg plain]

theorem documented_slash (slash : route.head? = some (byte '/')) (absent : byte '?' ∉ route)
    (utf8 : Utf8) (query : Bytes) :
    documentedRoute (route ++ byte '?' :: query) = route ∧
      documentedParams utf8 (route ++ byte '?' :: query) = searchParams utf8 query := by
  have first : (route ++ byte '?' :: query).head? = some (byte '/') := by
    rw [List.head?_append, slash]
    rfl
  have before : ∀ b ∈ route, decide (b ≠ byte '?') = true := by
    intro b mem
    exact decide_eq_true fun same => absent (same ▸ mem)
  rw [documentedRoute, documentedParams, if_pos first, if_pos first,
    List.takeWhile_append_of_pos before, List.dropWhile_append_of_pos before]
  simp

theorem documented_route (slash : hash.head? = some (byte '/')) (absent : byte '?' ∉ hash)
    (utf8 : Utf8) : documentedRoute hash = hash ∧ documentedParams utf8 hash = [] := by
  have all : ∀ b ∈ hash, decide (b ≠ byte '?') = true := by
    intro b mem
    exact decide_eq_true fun same => absent (same ▸ mem)
  rw [documentedRoute, documentedParams, if_pos slash, if_pos slash,
    List.takeWhile_eq_self_iff.mpr all, List.dropWhile_eq_nil_iff.mpr all]
  exact ⟨rfl, rfl⟩

theorem documented_params (bare : hash.head? ≠ some (byte '/')) (utf8 : Utf8) :
    documentedRoute hash = [] ∧ documentedParams utf8 hash = searchParams utf8 hash := by
  rw [documentedRoute, documentedParams, if_neg bare, if_neg bare]
  exact ⟨rfl, rfl⟩

/-! ## Restored hashes -/

theorem decoded_searchParams (utf8 : Utf8) (query : Bytes) :
    ∀ param ∈ searchParams utf8 query, DecodedPair utf8 param :=
  decoded_parseSegments _

theorem decoded_keptParams {utf8 : Utf8} (decoded : ∀ param ∈ params, DecodedPair utf8 param) :
    ∀ param ∈ keptParams params, DecodedPair utf8 param :=
  fun param mem => decoded param (List.mem_filter.mp mem).1

theorem searchParams_serialize {utf8 : Utf8} (decoded : ∀ param ∈ params, DecodedPair utf8 param) :
    searchParams utf8 (serialize utf8 params) = params := by
  rw [searchParams_plain, parseForm_serialize decoded]
  intro first
  exact question_not_mem_serialize params (List.mem_of_mem_head? first)

theorem restoredHash_nil (route : Bytes) : restoredHash route [] = route := by
  rw [restoredHash, if_neg (not_not.mpr rfl), List.append_nil]

theorem restoredHash_cons {rest : Bytes} (nonempty : rest ≠ []) :
    restoredHash route rest = route ++ byte '?' :: rest := by
  rw [restoredHash, if_pos nonempty]

/-- A hash is read as the route and the parameters it was made of. -/
theorem documented_restored {utf8 : Utf8} (shape : route = [] ∨ route.head? = some (byte '/'))
    (absent : byte '?' ∉ route) (decoded : ∀ param ∈ params, DecodedPair utf8 param) :
    documentedRoute (restoredHash route (serialize utf8 params)) = route ∧
      documentedParams utf8 (restoredHash route (serialize utf8 params)) = params := by
  by_cases empty : params = []
  · have nothing : serialize utf8 params = [] := by
      rw [empty]
      rfl
    rw [nothing, restoredHash_nil, empty]
    obtain rfl | slash := shape
    · exact ⟨rfl, rfl⟩
    · exact documented_route slash absent utf8
  · rw [restoredHash_cons (serialize_ne_nil empty)]
    obtain rfl | slash := shape
    · have bare : (byte '?' :: serialize utf8 params).head? ≠ some (byte '/') := by
        rw [List.head?_cons]
        decide
      obtain ⟨none_, all⟩ := documented_params bare utf8
      rw [List.nil_append, none_, all, searchParams_question, parseForm_serialize decoded]
      exact ⟨rfl, rfl⟩
    · obtain ⟨same, all⟩ := documented_slash slash absent utf8 (serialize utf8 params)
      rw [same, all, searchParams_serialize decoded]
      exact ⟨rfl, rfl⟩

theorem applyHashParams_eq {route query : Bytes} (split : splitHash s.hash = (route, query))
    (nonempty : s.hash ≠ []) (some_ : query ≠ []) :
    applyHashParams browser s = applyQuery browser s route query := by
  rw [applyHashParams, if_neg nonempty, split, if_neg some_]

theorem applyHashParams_not_given (split : splitHash s.hash = (route, query))
    (nonempty : s.hash ≠ []) (none_ : ¬Given (searchParams browser.utf8 query)) :
    applyHashParams browser s = s := by
  by_cases empty : query = []
  · rw [applyHashParams, if_neg nonempty, split, if_pos empty]
  · rw [applyHashParams_eq split nonempty empty, applyQuery_not_given none_]

/-- Nothing is consumed a second time. -/
theorem applyHashParams_restored (absent : byte '?' ∉ route)
    (shape : params ≠ [] ∨ route = [] ∨ route.head? = some (byte '/'))
    (decoded : ∀ param ∈ params, DecodedPair browser.utf8 param) (none_ : ¬Given params)
    (restored : s.hash = restoredHash route (serialize browser.utf8 params)) :
    applyHashParams browser s = s := by
  by_cases empty : params = []
  · have shape := shape.resolve_left (not_not.mpr empty)
    have own : s.hash = route := by
      rw [restored, empty]
      exact restoredHash_nil route
    obtain rfl | slash := shape
    · rw [applyHashParams, if_pos own]
    · have split : splitHash s.hash = (route, []) := by
        rw [own, splitHash_none absent, if_pos slash]
      rw [applyHashParams, split]
      split
      · rfl
      · exact if_pos rfl
  · have written := @serialize_ne_nil browser.utf8 _ empty
    rw [restoredHash_cons written] at restored
    have split := splitHash_question absent (serialize browser.utf8 params)
    rw [← restored] at split
    have nonempty : s.hash ≠ [] := by
      rw [restored]
      exact List.append_ne_nil_of_right_ne_nil _ (List.cons_ne_nil _ _)
    rw [applyHashParams_eq split nonempty written]
    apply applyQuery_not_given
    rw [searchParams_serialize decoded]
    exact none_

/-! ## Consumption -/

theorem consumed_of_unchanged (unchanged : applyHashParams browser s = s)
    (none_ : ¬Given (documentedParams browser.utf8 s.hash)) : Consumed browser s := by
  have absent := lookup_none_iff.mpr none_
  refine ⟨?_, ?_, ?_, ?_, ?_, ?_⟩
  · rw [unchanged]
    exact not_given_iff.mp none_
  · intro url given
    rw [absent.1] at given
    cases given
  · intro token given
    rw [absent.2] at given
    cases given
  · rw [unchanged]
  · rw [unchanged]
    exact (keptParams_of_not_given none_).symm
  · rw [unchanged, unchanged]

section

variable (split : splitHash s.hash = (route, query)) (nonempty : s.hash ≠ [])
  (given : Given (searchParams browser.utf8 query))
include split nonempty given

theorem applyHashParams_given : applyHashParams browser s =
    { (s.storeUrl browser ((searchParams browser.utf8 query).lookup (js "url"))).storeToken
        browser ((searchParams browser.utf8 query).lookup (js "token")) with
      hash := restoredHash route
        (serialize browser.utf8 (keptParams (searchParams browser.utf8 query))) } := by
  have some_ : query ≠ [] := by
    rintro rfl
    obtain ⟨param, mem, -⟩ := given
    cases mem
  rw [applyHashParams_eq split nonempty some_, applyQuery_given given]

/-- What is given as documented is given in the query first, and what is left is read as
documented. -/
theorem consumed_of_given (absent : byte '?' ∉ route)
    (shape : keptParams (searchParams browser.utf8 query) ≠ [] ∨ route = [] ∨
      route.head? = some (byte '/'))
    (same : ∀ name, name = js "url" ∨ name = js "token" →
      (documentedParams browser.utf8 s.hash).lookup name =
        (searchParams browser.utf8 query).lookup name)
    (routes : documentedRoute (applyHashParams browser s).hash = documentedRoute s.hash)
    (others : documentedParams browser.utf8 (applyHashParams browser s).hash =
      keptParams (documentedParams browser.utf8 s.hash)) : Consumed browser s := by
  have applied := applyHashParams_given split nonempty given
  refine ⟨?_, ?_, ?_, routes, others, ?_⟩
  · rw [others]
    exact not_given_iff.mp (not_given_keptParams _)
  · intro url found some_
    rw [same _ (.inl rfl)] at found
    rw [applied, found]
    exact (httpEndpoint_storeToken _).trans (httpEndpoint_storeUrl some_)
  · intro token found some_
    rw [same _ (.inr rfl)] at found
    rw [applied, found]
    exact getToken_storeToken some_
  · refine applyHashParams_restored absent shape
      (decoded_keptParams (decoded_searchParams _ _)) (not_given_keptParams _) ?_
    rw [applied]

end

/-- The hash is split as documented. -/
theorem consumed_of_agree (split : splitHash s.hash = (route, query)) (nonempty : s.hash ≠ [])
    (absent : byte '?' ∉ route) (shape : route = [] ∨ route.head? = some (byte '/'))
    (routes : documentedRoute s.hash = route)
    (all : documentedParams browser.utf8 s.hash = searchParams browser.utf8 query) :
    Consumed browser s := by
  by_cases given : Given (searchParams browser.utf8 query)
  · have applied := applyHashParams_given split nonempty given
    obtain ⟨sameRoute, sameParams⟩ := documented_restored shape absent
      (decoded_keptParams (decoded_searchParams browser.utf8 query))
    refine consumed_of_given split nonempty given absent (.inr shape) ?_ ?_ ?_
    · intro name _
      rw [all]
    · rw [applied, routes, sameRoute]
    · rw [applied, all, sameParams]
  · exact consumed_of_unchanged (applyHashParams_not_given split nonempty given) (all ▸ given)

theorem consumed_slash (slash : s.hash.head? = some (byte '/')) : Consumed browser s := by
  have nonempty : s.hash ≠ [] := by
    intro empty
    rw [empty] at slash
    cases slash
  by_cases mem : byte '?' ∈ s.hash
  · obtain ⟨route, query, hash, absent⟩ := exists_question mem
    have first : route.head? = some (byte '/') := by
      rw [hash] at slash
      cases route with
      | nil => exact absurd slash (by rw [List.nil_append, List.head?_cons]; decide)
      | cons b route => exact slash
    obtain ⟨routes, all⟩ := documented_slash first absent browser.utf8 query
    rw [← hash] at routes all
    exact consumed_of_agree (hash ▸ splitHash_question absent query) nonempty absent (.inr first)
      routes all
  · obtain ⟨routes, all⟩ := documented_route slash mem browser.utf8
    have split : splitHash s.hash = (s.hash, []) := by
      rw [splitHash_none mem, if_pos slash]
    exact consumed_of_agree split nonempty mem (.inr slash) routes all

/-- The hash is parameters as a whole, without a question mark. -/
theorem consumed_whole (bare : s.hash.head? ≠ some (byte '/')) (absent : byte '?' ∉ s.hash) :
    Consumed browser s := by
  obtain ⟨routes, all⟩ := documented_params bare browser.utf8
  by_cases empty : s.hash = []
  · refine consumed_of_unchanged (if_pos empty) ?_
    rw [all, empty, searchParams_nil]
    rintro ⟨param, mem, -⟩
    cases mem
  · have split : splitHash s.hash = ([], s.hash) := by
      rw [splitHash_none absent, if_neg bare]
    exact consumed_of_agree split empty List.not_mem_nil (.inl rfl) routes all

/-- The hash is parameters as a whole, with a question mark in front. -/
theorem consumed_question (hash : s.hash = byte '?' :: query)
    (plain : query.head? ≠ some (byte '?')) : Consumed browser s := by
  have bare : s.hash.head? ≠ some (byte '/') := by
    rw [hash, List.head?_cons]
    decide
  obtain ⟨routes, all⟩ := documented_params bare browser.utf8
  have nonempty : s.hash ≠ [] := hash ▸ List.cons_ne_nil _ _
  have split : splitHash s.hash = ([], query) := by
    rw [hash]
    exact splitHash_question List.not_mem_nil query
  refine consumed_of_agree split nonempty List.not_mem_nil (.inl rfl) routes ?_
  rw [all, hash, searchParams_question, searchParams_plain plain]

end Rsbtd.WebUi
