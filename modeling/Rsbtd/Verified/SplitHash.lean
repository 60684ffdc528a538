import Rsbtd.Verified.ConsumedHash

/-!
# Hashes split inside their parameters

A hash without a slash in front is parameters as a whole, but the code takes what stands before
the first question mark for a route.  That goes well only if the parameter with the question
mark is written back as it is read, and nothing that is consumed stands before it.
-/

namespace Rsbtd.WebUi

open FormData

variable {U : Type} {browser : Browser U} {s : HashState} {utf8 : Utf8}
  {before rest : List Bytes} {last first : Bytes}

/-- The segments of a hash; the first question mark is behind `last`. -/
structure Segmented (hash : Bytes) (before : List Bytes) (last first : Bytes)
    (rest : List Bytes) : Prop where
  whole : ∀ segment ∈ before ++ last :: first :: rest, byte '&' ∉ segment
  absent : byte '?' ∉ [byte '&'].intercalate (before ++ [last])
  joined : hash = [byte '&'].intercalate (before ++ (last ++ byte '?' :: first) :: rest)

/-- The parameter with the question mark is not consumed, and is not changed when what is
behind the question mark is written again; none before it is consumed. -/
structure KeptAsRead (utf8 : Utf8) (before : List Bytes) (last first : Bytes) : Prop where
  earlier : ¬Given (parseSegments utf8 before)
  whole : ¬Given [parsePair utf8 (last ++ byte '?' :: first)]
  nonempty : first ≠ []
  plain : first.head? ≠ some (byte '?')
  behind : ¬Given [parsePair utf8 first]
  written : byte '=' ∈ last → byte '=' ∈ first

theorem exists_segmented {hash : Bytes} (mem : byte '?' ∈ hash) :
    ∃ before last first rest, Segmented hash before last first rest := by
  obtain ⟨route, query, rfl, absent⟩ := exists_question mem
  obtain ⟨head, tail, whole, rfl⟩ := exists_join route
  obtain ⟨first, rest, whole', rfl⟩ := exists_join query
  obtain ⟨before, last, split⟩ : ∃ before last, head :: tail = before ++ [last] :=
    ⟨_, _, (List.dropLast_append_getLast (List.cons_ne_nil head tail)).symm⟩
  rw [split] at whole absent ⊢
  refine ⟨before, last, first, rest, ?_, absent, ?_⟩
  · rw [← List.singleton_append, ← List.append_assoc, List.forall_mem_append]
    exact ⟨whole, whole'⟩
  · have glued := join_glue before last [byte '?'] first rest
    rw [List.singleton_append] at glued
    rw [glued, List.append_assoc]
    rfl

namespace Segmented

variable {hash : Bytes} (segmented : Segmented hash before last first rest)
include segmented

theorem hash_eq : hash = [byte '&'].intercalate (before ++ [last]) ++
    byte '?' :: [byte '&'].intercalate (first :: rest) := by
  have glued := join_glue before last [byte '?'] first rest
  rw [List.singleton_append, List.append_assoc] at glued
  rw [segmented.joined]
  exact glued.symm

theorem split : splitHash hash =
    ([byte '&'].intercalate (before ++ [last]), [byte '&'].intercalate (first :: rest)) := by
  rw [segmented.hash_eq, splitHash_question segmented.absent]

end Segmented

/-! ## The parameter with the question mark -/

theorem decodeText_serializePair {pair : Units × Units} (decoded : DecodedPair utf8 pair) :
    decodeText utf8 (serializePair utf8 pair) = pair.1 ++ (byte '=').toUInt16 :: pair.2 := by
  rw [decodeText_of_equals (equals_mem_serializePair pair), parsePair_serializePair decoded]

/-- What is behind the question mark, written again. -/
theorem parsePair_rewritten (written : byte '=' ∈ last → byte '=' ∈ first) :
    parsePair utf8 (last ++ byte '?' :: serializePair utf8 (parsePair utf8 first)) =
      parsePair utf8 (last ++ byte '?' :: first) := by
  have decoded := @decoded_parsePair utf8 first
  by_cases value : byte '=' ∈ last
  · rw [parsePair_value_question value, parsePair_value_question value,
      decodeText_serializePair decoded, decodeText_of_equals (written value)]
  · rw [parsePair_name_question value, parsePair_name_question value,
      parsePair_serializePair decoded]

theorem decodeText_question (plain : Bytes) :
    decodeText utf8 (byte '?' :: plain) = (byte '?').toUInt16 :: decodeText utf8 plain := by
  have joined := @decodeText_separator utf8 _ separator_question [] plain
  rw [List.nil_append, decodeText_nil] at joined
  exact joined

theorem parsePair_question (plain : Bytes) :
    parsePair utf8 (byte '?' :: plain) =
      ((byte '?').toUInt16 :: (parsePair utf8 plain).1, (parsePair utf8 plain).2) := by
  have joined := @parsePair_name_question utf8 [] List.not_mem_nil plain
  rw [List.nil_append, decodeText_nil] at joined
  exact joined

/-- Neither a question mark that is dropped nor an equals sign that is added goes unseen. -/
theorem decodeText_ne_serializePair {plain : Bytes} (dropped : first = byte '?' :: plain) :
    decodeText utf8 first ≠ decodeText utf8 (serializePair utf8 (parsePair utf8 plain)) := by
  rw [dropped, decodeText_question, decodeText_serializePair (decoded_parsePair plain)]
  by_cases value : byte '=' ∈ plain
  · rw [decodeText_of_equals value]
    exact List.cons_ne_self _ _
  · obtain ⟨name, empty⟩ := @decodeText_of_name utf8 plain value
    rw [name, empty]
    intro same
    have count := congrArg (List.count (byte '?').toUInt16) same
    have other : List.count (byte '?').toUInt16 [(byte '=').toUInt16] = 0 := by decide
    rw [List.count_cons_self, List.count_append, other] at count
    omega

theorem equals_mem_of_decodeText {plain : Bytes}
    (same : decodeText utf8 plain = decodeText utf8 (serializePair utf8 (parsePair utf8 plain))) :
    byte '=' ∈ plain := by
  by_contra absent
  obtain ⟨name, empty⟩ := @decodeText_of_name utf8 plain absent
  rw [decodeText_serializePair (decoded_parsePair plain), name, empty] at same
  have length := congrArg List.length same
  rw [List.length_append, List.length_singleton] at length
  omega

/-- It is read as before only if nothing was dropped or added. -/
theorem written_of_parsePair {plain : Bytes}
    (dropped : first = plain ∨ first = byte '?' :: plain)
    (same : parsePair utf8 (last ++ byte '?' :: first) =
      parsePair utf8 (last ++ byte '?' :: serializePair utf8 (parsePair utf8 plain))) :
    first = plain ∧ (byte '=' ∈ last → byte '=' ∈ first) := by
  by_cases value : byte '=' ∈ last
  · rw [parsePair_value_question value, parsePair_value_question value] at same
    have texts := (List.cons.inj (List.append_cancel_left (Prod.mk.inj same).2)).2
    obtain rfl | dropped := dropped
    · exact ⟨rfl, fun _ => equals_mem_of_decodeText texts⟩
    · exact absurd texts (decodeText_ne_serializePair dropped)
  · rw [parsePair_name_question value, parsePair_name_question value,
      parsePair_serializePair (decoded_parsePair plain)] at same
    have names := (List.cons.inj (List.append_cancel_left (Prod.mk.inj same).1)).2
    obtain rfl | rfl := dropped
    · exact ⟨rfl, fun present => absurd present value⟩
    · rw [parsePair_question] at names
      exact absurd names (List.cons_ne_self _ _)

/-! ## Given parameters -/

theorem given_append (first rest : List (Units × Units)) :
    Given (first ++ rest) ↔ Given first ∨ Given rest := by
  simp only [Given, List.mem_append, or_and_right, exists_or]

theorem given_cons (param : Units × Units) (rest : List (Units × Units)) :
    Given (param :: rest) ↔ Given [param] ∨ Given rest :=
  given_append [param] rest

theorem keptParams_append (first rest : List (Units × Units)) :
    keptParams (first ++ rest) = keptParams first ++ keptParams rest :=
  List.filter_append _ _

theorem keptParams_cons (param : Units × Units) (rest : List (Units × Units)) :
    keptParams (param :: rest) = keptParams [param] ++ keptParams rest :=
  keptParams_append [param] rest

theorem lookup_append_of_not_given {first : List (Units × Units)} (none_ : ¬Given first)
    (rest : List (Units × Units)) {name : Units} (consumed : name = js "url" ∨ name = js "token") :
    (first ++ rest).lookup name = rest.lookup name := by
  obtain ⟨url, token⟩ := lookup_none_iff.mpr none_
  have absent : first.lookup name = none := by
    obtain rfl | rfl := consumed
    · exact url
    · exact token
  rw [List.lookup_append, absent, Option.none_or]

/-- A name with a question mark is not consumed, and what is in a value does not matter. -/
theorem given_question (last first : Bytes) :
    Given [parsePair utf8 (last ++ byte '?' :: first)] ↔
      byte '=' ∈ last ∧ Given [parsePair utf8 last] := by
  simp only [Given, List.mem_singleton, exists_eq_left]
  by_cases value : byte '=' ∈ last
  · rw [parsePair_value_question value, and_iff_right value]
  · rw [parsePair_name_question value]
    have question : ∀ name, (byte '?').toUInt16 ∉ name →
        decodeText utf8 last ++ (byte '?').toUInt16 :: (parsePair utf8 first).1 ≠ name := by
      rintro name absent rfl
      exact absent (List.mem_append_right _ List.mem_cons_self)
    refine iff_of_false (not_or.mpr ⟨question _ ?_, question _ ?_⟩) fun both => value both.1
    · decide +kernel
    · decide +kernel

/-! ## What is read -/

theorem parseSegments_question (rest : List Bytes) :
    parseSegments utf8 (before ++ (last ++ byte '?' :: first) :: rest) =
      parseSegments utf8 before ++
        parsePair utf8 (last ++ byte '?' :: first) :: parseSegments utf8 rest := by
  rw [parseSegments_append, parseSegments_cons (by simp)]

theorem head?_join_ne (plain : first.head? ≠ some (byte '?')) :
    ([byte '&'].intercalate (first :: rest)).head? ≠ some (byte '?') := by
  cases first with
  | nil =>
    cases rest with
    | nil =>
      rw [List.intercalate_singleton]
      exact plain
    | cons next rest =>
      rw [List.intercalate_cons_cons, List.nil_append, List.singleton_append, List.head?_cons]
      decide
  | cons b first =>
    rw [join_cons_cons]
    exact plain

namespace Segmented

variable {hash : Bytes} (segmented : Segmented hash before last first rest)
include segmented

theorem whole_glued : ∀ segment ∈ before ++ (last ++ byte '?' :: first) :: rest,
    byte '&' ∉ segment := by
  have whole := segmented.whole
  simp only [List.forall_mem_append, List.forall_mem_cons] at whole ⊢
  obtain ⟨earlier, last_, first_, later⟩ := whole
  refine ⟨earlier, ?_, later⟩
  rw [List.mem_append, List.mem_cons]
  exact not_or.mpr ⟨last_, not_or.mpr ⟨by decide, first_⟩⟩

theorem head?_eq (filled : [byte '&'].intercalate (before ++ [last]) ≠ []) :
    hash.head? = ([byte '&'].intercalate (before ++ [last])).head? := by
  rw [segmented.hash_eq, List.head?_append_of_ne_nil _ filled]

/-- The parameters, as documented. -/
theorem documented (filled : [byte '&'].intercalate (before ++ [last]) ≠ [])
    (bare : hash.head? ≠ some (byte '/')) (utf8 : Utf8) :
    documentedRoute hash = [] ∧ documentedParams utf8 hash =
      parseSegments utf8 before ++
        parsePair utf8 (last ++ byte '?' :: first) :: parseSegments utf8 rest := by
  have plain : hash.head? ≠ some (byte '?') := by
    rw [segmented.head?_eq filled]
    exact fun first => segmented.absent (List.mem_of_mem_head? first)
  obtain ⟨routes, all⟩ := documented_params bare utf8
  refine ⟨routes, ?_⟩
  rw [all, searchParams_plain plain, segmented.joined,
    parseForm_join segmented.whole_glued (by simp), parseSegments_question]

/-- The parameters behind the question mark; another question mark is dropped. -/
theorem query (utf8 : Utf8) : ∃ plain,
    (first = plain ∧ plain.head? ≠ some (byte '?') ∨ first = byte '?' :: plain) ∧
      searchParams utf8 ([byte '&'].intercalate (first :: rest)) =
        parseSegments utf8 (plain :: rest) := by
  have whole := segmented.whole
  simp only [List.forall_mem_append, List.forall_mem_cons] at whole
  obtain ⟨-, -, first_, later⟩ := whole
  by_cases plain : first.head? = some (byte '?')
  · obtain ⟨stripped, rfl⟩ := List.head?_eq_some_iff.mp plain
    refine ⟨stripped, .inr rfl, ?_⟩
    rw [join_cons_cons, searchParams_question]
    refine parseForm_join (List.forall_mem_cons.mpr ⟨?_, later⟩) (List.cons_ne_nil _ _)
    exact fun mem => first_ (List.mem_cons_of_mem _ mem)
  · refine ⟨first, .inl ⟨rfl, plain⟩, ?_⟩
    rw [searchParams_plain (head?_join_ne plain)]
    exact parseForm_join (List.forall_mem_cons.mpr ⟨first_, later⟩) (List.cons_ne_nil _ _)

/-- The hash with parameters behind the question mark written again. -/
theorem restored (utf8 : Utf8) (pair : Units × Units) (pairs : List (Units × Units)) :
    Segmented (restoredHash ([byte '&'].intercalate (before ++ [last]))
      (serialize utf8 (pair :: pairs))) before last (serializePair utf8 pair)
      (pairs.map (serializePair utf8)) := by
  have whole := segmented.whole
  simp only [List.forall_mem_append, List.forall_mem_cons] at whole
  obtain ⟨earlier, last_, -, -⟩ := whole
  refine ⟨?_, segmented.absent, ?_⟩
  · simp only [List.forall_mem_append, List.forall_mem_cons, List.forall_mem_map]
    exact ⟨earlier, last_, (not_mem_serializePair pair).1,
      fun other _ => (not_mem_serializePair other).1⟩
  · have glued := join_glue before last [byte '?'] (serializePair utf8 pair)
      (pairs.map (serializePair utf8))
    rw [List.singleton_append, List.append_assoc] at glued
    rw [restoredHash_cons (serialize_ne_nil (List.cons_ne_nil _ _))]
    exact glued

end Segmented

/-! ## Hashes that are kept as read -/

section

variable (segmented : Segmented s.hash before last first rest)
  (bare : s.hash.head? ≠ some (byte '/'))
  (filled : [byte '&'].intercalate (before ++ [last]) ≠ [])
include segmented bare filled

theorem consumed_of_keptAsRead (kept : KeptAsRead browser.utf8 before last first) :
    Consumed browser s := by
  have nonempty : s.hash ≠ [] := by
    rw [segmented.hash_eq]
    exact List.append_ne_nil_of_left_ne_nil filled _
  obtain ⟨routes, all⟩ := segmented.documented filled bare browser.utf8
  obtain ⟨plain, stripped, params⟩ := segmented.query browser.utf8
  have same : plain = first := by
    obtain ⟨same, -⟩ | question := stripped
    · exact same.symm
    · exact absurd (question ▸ List.head?_cons) kept.plain
  rw [same, parseSegments_cons kept.nonempty] at params
  have cons : ∀ (param : Units × Units) pairs, param :: pairs = [param] ++ pairs := fun _ _ => rfl
  by_cases given : Given (searchParams browser.utf8 ([byte '&'].intercalate (first :: rest)))
  · have left : keptParams (searchParams browser.utf8 ([byte '&'].intercalate (first :: rest))) =
        parsePair browser.utf8 first :: keptParams (parseSegments browser.utf8 rest) := by
      rw [params, cons, keptParams_append, keptParams_of_not_given kept.behind]
      rfl
    have applied := applyHashParams_given segmented.split nonempty given
    have hash : (applyHashParams browser s).hash =
        restoredHash ([byte '&'].intercalate (before ++ [last])) (serialize browser.utf8
          (parsePair browser.utf8 first :: keptParams (parseSegments browser.utf8 rest))) := by
      rw [applied, left]
    have again := segmented.restored browser.utf8 (parsePair browser.utf8 first)
      (keptParams (parseSegments browser.utf8 rest))
    rw [← hash] at again
    have bare' : (applyHashParams browser s).hash.head? ≠ some (byte '/') := by
      rw [again.head?_eq filled, ← segmented.head?_eq filled]
      exact bare
    obtain ⟨routes', all'⟩ := again.documented filled bare' browser.utf8
    refine consumed_of_given segmented.split nonempty given segmented.absent ?_ ?_ ?_ ?_
    · rw [left]
      exact .inl (List.cons_ne_nil _ _)
    · intro name consumed
      rw [all, params, cons, cons (parsePair browser.utf8 first),
        lookup_append_of_not_given kept.earlier _ consumed,
        lookup_append_of_not_given kept.whole _ consumed,
        lookup_append_of_not_given kept.behind _ consumed]
    · rw [routes', routes]
    · rw [all', all, cons, cons (parsePair browser.utf8 (last ++ byte '?' :: first)),
        keptParams_append, keptParams_append, keptParams_of_not_given kept.earlier,
        keptParams_of_not_given kept.whole, parsePair_rewritten kept.written,
        parseSegments_serializePair
          (decoded_keptParams (decoded_parseSegments rest))]
  · refine consumed_of_unchanged (applyHashParams_not_given segmented.split nonempty given) ?_
    rw [params, given_cons, not_or] at given
    rw [all, given_append, given_cons, not_or, not_or]
    exact ⟨kept.earlier, kept.whole, given.2⟩

end

/-- Cutting the question mark and all behind it changes the parameter. -/
theorem parsePair_ne_question (last first : Bytes) :
    parsePair utf8 last ≠ parsePair utf8 (last ++ byte '?' :: first) := by
  by_cases value : byte '=' ∈ last
  · rw [parsePair_value_question value]
    intro same
    exact absurd (List.self_eq_append_right.mp (Prod.mk.inj same).2) (List.cons_ne_nil _ _)
  · rw [parsePair_name_question value, parsePair_name value]
    intro same
    exact absurd (List.self_eq_append_right.mp (Prod.mk.inj same).1) (List.cons_ne_nil _ _)

theorem keptParams_single (param : Units × Units) :
    Given [param] ∧ keptParams [param] = [] ∨ ¬Given [param] ∧ keptParams [param] = [param] := by
  by_cases given : Given [param]
  · left
    refine ⟨given, List.filter_eq_nil_iff.mpr fun other mem kept => ?_⟩
    obtain ⟨_, mem', named⟩ := given
    rw [List.mem_singleton.mp mem'] at named
    rw [List.mem_singleton.mp mem, decide_eq_true_iff] at kept
    exact named.elim kept.1 kept.2
  · exact .inr ⟨given, keptParams_of_not_given given⟩

section

variable (segmented : Segmented s.hash before last first rest)
  (filled : [byte '&'].intercalate (before ++ [last]) ≠ [])
  (given : Given (searchParams browser.utf8 ([byte '&'].intercalate (first :: rest))))
include segmented filled given

theorem hash_of_given : (applyHashParams browser s).hash =
    restoredHash ([byte '&'].intercalate (before ++ [last])) (serialize browser.utf8
      (keptParams (searchParams browser.utf8 ([byte '&'].intercalate (first :: rest))))) := by
  have nonempty : s.hash ≠ [] := by
    rw [segmented.hash_eq]
    exact List.append_ne_nil_of_left_ne_nil filled _
  rw [applyHashParams_given segmented.split nonempty given]

variable (bare : s.hash.head? ≠ some (byte '/')) (consumed : Consumed browser s)
include bare consumed

/-- Something must be left behind the question mark. -/
theorem keptParams_ne_nil :
    keptParams (searchParams browser.utf8 ([byte '&'].intercalate (first :: rest))) ≠ [] := by
  intro nothing
  obtain ⟨-, all⟩ := segmented.documented filled bare browser.utf8
  obtain ⟨plain, -, params⟩ := segmented.query browser.utf8
  have hash : (applyHashParams browser s).hash = [byte '&'].intercalate (before ++ [last]) := by
    rw [hash_of_given segmented filled given, nothing]
    exact restoredHash_nil _
  have bare' : ([byte '&'].intercalate (before ++ [last])).head? ≠ some (byte '/') := by
    rw [← segmented.head?_eq filled]
    exact bare
  have plain' : ([byte '&'].intercalate (before ++ [last])).head? ≠ some (byte '?') :=
    fun first => segmented.absent (List.mem_of_mem_head? first)
  have whole : ∀ segment ∈ before ++ [last], byte '&' ∉ segment := by
    have whole := segmented.whole
    simp only [List.forall_mem_append, List.forall_mem_cons] at whole ⊢
    exact ⟨whole.1, whole.2.1, List.forall_mem_nil _⟩
  have read : documentedParams browser.utf8 (applyHashParams browser s).hash =
      parseSegments browser.utf8 before ++ parseSegments browser.utf8 [last] := by
    rw [hash, (documented_params bare' browser.utf8).2, searchParams_plain plain',
      parseForm_join whole (by simp), parseSegments_append]
  have nothing' : keptParams (parseSegments browser.utf8 rest) = [] := by
    rw [params, ← List.singleton_append, parseSegments_append, keptParams_append] at nothing
    exact (List.append_eq_nil_iff.mp nothing).2
  have gone := not_given_iff.mpr consumed.gone
  rw [read, given_append, not_or] at gone
  have others := consumed.others
  change _ = keptParams _ at others
  rw [read, all, keptParams_append, keptParams_of_not_given gone.1, List.append_cancel_left_eq,
    keptParams_cons, nothing', List.append_nil] at others
  by_cases empty : last = []
  · obtain ⟨consumed_, -⟩ | ⟨-, single⟩ :=
      keptParams_single (parsePair browser.utf8 (last ++ byte '?' :: first))
    · obtain ⟨value, -⟩ := (given_question last first).mp consumed_
      rw [empty] at value
      cases value
    · rw [single, empty] at others
      cases others
  · rw [parseSegments_cons empty] at others
    obtain ⟨-, single⟩ | ⟨-, single⟩ :=
      keptParams_single (parsePair browser.utf8 (last ++ byte '?' :: first))
    · rw [single] at others
      cases others
    · rw [single] at others
      exact parsePair_ne_question last first (List.cons.inj others).1

/-- What is left must begin with the parameter behind the question mark. -/
theorem keptAsRead_of_consumed : KeptAsRead browser.utf8 before last first := by
  obtain ⟨-, all⟩ := segmented.documented filled bare browser.utf8
  obtain ⟨plain, stripped, params⟩ := segmented.query browser.utf8
  have hash := hash_of_given segmented filled given
  have left : keptParams (searchParams browser.utf8 ([byte '&'].intercalate (first :: rest))) =
      keptParams (parseSegments browser.utf8 [plain]) ++
        keptParams (parseSegments browser.utf8 rest) := by
    rw [params, ← keptParams_append, ← parseSegments_append]
    rfl
  cases kept : keptParams
      (searchParams browser.utf8 ([byte '&'].intercalate (first :: rest))) with
  | nil => exact absurd kept (keptParams_ne_nil segmented filled given bare consumed)
  | cons pair pairs =>
    have again := segmented.restored browser.utf8 pair pairs
    have decoded : ∀ other ∈ pair :: pairs, DecodedPair browser.utf8 other := by
      rw [← kept]
      exact decoded_keptParams (decoded_searchParams _ _)
    rw [kept] at hash left
    rw [← hash] at again
    have bare' : (applyHashParams browser s).hash.head? ≠ some (byte '/') := by
      rw [again.head?_eq filled, ← segmented.head?_eq filled]
      exact bare
    obtain ⟨-, all'⟩ := again.documented filled bare' browser.utf8
    rw [parseSegments_serializePair (List.forall_mem_cons.mp decoded).2] at all'
    have gone := not_given_iff.mpr consumed.gone
    rw [all', given_append, given_cons, not_or, not_or] at gone
    obtain ⟨earlier, whole, -⟩ := gone
    have whole' : ¬Given [parsePair browser.utf8 (last ++ byte '?' :: first)] := by
      rw [given_question] at whole ⊢
      exact whole
    have others := consumed.others
    change _ = keptParams _ at others
    rw [all', all, keptParams_append, keptParams_of_not_given earlier, List.append_cancel_left_eq,
      keptParams_cons, keptParams_of_not_given whole', List.singleton_append] at others
    obtain ⟨same, behind⟩ := List.cons.inj others
    rw [← behind, ← List.singleton_append, List.append_cancel_right_eq] at left
    have some_ : plain ≠ [] := by
      rintro rfl
      cases left
    rw [parseSegments_cons some_] at left
    obtain ⟨-, single⟩ | ⟨unconsumed, single⟩ := keptParams_single (parsePair browser.utf8 plain)
    · rw [parseSegments_nil, single] at left
      cases left
    · rw [parseSegments_nil, single] at left
      obtain rfl := (List.cons.inj left).1
      obtain ⟨rfl, written⟩ := written_of_parsePair (stripped.imp_left And.left) same.symm
      have plain' := (stripped.resolve_right (List.cons_ne_self _ _).symm).2
      exact ⟨earlier, whole', some_, plain', unconsumed, written⟩

end

/-- Two question marks in front: the second is dropped as well. -/
theorem not_consumed_twice {more : Bytes} (hash : s.hash = byte '?' :: byte '?' :: more)
    (given : Given (searchParams browser.utf8 (byte '?' :: more))) : ¬Consumed browser s := by
  intro consumed
  have bare : s.hash.head? ≠ some (byte '/') := by
    rw [hash, List.head?_cons]
    decide
  have split : splitHash s.hash = ([], byte '?' :: more) := by
    rw [hash]
    exact splitHash_question List.not_mem_nil _
  have applied := applyHashParams_given split (hash ▸ List.cons_ne_nil _ _) given
  obtain ⟨plain, rest, whole, joined⟩ := exists_join more
  obtain ⟨own, later⟩ := List.forall_mem_cons.mp whole
  have params : searchParams browser.utf8 (byte '?' :: more) =
      parseSegments browser.utf8 ([plain] ++ rest) := by
    rw [searchParams_question, joined]
    exact parseForm_join whole (List.cons_ne_nil _ _)
  have all : documentedParams browser.utf8 s.hash =
      parsePair browser.utf8 (byte '?' :: plain) :: parseSegments browser.utf8 rest := by
    rw [(documented_params bare browser.utf8).2, hash, searchParams_question, joined,
      ← join_cons_cons, parseForm_join _ (List.cons_ne_nil _ _),
      parseSegments_cons (List.cons_ne_nil _ _)]
    refine List.forall_mem_cons.mpr ⟨?_, later⟩
    rw [List.mem_cons]
    exact not_or.mpr ⟨by decide, own⟩
  have unconsumed : ¬Given [parsePair browser.utf8 (byte '?' :: plain)] := fun given_ =>
    List.not_mem_nil ((given_question [] plain).mp given_).1
  have read : documentedParams browser.utf8 (applyHashParams browser s).hash =
      keptParams (searchParams browser.utf8 (byte '?' :: more)) := by
    rw [applied]
    exact (documented_restored (.inl rfl) List.not_mem_nil
      (decoded_keptParams (decoded_searchParams _ _))).2
  have others := consumed.others
  change _ = keptParams _ at others
  rw [read, all, params, parseSegments_append, keptParams_append, keptParams_cons,
    List.append_cancel_right_eq, keptParams_of_not_given unconsumed, parsePair_question] at others
  by_cases empty : plain = []
  · rw [empty] at others
    cases others
  · rw [parseSegments_cons empty, parseSegments_nil] at others
    obtain ⟨-, single⟩ | ⟨-, single⟩ := keptParams_single (parsePair browser.utf8 plain)
    · rw [single] at others
      cases others
    · rw [single] at others
      exact List.cons_ne_self _ _ (congrArg Prod.fst (List.cons.inj others).1).symm

/-! ## All hashes -/

/-- A url or a token is given, as documented or behind the first question mark. -/
def GivenAnyhow (utf8 : Utf8) (hash : Bytes) : Prop :=
  Given (documentedParams utf8 hash) ∨ Given (searchParams utf8 (splitHash hash).2)

theorem consumed_of_not_givenAnyhow (none_ : ¬GivenAnyhow browser.utf8 s.hash) :
    Consumed browser s := by
  obtain ⟨documented, behind⟩ := not_or.mp none_
  refine consumed_of_unchanged ?_ documented
  by_cases empty : s.hash = []
  · exact if_pos empty
  · exact applyHashParams_not_given rfl empty behind

theorem hash_of_not_filled (segmented : Segmented s.hash before last first rest)
    (unfilled : [byte '&'].intercalate (before ++ [last]) = []) :
    s.hash = byte '?' :: [byte '&'].intercalate (first :: rest) := by
  rw [segmented.hash_eq, unfilled, List.nil_append]

/-- Exactly the hashes that are split inside their parameters go wrong. -/
theorem consumed_iff (browser : Browser U) (s : HashState) :
    Consumed browser s ↔
      s.hash.head? = some (byte '/') ∨ byte '?' ∉ s.hash ∨
        (∃ query, s.hash = byte '?' :: query ∧ query.head? ≠ some (byte '?')) ∨
        ¬GivenAnyhow browser.utf8 s.hash ∨
        ∃ before last first rest, Segmented s.hash before last first rest ∧
          KeptAsRead browser.utf8 before last first := by
  constructor
  · intro consumed
    by_cases slash : s.hash.head? = some (byte '/')
    · exact .inl slash
    by_cases mem : byte '?' ∈ s.hash
    case neg => exact .inr (.inl mem)
    obtain ⟨before, last, first, rest, segmented⟩ := exists_segmented mem
    have nonempty : s.hash ≠ [] := List.ne_nil_of_mem mem
    by_cases given : Given (searchParams browser.utf8 ([byte '&'].intercalate (first :: rest)))
    · by_cases filled : [byte '&'].intercalate (before ++ [last]) = []
      · have hash := hash_of_not_filled segmented filled
        by_cases plain : ([byte '&'].intercalate (first :: rest)).head? = some (byte '?')
        · obtain ⟨more, query⟩ := List.head?_eq_some_iff.mp plain
          rw [query] at hash given
          exact absurd consumed (not_consumed_twice hash given)
        · exact .inr (.inr (.inl ⟨_, hash, plain⟩))
      · exact .inr (.inr (.inr (.inr ⟨before, last, first, rest, segmented,
          keptAsRead_of_consumed segmented filled given slash consumed⟩)))
    · have gone := not_given_iff.mpr consumed.gone
      rw [applyHashParams_not_given segmented.split nonempty given] at gone
      refine .inr (.inr (.inr (.inl (not_or.mpr ⟨gone, ?_⟩))))
      rw [segmented.split]
      exact given
  · rintro (slash | absent | ⟨query, hash, plain⟩ | none_ |
      ⟨before, last, first, rest, segmented, kept⟩)
    · exact consumed_slash slash
    · by_cases slash : s.hash.head? = some (byte '/')
      · exact consumed_slash slash
      · exact consumed_whole slash absent
    · exact consumed_question hash plain
    · exact consumed_of_not_givenAnyhow none_
    · by_cases slash : s.hash.head? = some (byte '/')
      · exact consumed_slash slash
      by_cases filled : [byte '&'].intercalate (before ++ [last]) = []
      · exact consumed_question (hash_of_not_filled segmented filled) (head?_join_ne kept.plain)
      · exact consumed_of_keptAsRead segmented slash filled kept

/-- One unit for each byte, which is right for ASCII. -/
def asciiCodec : Utf8 where
  decode bytes := bytes.map UInt8.toUInt16
  encode text := text.map UInt16.toUInt8
  decode_encode bytes := by
    rw [List.map_map, List.map_map]
    apply List.map_congr_left
    intro b _
    simp
  decode_nil := rfl
  decode_ascii before b after _ := by rw [List.map_append, List.map_cons]

/-- A page with the daemon behind `/graphql`. -/
def localBrowser : Browser Unit where
  utf8 := asciiCodec
  DEFAULT_ENDPOINT := js "/graphql"
  parse raw := if raw = js "/graphql" then some () else none
  origin _ := js "http://localhost"
  pathname _ := js "/graphql"
  setPathname _ _ := ()
  toString _ := js "http://localhost/graphql"
  trim_toString _ := by decide +kernel
  toString_ne_nil _ := by decide +kernel

def asciiBytes (text : String) : Bytes := text.toList.map byte

def openedAt (hash : Bytes) : HashState := ⟨hash, none, fun _ => none, fun _ => none, none⟩

/-- A url with a question mark stays in the hash, and is not stored. -/
theorem url_question_left :
    (applyHashParams localBrowser (openedAt (asciiBytes "url=http://h/?x=1&token=s"))).hash =
        asciiBytes "url=http://h/?x=1" ∧
      (applyHashParams localBrowser (openedAt (asciiBytes "url=http://h/?x=1&token=s"))).endpoint =
        none ∧
      ¬Consumed localBrowser (openedAt (asciiBytes "url=http://h/?x=1&token=s")) := by
  have left : (applyHashParams localBrowser
      (openedAt (asciiBytes "url=http://h/?x=1&token=s"))).hash =
      asciiBytes "url=http://h/?x=1" := by decide +kernel
  refine ⟨left, by decide +kernel, fun consumed => ?_⟩
  have gone := consumed.gone (js "url", js "http://h/?x=1")
  rw [left] at gone
  exact (gone (by decide +kernel)).1 rfl

end Rsbtd.WebUi
