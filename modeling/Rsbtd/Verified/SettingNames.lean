import Rsbtd.Ctl.Names

/-!
# The two spellings of a setting

A name without underscores comes back from its snake_case spelling, and the other way
round where every underscore stands before a letter that has an upper case.  So the
names that `rsbtctl` prints are different for different settings, and it accepts them.
-/

namespace Rsbtd.Ctl

open Settings (camel camelChars)

variable {casing : Casing} {Ref : Type}

theorem toUpper_isUpper {c : Char} (lower : c.isLower = true) : c.toUpper.isUpper = true := by
  rw [Char.isUpper_toUpper_eq_isAlpha, Char.isAlpha, lower, Bool.or_true]

theorem toLower_isLower {c : Char} (upper : c.isUpper = true) : c.toLower.isLower = true := by
  rw [Char.isLower_toLower_eq_isAlpha, Char.isAlpha, upper, Bool.true_or]

theorem ne_underscore_of_isLower {c : Char} (lower : c.isLower = true) : c ≠ '_' := by
  rintro rfl
  cases lower

/-! ## From the schema's spelling and back -/

theorem camelFrom_snakeChars (x : List Char) (plain : '_' ∉ x) :
    camelFrom casing false (snakeChars casing x) = x := by
  induction x with
  | nil => rfl
  | cons c rest ih =>
    have other : c ≠ '_' := fun underscore => plain (by simp [underscore])
    have back := ih fun inside => plain (List.mem_cons_of_mem c inside)
    by_cases upper : c.isUpper = true
    · have lower := toLower_isLower upper
      have restored : c.toLower.toUpper = c := by
        rw [Char.toUpper_toLower_eq_toUpper,
          Char.toUpper_eq_of_not_isLower (Char.not_isLower_of_isUpper upper)]
      rw [snakeChars, if_pos upper, casing.lower_upper c upper, camelFrom, if_pos rfl,
        List.singleton_append, camelFrom, if_neg (ne_underscore_of_isLower lower), if_pos rfl,
        casing.upper_lower _ lower, restored, back]
      rfl
    · rw [snakeChars, if_neg upper, camelFrom, if_neg other, if_neg Bool.false_ne_true, back]

theorem to_camel_to_snake (casing : Casing) (x : String) (plain : '_' ∉ x.toList) :
    to_camel casing (to_snake casing x) = x := by
  rw [to_camel, to_snake, String.toList_ofList, camelFrom_snakeChars x.toList plain,
    String.ofList_toList]

theorem to_snake_injective {x y : String} (plainX : '_' ∉ x.toList) (plainY : '_' ∉ y.toList)
    (same : to_snake casing x = to_snake casing y) : x = y := by
  rw [← to_camel_to_snake casing x plainX, same, to_camel_to_snake casing y plainY]

/-! ## From the command line's spelling and back -/

/-- Every underscore stands before an ASCII lower-case letter. -/
def Underscored (s : List Char) : Prop :=
  ∀ before after, s = before ++ '_' :: after →
    ∃ c rest, after = c :: rest ∧ c.isLower = true

theorem underscored_nil : Underscored [] := by
  intro before after split
  cases before with
  | nil => cases split
  | cons c rest => cases split

theorem underscored_cons {c : Char} {s : List Char} :
    Underscored (c :: s) ↔
      (c = '_' → ∃ d rest, s = d :: rest ∧ d.isLower = true) ∧ Underscored s := by
  constructor
  · intro underscored
    constructor
    · rintro rfl
      exact underscored [] s rfl
    · intro before after split
      exact underscored (c :: before) after (by rw [split, List.cons_append])
  · rintro ⟨first, later⟩ before after split
    cases before with
    | nil =>
      rw [List.nil_append, List.cons.injEq] at split
      rw [← split.2]
      exact first split.1
    | cons d before =>
      rw [List.cons_append, List.cons.injEq] at split
      exact later before after split.2

/-- The loop of `to_camel` is after an underscore or it is not. -/
theorem snakeChars_camelFrom (s : List Char) (underscored : Underscored s)
    (noUpper : ∀ c ∈ s, c ≠ '_' → c.isUpper = false) :
    snakeChars casing (camelFrom casing false s) = s ∧
      ∀ c rest, s = c :: rest → c.isLower = true →
        snakeChars casing (camelFrom casing true s) = '_' :: s := by
  induction s with
  | nil => exact ⟨rfl, fun c rest nil => by cases nil⟩
  | cons c rest ih =>
    rw [underscored_cons] at underscored
    obtain ⟨outside, after⟩ := ih underscored.2 fun d inside =>
      noUpper d (List.mem_cons_of_mem c inside)
    constructor
    · by_cases underscore : c = '_'
      · subst underscore
        obtain ⟨d, more, split, lower⟩ := underscored.1 rfl
        rw [camelFrom, if_pos rfl, after d more split lower]
      · have notUpper := noUpper c List.mem_cons_self underscore
        rw [camelFrom, if_neg underscore, if_neg Bool.false_ne_true, snakeChars, notUpper,
          if_neg Bool.false_ne_true, outside]
    · rintro d more split lower
      rw [List.cons.injEq] at split
      obtain ⟨rfl, rfl⟩ := split
      have restored : c.toUpper.toLower = c := by
        rw [Char.toLower_toUpper_eq_toLower,
          Char.toLower_eq_of_not_isUpper (Char.not_isUpper_of_isLower lower)]
      have upper := toUpper_isUpper lower
      rw [camelFrom, if_neg (ne_underscore_of_isLower lower), if_pos rfl,
        casing.upper_lower c lower, List.singleton_append, snakeChars, if_pos upper,
        casing.lower_upper _ upper, restored, outside]
      rfl

theorem to_snake_to_camel (s : String) (underscored : Underscored s.toList)
    (noUpper : ∀ c ∈ s.toList, c ≠ '_' → c.isUpper = false) :
    to_snake casing (to_camel casing s) = s := by
  rw [to_snake, to_camel, String.toList_ofList,
    (snakeChars_camelFrom s.toList underscored noUpper).1, String.ofList_toList]

/-! ## Names that are printed -/

/-- The schema's names come from names of the daemon, and have no underscore left. -/
theorem camel_plain (name : String) : '_' ∉ (camel name).toList := by
  have each : ∀ (chars : List Char) (upper : Bool), '_' ∉ camelChars upper chars := by
    intro chars
    induction chars with
    | nil => exact fun _ => List.not_mem_nil
    | cons c rest ih =>
      intro upper
      rw [camelChars]
      by_cases underscore : c = '_'
      · rw [if_pos underscore]
        exact ih true
      · rw [if_neg underscore]
        cases upper
        · exact List.not_mem_cons_of_ne_of_not_mem (Ne.symm underscore) (ih false)
        · apply List.not_mem_cons_of_ne_of_not_mem _ (ih false)
          intro same
          have plain := Casing.ascii.upper_plain c underscore
          exact plain (List.mem_singleton.mpr same)
  rw [camel, String.toList_ofList]
  exact each name.toList false

theorem findField_printed (casing : Casing) {fields : List (String × Ref)} {field : String × Ref}
    (listed : field ∈ fields) (plain : '_' ∉ field.1.toList) :
    ∃ found ∈ fields, findField casing fields (to_snake casing field.1) = .ok found ∧
      found.1 = field.1 := by
  have spelled := to_camel_to_snake casing field.1 plain
  cases search : fields.find? fun f => f.1 == to_camel casing (to_snake casing field.1) with
  | none =>
    have missed := List.find?_eq_none.mp search field listed
    rw [spelled] at missed
    exact absurd (beq_self_eq_true field.1) missed
  | some found =>
    have named := List.find?_some search
    rw [spelled, beq_iff_eq] at named
    exact ⟨found, List.mem_of_find?_eq_some search, by rw [findField, search], named⟩

theorem findField_listed {fields : List (String × Ref)} {name : String} {found : String × Ref}
    (accepted : findField casing fields name = .ok found) : found ∈ fields := by
  rw [findField] at accepted
  cases search : fields.find? fun f => f.1 == to_camel casing name with
  | none =>
    rw [search] at accepted
    cases accepted
  | some field =>
    rw [search, Except.ok.injEq] at accepted
    exact accepted ▸ List.mem_of_find?_eq_some search

/-- The printed names of listed fields stand for them. -/
theorem mapM_findField_printed {fields : List (String × Ref)}
    (plain : ∀ field ∈ fields, '_' ∉ field.1.toList) :
    ∀ chosen : List (String × Ref), (∀ field ∈ chosen, field ∈ fields) →
      ∃ again, (printed casing chosen).mapM (findField casing fields) = .ok again ∧
        again.map Prod.fst = chosen.map Prod.fst := by
  intro chosen
  induction chosen with
  | nil => exact fun _ => ⟨[], rfl, rfl⟩
  | cons field rest ih =>
    intro inside
    have here := inside field List.mem_cons_self
    obtain ⟨again, found, names⟩ := ih fun f mem => inside f (List.mem_cons_of_mem field mem)
    obtain ⟨first, -, resolved, named⟩ :=
      findField_printed casing here (plain field here)
    refine ⟨first :: again, ?_, by rw [List.map_cons, List.map_cons, named, names]⟩
    rw [printed, List.map_cons, List.mapM_cons, resolved]
    rw [printed] at found
    rw [found]
    rfl

theorem mapM_findField_listed {fields : List (String × Ref)} :
    ∀ (names : List String) (chosen : List (String × Ref)),
      names.mapM (findField casing fields) = .ok chosen →
        chosen.length = names.length ∧ ∀ field ∈ chosen, field ∈ fields := by
  intro names
  induction names with
  | nil =>
    intro chosen accepted
    obtain rfl : [] = chosen := Except.ok.inj accepted
    exact ⟨rfl, fun field none => absurd none List.not_mem_nil⟩
  | cons name rest ih =>
    intro chosen accepted
    rw [List.mapM_cons] at accepted
    cases first : findField casing fields name with
    | error e =>
      rw [first] at accepted
      cases accepted
    | ok found =>
      cases more : rest.mapM (findField casing fields) with
      | error e =>
        rw [first, more] at accepted
        cases accepted
      | ok others =>
        rw [first, more] at accepted
        obtain rfl : found :: others = chosen := Except.ok.inj accepted
        obtain ⟨count, inside⟩ := ih others more
        refine ⟨by rw [List.length_cons, List.length_cons, count], fun field listed => ?_⟩
        cases listed with
        | head => exact findField_listed first
        | tail _ later => exact inside field later

/-- The names printed for a selection select it again. -/
theorem selected_printed {fields chosen : List (String × Ref)} {names : List String}
    (plain : ∀ field ∈ fields, '_' ∉ field.1.toList)
    (accepted : selected casing fields names = .ok chosen) :
    ∃ again, selected casing fields (printed casing chosen) = .ok again ∧
      again.map Prod.fst = chosen.map Prod.fst := by
  cases chosen with
  | nil =>
    -- only a schema without fields has an empty selection
    cases names with
    | nil =>
      obtain rfl : fields = [] := Except.ok.inj accepted
      exact ⟨[], rfl, rfl⟩
    | cons name rest =>
      have count := (mapM_findField_listed (name :: rest) [] accepted).1
      cases count
  | cons field rest =>
    have inside : ∀ f ∈ field :: rest, f ∈ fields := by
      cases names with
      | nil =>
        obtain rfl : fields = field :: rest := Except.ok.inj accepted
        exact fun f listed => listed
      | cons name more => exact (mapM_findField_listed (name :: more) _ accepted).2
    exact mapM_findField_printed plain (field :: rest) inside

/-! ## Both spellings -/

theorem setting_names_round_trip (casing : Casing) :
    (∀ x : String, '_' ∉ x.toList → to_camel casing (to_snake casing x) = x) ∧
    (∀ x y : String, '_' ∉ x.toList → '_' ∉ y.toList →
      to_snake casing x = to_snake casing y → x = y) ∧
    (∀ name other : String, to_snake casing (camel name) = to_snake casing (camel other) →
      camel name = camel other) ∧
    (∀ (Ref : Type) (fields : List (String × Ref)),
      (∀ field ∈ fields, '_' ∉ field.1.toList) →
        (∀ field ∈ fields, ∃ found ∈ fields,
          findField casing fields (to_snake casing field.1) = .ok found ∧
            found.1 = field.1) ∧
        ∀ names chosen, selected casing fields names = .ok chosen →
          ∃ again, selected casing fields (printed casing chosen) = .ok again ∧
            again.map Prod.fst = chosen.map Prod.fst) ∧
    ∀ s : String, Underscored s.toList →
      (∀ c ∈ s.toList, c ≠ '_' → c.isUpper = false) →
        to_snake casing (to_camel casing s) = s := by
  refine ⟨to_camel_to_snake casing, fun x y => to_snake_injective, fun name other => ?_,
    fun Ref fields plain => ⟨fun field listed => ?_, fun names chosen accepted => ?_⟩,
    to_snake_to_camel⟩
  · exact to_snake_injective (camel_plain name) (camel_plain other)
  · exact findField_printed casing listed (plain field listed)
  · exact selected_printed plain accepted

theorem setting_names_round_trip_port :
    to_camel .ascii (to_snake .ascii "enableDht") = "enableDht" ∧
      to_snake .ascii (to_camel .ascii "i2p_port") = "i2p_port" := by
  obtain ⟨back, -, -, -, forth⟩ := setting_names_round_trip .ascii
  have chars : "i2p_port".toList = ['i', '2', 'p', '_', 'p', 'o', 'r', 't'] := by decide
  refine ⟨back "enableDht" (by decide), forth "i2p_port" ?_ ?_⟩
  · rw [chars]
    simp [underscored_cons, underscored_nil]
  · rw [chars]
    simp [Char.isUpper]

end Rsbtd.Ctl
