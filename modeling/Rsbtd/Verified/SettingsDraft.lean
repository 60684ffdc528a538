import Rsbtd.Transition.Runs
import Rsbtd.WebUi.Draft

/-!
# The draft loses no edit

Two values of one shape are deeply equal if no path tells them apart.  So an apply that
succeeded drops from the draft what was applied and nothing else, and what is left is
submitted next exactly if it differs from what the daemon has.
-/

namespace Rsbtd.WebUi

open Json (JsonValue Shape elementsConform_iff fieldsConform_iff)
open Json.JsonValue (Same same_iff)
open Transition

variable {ν : Type}

/-! ### Structural equality -/

section Equal

variable [DecidableEq ν] {a b : JsonValue ν} {shape : Shape}

theorem everyElement_iff {as bs : List (JsonValue ν)}
    (below : ∀ a ∈ as, ∀ b ∈ bs, deepEqual a b = true ↔ Same a b) (length : as.length = bs.length) :
    everyElement as bs = true ↔ ∀ i : Nat, Option.Rel Same as[i]? bs[i]? := by
  induction as generalizing bs with
  | nil =>
    obtain rfl := List.length_eq_zero_iff.mp length.symm
    simp [everyElement]
  | cons a as ih =>
    cases bs with
    | nil => simp at length
    | cons b bs =>
      have first := below a List.mem_cons_self b List.mem_cons_self
      have rest := ih (fun a within b there =>
        below a (List.mem_cons_of_mem _ within) b (List.mem_cons_of_mem _ there))
        (by simpa using length)
      rw [everyElement, Bool.and_eq_true, first, rest]
      constructor
      · rintro ⟨same, later⟩ i
        cases i with
        | zero => exact .some same
        | succ i => simpa using later i
      · intro every
        refine ⟨?_, fun i => by simpa using every (i + 1)⟩
        have same : Option.Rel Same (some a) (some b) := every 0
        cases same with
        | some same => exact same

theorem everyKey_iff {as : List (String × JsonValue ν)} :
    everyKey as b = true ↔ ∀ p ∈ as, ∃ w, property b p.1 = some w ∧ deepEqual p.2 w = true := by
  induction as with
  | nil => simp [everyKey]
  | cons first as ih =>
    obtain ⟨key, a⟩ := first
    rw [everyKey, Bool.and_eq_true, ih, List.forall_mem_cons, Option.any_eq_true]

theorem lookup_eq_none {α : Type} {fields : List (String × α)} {key : String} :
    fields.lookup key = none ↔ key ∉ fields.map Prod.fst := by
  rw [List.lookup_eq_none_iff]
  constructor
  · intro others listed
    obtain ⟨p, there, rfl⟩ := List.mem_map.mp listed
    simpa using others p there
  · intro absent p there
    have other : key ≠ p.1 := fun same => absent (List.mem_map.mpr ⟨p, there, same.symm⟩)
    simpa using other

theorem lookup_eq_some_of_nodup {α : Type} {fields : List (String × α)} {key : String} {value : α}
    (nodup : (fields.map Prod.fst).Nodup) :
    fields.lookup key = some value ↔ (key, value) ∈ fields := by
  induction fields with
  | nil => simp
  | cons first fields ih =>
    obtain ⟨name, own⟩ := first
    obtain ⟨fresh, nodup⟩ := List.nodup_cons.mp nodup
    rw [List.lookup_cons, List.mem_cons]
    by_cases same : key = name
    · subst same
      have absent : (key, value) ∉ fields := fun listed =>
        fresh (List.mem_map.mpr ⟨_, listed, rfl⟩)
      simp [absent, eq_comm]
    · have other : (key == name) = false := by simpa using same
      simp [other, same, ih nodup]

/-- Objects of one set of keys that have the same value under each. -/
theorem everyKey_iff_lookup {as bs : List (String × JsonValue ν)}
    (below : ∀ p ∈ as, ∀ q ∈ bs, q.1 = p.1 → (deepEqual p.2 q.2 = true ↔ Same p.2 q.2))
    (nodup : (as.map Prod.fst).Nodup) (nodup' : (bs.map Prod.fst).Nodup)
    (keys : ∀ name, name ∈ as.map Prod.fst ↔ name ∈ bs.map Prod.fst) :
    everyKey as (.object bs) = true ↔
      ∀ name, Option.Rel Same (as.lookup name) (bs.lookup name) := by
  rw [everyKey_iff]
  constructor
  · intro every name
    cases left : as.lookup name with
    | none =>
      have right := lookup_eq_none.mpr ((keys name).not.mp (lookup_eq_none.mp left))
      rw [right]
      exact .none
    | some value =>
      have listed := (lookup_eq_some_of_nodup nodup).mp left
      obtain ⟨other, found, equal⟩ := every _ listed
      have listed' := (lookup_eq_some_of_nodup nodup').mp found
      rw [show bs.lookup name = some other from found]
      exact .some ((below _ listed _ listed' rfl).mp equal)
  · intro every p listed
    have own := (lookup_eq_some_of_nodup nodup).mpr listed
    have same := every p.1
    rw [own] at same
    cases found : bs.lookup p.1 with
    | none =>
      rw [found] at same
      cases same
    | some other =>
      rw [found] at same
      cases same with
      | some same =>
        have listed' := (lookup_eq_some_of_nodup nodup').mp found
        exact ⟨other, found, (below _ listed _ listed' rfl).mpr same⟩

theorem length_eq_of_keys {α : Type} {as bs : List (String × α)} (nodup : (as.map Prod.fst).Nodup)
    (nodup' : (bs.map Prod.fst).Nodup)
    (keys : ∀ name, name ∈ as.map Prod.fst ↔ name ∈ bs.map Prod.fst) : as.length = bs.length := by
  have permuted := (List.perm_ext_iff_of_nodup nodup nodup').mpr keys
  simpa using permuted.length_eq

theorem deepEqual_list {as bs : List (JsonValue ν)} :
    deepEqual (.list as) (.list bs) = (decide (as.length = bs.length) && everyElement as bs) := rfl

theorem deepEqual_object {as bs : List (String × JsonValue ν)} :
    deepEqual (.object as) (.object bs) =
      (decide (as.length = bs.length) && everyKey as (.object bs)) := rfl

theorem root_eq_of_deepEqual (conforms : a.Conforms shape) (conforms' : b.Conforms shape)
    (equal : deepEqual a b = true) : a.root = b.root := by
  cases a with
  | null =>
    cases b with
    | null => rfl
    | _ => exact absurd equal Bool.false_ne_true
  | bool value =>
    cases b with
    | bool other => exact congrArg Json.Root.bool (of_decide_eq_true equal)
    | _ => exact absurd equal Bool.false_ne_true
  | number value =>
    cases b with
    | number other => exact congrArg Json.Root.number (of_decide_eq_true equal)
    | _ => exact absurd equal Bool.false_ne_true
  | string value =>
    cases b with
    | string other => exact congrArg Json.Root.string (of_decide_eq_true equal)
    | _ => exact absurd equal Bool.false_ne_true
  | list elements =>
    cases b with
    | list others =>
      rw [deepEqual_list, Bool.and_eq_true] at equal
      exact congrArg Json.Root.list (of_decide_eq_true equal.1)
    | object _ =>
      cases shape with
      | list _ => exact conforms'.elim
      | _ => exact conforms.elim
    | _ => exact absurd equal Bool.false_ne_true
  | object fields =>
    cases b with
    | object _ => rfl
    | list _ =>
      cases shape with
      | list _ => exact conforms.elim
      | _ => exact conforms'.elim
    | _ => exact absurd equal Bool.false_ne_true

theorem deepEqual_iff_of_root_ne (conforms : a.Conforms shape) (conforms' : b.Conforms shape)
    (differ : a.root ≠ b.root) : deepEqual a b = true ↔ Same a b := by
  constructor
  · intro equal
    exact absurd (root_eq_of_deepEqual conforms conforms' equal) differ
  · intro same
    exact absurd same.root_eq differ

/-- Of values of one shape, the source's equality is that no path tells them apart. -/
theorem deepEqual_iff (conforms : a.Conforms shape) (conforms' : b.Conforms shape) :
    deepEqual a b = true ↔ Same a b := by
  induction a generalizing b shape with
  | null =>
    cases b with
    | null => exact iff_of_true rfl (Same.refl _)
    | _ => exact deepEqual_iff_of_root_ne conforms conforms' (by simp [JsonValue.root])
  | bool value =>
    cases b with
    | bool other =>
      by_cases same : value = other
      · subst same
        exact iff_of_true (decide_eq_true rfl) (Same.refl _)
      · exact deepEqual_iff_of_root_ne conforms conforms' (by simp [JsonValue.root, same])
    | _ => exact deepEqual_iff_of_root_ne conforms conforms' (by simp [JsonValue.root])
  | number value =>
    cases b with
    | number other =>
      by_cases same : value = other
      · subst same
        exact iff_of_true (decide_eq_true rfl) (Same.refl _)
      · exact deepEqual_iff_of_root_ne conforms conforms' (by simp [JsonValue.root, same])
    | _ => exact deepEqual_iff_of_root_ne conforms conforms' (by simp [JsonValue.root])
  | string value =>
    cases b with
    | string other =>
      by_cases same : value = other
      · subst same
        exact iff_of_true (decide_eq_true rfl) (Same.refl _)
      · exact deepEqual_iff_of_root_ne conforms conforms' (by simp [JsonValue.root, same])
    | _ => exact deepEqual_iff_of_root_ne conforms conforms' (by simp [JsonValue.root])
  | list elements ih =>
    -- lists of one length: a path begins with an index
    cases b with
    | list others =>
      cases shape with
      | list element =>
        by_cases length : elements.length = others.length
        case neg =>
          exact deepEqual_iff_of_root_ne conforms conforms' (by simp [JsonValue.root, length])
        have within := elementsConform_iff.mp conforms
        have within' := elementsConform_iff.mp conforms'
        have below : ∀ v ∈ elements, ∀ w ∈ others, deepEqual v w = true ↔ Same v w :=
          fun v listed w listed' => ih v listed (within v listed) (within' w listed')
        rw [deepEqual_list, Bool.and_eq_true, everyElement_iff below length, same_iff]
        constructor
        · rintro ⟨-, every⟩
          refine ⟨congrArg Json.Root.list length, ?_⟩
          intro step
          cases step with
          | index i => exact every i
          | field name => exact .none
        · rintro ⟨-, every⟩
          exact ⟨by simpa using length, fun i => every (.index i)⟩
      | _ => exact conforms.elim
    | _ => exact deepEqual_iff_of_root_ne conforms conforms' (by simp [JsonValue.root])
  | object fields ih =>
    -- objects of one shape have the same keys: a path begins with one of them
    cases b with
    | object others =>
      cases shape with
      | object keys field =>
        obtain ⟨nodup, own, within⟩ := conforms
        obtain ⟨nodup', own', within'⟩ := conforms'
        have same : ∀ name, name ∈ fields.map Prod.fst ↔ name ∈ others.map Prod.fst :=
          fun name => (own name).trans (own' name).symm
        have below : ∀ p ∈ fields, ∀ q ∈ others, q.1 = p.1 →
            (deepEqual p.2 q.2 = true ↔ Same p.2 q.2) := by
          intro p listed q listed' key
          have inside := fieldsConform_iff.mp within' q listed'
          rw [key] at inside
          exact ih p listed (fieldsConform_iff.mp within p listed) inside
        have length := length_eq_of_keys nodup nodup' same
        rw [deepEqual_object, Bool.and_eq_true, everyKey_iff_lookup below nodup nodup' same,
          same_iff]
        constructor
        · rintro ⟨-, every⟩
          refine ⟨rfl, ?_⟩
          intro step
          cases step with
          | index i => exact .none
          | field name => exact every name
        · rintro ⟨-, every⟩
          exact ⟨by simpa using length, fun name => every (.field name)⟩
      | _ => exact conforms.elim
    | _ => exact deepEqual_iff_of_root_ne conforms conforms' (by simp [JsonValue.root])

end Equal

/-! ### Values of the fields' shapes -/

namespace SettingsCatalog

variable (catalog : SettingsCatalog)

/-- The value has the field's shape, and is null only in a group that can be disabled. -/
def Admits (name : String) (value : JsonValue ν) : Prop :=
  value.Conforms (catalog.shape name) ∧ (isNull value = true → catalog.nullable name = true)

def Admitted (draft : Record ν) : Prop :=
  ∀ name value, catalog.has name = true → draft name = some value → catalog.Admits name value

/-- The snapshot has the shapes of the fields but for typenames. -/
def Typed (snapshot : Record ν) : Prop :=
  ∀ name value, catalog.has name = true → snapshot name = some value →
    (stripTypename value).Conforms (catalog.shape name)

end SettingsCatalog

/-- The two are undefined, or no path tells them apart. -/
def Agree (a b : Option (JsonValue ν)) : Prop := Option.Rel Same a b

theorem Agree.refl (a : Option (JsonValue ν)) : Agree a a := by
  cases a with
  | none => exact .none
  | some value => exact .some (Same.refl value)

@[simp] theorem agree_some {a b : JsonValue ν} : Agree (some a) (some b) ↔ Same a b := by
  constructor
  · intro agree
    cases agree with
    | some same => exact same
  · exact .some

theorem not_agree_none {a : JsonValue ν} : ¬Agree (some a) none := by
  rintro ⟨⟩

section Delta

variable [DecidableEq ν] {catalog : SettingsCatalog} {snapshot draft delta : Record ν}
  {name : String} {value : JsonValue ν}

theorem buildDelta_eq_some_draft (submitted : buildDelta catalog snapshot draft name = some value) :
    catalog.has name = true ∧ draft name = some value := by
  unfold buildDelta at submitted
  cases edited : draft name with
  | none => simp [edited] at submitted
  | some own =>
    cases known : catalog.has name with
    | false => simp [edited, known] at submitted
    | true =>
      simp only [edited, known] at submitted
      split at submitted
      · cases submitted
      · split at submitted
        · cases submitted
        · split at submitted
          · cases submitted
          · exact ⟨rfl, submitted⟩

/-- The delta has the fields whose effective value differs from the snapshot's. -/
theorem buildDelta_eq_some (admitted : catalog.Admitted draft) (typed : catalog.Typed snapshot) :
    buildDelta catalog snapshot draft name = some value ↔
      catalog.has name = true ∧ effectiveValue snapshot draft name = some value ∧
        ¬Agree (some value) ((snapshot name).map stripTypename) := by
  unfold buildDelta effectiveValue
  cases edited : draft name with
  | none =>
    simp only [reduceCtorEq, false_iff]
    rintro ⟨-, same, differs⟩
    exact differs (same ▸ Agree.refl _)
  | some own =>
    cases known : catalog.has name with
    | false => simp
    | true =>
      obtain ⟨conforms, onlyGroups⟩ := admitted name own known edited
      have equality : deepEqualDefined (some own) ((snapshot name).map stripTypename) = true ↔
          Agree (some own) ((snapshot name).map stripTypename) := by
        cases there : snapshot name with
        | none => simpa [deepEqualDefined] using not_agree_none
        | some current =>
          simpa [deepEqualDefined] using deepEqual_iff conforms (typed name current known there)
      have group : (isNull own && !catalog.nullable name) = false := by
        cases null : isNull own with
        | false => rfl
        | true => simp [onlyGroups null]
      simp only [group, true_and, Bool.true_eq_false, Bool.false_eq_true, if_false]
      by_cases agree : Agree (some own) ((snapshot name).map stripTypename)
      · rw [if_pos (equality.mpr agree)]
        simp only [reduceCtorEq, false_iff]
        rintro ⟨same, differs⟩
        exact differs (same ▸ agree)
      · rw [if_neg (equality.not.mpr agree)]
        constructor
        · rintro same
          exact ⟨same, same ▸ agree⟩
        · exact And.left

theorem pruneApplied_kept (pruned : pruneApplied draft delta name = some value) :
    draft name = some value := by
  unfold pruneApplied at pruned
  split at pruned
  · split at pruned
    · cases pruned
    case isFalse entry _ _ => exact entry.trans pruned
  · exact pruned

theorem pruneApplied_absent (absent : delta name = none) :
    pruneApplied draft delta name = draft name := by
  simp [pruneApplied, absent]

theorem pruneApplied_of_ne {submitted : JsonValue ν} (edited : draft name = some value)
    (applied : delta name = some submitted) :
    pruneApplied draft delta name = if deepEqual value submitted then none else some value := by
  simp [pruneApplied, edited, applied]

end Delta

/-! ### Edits -/

theorem apply_other {draft : Record ν} {name : String} {edit : DraftEdit ν}
    (other : ¬edit.touches name) : edit.apply draft name = draft name := by
  cases edit with
  | setField field value => exact Keyed.Store.set_other (fun same => other same.symm)
  | clearField field => exact if_neg (fun same => other same.symm)
  | reset => exact absurd trivial other

theorem foldl_apply_other {draft : Record ν} {name : String} {edits : List (DraftEdit ν)}
    (others : ∀ edit ∈ edits, ¬edit.touches name) :
    edits.foldl DraftEdit.apply draft name = draft name := by
  induction edits generalizing draft with
  | nil => rfl
  | cons edit edits ih =>
    obtain ⟨first, others⟩ := List.forall_mem_cons.mp others
    rw [List.foldl_cons, ih others, apply_other first]

/-- The last edit of a field is in the draft. -/
theorem foldl_apply_last {draft : Record ν} {name : String} {value : JsonValue ν}
    {earlier later : List (DraftEdit ν)} (others : ∀ edit ∈ later, ¬edit.touches name) :
    (earlier ++ .setField name value :: later).foldl DraftEdit.apply draft name = some value := by
  rw [List.foldl_append, List.foldl_cons, foldl_apply_other others]
  exact Keyed.Store.set_self

namespace SettingsPage

variable [DecidableEq ν] (catalog : SettingsCatalog)

/-- Edits give fields values they admit, and the daemon answers with the fields' shapes. -/
def Permitted (_ : SettingsPage ν) : Action ν → Prop
  | .edit (.setField name value) => catalog.has name = true → catalog.Admits name value
  | .succeed applySettings => catalog.Typed applySettings
  | _ => True

/-- The delta was built from the snapshot and the draft that was edited since. -/
structure Built (s : SettingsPage ν) : Prop where
  admitted : catalog.Admitted s.draft
  typed : catalog.Typed s.snapshot
  built : ∀ pending, s.applying = some pending → ∃ before, catalog.Admitted before ∧
    pending.delta = buildDelta catalog s.snapshot before ∧
    s.draft = pending.since.foldl DraftEdit.apply before

variable {catalog}

omit [DecidableEq ν] in
theorem admitted_apply {draft : Record ν} {edit : DraftEdit ν} {s : SettingsPage ν}
    (admitted : catalog.Admitted draft) (permitted : Permitted catalog s (.edit edit)) :
    catalog.Admitted (edit.apply draft) := by
  intro name value known there
  cases edit with
  | setField field new =>
    by_cases same : name = field
    · subst same
      have own : new = value := by simpa [DraftEdit.apply] using there
      exact own ▸ permitted known
    · have other : ¬(DraftEdit.setField field new).touches name := fun own => same own.symm
      rw [apply_other other] at there
      exact admitted name value known there
  | clearField field =>
    simp only [DraftEdit.apply] at there
    split at there
    · cases there
    · exact admitted name value known there
  | reset => cases there

theorem Built.step {s t : SettingsPage ν} {a : Action ν} (b : Built catalog s)
    (permitted : Permitted catalog s a) (stepped : step catalog s a = some t) :
    Built catalog t := by
  cases a with
  | edit edit =>
    simp only [SettingsPage.step, Option.some.injEq] at stepped
    subst stepped
    refine ⟨admitted_apply b.admitted permitted, b.typed, ?_⟩
    intro pending applying
    obtain ⟨earlier, own, rfl⟩ := Option.map_eq_some_iff.mp applying
    obtain ⟨before, admitted, delta, draft⟩ := b.built earlier own
    refine ⟨before, admitted, delta, ?_⟩
    simp [draft]
  | submit =>
    simp only [SettingsPage.step] at stepped
    split at stepped
    · cases stepped
    · simp only [Option.some.injEq] at stepped
      subst stepped
      refine ⟨b.admitted, b.typed, ?_⟩
      rintro pending ⟨⟩
      exact ⟨s.draft, b.admitted, rfl, rfl⟩
  | succeed applySettings =>
    simp only [SettingsPage.step] at stepped
    split at stepped
    · cases stepped
    · simp only [Option.some.injEq] at stepped
      subst stepped
      refine ⟨?_, permitted, by simp⟩
      intro name value known there
      exact b.admitted name value known (pruneApplied_kept there)
  | fail =>
    simp only [SettingsPage.step] at stepped
    split at stepped
    · cases stepped
    · simp only [Option.some.injEq] at stepped
      subst stepped
      exact ⟨b.admitted, b.typed, by simp⟩

theorem Built.run {s : SettingsPage ν} {snapshot : Record ν} (typed : catalog.Typed snapshot)
    (run : Run (SettingsPage.step catalog) (Permitted catalog) (opened snapshot) s) :
    Built catalog s := by
  have start : Built catalog (opened snapshot) :=
    ⟨by simp [SettingsCatalog.Admitted, opened], typed, by simp [opened]⟩
  exact run.invariant start (fun _ _ _ _ built permitted stepped => built.step permitted stepped)

/-- What was submitted has the shape of its field. -/
theorem Built.conforms {s : SettingsPage ν} {pending : PendingApply ν} {name : String}
    {submitted : JsonValue ν} (b : Built catalog s) (applying : s.applying = some pending)
    (applied : pending.delta name = some submitted) :
    catalog.has name = true ∧ submitted.Conforms (catalog.shape name) := by
  obtain ⟨before, admitted, delta, -⟩ := b.built pending applying
  rw [delta] at applied
  obtain ⟨known, entry⟩ := buildDelta_eq_some_draft applied
  exact ⟨known, (admitted name submitted known entry).1⟩

/-- Pruning drops an entry exactly if it agrees with what was submitted. -/
theorem Built.pruneApplied {s : SettingsPage ν} {pending : PendingApply ν} {name : String}
    {value : JsonValue ν} (b : Built catalog s) (applying : s.applying = some pending) :
    pruneApplied s.draft pending.delta name = some value ↔
      s.draft name = some value ∧ ¬Agree (some value) (pending.delta name) := by
  cases entry : s.draft name with
  | none =>
    simp only [reduceCtorEq, false_and, iff_false]
    intro kept
    rw [pruneApplied_kept kept] at entry
    cases entry
  | some own =>
    cases applied : pending.delta name with
    | none => simp [pruneApplied_absent applied, entry, not_agree_none]
    | some submitted =>
      obtain ⟨known, conforms⟩ := b.conforms applying applied
      have equality := deepEqual_iff (b.admitted name own known entry).1 conforms
      rw [pruneApplied_of_ne entry applied]
      by_cases same : deepEqual own submitted = true
      · rw [if_pos same]
        simp only [reduceCtorEq, false_iff, agree_some]
        rintro ⟨kept, differs⟩
        obtain rfl := Option.some.inj kept
        exact differs (equality.mp same)
      · rw [if_neg same]
        constructor
        · intro kept
          obtain rfl := Option.some.inj kept
          exact ⟨rfl, agree_some.not.mpr (equality.not.mp same)⟩
        · exact And.left

/-- In every run of edits and applies: after an apply that succeeded, an edit made since it
was submitted is in the draft unless it set the value submitted, no entry of the draft is
what was applied, and what would be submitted next are the fields whose effective value
differs from the new snapshot's, whatever that is; an apply that failed leaves the draft. -/
theorem settings_draft {snapshot : Record ν} (typed : catalog.Typed snapshot)
    {s : SettingsPage ν}
    (run : Run (SettingsPage.step catalog) (Permitted catalog) (opened snapshot) s)
    {pending : PendingApply ν} (applying : s.applying = some pending) :
    (∀ applySettings t, Permitted catalog s (.succeed applySettings) →
      SettingsPage.step catalog s (.succeed applySettings) = some t →
      (∀ earlier later name value, pending.since = earlier ++ .setField name value :: later →
        (∀ edit ∈ later, ¬edit.touches name) → ¬Agree (some value) (pending.delta name) →
        t.draft name = some value) ∧
      (∀ name value, t.draft name = some value → ¬Agree (some value) (pending.delta name)) ∧
      ∀ name value, buildDelta catalog t.snapshot t.draft name = some value ↔
        catalog.has name = true ∧ effectiveValue t.snapshot t.draft name = some value ∧
          ¬Agree (some value) ((t.snapshot name).map stripTypename)) ∧
    ∀ t, SettingsPage.step catalog s .fail = some t →
      t.draft = s.draft ∧ t.snapshot = s.snapshot := by
  have b := Built.run typed run
  constructor
  · intro applySettings t permitted stepped
    have after := b.step permitted stepped
    simp only [SettingsPage.step, applying, Option.some.injEq] at stepped
    subst stepped
    refine ⟨?_, ?_, fun name value => buildDelta_eq_some after.admitted after.typed⟩
    · intro earlier later name value since others differs
      obtain ⟨before, -, -, draft⟩ := b.built pending applying
      apply (b.pruneApplied applying).mpr
      refine ⟨?_, differs⟩
      rw [draft, since, foldl_apply_last others]
    · intro name value kept
      exact ((b.pruneApplied applying).mp kept).2
  · intro t stepped
    simp only [SettingsPage.step, applying, Option.some.injEq] at stepped
    subst stepped
    exact ⟨rfl, rfl⟩

/-- An upload rate and a range of ports. -/
def rateAndPorts : SettingsCatalog where
  has name := name = "uploadRateLimit" || name = "outgoingPortRange"
  nullable name := name = "outgoingPortRange"
  shape name :=
    if name = "outgoingPortRange" then .object ["first", "last"] fun _ => .scalar else .scalar

/-- A rate and no ports. -/
def rated (rate : Int) : Record Int := fun name =>
  if name = "uploadRateLimit" then some (.number rate) else none

theorem rated_typed (rate : Int) : rateAndPorts.Typed (rated rate) := by
  intro name value _ there
  simp only [rated] at there
  split at there
  case isTrue same =>
    obtain rfl := Option.some.inj there
    simp [same, rateAndPorts, stripTypename, JsonValue.Conforms]
  case isFalse => cases there

theorem rated_admits (rate : Int) :
    rateAndPorts.Admits "uploadRateLimit" (JsonValue.number rate) := by
  simp [SettingsCatalog.Admits, rateAndPorts, JsonValue.Conforms, isNull]

/-- A rate of 500 is submitted, 800 is set on the way, and 500 applied: 800 is left. -/
theorem settings_draft_overtaken : ∃ s t : SettingsPage Int,
    Run (SettingsPage.step rateAndPorts) (Permitted rateAndPorts) (opened (rated 0)) s ∧
      SettingsPage.step rateAndPorts s (.succeed (rated 500)) = some t ∧
      t.draft "uploadRateLimit" = some (.number 800) := by
  have run : Run (SettingsPage.step rateAndPorts) (Permitted rateAndPorts) (opened (rated 0)) _ :=
    .tail (a := .edit (.setField "uploadRateLimit" (.number 800)))
      (.tail (a := .submit)
        (.tail (a := .edit (.setField "uploadRateLimit" (.number 500))) .refl
          (fun _ => rated_admits 500) rfl) trivial rfl)
      (fun _ => rated_admits 800) rfl
  refine ⟨_, _, run, rfl, ?_⟩
  have kept := ((settings_draft (rated_typed 0) run rfl).1 (rated 500) _ (rated_typed 500) rfl).1
  apply kept [] [] "uploadRateLimit" (.number 800) rfl (by simp)
  intro agree
  have same : Same (JsonValue.number (800 : Int)) (.number 500) := agree_some.mp agree
  simpa [JsonValue.root] using same.root_eq

end SettingsPage

end Rsbtd.WebUi
