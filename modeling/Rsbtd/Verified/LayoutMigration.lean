import Rsbtd.Sequence.Firsts
import Rsbtd.Verified.TableLayouts

/-!
# A layout from before the hash columns

The columns `infoHash` and `id` left the table of the torrents.  The layout that the
controls of the older table had built shows, once it is migrated, the other columns
as before and in the same order, and the hash of version 1 if either hash was shown.
-/

namespace Rsbtd.WebUi

open Keyed (Store)
open Transition (Run)

/-! ## The two tables -/

/-- A column that neither took a hash's place nor left. -/
def lasting (id : String) : Bool := id ≠ "infoHash" ∧ id ≠ "infoHashV1" ∧ id ≠ "id"

/-- `new` is the table of the torrents after the columns left that `old` still had. -/
structure Supersedes (old new : Table String) : Prop where
  oldId : old.tableId = "torrents"
  newId : new.tableId = "torrents"
  lasts : new.columns.filter lasting = old.columns.filter lasting
  hadHash : "infoHash" ∈ old.columns
  hadHashV1 : "infoHashV1" ∈ old.columns
  hasHashV1 : "infoHashV1" ∈ new.columns
  gone : ∀ id ∈ new.columns, lasting id ∨ id = "infoHashV1"
  visible : ∀ id, lasting id → (id ∈ new.defaultVisible ↔ id ∈ old.defaultVisible)

variable {old new : Table String} {state : PersistedPrefs} {version : Nat} {id : String}
  {ids : List String}

theorem tables_migrate (older : version < 3) :
    (migrate state version).tables "torrents" = (state.tables "torrents").map migrateTorrents := by
  have untouched : (if version < 2 then
      { state with savePaths := [], savePathsByDaemon := .empty } else state).tables =
        state.tables := by
    split <;> rfl
  simp only [migrate, older, if_true, untouched]
  cases stored : state.tables "torrents" <;> simp [stored]

namespace Supersedes

theorem mem_lasting (supersedes : Supersedes old new) (lasts : lasting id) :
    id ∈ new.columns ↔ id ∈ old.columns := by
  have same : id ∈ new.columns.filter lasting ↔ id ∈ old.columns.filter lasting := by
    rw [supersedes.lasts]
  simpa [lasts] using same

theorem layout_migrate (supersedes : Supersedes old new) (older : version < 3)
    (state : PersistedPrefs) :
    new.layout (migrate state version).tables = migrateTorrents (old.layout state.tables) := by
  rw [Table.layout, Table.layout, supersedes.newId, supersedes.oldId, tables_migrate older]
  cases state.tables "torrents" <;> rfl

theorem order_layout (supersedes : Supersedes old new) (older : version < 3)
    (state : PersistedPrefs) :
    (new.layout (migrate state version).tables).order =
      (old.layout state.tables).order.map fun ids => firsts (· ≠ "id") (ids.map renamed) := by
  rw [supersedes.layout_migrate older state]
  rfl

theorem hidden_layout (supersedes : Supersedes old new) (older : version < 3)
    (state : PersistedPrefs) :
    (new.layout (migrate state version).tables).hidden =
      (old.layout state.tables).hidden.map migrateHidden := by
  rw [supersedes.layout_migrate older state]
  rfl

end Supersedes

/-! ## The order -/

theorem firsts_eq {keep : String → Bool} {keys : List String} :
    firsts keep keys = Sequence.firstsAfter keep [] keys :=
  @Sequence.zipIdx_firstsAfter String _ keep [] keys

theorem renamed_lasting (lasts : lasting id) : renamed id = id := by
  rw [renamed, if_neg]
  intro same
  subst same
  cases lasts

theorem lasting_renamed : lasting (renamed id) = lasting id := by
  unfold renamed
  split
  · rename_i same
    subst same
    decide
  · rfl

theorem filter_renamed : (ids.map renamed).filter lasting = ids.filter lasting := by
  rw [List.filter_map]
  have same : ids.filter (lasting ∘ renamed) = ids.filter lasting :=
    List.filter_congr fun id _ => lasting_renamed
  rw [same]
  refine (List.map_congr_left fun id listed => ?_).trans (List.map_id _)
  exact renamed_lasting (List.mem_filter.mp listed).2

theorem lasting_ne_id (lasts : lasting id) : decide (id ≠ "id") = true := by
  have apart := of_decide_eq_true lasts
  exact decide_eq_true apart.2.2

/-- The migrated order has each column of the new table once. -/
theorem firsts_renamed_perm (supersedes : Supersedes old new) (perm : ids.Perm old.columns) :
    (firsts (· ≠ "id") (ids.map renamed)).Perm new.columns := by
  rw [firsts_eq]
  refine (List.perm_ext_iff_of_nodup Sequence.nodup_firstsAfter new.unique).mpr fun id => ?_
  rw [Sequence.mem_firstsAfter, List.mem_map]
  constructor
  · intro ⟨⟨before, listed, same⟩, stays, _⟩
    subst same
    have listed := perm.mem_iff.mp listed
    by_cases lasts : lasting before
    · rw [renamed_lasting lasts]
      exact (supersedes.mem_lasting lasts).mpr listed
    · by_cases hash : before = "infoHash"
      · subst hash
        exact supersedes.hasHashV1
      · have hashV1 : before = "infoHashV1" := by
          by_contra other
          rw [renamed, if_neg hash] at stays
          exact lasts (decide_eq_true ⟨hash, other, of_decide_eq_true stays⟩)
        subst hashV1
        exact supersedes.hasHashV1
  · intro listed
    cases supersedes.gone id listed with
    | inl lasts =>
      have listed := perm.mem_iff.mpr ((supersedes.mem_lasting lasts).mp listed)
      exact ⟨⟨id, listed, renamed_lasting lasts⟩, lasting_ne_id lasts, List.not_mem_nil⟩
    | inr same =>
      subst same
      -- The older hash comes in under the name of the new one.
      exact ⟨⟨_, perm.mem_iff.mpr supersedes.hadHash, rfl⟩, by decide, List.not_mem_nil⟩

theorem order_migrate (supersedes : Supersedes old new) (older : version < 3)
    (kept : old.Kept (old.layout state.tables)) :
    (new.order (migrate state version).tables).Perm new.columns ∧
      (new.order (migrate state version).tables).filter lasting =
        (old.order state.tables).filter lasting := by
  have layout := supersedes.order_layout older state
  cases stored : (old.layout state.tables).order with
  | none =>
    have unset : (new.layout (migrate state version).tables).order = none := by
      rw [layout, stored, Option.map_none]
    have order : new.order (migrate state version).tables = new.columns := by
      simp [Table.order, unset]
    have order' : old.order state.tables = old.columns := by simp [Table.order, stored]
    rw [order, order', supersedes.lasts]
    exact ⟨.refl _, rfl⟩
  | some ids =>
    have perm := kept.order ids stored
    have perm' := firsts_renamed_perm supersedes perm
    have set : (new.layout (migrate state version).tables).order =
        some (firsts (· ≠ "id") (ids.map renamed)) := by
      rw [layout, stored, Option.map_some]
    -- both orders list every column, so neither is completed
    rw [Table.order_of_perm set perm', Table.order_of_perm stored perm]
    refine ⟨perm', ?_⟩
    have nodup : ((ids.map renamed).filter lasting).Nodup := by
      rw [filter_renamed]
      exact (perm.nodup_iff.mpr old.unique).filter _
    rw [firsts_eq, Sequence.filter_firstsAfter (fun _ => lasting_ne_id) nodup
      fun _ _ _ => List.not_mem_nil, filter_renamed]

/-! ## The hidden columns -/

theorem mem_migrateHidden : id ∈ migrateHidden ids ↔
    id ∈ ids ∧ id ≠ "id" ∧ id ≠ "infoHash" ∧ (id = "infoHashV1" → "infoHash" ∈ ids) := by
  unfold migrateHidden
  simp only [List.mem_eraseDups]
  by_cases hash : "infoHash" ∈ ids
  · simp [hash]
  · by_cases same : id = "infoHashV1" <;> simp [hash, same]

theorem nodup_migrateHidden (nodup : ids.Nodup) : (migrateHidden ids).Nodup := by
  simp only [migrateHidden, Table.eraseDups_of_nodup nodup]
  split
  · exact (nodup.filter _).filter _
  · exact ((nodup.filter _).filter _).filter _

/-- What is hidden after the migration: of the lasting columns the same, and the hash when both
hashes were. -/
theorem hidden_migrate (supersedes : Supersedes old new) (older : version < 3)
    (state : PersistedPrefs) :
    (∀ id ∈ new.columns, lasting id →
      (id ∈ new.hidden (migrate state version).tables ↔ id ∈ old.hidden state.tables)) ∧
    ((old.layout state.tables).hidden ≠ none →
      ("infoHashV1" ∈ new.hidden (migrate state version).tables ↔
        "infoHashV1" ∈ old.hidden state.tables ∧ "infoHash" ∈ old.hidden state.tables)) := by
  have layout := supersedes.hidden_layout older state
  cases stored : (old.layout state.tables).hidden with
  | none =>
    -- no table has a hidden set, and both show what they show at first
    have unset : (new.layout (migrate state version).tables).hidden = none := by
      rw [layout, stored, Option.map_none]
    refine ⟨fun id listed lasts => ?_, fun some_ => absurd rfl some_⟩
    have listed' := (supersedes.mem_lasting lasts).mp listed
    simp [Table.hidden, unset, stored, listed, listed', supersedes.visible id lasts]
  | some ids =>
    have set : (new.layout (migrate state version).tables).hidden = some (migrateHidden ids) := by
      rw [layout, stored, Option.map_some]
    simp only [Table.hidden, set, stored, List.mem_eraseDups, mem_migrateHidden]
    refine ⟨fun id _ lasts => ?_, fun _ => by simp⟩
    have apart := of_decide_eq_true lasts
    simp [apart.1, apart.2.1, apart.2.2]

/-- The new table shows a column when a column other than `id` was shown, or none was hidden. -/
theorem shown_migrate (supersedes : Supersedes old new) (older : version < 3)
    (kept : old.Kept (old.layout state.tables)) :
    (∃ id ∈ new.columns, id ∉ new.hidden (migrate state version).tables) ↔
      ((old.layout state.tables).hidden ≠ none →
        ∃ id ∈ old.visibleCols state.tables, id ≠ "id") := by
  obtain ⟨theirs, hashes⟩ := hidden_migrate supersedes older state
  have before : ∀ id, id ∈ old.visibleCols state.tables ↔ id ∈ old.columns ∧
      id ∉ old.hidden state.tables := fun id => Table.mem_visibleCols kept
  constructor
  · intro ⟨id, listed, visible⟩ stored
    cases supersedes.gone id listed with
    | inl lasts =>
      have visible' := fun concealed => visible ((theirs id listed lasts).mpr concealed)
      exact ⟨id, (before id).mpr ⟨(supersedes.mem_lasting lasts).mp listed, visible'⟩,
        of_decide_eq_true (lasting_ne_id lasts)⟩
    | inr same =>
      subst same
      -- The new hash is hidden only when both were, so one of the two was shown.
      by_cases concealed : "infoHashV1" ∈ old.hidden state.tables
      · have shown : "infoHash" ∉ old.hidden state.tables := fun both =>
          visible ((hashes stored).mpr ⟨concealed, both⟩)
        exact ⟨_, (before _).mpr ⟨supersedes.hadHash, shown⟩, by decide⟩
      · exact ⟨_, (before _).mpr ⟨supersedes.hadHashV1, concealed⟩, by decide⟩
  · intro shown
    cases stored : (old.layout state.tables).hidden with
    | none =>
      obtain ⟨id, listed, visible⟩ := new.shown
      refine ⟨id, listed, ?_⟩
      have unset : (new.layout (migrate state version).tables).hidden = none := by
        rw [supersedes.hidden_layout older state, stored, Option.map_none]
      simp [Table.hidden, unset, visible]
    | some ids =>
      have some_ : (old.layout state.tables).hidden ≠ none := by simp [stored]
      obtain ⟨id, visible, other⟩ := shown some_
      obtain ⟨listed, visible⟩ := (before id).mp visible
      by_cases lasts : lasting id
      · have listed' := (supersedes.mem_lasting lasts).mpr listed
        exact ⟨id, listed', fun concealed => visible ((theirs id listed' lasts).mp concealed)⟩
      · -- the column that was shown is one of the hashes
        refine ⟨"infoHashV1", supersedes.hasHashV1, fun concealed => ?_⟩
        obtain ⟨hashV1, hash⟩ := (hashes some_).mp concealed
        have neither : id ≠ "infoHash" ∧ id ≠ "infoHashV1" :=
          ⟨fun same => visible (same ▸ hash), fun same => visible (same ▸ hashV1)⟩
        exact lasts (decide_eq_true ⟨neither.1, neither.2, other⟩)

theorem length_lt_of_missing {columns : List String} (nodup : ids.Nodup)
    (listed : ∀ id ∈ ids, id ∈ columns) (missing : id ∈ columns) (absent : id ∉ ids) :
    ids.length < columns.length := by
  have all : ∀ other ∈ id :: ids, other ∈ columns := by
    intro other within
    cases within with
    | head => exact missing
    | tail _ within => exact listed other within
  exact ((List.nodup_cons.mpr ⟨absent, nodup⟩).subperm all).length_le

theorem kept_migrate (supersedes : Supersedes old new) (older : version < 3)
    (kept : old.Kept (old.layout state.tables))
    (shown : ∃ id ∈ new.columns, id ∉ new.hidden (migrate state version).tables) :
    new.Kept (new.layout (migrate state version).tables) := by
  constructor
  · intro ids stored
    rw [supersedes.order_layout older state] at stored
    obtain ⟨before, stored, same⟩ := Option.map_eq_some_iff.mp stored
    exact same ▸ firsts_renamed_perm supersedes (kept.order before stored)
  · intro ids stored
    have migrated := stored
    rw [supersedes.hidden_layout older state] at migrated
    obtain ⟨before, was, same⟩ := Option.map_eq_some_iff.mp migrated
    subst same
    have hides := kept.hidden before was
    have nodup := nodup_migrateHidden hides.nodup
    have listed : ∀ id ∈ migrateHidden before, id ∈ new.columns := by
      intro id concealed
      obtain ⟨concealed, other, stays, _⟩ := mem_migrateHidden.mp concealed
      by_cases hashV1 : id = "infoHashV1"
      · exact hashV1 ▸ supersedes.hasHashV1
      · have lasts : lasting id := decide_eq_true ⟨stays, hashV1, other⟩
        exact (supersedes.mem_lasting lasts).mpr (hides.listed id concealed)
    obtain ⟨id, column, visible⟩ := shown
    -- with one column shown the hidden set is smaller than the table
    simp only [Table.hidden, stored, List.mem_eraseDups] at visible
    exact ⟨nodup, listed, length_lt_of_missing nodup listed column visible⟩

/-! ## What is forgotten -/

variable {key : String}

theorem sortKey_migrateTorrents {prev : TableLayout String}
    (gone : key = "infoHash" ∨ key = "id") : (migrateTorrents prev).sortKey ≠ some key := by
  simp only [migrateTorrents]
  cases prev.sortKey with
  | none => simp
  | some sortKey =>
    by_cases hash : sortKey = "infoHash"
    · cases gone <;> simp [*]
    · by_cases left : sortKey = "id"
      · simp [left]
      · cases gone <;> simp [*]

theorem migrateMobileSortKey_ne {sortKey : Option String} (gone : key = "infoHash" ∨ key = "id") :
    migrateMobileSortKey sortKey ≠ some key := by
  unfold migrateMobileSortKey
  by_cases hash : sortKey = some "infoHash"
  · cases gone <;> simp [*]
  · by_cases left : sortKey = some "id"
    · cases gone <;> simp [*]
    · cases gone <;> simp [*]

theorem mobileSortKey_migrate (older : version < 3) :
    (migrate state version).mobileSortKey = migrateMobileSortKey state.mobileSortKey := by
  simp only [migrate, older, if_true]
  split <;> rfl

/-- No part of what is stored names the column. -/
structure PersistedPrefs.Forgets (state : PersistedPrefs) (key : String) : Prop where
  order : ∀ layout ids, state.tables "torrents" = some layout → layout.order = some ids → key ∉ ids
  hidden : ∀ layout ids, state.tables "torrents" = some layout → layout.hidden = some ids → key ∉ ids
  sortKey : ∀ layout, state.tables "torrents" = some layout → layout.sortKey ≠ some key
  sizing : ∀ layout sizing, state.tables "torrents" = some layout → layout.sizing = some sizing →
    sizing key = none
  mobileSortKey : state.mobileSortKey ≠ some key

theorem forgets_migrate (older : version < 3) (gone : key = "infoHash" ∨ key = "id") :
    (migrate state version).Forgets key := by
  have migrated : ∀ layout, (migrate state version).tables "torrents" = some layout →
      ∃ prev, migrateTorrents prev = layout := by
    intro layout stored
    rw [tables_migrate older] at stored
    obtain ⟨prev, _, same⟩ := Option.map_eq_some_iff.mp stored
    exact ⟨prev, same⟩
  constructor
  case order =>
    intro layout ids stored set listed
    obtain ⟨prev, rfl⟩ := migrated layout stored
    obtain ⟨keys, _, rfl⟩ := Option.map_eq_some_iff.mp set
    rw [firsts_eq, Sequence.mem_firstsAfter, List.mem_map] at listed
    obtain ⟨⟨before, _, same⟩, stays, _⟩ := listed
    unfold renamed at same
    split at same
    · subst same
      exact absurd gone (by decide)
    · rename_i other
      subst same
      have apart : before ≠ "id" := by simpa using stays
      exact gone.elim other apart
  case hidden =>
    intro layout ids stored set listed
    obtain ⟨prev, rfl⟩ := migrated layout stored
    obtain ⟨ids, _, rfl⟩ := Option.map_eq_some_iff.mp set
    obtain ⟨_, other, stays, _⟩ := mem_migrateHidden.mp listed
    exact gone.elim stays other
  case sortKey =>
    intro layout stored
    obtain ⟨prev, rfl⟩ := migrated layout stored
    exact sortKey_migrateTorrents gone
  case sizing =>
    intro layout sizing stored set
    obtain ⟨prev, rfl⟩ := migrated layout stored
    obtain ⟨sizing, _, rfl⟩ := Option.map_eq_some_iff.mp set
    simp only [migrateSizing, gone, if_true]
  case mobileSortKey =>
    rw [mobileSortKey_migrate older]
    exact migrateMobileSortKey_ne gone

/-! ## What stays -/

/-- What the controls of the older table had built is migrated to a layout that shows, of the
columns that last, those that were shown in the order that they had, and the hash of version 1 when
either hash was shown.  Only a table that showed nothing but `id` shows nothing afterwards; any
other keeps each of its columns once and one of them visible, however it is used from then on.
What is stored no longer names a column that left. -/
theorem migration_keeps_layout (supersedes : Supersedes old new) (older : version < 3)
    (run : Run Tables.step old.Own Store.empty state.tables) :
    (new.visibleCols (migrate state version).tables).filter lasting =
        (old.visibleCols state.tables).filter lasting ∧
      ((old.layout state.tables).hidden ≠ none →
        ("infoHashV1" ∈ new.visibleCols (migrate state version).tables ↔
          "infoHashV1" ∈ old.visibleCols state.tables ∨
            "infoHash" ∈ old.visibleCols state.tables)) ∧
      (new.visibleCols (migrate state version).tables = [] ↔
        (old.layout state.tables).hidden ≠ none ∧
          ∀ id ∈ old.visibleCols state.tables, id = "id") ∧
      (new.visibleCols (migrate state version).tables ≠ [] →
        ∀ tables, Run Tables.step new.Own (migrate state version).tables tables →
          (new.order tables).Perm new.columns ∧ new.visibleCols tables ≠ []) ∧
      ∀ key, key = "infoHash" ∨ key = "id" → (migrate state version).Forgets key := by
  have kept := Table.kept_run run
  obtain ⟨perm, order⟩ := order_migrate supersedes older kept
  obtain ⟨theirs, hashes⟩ := hidden_migrate supersedes older state
  have shown := shown_migrate supersedes older kept
  have visible : ∀ id, id ∈ new.visibleCols (migrate state version).tables ↔
      id ∈ new.columns ∧ id ∉ new.hidden (migrate state version).tables :=
    fun id => Table.mem_visibleCols_of_perm perm
  have visible' : ∀ id, id ∈ old.visibleCols state.tables ↔
      id ∈ old.columns ∧ id ∉ old.hidden state.tables := fun id => Table.mem_visibleCols kept
  have some_ : new.visibleCols (migrate state version).tables ≠ [] ↔
      ∃ id ∈ new.columns, id ∉ new.hidden (migrate state version).tables := by
    constructor
    · intro seen
      obtain ⟨id, seen⟩ := List.exists_mem_of_ne_nil _ seen
      exact ⟨id, (visible id).mp seen⟩
    · intro ⟨id, seen⟩
      exact List.ne_nil_of_mem ((visible id).mpr seen)
  refine ⟨?_, fun stored => ?_, ?_, fun seen tables run => ?_, fun key => forgets_migrate older⟩
  · -- The columns that left are dropped first, after which the two orders are the same.
    have lastingFirst : ∀ (ids : List String) (p : String → Bool),
        (ids.filter p).filter lasting = (ids.filter lasting).filter p := by
      intro ids p
      rw [List.filter_filter, List.filter_filter]
      exact List.filter_congr fun _ _ => Bool.and_comm ..
    rw [Table.visibleCols, Table.visibleCols, lastingFirst, lastingFirst, order]
    refine List.filter_congr fun id listed => ?_
    obtain ⟨ordered, lasts⟩ := List.mem_filter.mp listed
    have column' := (Table.order_perm kept).mem_iff.mp ordered
    have column := (supersedes.mem_lasting lasts).mpr column'
    simp [column, column', theirs id column lasts]
  · rw [visible, visible', visible', hashes stored]
    simp [supersedes.hasHashV1, supersedes.hadHashV1, supersedes.hadHash, imp_iff_not_or]
  · have nothing := not_congr (some_.trans shown)
    simpa only [ne_eq, not_not, Classical.not_imp, not_exists, not_and] using nothing
  · have kept := (kept_migrate supersedes older kept (some_.mp seen)).run run
    exact ⟨Table.order_perm kept, Table.visibleCols_ne_nil kept⟩

def formerTable : Table String where
  tableId := "torrents"
  columns := ["id", "status", "name", "infoHash", "infoHashV1", "ratio"]
  defaultVisible := ["status", "name", "ratio"]
  unique := by decide
  shown := ⟨"name", by decide, by decide⟩

theorem sampleTable_supersedes : Supersedes formerTable Table.sampleTable where
  oldId := rfl
  newId := rfl
  lasts := by decide
  hadHash := by decide
  hadHashV1 := by decide
  hasHashV1 := by decide
  gone := by decide
  visible _ _ := .rfl

/-- The hash is shown, next to what the table shows at first. -/
def samplePrefs : PersistedPrefs where
  tables := formerTable.setHidden .empty "infoHash" false
  savePaths := []
  savePathsByDaemon := .empty
  mobileSortKey := some "id"

theorem samplePrefs_run : Run Tables.step formerTable.Own .empty samplePrefs.tables := by
  refine .single (a := (formerTable, .setHidden "infoHash" false)) (.inl rfl) ?_
  simp only [Tables.step]
  exact if_pos (by decide)

theorem migration_keeps_layout_sample :
    (Table.sampleTable.visibleCols (migrate samplePrefs 2).tables).filter lasting =
        (formerTable.visibleCols samplePrefs.tables).filter lasting ∧
      "infoHashV1" ∈ Table.sampleTable.visibleCols (migrate samplePrefs 2).tables := by
  have older : 2 < 3 := by decide
  have keeps := migration_keeps_layout sampleTable_supersedes older samplePrefs_run
  exact ⟨keeps.1, (keeps.2.1 (by decide)).mpr (.inr (by decide))⟩

end Rsbtd.WebUi
