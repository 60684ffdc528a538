import Mathlib.Data.List.Perm.Subperm
import Rsbtd.Sequence.Relocate
import Rsbtd.Transition.Runs
import Rsbtd.WebUi.TableLayout

/-!
# The columns of a table

Whatever is done with the controls of the tables, a table shows every column in
its order once and at least one of them, a column that is moved changes places
with its visible neighbour, and hiding a column and showing it again puts it back.
-/

namespace Rsbtd.WebUi

open Keyed (Store)
open Sequence (relocate)
open Transition (Run exec exists_run_of_exec)

namespace Table

variable {κ : Type} {t other : Table κ} {tables tables' : Tables κ} {id : κ}
  {change : PartialLayout κ} {ids : List κ} {dir : Direction} {hide : Bool}

/-! ## Reading the store -/

@[simp] theorem layout_setTableLayout :
    t.layout (tables.setTableLayout t.tableId change) = (t.layout tables).spread change := by
  simp [layout, Tables.setTableLayout]

@[simp] theorem layout_resetTableLayout : t.layout (tables.resetTableLayout t.tableId) =
    { TableLayout.empty with
      sortKey := (t.layout tables).sortKey, sortDesc := (t.layout tables).sortDesc } := by
  simp [layout, Tables.resetTableLayout]

theorem layout_set_other {layout : TableLayout κ} (apart : other.tableId ≠ t.tableId) :
    t.layout (Store.set tables other.tableId layout) = t.layout tables := by
  rw [Table.layout, Store.set_other apart.symm, Table.layout]

variable [DecidableEq κ]

/-! ## What a stored layout satisfies -/

/-- The hidden columns are columns of the table, and not all of them. -/
structure Hides (t : Table κ) (ids : List κ) : Prop where
  nodup : ids.Nodup
  listed : ∀ id ∈ ids, id ∈ t.columns
  fewer : ids.length < t.columns.length

structure Kept (t : Table κ) (layout : TableLayout κ) : Prop where
  order : ∀ ids, layout.order = some ids → ids.Perm t.columns
  hidden : ∀ ids, layout.hidden = some ids → t.Hides ids

theorem Hides.default (t : Table κ) : t.Hides (t.columns.filter (· ∉ t.defaultVisible)) where
  nodup := t.unique.filter _
  listed _ listed := List.mem_of_mem_filter listed
  fewer := by
    obtain ⟨id, listed, visible⟩ := t.shown
    rw [List.length_filter_lt_length_iff_exists]
    exact ⟨id, listed, by simpa using visible⟩

theorem eraseDups_of_nodup (nodup : ids.Nodup) : ids.eraseDups = ids := by
  induction ids with
  | nil => rfl
  | cons id ids ih =>
    obtain ⟨fresh, others⟩ := List.nodup_cons.mp nodup
    have same : ids.filter (fun other => !other == id) = ids := by
      refine List.filter_eq_self.mpr fun other listed => ?_
      have distinct : other ≠ id := fun same => fresh (same ▸ listed)
      simpa using distinct
    rw [List.eraseDups_cons, same, ih others]

theorem hidden_hides (kept : t.Kept (t.layout tables)) : t.Hides (t.hidden tables) := by
  unfold Table.hidden
  cases stored : (t.layout tables).hidden with
  | none => exact .default t
  | some ids =>
    have hides := kept.hidden ids stored
    simp only [eraseDups_of_nodup hides.nodup]
    exact hides

theorem order_of_perm (stored : (t.layout tables).order = some ids) (perm : ids.Perm t.columns) :
    t.order tables = ids := by
  have known : ids.filter (· ∈ t.columns) = ids :=
    List.filter_eq_self.mpr fun id listed => by simpa using perm.mem_iff.mp listed
  have rest : t.columns.filter (· ∉ ids) = [] :=
    List.filter_eq_nil_iff.mpr fun id listed => by simpa using perm.mem_iff.mpr listed
  simp only [Table.order, stored, Option.getD_some, known, rest, List.append_nil]

theorem order_perm (kept : t.Kept (t.layout tables)) : (t.order tables).Perm t.columns := by
  cases stored : (t.layout tables).order with
  | none => simp [Table.order, stored]
  | some ids =>
    have perm := kept.order ids stored
    rwa [order_of_perm stored perm]

theorem visibleCols_eq (kept : t.Kept (t.layout tables)) :
    t.visibleCols tables = (t.order tables).filter (· ∉ t.hidden tables) := by
  refine List.filter_congr fun id listed => ?_
  have column := (order_perm kept).mem_iff.mp listed
  simp [column]

theorem mem_visibleCols_of_perm (perm : (t.order tables).Perm t.columns) :
    id ∈ t.visibleCols tables ↔ id ∈ t.columns ∧ id ∉ t.hidden tables := by
  simp only [visibleCols, List.mem_filter, perm.mem_iff, decide_eq_true_eq]
  exact ⟨fun ⟨listed, visible, _⟩ => ⟨listed, visible⟩,
    fun ⟨listed, visible⟩ => ⟨listed, visible, listed⟩⟩

theorem mem_visibleCols (kept : t.Kept (t.layout tables)) :
    id ∈ t.visibleCols tables ↔ id ∈ t.columns ∧ id ∉ t.hidden tables :=
  mem_visibleCols_of_perm (order_perm kept)

/-- Some column is not hidden, as there are more columns than hidden ones. -/
theorem visibleCols_ne_nil (kept : t.Kept (t.layout tables)) : t.visibleCols tables ≠ [] := by
  intro none_
  have all : ∀ id ∈ t.columns, id ∈ t.hidden tables := by
    intro id listed
    by_contra visible
    have seen := (mem_visibleCols kept).mpr ⟨listed, visible⟩
    rw [none_] at seen
    cases seen
  -- All columns would be hidden, but fewer are.
  have enough := (t.unique.subperm all).length_le
  have := (hidden_hides kept).fewer
  omega

/-! ## Moving a column -/

theorem indexOf_split {front back : List κ} (fresh : id ∉ front) :
    indexOf (front ++ id :: back) id = front.length := by
  rw [indexOf, if_pos (by simp), Sequence.idxOf_split fresh]

/-- The step to the neighbour: from before it, from after it, or past an end. -/
theorem neighbor_right {front back : List κ} {next : κ} (fresh : id ∉ front) :
    at? (front ++ id :: next :: back)
      (indexOf (front ++ id :: next :: back) id + Direction.right.offset) = some next := by
  rw [indexOf_split fresh, at?, if_pos (by simp [Direction.offset]; omega)]
  have index : ((front.length : Int) + Direction.right.offset).toNat = front.length + 1 := by
    simp [Direction.offset]
  rw [index, List.getElem?_append_right (by omega)]
  simp

theorem neighbor_left {front back : List κ} {next : κ} (fresh : id ∉ front ++ [next]) :
    at? (front ++ next :: id :: back)
      (indexOf (front ++ next :: id :: back) id + Direction.left.offset) = some next := by
  have regrouped : front ++ next :: id :: back = (front ++ [next]) ++ id :: back := by simp
  have index : (((front ++ [next]).length : Int) + Direction.left.offset).toNat = front.length := by
    simp [Direction.offset]
  have inside : 0 ≤ ((front ++ [next]).length : Int) + Direction.left.offset := by
    simp [Direction.offset]
  rw [regrouped, indexOf_split fresh, at?, if_pos inside, index]
  simp

theorem moveColumn_of_neighbor {next : κ} (neighbor : at? (t.visibleCols tables)
      (indexOf (t.visibleCols tables) id + dir.offset) = some next) :
    t.moveColumn tables id dir = tables.setTableLayout t.tableId
      { PartialLayout.none with order := some (relocate id next (t.order tables)) } := by
  simp only [moveColumn, neighbor]
  rfl

theorem moveColumn_of_none (none_ : at? (t.visibleCols tables)
      (indexOf (t.visibleCols tables) id + dir.offset) = none) :
    t.moveColumn tables id dir = tables := by
  simp only [moveColumn, none_]

/-- The layout after a move: the same, or with another order of the same columns. -/
theorem moveColumn_cases (tables : Tables κ) (id : κ) (dir : Direction) :
    t.moveColumn tables id dir = tables ∨ ∃ next,
      t.moveColumn tables id dir = tables.setTableLayout t.tableId
        { PartialLayout.none with order := some (relocate id next (t.order tables)) } := by
  cases neighbor : at? (t.visibleCols tables)
      (indexOf (t.visibleCols tables) id + dir.offset) with
  | none => exact .inl (moveColumn_of_none neighbor)
  | some next => exact .inr ⟨next, moveColumn_of_neighbor neighbor⟩

omit [DecidableEq κ] in
theorem Kept.reordered (kept : t.Kept (t.layout tables)) (perm : ids.Perm t.columns) :
    t.Kept (t.layout (tables.setTableLayout t.tableId
      { PartialLayout.none with order := some ids })) := by
  rw [layout_setTableLayout]
  exact ⟨fun ids stored => Option.some.inj stored ▸ perm, kept.hidden⟩

theorem hidden_reordered : t.hidden (tables.setTableLayout t.tableId
    { PartialLayout.none with order := some ids }) = t.hidden tables := by
  simp only [Table.hidden, layout_setTableLayout]
  rfl

theorem order_reordered (perm : ids.Perm t.columns) : t.order (tables.setTableLayout t.tableId
    { PartialLayout.none with order := some ids }) = ids := by
  refine order_of_perm ?_ perm
  rw [layout_setTableLayout]
  rfl

/-- What is visible once the order of the columns is another. -/
theorem visibleCols_reordered (kept : t.Kept (t.layout tables)) (perm : ids.Perm t.columns) :
    t.visibleCols (tables.setTableLayout t.tableId
      { PartialLayout.none with order := some ids }) = ids.filter (· ∉ t.hidden tables) := by
  rw [visibleCols_eq (kept.reordered perm), order_reordered perm, hidden_reordered]

theorem relocated_perm {next : κ} (kept : t.Kept (t.layout tables)) (listed : id ∈ t.columns) :
    (relocate id next (t.order tables)).Perm t.columns := by
  have perm := order_perm kept
  exact (Sequence.relocate_perm (perm.mem_iff.mpr listed)).trans perm

theorem Kept.moveColumn (kept : t.Kept (t.layout tables)) (listed : id ∈ t.columns) :
    t.Kept (t.layout (t.moveColumn tables id dir)) := by
  cases t.moveColumn_cases tables id dir with
  | inl same => rwa [same]
  | inr moved =>
    obtain ⟨next, moved⟩ := moved
    rw [moved]
    exact kept.reordered (relocated_perm kept listed)

theorem hidden_moveColumn : t.hidden (t.moveColumn tables id dir) = t.hidden tables := by
  cases t.moveColumn_cases tables id dir with
  | inl same => rw [same]
  | inr moved =>
    obtain ⟨next, moved⟩ := moved
    rw [moved, hidden_reordered]

theorem nodup_visibleCols (kept : t.Kept (t.layout tables)) : (t.visibleCols tables).Nodup :=
  ((order_perm kept).nodup_iff.mpr t.unique).filter _

/-- A column with a visible neighbour after it. -/
theorem visibleCols_moveRight {front back : List κ} {next : κ} (kept : t.Kept (t.layout tables))
    (listed : id ∈ t.columns) (split : t.visibleCols tables = front ++ id :: next :: back) :
    t.visibleCols (t.moveColumn tables id .right) = front ++ next :: id :: back := by
  have nodup := nodup_visibleCols kept
  rw [split] at nodup
  have neighbor : at? (front ++ id :: next :: back)
      (indexOf (front ++ id :: next :: back) id + Direction.right.offset) = some next :=
    neighbor_right (Sequence.not_mem_front nodup)
  rw [← split] at neighbor
  rw [moveColumn_of_neighbor neighbor, visibleCols_reordered kept (relocated_perm kept listed)]
  rw [visibleCols_eq kept] at split
  exact Sequence.filter_relocate_right ((order_perm kept).nodup_iff.mpr t.unique) split

/-- A column with a visible neighbour before it. -/
theorem visibleCols_moveLeft {front back : List κ} {next : κ} (kept : t.Kept (t.layout tables))
    (listed : id ∈ t.columns) (split : t.visibleCols tables = front ++ next :: id :: back) :
    t.visibleCols (t.moveColumn tables id .left) = front ++ id :: next :: back := by
  have nodup := nodup_visibleCols kept
  have regrouped : front ++ next :: id :: back = (front ++ [next]) ++ id :: back := by simp
  rw [split, regrouped] at nodup
  have neighbor : at? (front ++ next :: id :: back)
      (indexOf (front ++ next :: id :: back) id + Direction.left.offset) = some next :=
    neighbor_left (Sequence.not_mem_front nodup)
  rw [← split] at neighbor
  rw [moveColumn_of_neighbor neighbor, visibleCols_reordered kept (relocated_perm kept listed)]
  rw [visibleCols_eq kept] at split
  exact Sequence.filter_relocate_left ((order_perm kept).nodup_iff.mpr t.unique) split

/-- Past the end of the visible columns there is no neighbour. -/
theorem moveColumn_last {others : List κ} (kept : t.Kept (t.layout tables))
    (split : t.visibleCols tables = others ++ [id]) : t.moveColumn tables id .right = tables := by
  have nodup := nodup_visibleCols kept
  rw [split] at nodup
  apply moveColumn_of_none
  rw [split, indexOf_split (Sequence.not_mem_front nodup), at?,
    if_pos (by simp [Direction.offset]; omega)]
  refine List.getElem?_eq_none ?_
  simp [Direction.offset]

theorem moveColumn_first {others : List κ} (split : t.visibleCols tables = id :: others) :
    t.moveColumn tables id .left = tables := by
  apply moveColumn_of_none
  have first : indexOf (id :: others) id = 0 := by simp [indexOf]
  rw [split, first, at?, if_neg (by simp [Direction.offset])]

theorem visibleCols_moveHidden (kept : t.Kept (t.layout tables)) (listed : id ∈ t.columns)
    (invisible : id ∉ t.visibleCols tables) :
    t.visibleCols (t.moveColumn tables id dir) = t.visibleCols tables := by
  have concealed : id ∈ t.hidden tables := by
    by_contra shown
    exact invisible ((mem_visibleCols kept).mpr ⟨listed, shown⟩)
  cases t.moveColumn_cases tables id dir with
  | inl same => rw [same]
  | inr moved =>
    obtain ⟨next, moved⟩ := moved
    rw [moved, visibleCols_reordered kept (relocated_perm kept listed), visibleCols_eq kept]
    exact Sequence.filter_relocate_dropped ((order_perm kept).mem_iff.mpr listed) (by simpa)

/-! ## Hiding a column -/

omit [DecidableEq κ] in
theorem Kept.rehidden (kept : t.Kept (t.layout tables)) (hides : t.Hides ids) :
    t.Kept (t.layout (tables.setTableLayout t.tableId
      { PartialLayout.none with hidden := some ids })) := by
  rw [layout_setTableLayout]
  exact ⟨kept.order, fun ids stored => Option.some.inj stored ▸ hides⟩

theorem hidden_rehidden (hides : t.Hides ids) : t.hidden (tables.setTableLayout t.tableId
    { PartialLayout.none with hidden := some ids }) = ids := by
  have stored : (t.layout (tables.setTableLayout t.tableId
      { PartialLayout.none with hidden := some ids })).hidden = some ids := by
    rw [layout_setTableLayout]
    rfl
  simp only [Table.hidden, stored, eraseDups_of_nodup hides.nodup]

theorem order_rehidden : t.order (tables.setTableLayout t.tableId
    { PartialLayout.none with hidden := some ids }) = t.order tables := by
  simp only [Table.order, layout_setTableLayout]
  rfl

theorem visibleCols_rehidden (kept : t.Kept (t.layout tables)) (hides : t.Hides ids) :
    t.visibleCols (tables.setTableLayout t.tableId
      { PartialLayout.none with hidden := some ids }) = (t.order tables).filter (· ∉ ids) := by
  rw [visibleCols_eq (kept.rehidden hides), order_rehidden, hidden_rehidden hides]

/-- What is hidden after a control was used, when the control does anything. -/
def nextHidden (hidden : List κ) (id : κ) (hide : Bool) : List κ :=
  if hide then (if id ∈ hidden then hidden else hidden ++ [id]) else hidden.filter (· ≠ id)

theorem setHidden_eq : t.setHidden tables id hide =
    if t.columns.length ≤ (nextHidden (t.hidden tables) id hide).length then tables
    else tables.setTableLayout t.tableId
      { PartialLayout.none with hidden := some (nextHidden (t.hidden tables) id hide) } := rfl

theorem nextHidden_hides (hides : t.Hides ids) (listed : id ∈ t.columns)
    (fewer : (nextHidden ids id hide).length < t.columns.length) :
    t.Hides (nextHidden ids id hide) := by
  unfold nextHidden at fewer ⊢
  cases hide with
  | false => exact ⟨hides.nodup.filter _,
      fun other kept => hides.listed other (List.mem_of_mem_filter kept), fewer⟩
  | true =>
    by_cases already : id ∈ ids
    · simp only [already, if_true]
      exact hides
    · simp only [already, if_true, if_false] at fewer ⊢
      refine ⟨?_, ?_, fewer⟩
      · rw [← List.concat_eq_append]
        exact hides.nodup.concat already
      · intro other kept
        rw [List.mem_append, List.mem_singleton] at kept
        cases kept with
        | inl before => exact hides.listed other before
        | inr same => exact same ▸ listed

theorem Kept.setHidden (kept : t.Kept (t.layout tables)) (listed : id ∈ t.columns) :
    t.Kept (t.layout (t.setHidden tables id hide)) := by
  rw [setHidden_eq]
  split
  · exact kept
  · rename_i fewer
    exact kept.rehidden (nextHidden_hides (hidden_hides kept) listed (by omega))

/-- The visible columns are those that the hidden ones leave. -/
theorem length_visibleCols (kept : t.Kept (t.layout tables)) :
    (t.visibleCols tables).length + (t.hidden tables).length = t.columns.length := by
  have hides := hidden_hides kept
  have perm := order_perm kept
  have nodup : (t.order tables).Nodup := perm.nodup_iff.mpr t.unique
  -- The order parts into the hidden columns and the visible ones.
  have others : ((t.order tables).filter (· ∈ t.hidden tables)).Perm (t.hidden tables) := by
    refine (List.perm_ext_iff_of_nodup (nodup.filter _) hides.nodup).mpr fun id => ?_
    rw [List.mem_filter, perm.mem_iff]
    simpa using hides.listed id
  rw [visibleCols_eq kept, ← perm.length_eq, ← others.length_eq, Nat.add_comm]
  have partitioned := List.length_eq_length_filter_add (l := t.order tables)
    (fun id => decide (id ∈ t.hidden tables))
  simp only [← decide_not] at partitioned
  omega

theorem nextHidden_show_hide (visible : id ∉ ids) :
    nextHidden (nextHidden ids id true) id false = ids := by
  have kept : ids.filter (· ≠ id) = ids := by
    refine List.filter_eq_self.mpr fun other listed => ?_
    have distinct : other ≠ id := fun same => visible (same ▸ listed)
    simpa using distinct
  simp only [nextHidden, visible, if_true, if_false, List.filter_append, kept]
  simp

/-- A column that is not the last visible one is hidden. -/
theorem setHidden_hide (kept : t.Kept (t.layout tables)) (visible : id ∈ t.visibleCols tables)
    (others : t.visibleCols tables ≠ [id]) :
    t.Hides (nextHidden (t.hidden tables) id true) ∧
      t.setHidden tables id true = tables.setTableLayout t.tableId
        { PartialLayout.none with hidden := some (nextHidden (t.hidden tables) id true) } := by
  obtain ⟨listed, shown⟩ := (mem_visibleCols kept).mp visible
  have count := length_visibleCols kept
  have two : 1 < (t.visibleCols tables).length := by
    by_contra few
    obtain ⟨only, single⟩ : ∃ only, t.visibleCols tables = [only] := by
      have some_ := List.length_pos_of_mem visible
      exact List.length_eq_one_iff.mp (by omega)
    rw [single, List.mem_singleton] at visible
    exact others (visible ▸ single)
  have fewer : (nextHidden (t.hidden tables) id true).length < t.columns.length := by
    simp only [nextHidden, shown, if_true, if_false, List.length_append, List.length_singleton]
    omega
  refine ⟨nextHidden_hides (hidden_hides kept) listed fewer, ?_⟩
  rw [setHidden_eq, if_neg (by omega)]

/-- A column is always shown. -/
theorem setHidden_show (kept : t.Kept (t.layout tables)) (listed : id ∈ t.columns) :
    t.Hides (nextHidden (t.hidden tables) id false) ∧
      t.setHidden tables id false = tables.setTableLayout t.tableId
        { PartialLayout.none with hidden := some (nextHidden (t.hidden tables) id false) } := by
  have hides := hidden_hides kept
  have fewer : (nextHidden (t.hidden tables) id false).length < t.columns.length :=
    Nat.lt_of_le_of_lt (List.length_filter_le _ _) hides.fewer
  refine ⟨nextHidden_hides hides listed fewer, ?_⟩
  rw [setHidden_eq, if_neg (by omega)]

/-! ## Runs -/

/-- No other table has the id of this one. -/
def Own (t : Table κ) (_ : Tables κ) (action : TableAction κ) : Prop :=
  action.1 = t ∨ action.1.tableId ≠ t.tableId

omit [DecidableEq κ] in
theorem Kept.empty : t.Kept (t.layout (Store.empty : Tables κ)) := by
  constructor <;>
    · intro ids stored
      cases stored

theorem Kept.step {action : TableAction κ} (kept : t.Kept (t.layout tables))
    (own : t.Own tables action) (stepped : tables.step action = some tables') :
    t.Kept (t.layout tables') := by
  obtain ⟨table, action⟩ := action
  simp only [Tables.step, Option.ite_none_right_eq_some, Option.some.injEq] at stepped
  obtain ⟨enabled, rfl⟩ := stepped
  cases own with
  | inl same =>
    subst same
    cases action with
    | moveColumn id dir => exact kept.moveColumn (by simpa [LayoutAction.enabled] using enabled)
    | setHidden id hide => exact kept.setHidden (by simpa [LayoutAction.enabled] using enabled)
    | resetTableLayout =>
      simp only [layout_resetTableLayout]
      constructor <;>
        · intro ids stored
          cases stored
    | _ =>
      -- The other controls write neither the order nor the hidden columns.
      simp only [Table.resize, layout_setTableLayout]
      exact ⟨kept.order, kept.hidden⟩
  | inr apart =>
    -- An action on another table leaves the layout of this one.
    have same : ∀ layout, t.layout (Store.set tables table.tableId layout) = t.layout tables :=
      fun _ => layout_set_other apart
    cases action with
    | moveColumn id dir =>
      cases table.moveColumn_cases tables id dir with
      | inl unmoved => simpa only [unmoved] using kept
      | inr moved =>
        obtain ⟨next, moved⟩ := moved
        simpa only [moved, Tables.setTableLayout, same] using kept
    | setHidden id hide =>
      simp only [setHidden_eq]
      split
      · exact kept
      · simpa only [Tables.setTableLayout, same] using kept
    | _ =>
      simpa only [Table.resize, Tables.setTableLayout, Tables.resetTableLayout, same] using kept

theorem Kept.run (kept : t.Kept (t.layout tables)) (run : Run Tables.step t.Own tables tables') :
    t.Kept (t.layout tables') :=
  run.invariant (I := fun tables => t.Kept (t.layout tables)) kept
    fun _ _ _ _ kept own stepped => kept.step own stepped

theorem kept_run (run : Run Tables.step t.Own Store.empty tables) : t.Kept (t.layout tables) :=
  Kept.empty.run run

/-- However the controls of the tables are used, a table has each of its columns once in its order,
and shows at least one of them. -/
theorem columns_shown_once (run : Run Tables.step t.Own Store.empty tables) :
    (t.order tables).Perm t.columns ∧ t.visibleCols tables ≠ [] ∧
      t.visibleCols tables = (t.order tables).filter (· ∉ t.hidden tables) :=
  have kept := kept_run run
  ⟨order_perm kept, visibleCols_ne_nil kept, visibleCols_eq kept⟩

def sampleTable : Table String where
  tableId := "torrents"
  columns := ["status", "name", "infoHashV1", "ratio"]
  defaultVisible := ["status", "name", "ratio"]
  unique := by decide
  shown := ⟨"name", by decide, by decide⟩

/-- The ratio is moved before the hash, which is not shown, and the name. -/
def sampleTables : Tables String := sampleTable.moveColumn .empty "ratio" .left

theorem sampleTables_run : Run Tables.step sampleTable.Own .empty sampleTables := by
  refine .single (a := (sampleTable, .moveColumn "ratio" .left)) (.inl rfl) ?_
  simp only [Tables.step]
  exact if_pos (by decide)

theorem columns_shown_once_sample :
    sampleTable.visibleCols sampleTables = ["status", "ratio", "name"] ∧
      (sampleTable.order sampleTables).Perm sampleTable.columns ∧
      sampleTable.visibleCols sampleTables ≠ [] ∧
      sampleTable.visibleCols sampleTables =
        (sampleTable.order sampleTables).filter (· ∉ sampleTable.hidden sampleTables) :=
  ⟨by decide, columns_shown_once sampleTables_run⟩

/-- Moving a column swaps it with its visible neighbour, whatever hidden columns stand between
them, and moving it back restores what is visible.  At the end of the visible columns nothing
happens, a hidden column moves unseen, and no move hides or shows a column. -/
theorem move_swaps_neighbours (run : Run Tables.step t.Own Store.empty tables)
    (listed : id ∈ t.columns) :
    (∀ front next back, t.visibleCols tables = front ++ id :: next :: back →
      t.visibleCols (t.moveColumn tables id .right) = front ++ next :: id :: back ∧
        t.visibleCols (t.moveColumn (t.moveColumn tables id .right) id .left) =
          t.visibleCols tables) ∧
    (∀ front next back, t.visibleCols tables = front ++ next :: id :: back →
      t.visibleCols (t.moveColumn tables id .left) = front ++ id :: next :: back ∧
        t.visibleCols (t.moveColumn (t.moveColumn tables id .left) id .right) =
          t.visibleCols tables) ∧
    (∀ others, t.visibleCols tables = others ++ [id] → t.moveColumn tables id .right = tables) ∧
    (∀ others, t.visibleCols tables = id :: others → t.moveColumn tables id .left = tables) ∧
    ∀ dir, t.hidden (t.moveColumn tables id dir) = t.hidden tables ∧
      (id ∉ t.visibleCols tables →
        t.visibleCols (t.moveColumn tables id dir) = t.visibleCols tables) := by
  have kept := kept_run run
  refine ⟨fun front next back split => ?_, fun front next back split => ?_,
    fun others split => moveColumn_last kept split, fun others split => moveColumn_first split,
    fun dir => ⟨hidden_moveColumn, visibleCols_moveHidden kept listed⟩⟩
  · have moved := visibleCols_moveRight kept listed split
    exact ⟨moved, (visibleCols_moveLeft (kept.moveColumn listed) listed moved).trans split.symm⟩
  · have moved := visibleCols_moveLeft kept listed split
    exact ⟨moved, (visibleCols_moveRight (kept.moveColumn listed) listed moved).trans split.symm⟩

theorem move_swaps_neighbours_sample :
    sampleTable.visibleCols (sampleTable.moveColumn sampleTables "ratio" .right) =
        ["status", "name", "ratio"] ∧
      sampleTable.visibleCols (sampleTable.moveColumn
          (sampleTable.moveColumn sampleTables "ratio" .right) "ratio" .left) =
        sampleTable.visibleCols sampleTables :=
  (move_swaps_neighbours sampleTables_run (by decide)).1 ["status"] "name" [] (by decide)

/-- A column that is not the last visible one can be hidden, the others stay as they are, and
showing it again puts it back.  The last visible column stays, and a hidden column can be shown. -/
theorem hide_and_show (run : Run Tables.step t.Own Store.empty tables) (listed : id ∈ t.columns) :
    (t.visibleCols tables = [id] → t.setHidden tables id true = tables) ∧
    (id ∈ t.visibleCols tables → t.visibleCols tables ≠ [id] →
      t.visibleCols (t.setHidden tables id true) = (t.visibleCols tables).filter (· ≠ id) ∧
        t.visibleCols (t.setHidden (t.setHidden tables id true) id false) =
          t.visibleCols tables) ∧
    (id ∉ t.visibleCols tables → id ∈ t.visibleCols (t.setHidden tables id false) ∧
      (t.visibleCols (t.setHidden tables id false)).filter (· ≠ id) = t.visibleCols tables) := by
  have kept := kept_run run
  have hides := hidden_hides kept
  refine ⟨fun single => ?_, fun visible others => ?_, fun invisible => ?_⟩
  · have count := length_visibleCols kept
    have shown := ((mem_visibleCols kept).mp (by rw [single]; exact List.mem_singleton_self id)).2
    rw [single, List.length_singleton] at count
    rw [setHidden_eq, if_pos]
    simp only [nextHidden, shown, if_true, if_false, List.length_append, List.length_singleton]
    omega
  · have shown := ((mem_visibleCols kept).mp visible).2
    obtain ⟨hides', hidden⟩ := setHidden_hide kept visible others
    constructor
    · rw [hidden, visibleCols_rehidden kept hides', visibleCols_eq kept, List.filter_filter]
      refine List.filter_congr fun other _ => ?_
      simp [nextHidden, shown, and_comm]
    · have kept' : t.Kept (t.layout (t.setHidden tables id true)) := kept.setHidden listed
      obtain ⟨back, again⟩ := setHidden_show kept' listed
      rw [again, visibleCols_rehidden kept' back, visibleCols_eq kept, hidden,
        hidden_rehidden hides', order_rehidden, nextHidden_show_hide shown]
  · have concealed : id ∈ t.hidden tables := by
      by_contra shown
      exact invisible ((mem_visibleCols kept).mpr ⟨listed, shown⟩)
    obtain ⟨hides', shown⟩ := setHidden_show kept listed
    rw [shown, visibleCols_rehidden kept hides', visibleCols_eq kept, List.filter_filter]
    constructor
    · rw [List.mem_filter, (order_perm kept).mem_iff]
      exact ⟨listed, by simp [nextHidden]⟩
    · refine List.filter_congr fun other _ => ?_
      by_cases same : other = id
      · subst same
        simp [concealed]
      · simp [nextHidden, same]

theorem hide_and_show_sample :
    sampleTable.visibleCols (sampleTable.setHidden sampleTables "ratio" true) =
        (sampleTable.visibleCols sampleTables).filter (· ≠ "ratio") ∧
      sampleTable.visibleCols (sampleTable.setHidden
          (sampleTable.setHidden sampleTables "ratio" true) "ratio" false) =
        sampleTable.visibleCols sampleTables :=
  (hide_and_show sampleTables_run (by decide)).2.1 (by decide) (by decide)

end Table

end Rsbtd.WebUi
