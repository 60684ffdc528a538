import Rsbtd.Keyed.Store
import Rsbtd.WebUi.TorrentFields

/-!
# The layout of a table

`DataTable` and the layouts that the preferences store keeps for the tables: the
order of the columns, the hidden ones, their widths and the sort.  A layout is
written by the header's menu, and a missing part of it is the table's default.
`migrateTorrents` and `migrateMobileSortKey` bring a store of version 2 up.

A set is the list of its members in the order they were added.
-/

namespace Rsbtd.WebUi

open Keyed (Store)

structure TableLayout (κ : Type) where
  order : Option (List κ)
  hidden : Option (List κ)
  sortKey : Option κ
  sortDesc : Option Bool
  sizing : Option (Store κ Int)

/-- `Partial<TableLayout>`: the sort key alone is ever given as `undefined`. -/
structure PartialLayout (κ : Type) where
  order : Option (List κ)
  hidden : Option (List κ)
  sortKey : Option (Option κ)
  sortDesc : Option Bool
  sizing : Option (Store κ Int)

variable {κ : Type}

def TableLayout.empty : TableLayout κ := ⟨none, none, none, none, none⟩

def PartialLayout.none : PartialLayout κ := ⟨.none, .none, .none, .none, .none⟩

/-- `{ ...prev, ...layout }`. -/
def TableLayout.spread (prev : TableLayout κ) (layout : PartialLayout κ) : TableLayout κ where
  order := layout.order.or prev.order
  hidden := layout.hidden.or prev.hidden
  sortKey := layout.sortKey.getD prev.sortKey
  sortDesc := layout.sortDesc.or prev.sortDesc
  sizing := layout.sizing.or prev.sizing

/-- The layouts of the preferences store, by the table's id. -/
abbrev Tables (κ : Type) := Store String (TableLayout κ)

namespace Tables

def setTableLayout (tables : Tables κ) (tableId : String) (layout : PartialLayout κ) : Tables κ :=
  tables.set tableId (((tables tableId).getD .empty).spread layout)

def resetTableLayout (tables : Tables κ) (tableId : String) : Tables κ :=
  let prev := (tables tableId).getD .empty
  tables.set tableId { TableLayout.empty with sortKey := prev.sortKey, sortDesc := prev.sortDesc }

end Tables

/-- The properties of a table that its layout depends on. -/
structure Table (κ : Type) where
  tableId : String
  columns : List κ
  defaultVisible : List κ
  unique : columns.Nodup
  shown : ∃ id ∈ columns, id ∈ defaultVisible

/-- Where a column is moved. -/
inductive Direction where
  | left
  | right
deriving DecidableEq, Repr

def Direction.offset : Direction → Int
  | left => -1
  | right => 1

/-- `Array.prototype.indexOf`. -/
def indexOf [DecidableEq κ] (ids : List κ) (id : κ) : Int := if id ∈ ids then ids.idxOf id else -1

/-- An indexed access, `undefined` outside the array. -/
def at? (ids : List κ) (i : Int) : Option κ := if 0 ≤ i then ids[i.toNat]? else none

def MIN_COL_WIDTH : Int := 36

namespace Table

variable [DecidableEq κ] (t : Table κ) (tables : Tables κ)

def layout : TableLayout κ := (tables t.tableId).getD .empty

def hidden : List κ :=
  match (t.layout tables).hidden with
  | some stored => stored.eraseDups
  | none => t.columns.filter (· ∉ t.defaultVisible)

def order : List κ :=
  let stored := ((t.layout tables).order.getD []).filter (· ∈ t.columns)
  stored ++ t.columns.filter (· ∉ stored)

def visibleCols : List κ := (t.order tables).filter fun id => id ∉ t.hidden tables ∧ id ∈ t.columns

def moveColumn (id : κ) (dir : Direction) : Tables κ :=
  let visibleIds := t.visibleCols tables
  match at? visibleIds (indexOf visibleIds id + dir.offset) with
  | none => tables
  | some neighbor =>
    let next := t.order tables
    let target := next.idxOf neighbor
    let next := next.eraseIdx (next.idxOf id)
    tables.setTableLayout t.tableId
      { PartialLayout.none with order := some (next.take target ++ id :: next.drop target) }

def setHidden (id : κ) (hide : Bool) : Tables κ :=
  let set := t.hidden tables
  let next := if hide then (if id ∈ set then set else set ++ [id]) else set.filter (· ≠ id)
  -- At least one column is kept.
  if t.columns.length ≤ next.length then tables
  else tables.setTableLayout t.tableId { PartialLayout.none with hidden := some next }

/-- The end of a drag: `sizing` is what it was when the drag started. -/
def resize (sizing : Store κ Int) (id : κ) (width : Int) : Tables κ :=
  tables.setTableLayout t.tableId
    { PartialLayout.none with sizing := some (sizing.set id (max MIN_COL_WIDTH width)) }

end Table

/-- The controls of a table.  A column's own are there for the columns of the table only. -/
inductive LayoutAction (κ : Type) where
  | moveColumn (id : κ) (dir : Direction)
  | setHidden (id : κ) (hide : Bool)
  | resize (sizing : Store κ Int) (id : κ) (width : Int)
  | onSortChange (key : Option κ) (desc : Bool)
  | setSortDesc (desc : Bool)
  | setSortKey (key : κ)
  | resetTableLayout

/-- The table that an action is on, and the action. -/
abbrev TableAction (κ : Type) := Table κ × LayoutAction κ

def LayoutAction.enabled [DecidableEq κ] (t : Table κ) : LayoutAction κ → Bool
  | .moveColumn id _ => id ∈ t.columns
  | .setHidden id _ => id ∈ t.columns
  | _ => true

def Tables.step [DecidableEq κ] (tables : Tables κ) : TableAction κ → Option (Tables κ)
  | (t, action) =>
    if action.enabled t then
      some <|
        match action with
        | .moveColumn id dir => t.moveColumn tables id dir
        | .setHidden id hide => t.setHidden tables id hide
        | .resize sizing id width => t.resize tables sizing id width
        | .onSortChange key desc =>
          tables.setTableLayout t.tableId
            { PartialLayout.none with sortKey := some key, sortDesc := some desc }
        | .setSortDesc desc =>
          tables.setTableLayout t.tableId { PartialLayout.none with sortDesc := some desc }
        | .setSortKey key =>
          tables.setTableLayout t.tableId { PartialLayout.none with sortKey := some (some key) }
        | .resetTableLayout => tables.resetTableLayout t.tableId
    else none

/-! ## Stores of older versions -/

/-- What is persisted, as far as a migration touches it. -/
structure PersistedPrefs where
  tables : Tables String
  savePaths : List String
  savePathsByDaemon : Store String (List String)
  mobileSortKey : Option String

/-- A column of version 2 under the name of the one that took its place. -/
def renamed (key : String) : String := if key = "infoHash" then "infoHashV1" else key

/-- The elements of an array that pass and that no earlier one equals. -/
def firsts (keep : String → Bool) (keys : List String) : List String :=
  (keys.zipIdx.filter fun (key, i) => keep key && decide (keys.idxOf key = i)).map Prod.fst

def migrateHidden (hidden : List String) : List String :=
  let set := hidden.eraseDups
  -- A persisted set lacking `infoHash` means the column was shown.
  let set := if "infoHash" ∈ set then set else set.filter (· ≠ "infoHashV1")
  (set.filter (· ≠ "infoHash")).filter (· ≠ "id")

def migrateSizing (sizing : Store String Int) : Store String Int :=
  let sizing :=
    match sizing "infoHash" with
    | some width => if sizing.has "infoHashV1" then sizing else sizing.set "infoHashV1" width
    | none => sizing
  fun key => if key = "infoHash" ∨ key = "id" then none else sizing key

def migrateTorrents (prev : TableLayout String) : TableLayout String where
  order := prev.order.map fun keys => firsts (· ≠ "id") (keys.map renamed)
  hidden := prev.hidden.map migrateHidden
  sortKey :=
    match prev.sortKey with
    | some key =>
      if key = "infoHash" then some "infoHashV1" else if key = "id" then none else some key
    | none => none
  sortDesc := prev.sortDesc
  sizing := prev.sizing.map migrateSizing

def migrateMobileSortKey (key : Option String) : Option String :=
  if key = some "infoHash" then some "infoHashV1"
  else if key = some "id" then some "addedTime"
  else key

/-- `migrate` of the persisted store. -/
def migrate (state : PersistedPrefs) (version : Nat) : PersistedPrefs :=
  let state :=
    if version < 2 then { state with savePaths := [], savePathsByDaemon := .empty } else state
  if version < 3 then
    { state with
      tables :=
        match state.tables "torrents" with
        | some prev => state.tables.set "torrents" (migrateTorrents prev)
        | none => state.tables
      mobileSortKey := migrateMobileSortKey state.mobileSortKey }
  else state

end Rsbtd.WebUi
