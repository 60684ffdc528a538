import Rsbtd.Sequence.StableSort
import Rsbtd.WebUi.TorrentFields

/-!
# Sorting the torrent list

The getters of `fields.ts` on the columns of a row, and the comparator of the list by a
field.  A getter gives a value of the type of its field, or none.
-/

namespace Rsbtd.WebUi

open Sequence

/-- A row as the getters read it: none is null.  JSON has only finite numbers. -/
structure ListRow where
  /-- The message of the error. -/
  error : Option JsString
  state : JsString
  movingStorage : Bool
  isPaused : Bool
  isFinished : Bool
  queuePosition : Option ℚ
  currentTracker : Option JsString
  allTimeDownload : ℚ
  allTimeUpload : ℚ
  totalWanted : ℚ
  totalWantedDone : ℚ
  downloadPayloadRate : ℚ
  flags : List JsString
  /-- The other columns, by their names. -/
  number : JsString → Option ℚ
  bool : JsString → Bool
  string : JsString → Option JsString

def uiStatus (row : ListRow) : String :=
  if row.error.isSome then "error"
  else if row.movingStorage then "moving"
  else if row.state = js "CHECKING_FILES" ∨ row.state = js "CHECKING_RESUME_DATA" then "checking"
  else if row.state = js "DOWNLOADING_METADATA" then
    if row.isPaused then "paused" else "metadata"
  else if row.isPaused then "paused"
  else if row.state = js "DOWNLOADING" then "downloading"
  else if row.state = js "FINISHED" then "finished"
  else if row.state = js "SEEDING" then "seeding"
  else "unknown"

def torrentRatio (row : ListRow) : Number :=
  if 0 < row.allTimeDownload then .finite (row.allTimeUpload / row.allTimeDownload)
  else if 0 < row.allTimeUpload then .infinite
  else .finite 0

/-- Seconds until selected content completes, or null (∞). -/
def torrentEta (row : ListRow) : Option ℚ :=
  if row.isFinished || row.isPaused then none
  else if row.totalWanted - row.totalWantedDone ≤ 0 then none
  else if 0 < row.downloadPayloadRate then
    some ((row.totalWanted - row.totalWantedDone) / row.downloadPayloadRate)
  else none

/-! ### Getters -/

def numberOf (row : ListRow) (key : JsString) : Option Number :=
  if key = js "queuePosition" then row.queuePosition.map fun position => .finite (position + 1)
  else if key = js "eta" then (torrentEta row).map .finite
  else if key = js "ratio" then some (torrentRatio row)
  else if key = js "allTimeDownload" then some (.finite row.allTimeDownload)
  else if key = js "allTimeUpload" then some (.finite row.allTimeUpload)
  else if key = js "totalWanted" then some (.finite row.totalWanted)
  else if key = js "totalWantedDone" then some (.finite row.totalWantedDone)
  else if key = js "downloadPayloadRate" then some (.finite row.downloadPayloadRate)
  else (row.number key).map .finite

def boolOf (row : ListRow) (key : JsString) : Bool :=
  if key = js "movingStorage" then row.movingStorage
  else if key = js "isPaused" then row.isPaused
  else if key = js "isFinished" then row.isFinished
  else row.bool key

def stringOf (row : ListRow) (key : JsString) : Option JsString :=
  if key = js "status" then some (js (uiStatus row))
  else if key = js "state" then some row.state
  else if key = js "currentTracker" then some (row.currentTracker.getD [])
  else if key = js "error" then some (row.error.getD [])
  else row.string key

def Raw.ofString : Option JsString → Raw
  | none => .missing
  | some text => .string text

def Raw.ofNumber : Option Number → Raw
  | none => .missing
  | some n => .number n

def TorrentFieldDef.get (f : TorrentFieldDef) (row : ListRow) : Raw :=
  match f.type with
  | .string | .enum => .ofString (stringOf row f.key)
  | .bool => .bool (boolOf row f.key)
  | .flags => .strings row.flags
  | _ => .ofNumber (numberOf row f.key)

def Raw.isMissing : Raw → Bool
  | .missing => true
  | _ => false

/-- `sortable`, which is false for the flags. -/
def TorrentFieldDef.sortable (f : TorrentFieldDef) : Bool := f.key != js "flags"

/-! ### Comparators -/

/-- What a comparator gives. -/
inductive Comparison where
  | nan
  | negInfinite
  | finite (value : ℚ)
  | infinite

namespace Comparison

/-- How the sort takes it. -/
def order : Comparison → Ordering
  | nan => .eq
  | negInfinite => .lt
  | finite value => compare value 0
  | infinite => .gt

/-- The product with the direction: 1, or -1 if descending. -/
def times (desc : Bool) : Comparison → Comparison
  | nan => nan
  | negInfinite => if desc then infinite else negInfinite
  | finite value => finite (if desc then -1 * value else 1 * value)
  | infinite => if desc then negInfinite else infinite

end Comparison

def Number.minus : Number → Number → Comparison
  | .finite a, .finite b => .finite (a - b)
  | .finite _, .infinite => .negInfinite
  | .infinite, .finite _ => .infinite
  | _, _ => .nan

/-- `localeCompare` of the locale, ignoring accents and case. -/
structure Collation where
  localeCompare : JsString → JsString → Int
  consistent : Std.TransCmp fun a b => compare (localeCompare a b) 0

def statusCompare (a b : ListRow) : Comparison :=
  .finite ((uiStatuses.idxOf (uiStatus a) : ℚ) - uiStatuses.idxOf (uiStatus b))

/-- `Number` of a boolean. -/
def bitOf (b : Bool) : ℚ := if b then 1 else 0

/-- The field's comparator. -/
def compareByField (collation : Collation) (f : TorrentFieldDef) (a b : ListRow) : Comparison :=
  if f.key = js "status" then
    statusCompare a b
  else
    match f.get a, f.get b with
    | .missing, .missing => .finite 0
    | .missing, _ => .finite 1
    | _, .missing => .finite (-1)
    | .string va, .string vb => .finite (collation.localeCompare va vb)
    | .bool va, .bool vb => .finite (bitOf va - bitOf vb)
    | .strings va, .strings vb => .finite ((va.length : ℚ) - vb.length)
    | .number va, .number vb => va.minus vb
    | _, _ => .nan

/-- What `sortTorrents` passes to the sort. -/
def compareRows (collation : Collation) (f : TorrentFieldDef) (desc : Bool) (a b : ListRow) :
    Comparison :=
  if (f.get a).isMissing || (f.get b).isMissing then
    .finite (bitOf (f.get a).isMissing - bitOf (f.get b).isMissing)
  else
    (compareByField collation f a b).times desc

def sortTorrents (runtime : Runtime) (collation : Collation) (rows : List ListRow)
    (sortKey : Option JsString) (desc : Bool) : List ListRow :=
  match sortKey with
  | none => rows
  | some key =>
    if key = [] then
      rows
    else
      match lookupTorrentField runtime key with
      | none => rows
      | some f =>
        if f.sortable then stableSort (fun a b => (compareRows collation f desc a b).order) rows
        else rows

end Rsbtd.WebUi
