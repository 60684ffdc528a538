import Rsbtd.WebUi.Torrents

/-!
# The torrent store, object by object

`torrents.ts` tells rows apart by their objects: a row that did not change keeps its object,
so that what renders it can skip it.  Here a row is an object with an identity and its
properties, and the objects that `error` and `flags` refer to are on a heap.  Objects are
not changed once made, so the heap is a function.
-/

namespace Rsbtd.WebUi

/-- What a property of a row can refer to. -/
inductive Nested where
  | error (message : String) (file : Int)
  | flags (flags : List String)
deriving DecidableEq, Repr

/-- The value of a property; `ν` are the numbers up to `Object.is`. -/
inductive Value (ν : Type) where
  | null
  | bool (value : Bool)
  | number (value : ν)
  | string (value : String)
  | object (ref : Nat)
deriving DecidableEq, Repr

/-- The objects of responses, and those made by spreading one row over another. -/
inductive RowIdentity where
  | received (ref : Nat)
  | spread (made : Nat)
deriving DecidableEq, Repr

/-- A row's object; `properties` are all but its uuid. -/
structure RowObject (ν : Type) where
  identity : RowIdentity
  properties : List (String × Value ν)
deriving DecidableEq, Repr

abbrev StoredRow (ν : Type) := TorrentRow (RowObject ν)

section Rows

variable {ν : Type}

namespace RowObject

/-- `object[key]`; `none` stands for `undefined`. -/
def get (r : RowObject ν) (key : String) : Option (Value ν) := r.properties.lookup key

def keys (r : RowObject ν) : List String := r.properties.map (·.1)

/-- `{ ...existing, ...row }`. -/
def spread (made : Nat) (existing row : RowObject ν) : RowObject ν where
  identity := .spread made
  properties :=
    (existing.properties.map fun p => (p.1, (row.get p.1).getD p.2)) ++
      row.properties.filter fun p => (existing.get p.1).isNone

end RowObject

variable [DecidableEq ν] (heap : Nat → Nested)

/-- The body of the loop of `rowEqual`: whether it goes on. -/
def propertyEqual (key : String) (va vb : Option (Value ν)) : Bool :=
  if va = vb then true
  else if key = "error" then
    match va, vb with
    | some (.object ea), some (.object eb) =>
      match heap ea, heap eb with
      | .error messageA fileA, .error messageB fileB => messageA = messageB && fileA = fileB
      | _, _ => false
    | _, _ => false
  else if key = "flags" then
    match va, vb with
    | some (.object fa), some (.object fb) =>
      match heap fa, heap fb with
      | .flags flagsA, .flags flagsB =>
        flagsA.length = flagsB.length && (flagsA.zip flagsB).all fun p => p.1 = p.2
      | _, _ => false
    | _, _ => false
  else false

/-- Of two rows of one uuid. -/
def rowEqual (a b : RowObject ν) : Bool :=
  b.keys.all fun key => propertyEqual heap key (a.get key) (b.get key)

end Rows

structure TorrentStore (ν : Type) where
  byUuid : RowMap (RowObject ν)
  listVersion : Nat
  /-- How many objects were made by spreading. -/
  made : Nat
deriving DecidableEq, Repr

/-- The variables of `patch` and `replaceAll`. -/
structure StoreDraft (ν : Type) where
  next : RowMap (RowObject ν)
  made : Nat
  changed : Bool

inductive StoreAction (ν : Type) where
  | patch (rows : List (StoredRow ν))
  | upsert (row : StoredRow ν)
  | remove (uuid : TorrentUuid)
  | replaceAll (rows : List (StoredRow ν))

namespace StoreDraft

variable {ν : Type} [DecidableEq ν] (heap : Nat → Nested)

/-- Sets a row that differs from the existing one. -/
def merge (draft : StoreDraft ν) (existing row : StoredRow ν) : StoreDraft ν where
  next := draft.next.set ⟨row.uuid, .spread draft.made existing.fields row.fields⟩
  made := draft.made + 1
  changed := true

def applyRow (draft : StoreDraft ν) (row : StoredRow ν) : StoreDraft ν :=
  match draft.next.get row.uuid with
  | none => { draft with next := draft.next.set row, changed := true }
  | some existing =>
    if rowEqual heap existing.fields row.fields then draft else draft.merge existing row

/-- The body of the loop of `replaceAll`. -/
def replaceRow (prev : RowMap (RowObject ν)) (draft : StoreDraft ν) (row : StoredRow ν) :
    StoreDraft ν :=
  match prev.get row.uuid with
  | none => { draft with next := draft.next.set row, changed := true }
  | some existing =>
    if rowEqual heap existing.fields row.fields then
      -- the object that is there stays, and with it its identity
      { draft with next := draft.next.set existing }
    else draft.merge existing row

end StoreDraft

namespace TorrentStore

variable {ν : Type} [DecidableEq ν] (heap : Nat → Nested)

def init : TorrentStore ν := ⟨[], 0, 0⟩

def commit (s : TorrentStore ν) (draft : StoreDraft ν) : TorrentStore ν :=
  ⟨draft.next, s.listVersion + 1, draft.made⟩

def patch (s : TorrentStore ν) (rows : List (StoredRow ν)) : TorrentStore ν :=
  if rows = [] then s
  else
    let draft := rows.foldl (StoreDraft.applyRow heap) ⟨s.byUuid, s.made, false⟩
    if draft.changed then s.commit draft else s

/-- The store, and the uuids handed to `reconcileRemoved`. -/
def remove (s : TorrentStore ν) (uuid : TorrentUuid) : TorrentStore ν × List TorrentUuid :=
  (if s.byUuid.has uuid then s.commit ⟨s.byUuid.delete uuid, s.made, true⟩ else s, [uuid])

/-- The store, and the uuids handed to `reconcileRemoved`. -/
def replaceAll (s : TorrentStore ν) (rows : List (StoredRow ν)) :
    TorrentStore ν × List TorrentUuid :=
  let prev := s.byUuid
  let draft := rows.foldl (StoreDraft.replaceRow heap prev) ⟨[], s.made, false⟩
  let reordered := (List.range prev.keys.length).any fun i =>
    prev.keys[i]? ≠ draft.next.keys[i]?
  if draft.changed = false ∧ draft.next.length = prev.length ∧ reordered = false then (s, [])
  else (s.commit draft, prev.keys.filter fun key => !draft.next.has key)

def apply (s : TorrentStore ν) : StoreAction ν → TorrentStore ν × List TorrentUuid
  | .patch rows => (s.patch heap rows, [])
  | .upsert row => (s.patch heap [row], [])
  | .remove uuid => s.remove uuid
  | .replaceAll rows => s.replaceAll heap rows

end TorrentStore

end Rsbtd.WebUi
