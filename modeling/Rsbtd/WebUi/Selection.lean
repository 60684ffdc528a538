import Mathlib.Data.Finset.Basic
import Mathlib.Data.Finset.Dedup
import Rsbtd.WebUi.TorrentStore

/-!
# The selection of the torrent list

`selection.ts` next to the store.  A gesture is given the row it is on, and the order of the
view that is shown.  The store hands the rows that left it to the selection.
-/

namespace Rsbtd.WebUi

structure ClickModifiers where
  ctrl : Bool
  shift : Bool
deriving DecidableEq, Repr

structure SelectionState where
  selected : Finset TorrentUuid
  anchor : Option TorrentUuid
  focus : Option TorrentUuid
deriving DecidableEq

inductive Gesture where
  | click (uuid : TorrentUuid) (mods : ClickModifiers) (order : List TorrentUuid)
  | contextSelect (uuid : TorrentUuid)
  | keyMove (uuid : TorrentUuid) (extend : Bool) (order : List TorrentUuid)
  | toggle (uuid : TorrentUuid)
  | selectAll (order : List TorrentUuid)
  | clear
deriving DecidableEq, Repr

/-- The slice of the order from the anchor to the row, or back. -/
def clickRange (order : List TorrentUuid) (anchor uuid : TorrentUuid) :
    Option (List TorrentUuid) :=
  match order.idxOf? anchor, order.idxOf? uuid with
  | some first, some last =>
    some (if first ≤ last then order.extract first (last + 1)
      else order.extract last (first + 1))
  | _, _ => none

namespace SelectionState

def init : SelectionState := ⟨∅, none, none⟩

/-- Nothing but one row. -/
def single (uuid : TorrentUuid) : SelectionState := ⟨{uuid}, some uuid, some uuid⟩

def toggle (s : SelectionState) (uuid : TorrentUuid) : SelectionState where
  selected := if uuid ∈ s.selected then s.selected.erase uuid else insert uuid s.selected
  anchor := some uuid
  focus := some uuid

def click (s : SelectionState) (uuid : TorrentUuid) (mods : ClickModifiers)
    (order : List TorrentUuid) : SelectionState :=
  match (if mods.shift then s.anchor else none).bind fun anchor => clickRange order anchor uuid with
  | some range =>
    { s with
      selected := range.foldl (fun next u => insert u next) (if mods.ctrl then s.selected else ∅)
      focus := some uuid }
  | none => if mods.ctrl then s.toggle uuid else single uuid

def contextSelect (s : SelectionState) (uuid : TorrentUuid) : SelectionState :=
  if uuid ∈ s.selected then s else single uuid

def keyMove (s : SelectionState) (uuid : TorrentUuid) (extend : Bool)
    (order : List TorrentUuid) : SelectionState :=
  if extend then s.click uuid ⟨false, true⟩ order else single uuid

def selectAll (s : SelectionState) (order : List TorrentUuid) : SelectionState :=
  { s with selected := order.toFinset }

def discard (s : SelectionState) (uuids : List TorrentUuid) : SelectionState :=
  if uuids.any fun u => u ∈ s.selected ∨ s.anchor = some u ∨ s.focus = some u then
    { selected := s.selected.filter fun u => u ∉ uuids
      anchor := s.anchor.filter fun u => u ∉ uuids
      focus := s.focus.filter fun u => u ∉ uuids }
  else s

def apply (s : SelectionState) : Gesture → SelectionState
  | .click uuid mods order => s.click uuid mods order
  | .contextSelect uuid => s.contextSelect uuid
  | .keyMove uuid extend order => s.keyMove uuid extend order
  | .toggle uuid => s.toggle uuid
  | .selectAll order => s.selectAll order
  | .clear => init

end SelectionState

/-- The store and the selection. -/
structure TorrentList (ν : Type) where
  store : TorrentStore ν
  selection : SelectionState

inductive ListAction (ν : Type) where
  | store (action : StoreAction ν)
  | gesture (gesture : Gesture)

namespace TorrentList

variable {ν : Type} [DecidableEq ν]

def init : TorrentList ν := ⟨TorrentStore.init, .init⟩

def reconcileRemoved (selection : SelectionState) (uuids : List TorrentUuid) : SelectionState :=
  if uuids = [] then selection else selection.discard uuids

def step (heap : Nat → Nested) (s : TorrentList ν) : ListAction ν → Option (TorrentList ν)
  | .store action =>
    some ⟨(s.store.apply heap action).1, reconcileRemoved s.selection (s.store.apply heap action).2⟩
  | .gesture gesture => some { s with selection := s.selection.apply gesture }

end TorrentList

end Rsbtd.WebUi
