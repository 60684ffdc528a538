import Mathlib.Data.List.Perm.Basic
import Rsbtd.Engine.Correlate

/-!
# Removals that delete files

A deletion alert identifies its torrent only by info-hash.  `remove_torrent`
with `delete_files` parks `(info_hashes, uuid)` in `pending_deletes` before it
posts the removal; the pump attributes the alert to the first parked pair whose
hashes overlap the alert's, and the call sweeps what is left under its uuid when
it returns.

libtorrent performs the posted removals in order.  A removal that asked for
deletion posts one deletion alert when its files are gone, in any order; the
session never holds two torrents with overlapping hashes at once.

`Event.deletion` and the second field of `Outcome.reply` and `Outcome.timeout`
are histories that no task reads.
-/

namespace Rsbtd.Deletion

open Transition (Run)
open Correlate (Stage)

abbrev Sha1Hash := BitVec 160
abbrev Sha256Hash := BitVec 256

structure InfoHash where
  v1 : Option Sha1Hash
  v2 : Option Sha256Hash
deriving DecidableEq, Repr

namespace InfoHash

/-- What an expired handle reports. -/
def absent : InfoHash := ⟨none, none⟩

/-- Some hash version is present on both sides and equal. -/
def overlaps (h other : InfoHash) : Bool :=
  (h.v1.isSome && h.v1 == other.v1) || (h.v2.isSome && h.v2 == other.v2)

/-- `other` has every hash that `h` has. -/
def widens (h other : InfoHash) : Bool :=
  (h.v1.isNone || h.v1 == other.v1) && (h.v2.isNone || h.v2 == other.v2)

end InfoHash

structure Torrent where
  hashes : InfoHash
  stage : Stage
deriving DecidableEq, Repr

/-- A torrent's deletion by libtorrent: the call that asked for it, and the
hashes its alert carries. -/
structure FilesDeletion where
  torrent : Uuid
  call : Nat
  hashes : InfoHash
deriving DecidableEq, Repr

inductive EventKind where
  | torrentRemoved
  | torrentDeleted
  | torrentDeleteFailed (error : Option String)
deriving DecidableEq, Repr

/-- How a deletion ended. -/
inductive Deleted where
  | deleted
  | failed (error : Option String)
deriving DecidableEq, Repr

def Deleted.kind : Deleted → EventKind
  | deleted => .torrentDeleted
  | failed error => .torrentDeleteFailed error

inductive Alert where
  | torrentRemoved (torrent : Uuid)
  | deletion (deletion : FilesDeletion) (result : Deleted)
deriving DecidableEq, Repr

def Alert.deletes : Alert → Option FilesDeletion
  | deletion d _ => some d
  | torrentRemoved _ => none

structure Event where
  torrent : Option Uuid
  kind : EventKind
  deletion : Option FilesDeletion
deriving DecidableEq, Repr

inductive Outcome where
  | notFound
  | shuttingDown
  /-- The result of `request`, from this event. -/
  | reply (result : Except String Unit) (event : Event)
  /-- With that many events published. -/
  | timeout (events : Nat)
deriving DecidableEq, Repr

/-- The program counter of `Engine::remove_torrent`. -/
inductive CallPc where
  | find
  | lookup
  | park
  | check
  | subscribe
  | post (cursor : Nat)
  | wait (cursor : Nat)
  /-- `request` returned; the entry is swept next. -/
  | sweep (outcome : Outcome)
  | done (outcome : Outcome)
  | dropped
deriving DecidableEq, Repr

structure Call where
  torrent : Uuid
  deleteFiles : Bool
  pc : CallPc
deriving DecidableEq, Repr

namespace Call

/-- The `matcher` closure of the call. -/
def matcher (call : Call) (event : Event) : Option (Except String Unit) :=
  if event.torrent = some call.torrent then
    match event.kind, call.deleteFiles with
    | .torrentRemoved, false => some (.ok ())
    | .torrentDeleted, true => some (.ok ())
    | .torrentDeleteFailed error, true =>
      some (.error
        ("torrent removed, but deleting its files failed: " ++ error.getD "unknown error"))
    | _, _ => none
  else none

/-- Past `request`: only a removal with deletion has an entry to sweep. -/
def returned (call : Call) (outcome : Outcome) : CallPc :=
  if call.deleteFiles then .sweep outcome else .done outcome

end Call

/-- An entry of `pending_deletes`. -/
abbrev Entry := InfoHash × Uuid

/-- `Vec::swap_remove`: the last element takes the place of the removed one. -/
def swapRemove {α : Type} (entries : List α) (i : Nat) : List α :=
  match entries.getLast? with
  | none => []
  | some last => (entries.set i last).dropLast

structure State where
  calls : List Call
  /-- By uuid. -/
  torrents : List Torrent
  /-- Removals posted and not performed: the call, its torrent and flag. -/
  removes : List (Nat × Uuid × Bool)
  /-- Torrents whose files are being deleted. -/
  deleting : List FilesDeletion
  /-- Posted alerts, and the processed ones the pump has not handled. -/
  alerts : List Alert
  batch : List Alert
  pendingDeletes : List Entry
  events : List Event
  sessionOpen : Bool
  isCancelled : Bool
deriving DecidableEq, Repr

namespace State

def start : State where
  calls := []
  torrents := []
  removes := []
  deleting := []
  alerts := []
  batch := []
  pendingDeletes := []
  events := []
  sessionOpen := true
  isCancelled := false

def stage (s : State) (torrent : Uuid) : Stage := (s.torrents[torrent]?.map (·.stage)).getD .absent

def setStage (s : State) (torrent : Uuid) (stage : Stage) : List Torrent :=
  s.torrents.modify torrent fun t => { t with stage }

/-- Removals with deletion whose alert the pump has not handled. -/
def outstanding (s : State) : List FilesDeletion :=
  s.deleting ++ (s.alerts ++ s.batch).filterMap Alert.deletes

/-- `TorrentHandle::info_hashes`; the handle of a removed torrent may have expired. -/
def infoHashes (s : State) (torrent : Uuid) (locks : Bool) : InfoHash :=
  match s.torrents[torrent]? with
  | none => .absent
  | some t => if t.stage = .registered ∨ locks then t.hashes else .absent

/-- Whether a torrent with these hashes may join the session. -/
def admits (s : State) (hashes : InfoHash) (except : Option Uuid) : Bool :=
  s.torrents.zipIdx.all fun entry =>
    some entry.2 == except || entry.1.stage != .registered || !entry.1.hashes.overlaps hashes

def goto (s : State) (c : Nat) (call : Call) (pc : CallPc) : State :=
  { s with calls := s.calls.set c { call with pc } }

/-- `BatchState::take_pending_delete`. -/
def takePendingDelete (s : State) (hashes : InfoHash) : List Entry × Option Uuid :=
  match s.pendingDeletes.findIdx? fun entry => entry.1.overlaps hashes with
  | none => (s.pendingDeletes, none)
  | some i => (swapRemove s.pendingDeletes i, s.pendingDeletes[i]?.map (·.2))

/-- The end of `remove_torrent`. -/
def sweepPendingDelete (s : State) (torrent : Uuid) : List Entry :=
  match s.pendingDeletes.findIdx? fun entry => entry.2 == torrent with
  | none => s.pendingDeletes
  | some i => swapRemove s.pendingDeletes i

/-- The next call on a shared component of call `c`.  `locks`: a handle of a
torrent that is removed still locks. -/
def next (s : State) (c : Nat) (call : Call) (locks : Bool) : Option State :=
  match call.pc with
  | .find =>
    match s.stage call.torrent with
    | .absent | .unregistered => some (s.goto c call (.done .notFound))
    | .registered | .removed | .reclaimed => some (s.goto c call .lookup)
  | .lookup =>
    if !s.sessionOpen then some (s.goto c call (.done .shuttingDown))
    else if (s.stage call.torrent).hasHandle then
      some (s.goto c call (if call.deleteFiles then .park else .check))
    else some (s.goto c call (.done .notFound))
  | .park =>
    -- parked before the post: the alert may be handled before the call goes on
    some
      { s with
        pendingDeletes := s.pendingDeletes ++ [(s.infoHashes call.torrent locks, call.torrent)]
        calls := s.calls.set c { call with pc := .check } }
  | .check =>
    if s.isCancelled then some (s.goto c call (call.returned .shuttingDown))
    else some (s.goto c call .subscribe)
  | .subscribe => some (s.goto c call (.post s.events.length))
  | .post cursor =>
    -- only posted: libtorrent performs the removal later
    some
      { s with
        removes := s.removes ++ [(c, call.torrent, call.deleteFiles)]
        calls := s.calls.set c { call with pc := .wait cursor } }
  | .wait cursor => s.events[cursor]?.map fun event =>
    match call.matcher event with
    | some result => s.goto c call (call.returned (.reply result event))
    | none => s.goto c call (.wait (cursor + 1))
  | .sweep outcome =>
    some
      { s with
        pendingDeletes := s.sweepPendingDelete call.torrent
        calls := s.calls.set c { call with pc := .done outcome } }
  | .done _ | .dropped => none

/-- `RecvError::Lagged`: the receiver goes on at `later`.  The bus also carries the
events that are not modelled here, so any number of them may be lost. -/
def lag (s : State) (c : Nat) (call : Call) (later : Nat) : Option State :=
  match call.pc with
  | .wait cursor =>
    if cursor < later ∧ later ≤ s.events.length then some (s.goto c call (.wait later)) else none
  | _ => none

/-- The deadline elapses.  `timeout` polls the receiver first, but the task's budget
can end that poll with events unread. -/
def timeout (s : State) (c : Nat) (call : Call) : Option State :=
  match call.pc with
  | .wait _ => some (s.goto c call (call.returned (.timeout s.events.length)))
  | _ => none

/-- The `shutdown.cancelled()` arm. -/
def cancelled (s : State) (c : Nat) (call : Call) : Option State :=
  match call.pc with
  | .wait _ => if s.isCancelled then some (s.goto c call (call.returned .shuttingDown)) else none
  | _ => none

/-- The caller drops the future while `request` waits. -/
def drop (s : State) (c : Nat) (call : Call) : Option State :=
  match call.pc with
  | .wait _ => some (s.goto c call .dropped)
  | _ => none

/-- libtorrent performs the oldest posted removal, if the torrent is still there. -/
def perform (s : State) : Option State :=
  match s.removes with
  | [] => none
  | (c, torrent, deleteFiles) :: rest =>
    match s.torrents[torrent]? with
    | some ⟨hashes, .registered⟩ =>
      some
        { s with
          removes := rest
          torrents := s.setStage torrent .removed
          alerts := s.alerts ++ [.torrentRemoved torrent]
          deleting :=
            if deleteFiles then s.deleting ++ [⟨torrent, c, hashes⟩] else s.deleting }
    -- an earlier call has removed the torrent: nothing is announced
    | _ => some { s with removes := rest }

/-- The files of the `i`-th torrent are deleted, or could not be. -/
def complete (s : State) (i : Nat) (result : Deleted) : Option State :=
  s.deleting[i]?.map fun d =>
    { s with deleting := s.deleting.eraseIdx i, alerts := s.alerts ++ [.deletion d result] }

/-- An alert passes the bindings' `Registry::process`. -/
def process (s : State) : Option State :=
  match s.alerts with
  | [] => none
  | .torrentRemoved torrent :: rest =>
    some
      { s with
        alerts := rest
        batch := s.batch ++ [.torrentRemoved torrent]
        torrents := s.setStage torrent .reclaimed }
  | alert :: rest => some { s with alerts := rest, batch := s.batch ++ [alert] }

/-- `handle_alert`. -/
def handle (s : State) : Option State :=
  match s.batch with
  | [] => none
  | .torrentRemoved torrent :: rest =>
    some
      { s with
        batch := rest
        torrents := s.setStage torrent .unregistered
        events := s.events ++ [⟨some torrent, .torrentRemoved, none⟩] }
  | .deletion d result :: rest =>
    -- the handle of the alert has expired, so the uuid comes from the parked entries
    let (pendingDeletes, torrent) := s.takePendingDelete d.hashes
    some
      { s with
        batch := rest
        pendingDeletes
        events := s.events ++ [⟨torrent, result.kind, some d⟩] }

end State

inductive Action where
  | call (torrent : Uuid) (deleteFiles : Bool)
  | next (c : Nat) (locks : Bool)
  | lag (c : Nat) (later : Nat)
  | timeout (c : Nat)
  | cancelled (c : Nat)
  | drop (c : Nat)
  /-- A torrent is added under a new uuid, or learns another of its hashes. -/
  | add (hashes : InfoHash)
  | widen (torrent : Uuid) (hashes : InfoHash)
  | perform
  | complete (i : Nat) (result : Deleted)
  | process
  | handle
  | cancel
  | close
deriving DecidableEq, Repr

namespace State

def step (s : State) : Action → Option State
  | .call torrent deleteFiles => some { s with calls := s.calls ++ [⟨torrent, deleteFiles, .find⟩] }
  | .next c locks => s.calls[c]?.bind fun call => s.next c call locks
  | .lag c later => s.calls[c]?.bind fun call => s.lag c call later
  | .timeout c => s.calls[c]?.bind (s.timeout c)
  | .cancelled c => s.calls[c]?.bind (s.cancelled c)
  | .drop c => s.calls[c]?.bind (s.drop c)
  | .add hashes =>
    if s.admits hashes none then
      some { s with torrents := s.torrents ++ [⟨hashes, .registered⟩] }
    else none
  | .widen torrent hashes =>
    match s.torrents[torrent]? with
    | some ⟨old, .registered⟩ =>
      if old.widens hashes && s.admits hashes (some torrent) then
        some { s with torrents := s.torrents.set torrent ⟨hashes, .registered⟩ }
      else none
    | _ => none
  | .perform => s.perform
  | .complete i result => s.complete i result
  | .process => s.process
  | .handle => s.handle
  | .cancel => some { s with isCancelled := true }
  | .close => if s.isCancelled then some { s with sessionOpen := false } else none

end State

abbrev DeletionRun (ok : State → Action → Prop) : State → Prop := Run State.step ok .start

end Rsbtd.Deletion
