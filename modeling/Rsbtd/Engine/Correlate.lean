import Mathlib.Data.List.Basic
import Mathlib.Logic.Function.Basic
import Rsbtd.Engine.Registry
import Rsbtd.Transition.Runs

/-!
# Serialized operations

`Engine::move_storage` and `Engine::rename_file` post an operation whose reply
alert carries no request key.  `correlate.rs` runs them one at a time for each
torrent and class, under a mutex handed out by `Engine::op_lock`, and
`request_serialized` waits for the first matching event.  A wait that times out
leaves the guard to a background `drain`.

`Call` is one such call together with its drainer.  libtorrent answers the
operations it accepted, for each torrent and class in the order they were
posted.  An alert goes through the bindings, which forget a removed torrent's
handle, and then through the pump, which publishes the event.

`Event.answers` and the first argument of `Outcome.reply` are histories that no
task reads: the call whose operation was answered.
-/

namespace Rsbtd.Correlate

open Transition (Run)

/-- Operation classes that must run one at a time for a torrent. -/
inductive OpClass where
  | moveStorage
  | renameFile
  | scrape
deriving DecidableEq, Repr

inductive Operation where
  | moveStorage (path : String) (mode : Nat)
  | renameFile (index : Int) (name : String)
deriving DecidableEq, Repr

/-- The new path or name, or the error libtorrent reports. -/
abbrev Reply := Except String String

inductive EventKind where
  | torrentRemoved
  | storageMoved (path : String)
  | storageMovedFailed (error : String)
  | fileRenamed (index : Int) (newName : String)
  | fileRenameFailed (index : Int) (error : String)
  | unrelated
deriving DecidableEq, Repr

structure Event where
  torrent : Option Uuid
  kind : EventKind
  answers : Option Nat
deriving DecidableEq, Repr

namespace Operation

def opClass : Operation → OpClass
  | moveStorage _ _ => .moveStorage
  | renameFile _ _ => .renameFile

/-- The alert libtorrent posts for the operation. -/
def answer : Operation → Reply → EventKind
  | moveStorage _ _, .ok path => .storageMoved path
  | moveStorage _ _, .error error => .storageMovedFailed error
  | renameFile index _, .ok newName => .fileRenamed index newName
  | renameFile index _, .error error => .fileRenameFailed index error

/-- The `matcher` closure the call passes to `request_serialized`. -/
def matcher (torrent : Uuid) (op : Operation) (event : Event) : Option Reply :=
  if event.torrent = some torrent then
    match op, event.kind with
    | moveStorage _ _, .storageMoved path => some (.ok path)
    | moveStorage _ _, .storageMovedFailed error => some (.error error)
    | renameFile index _, .fileRenamed i newName =>
      if i = index then some (.ok newName) else none
    | renameFile index _, .fileRenameFailed i error =>
      if i = index then some (.error error) else none
    | _, _ => none
  else none

end Operation

/-- How a call returned. -/
inductive Outcome where
  | reply (answers : Option Nat) (result : Reply)
  | notFound
  /-- `TorrentHandle::rename_file` rejected the new name. -/
  | invalid
  | shuttingDown
  | timeout
  /-- The caller dropped the future. -/
  | dropped
deriving DecidableEq, Repr

/-- `lock` is the mutex the call holds an `Arc` of, `cursor` the next event its
receiver delivers. -/
inductive CallPc where
  | opLock
  | lockOwned (lock : Nat)
  /-- The guard is held from here on. -/
  | locked (lock : Nat)
  | found (lock : Nat)
  | running (lock : Nat)
  | subscribed (lock : Nat) (cursor : Nat)
  | waiting (lock : Nat) (cursor : Nat)
  /-- The call returned `Timeout` and `drain` inherited the guard. -/
  | draining (lock : Nat) (cursor : Nat)
  | done (outcome : Outcome)
deriving DecidableEq, Repr

namespace CallPc

/-- The mutex a task holds locked. -/
def guard : CallPc → Option Nat
  | locked lock | found lock | running lock | subscribed lock _ | waiting lock _
  | draining lock _ => some lock
  | opLock | lockOwned _ | done _ => none

/-- The mutex a task holds an `Arc` of. -/
def lock : CallPc → Option Nat
  | lockOwned lock => some lock
  | pc => pc.guard

/-- The receiver position of a task that waits for its reply. -/
def cursor : CallPc → Option Nat
  | waiting _ cursor | draining _ cursor => some cursor
  | _ => none

end CallPc

structure Call where
  torrent : Uuid
  op : Operation
  pc : CallPc
deriving DecidableEq, Repr

/-- A key of the `op_locks` map. -/
abbrev LockKey := Uuid × OpClass

def Call.key (call : Call) : LockKey := (call.torrent, call.op.opClass)

inductive Alert where
  | reply (call : Nat) (kind : EventKind)
  | torrentRemoved (torrent : Uuid)
  | unrelated
deriving DecidableEq, Repr

/-- The call whose operation the alert answers. -/
def Alert.answers : Alert → Option Nat
  | reply call _ => some call
  | _ => none

/-- How far a torrent is, from its add to the handling of its removal. -/
inductive Stage where
  | absent
  | registered
  /-- Gone from libtorrent; its removal alert is not processed yet. -/
  | removed
  /-- The bindings forgot the handle. -/
  | reclaimed
  | unregistered
deriving DecidableEq, Repr

namespace Stage

/-- `find_torrent_by_token` still returns the handle. -/
def hasHandle : Stage → Bool
  | registered | removed => true
  | _ => false

/-- The handle was found once, and no call finds it again. -/
def isForgotten : Stage → Bool
  | reclaimed | unregistered => true
  | _ => false

end Stage

structure State where
  calls : List Call
  /-- `Engine::op_locks`, with the identity of each mutex for its weak reference. -/
  opLocks : List (LockKey × Nat)
  nextLock : Nat
  isLocked : Nat → Bool
  sessionOpen : Bool
  /-- `shutdown_token.is_cancelled()`. -/
  isCancelled : Bool
  torrents : Uuid → Stage
  /-- Operations libtorrent accepted and has not answered, oldest first. -/
  outstanding : List Nat
  /-- Posted alerts, and the processed ones the pump has not handled. -/
  alerts : List Alert
  batch : List Alert
  events : List Event

namespace State

def start : State where
  calls := []
  opLocks := []
  nextLock := 0
  isLocked := fun _ => false
  sessionOpen := true
  isCancelled := false
  torrents := fun _ => .absent
  outstanding := []
  alerts := []
  batch := []
  events := []

def key (s : State) (c : Nat) : Option LockKey := s.calls[c]?.map Call.key

/-- The operation of call `c` was accepted and its reply is not published. -/
def unanswered (s : State) (c : Nat) : Bool :=
  s.outstanding.contains c || (s.alerts ++ s.batch).any (·.answers == some c)

def hasHandle (s : State) (torrent : Uuid) : Bool := (s.torrents torrent).hasHandle

def goto (s : State) (c : Nat) (call : Call) (pc : CallPc) : State :=
  { s with calls := s.calls.set c { call with pc } }

/-- The end of a task that holds a guard: dropping it unlocks the mutex. -/
def finish (s : State) (c : Nat) (call : Call) (lock : Nat) (outcome : Outcome) : State :=
  { s with isLocked := Function.update s.isLocked lock false }.goto c call (.done outcome)

/-- `Weak::strong_count` is not zero. -/
def strong (s : State) (lock : Nat) : Bool :=
  s.calls.any fun call => call.pc.lock == some lock

/-- `Engine::op_lock`. -/
def opLock (s : State) (key : LockKey) : State × Nat :=
  let locks := s.opLocks.filter fun entry => s.strong entry.2
  match locks.lookup key with
  | some lock => ({ s with opLocks := locks }, lock)
  | none =>
    ({ s with opLocks := (key, s.nextLock) :: locks, nextLock := s.nextLock + 1 }, s.nextLock)

/-- The body of the `request_serialized` loop, for the event at the cursor. -/
def recvReply (s : State) (c : Nat) (call : Call) (lock cursor : Nat) (event : Event) : State :=
  match call.op.matcher call.torrent event with
  | some result => s.finish c call lock (.reply event.answers result)
  | none => s.goto c call (.waiting lock (cursor + 1))

/-- The body of the `drain` loop. -/
def recvDrain (s : State) (c : Nat) (call : Call) (lock cursor : Nat) (event : Event) : State :=
  if (call.op.matcher call.torrent event).isSome then s.finish c call lock .timeout
  -- a removed torrent's operation may never answer
  else if event.torrent = some call.torrent ∧ event.kind = .torrentRemoved then
    s.finish c call lock .timeout
  else s.goto c call (.draining lock (cursor + 1))

/-- The next call on a shared component of call `c` or its drainer. -/
def next (s : State) (c : Nat) (call : Call) : Option State :=
  match call.pc with
  | .opLock =>
    let (s, lock) := s.opLock call.key
    some (s.goto c call (.lockOwned lock))
  | .lockOwned lock =>
    if s.isLocked lock then none
    else some
      ({ s with isLocked := Function.update s.isLocked lock true }.goto c call (.locked lock))
  | .locked lock =>
    if !s.sessionOpen then some (s.finish c call lock .shuttingDown)
    else if !s.hasHandle call.torrent then some (s.finish c call lock .notFound)
    else some (s.goto c call (.found lock))
  | .found lock =>
    if s.isCancelled then some (s.finish c call lock .shuttingDown)
    else some (s.goto c call (.running lock))
  | .running lock => some (s.goto c call (.subscribed lock s.events.length))
  | .subscribed lock cursor =>
    some ({ s with outstanding := s.outstanding ++ [c] }.goto c call (.waiting lock cursor))
  | .waiting lock cursor => s.events[cursor]?.map (s.recvReply c call lock cursor)
  | .draining lock cursor => s.events[cursor]?.map (s.recvDrain c call lock cursor)
  | .done _ => none

/-- The post of a rename is refused before it reaches libtorrent. -/
def refuse (s : State) (c : Nat) (call : Call) : Option State :=
  match call.op, call.pc with
  | .renameFile _ _, .subscribed lock _ => some (s.finish c call lock .invalid)
  | _, _ => none

/-- The torrent is gone, and libtorrent ignores the operation. -/
def ignore (s : State) (c : Nat) (call : Call) : Option State :=
  match call.pc with
  | .subscribed lock cursor =>
    if s.torrents call.torrent = .registered then none
    else some (s.goto c call (.waiting lock cursor))
  | _ => none

/-- The deadline elapses first. -/
def timeout (s : State) (c : Nat) (call : Call) : Option State :=
  match call.pc with
  | .waiting lock cursor => some (s.goto c call (.draining lock cursor))
  | _ => none

/-- A wait takes the `shutdown.cancelled()` arm. -/
def cancelled (s : State) (c : Nat) (call : Call) : Option State :=
  if s.isCancelled then
    match call.pc with
    | .waiting lock _ => some (s.finish c call lock .shuttingDown)
    | .draining lock _ => some (s.finish c call lock .timeout)
    | _ => none
  else none

/-- The caller drops the future, at one of its awaits or before its first poll. -/
def drop (s : State) (c : Nat) (call : Call) : Option State :=
  match call.pc with
  | .opLock | .lockOwned _ => some (s.goto c call (.done .dropped))
  | .waiting lock _ => some (s.finish c call lock .dropped)
  | _ => none

/-- libtorrent answers the operation of call `c`. -/
def answer (s : State) (c : Nat) (call : Call) (result : Reply) : Option State :=
  -- no older operation of the torrent and class is left
  if s.outstanding.find? (fun older => s.key older == some call.key) = some c then
    some
      { s with
        outstanding := s.outstanding.erase c
        alerts := s.alerts ++ [.reply c (call.op.answer result)] }
  else none

/-- An alert passes the bindings' `Registry::process`. -/
def process (s : State) : Option State :=
  match s.alerts with
  | [] => none
  | alert :: rest =>
    let s := { s with alerts := rest, batch := s.batch ++ [alert] }
    match alert with
    | .torrentRemoved torrent =>
      some { s with torrents := Function.update s.torrents torrent .reclaimed }
    | _ => some s

/-- `torrent_of`: once the torrent is removed, only while its handle still locks. -/
def torrentOf (s : State) (torrent : Uuid) (locks : Bool) : Option Uuid :=
  match s.torrents torrent with
  | .registered => some torrent
  | .removed | .reclaimed => if locks then some torrent else none
  | .absent | .unregistered => none

/-- `handle_alert` publishes. -/
def handle (s : State) (locks : Bool) : Option State :=
  match s.batch with
  | [] => none
  | alert :: rest =>
    let s := { s with batch := rest }
    match alert with
    | .reply c kind =>
      let torrent := (s.calls[c]?.map Call.torrent).bind (s.torrentOf · locks)
      some { s with events := s.events ++ [⟨torrent, kind, some c⟩] }
    | .torrentRemoved torrent =>
      some
        { s with
          torrents := Function.update s.torrents torrent .unregistered
          events := s.events ++ [⟨some torrent, .torrentRemoved, none⟩] }
    | .unrelated => some { s with events := s.events ++ [⟨none, .unrelated, none⟩] }

end State

inductive Action where
  /-- A caller enters `move_storage` or `rename_file`. -/
  | call (torrent : Uuid) (op : Operation)
  | next (c : Nat)
  | refuse (c : Nat)
  | ignore (c : Nat)
  | timeout (c : Nat)
  | cancelled (c : Nat)
  | drop (c : Nat)
  | answer (c : Nat) (result : Reply)
  /-- An operation of a removed torrent is never answered. -/
  | lose (c : Nat)
  | add (torrent : Uuid)
  | remove (torrent : Uuid)
  | post
  | process
  | handle (locks : Bool)
  /-- `shutdown_with` cancels the token, and then takes the session. -/
  | cancel
  | close
deriving DecidableEq, Repr

namespace State

def step (s : State) : Action → Option State
  | .call torrent op => some { s with calls := s.calls ++ [⟨torrent, op, .opLock⟩] }
  | .next c => s.calls[c]?.bind (s.next c)
  | .refuse c => s.calls[c]?.bind (s.refuse c)
  | .ignore c => s.calls[c]?.bind (s.ignore c)
  | .timeout c => s.calls[c]?.bind (s.timeout c)
  | .cancelled c => s.calls[c]?.bind (s.cancelled c)
  | .drop c => s.calls[c]?.bind (s.drop c)
  | .answer c result => s.calls[c]?.bind fun call => s.answer c call result
  | .lose c => s.calls[c]?.bind fun call =>
    if s.torrents call.torrent = .registered then none
    else some { s with outstanding := s.outstanding.erase c }
  | .add torrent =>
    if s.torrents torrent = .absent then
      some { s with torrents := Function.update s.torrents torrent .registered }
    else none
  | .remove torrent =>
    if s.torrents torrent = .registered then
      some
        { s with
          torrents := Function.update s.torrents torrent .removed
          alerts := s.alerts ++ [.torrentRemoved torrent] }
    else none
  | .post => some { s with alerts := s.alerts ++ [.unrelated] }
  | .process => s.process
  | .handle locks => s.handle locks
  | .cancel => some { s with isCancelled := true }
  | .close => if s.isCancelled then some { s with sessionOpen := false } else none

end State

abbrev SerializedRun (ok : State → Action → Prop) : State → Prop := Run State.step ok .start

end Rsbtd.Correlate
