import Mathlib.Data.Finset.Basic
import Rsbtd.Engine.Session

/-!
# The state of the running engine

The engine's tasks share the session, the registry, the in-flight counter, the
dirty set, the event bus, the persist queue and the state directory.  Each task
is a program counter (`PumpPc`, `PersisterPc`, `AddPc`, `Task`) with the local
variables that are live there; one step of a task is one call on a shared
component.

Three fields are histories that no task reads: `Pump.handled`, `Engine.deleted`
and `Torrent.latest`.
-/

namespace Rsbtd

/-- `PERSIST_QUEUE_CAPACITY`. -/
def persistQueueCapacity : Nat := 1024

/-- One unit of work for the persister task.  `ack` names the call that waits
for the result; session-state bytes are of a type of their own. -/
inductive PersistOp (β : Type) where
  | writeResume (uuid : Uuid) (bytes : ResumeData) (ack : Option Nat)
  | deleteResume (uuid : Uuid)
  | writeSessionState (bytes : β) (ack : Option Nat)
deriving DecidableEq, Repr

/-- The operations of the resume pipeline, which never looks into a session state. -/
abbrev Op := PersistOp Unit

namespace PersistOp

def isWriteResume {β : Type} : PersistOp β → Bool
  | writeResume _ _ _ => true
  | _ => false

end PersistOp

inductive EventKind where
  | torrentAdded
  | torrentRemoved
  | torrentFinished
  | metadataReceived
  | storageMoved
  | resumeDataSaved
  | resumeDataFailed
deriving DecidableEq, Repr

structure Event where
  torrent : Option Uuid
  kind : EventKind
deriving DecidableEq, Repr

/-! ## `Inflight` -/

/-- The in-flight counter.  `Notify::notify_waiters` wakes exactly the waiters
created before it, so a waiter is the number of notifications it was created
after; `notifying` are the `dec` calls between their two halves. -/
structure Inflight where
  count : Nat
  notifying : Nat
  notifies : Nat
deriving DecidableEq, Repr

namespace Inflight

def inc (i : Inflight) : Inflight := { i with count := i.count + 1 }

/-- The `fetch_update` of `dec`; `none` is the fatal underflow. -/
def dec (i : Inflight) : Option Inflight :=
  if i.count = 0 then none
  else some
    { i with
      count := i.count - 1
      notifying := if i.count ≤ 1 then i.notifying + 1 else i.notifying }

/-- The `notify_waiters` of a `dec` that reached zero. -/
def notifyWaiters (i : Inflight) : Option Inflight :=
  if i.notifying = 0 then none
  else some { i with notifying := i.notifying - 1, notifies := i.notifies + 1 }

end Inflight

/-! ## Tasks -/

inductive PumpPc where
  | select
  /-- `next_batch` runs the bindings' `Registry::process` over the popped batch. -/
  | process (rest : List Alert)
  | dispatch
  | addTorrent (k : Nat)
  | addTorrentUpsert (k : Nat)
  | torrentRemoved (entry : TorrentEntry)
  /-- `torrent_of`: the handle's id, the registry, the client data. -/
  | torrentOf (alert : Alert)
  | torrentOfGet (alert : Alert) (id : TorrentId)
  | torrentOfData (alert : Alert)
  | metadataReceived (k : Nat)
  | metadataReceivedGet (id : TorrentId)
  | saveFind (uuid : Uuid) (bytes : ResumeData)
  | saveSerialize (uuid : Uuid) (bytes : ResumeData)
  /-- `inflight.dec()`, then the event, if any. -/
  | saveDrop (event : Option Event)
  | saveFailed (k : Nat)
  /-- `request_save`; `event` is published afterwards. -/
  | requestSave (uuid : Uuid) (event : Event)
  | requestFind (uuid : Uuid) (event : Event)
  | requestLookup (entry : TorrentEntry) (event : Event)
  | requestInc (k : Nat) (event : Event)
  | requestPost (k : Nat) (event : Event)
  | requestUndo (event : Event)
  | publish (event : Event)
  | send
  /-- The retry arm, over a snapshot of the dirty set. -/
  | retry
  | retrySnapshot
  | retryFind (uuids : List Uuid) (budget : Nat)
  | retryForget (uuid : Uuid) (uuids : List Uuid) (budget : Nat)
  | retryLookup (uuid : Uuid) (entry : TorrentEntry) (uuids : List Uuid) (budget : Nat)
  | retryInc (k : Nat) (uuid : Uuid) (uuids : List Uuid) (budget : Nat)
  | retryPost (k : Nat) (uuid : Uuid) (uuids : List Uuid) (budget : Nat)
  | retryUndo (uuid : Uuid) (uuids : List Uuid) (budget : Nat)

/-- The pump task. -/
structure Pump where
  pc : PumpPc
  /-- The alerts of the popped batch that are not handled yet. -/
  todo : List Alert
  /-- `BatchState::ops`, then what is left of it to send. -/
  ops : List Op
  /-- Every alert whose handling has begun, oldest first. -/
  handled : List Alert

inductive PersisterPc where
  | idle
  | execute (op : Op)
  | wrote (uuid : Uuid) (bytes : ResumeData) (ack : Option Nat) (ok : Bool)
  | marked (uuid : Uuid) (bytes : ResumeData) (ack : Option Nat) (ok : Bool)
  | published (ack : Option Nat) (ok : Bool)
  | released (ack : Option Nat) (ok : Bool)

/-- How an `Engine::add_torrent` call ended. -/
inductive AddResult where
  | ok
  /-- libtorrent refused the add. -/
  | refused
  /-- The torrent vanished before its token could be read. -/
  | vanished
  | notSerialized
  /-- The persist queue is closed. -/
  | shuttingDown
  | io
deriving DecidableEq, Repr

/-- An `Engine::add_torrent` call. -/
inductive AddPc where
  /-- Re-added by `restore`: no call. -/
  | restored
  | awaitAdd
  | readHandle
  | removeVanished
  | upsert
  | serialize (entry : TorrentEntry)
  | reserve (entry : TorrentEntry) (bytes : ResumeData)
  | enqueue (entry : TorrentEntry) (bytes : ResumeData)
  | send (entry : TorrentEntry) (bytes : ResumeData)
  | release (entry : TorrentEntry)
  | awaitAck (entry : TorrentEntry)
  | check (entry : TorrentEntry)
  | compensate (entry : TorrentEntry)
  | compensateSend (entry : TorrentEntry)
  /-- `unwind_failed_add`: the dirty set, the registry, the session. -/
  | unwind (entry : TorrentEntry) (result : AddResult)
  | unwindRegistry (entry : TorrentEntry) (result : AddResult)
  | unwindFind (entry : TorrentEntry) (result : AddResult)
  | unwindRemove (k : Nat) (result : AddResult)
  | done (result : AddResult)
  /-- The caller dropped the future. -/
  | dropped
deriving DecidableEq, Repr

inductive SaveResult where
  | ok
  | failed
  | notFound
  | timeout
  | shuttingDown
deriving DecidableEq, Repr

/-- The other calls and background tasks. -/
inductive Task where
  /-- `Engine::save_resume_data`, from the API's lookup of the uuid on. -/
  | saveFind (uuid : Uuid)
  | saveLookup (entry : TorrentEntry)
  | saveSubscribe (k : Nat)
  | saveInc (k : Nat) (cursor : Nat)
  | savePost (k : Nat) (cursor : Nat)
  | saveUndo
  /-- Awaiting the event: posted when the torrent's state was `posted`; `cursor`
  is the next event the subscription delivers. -/
  | saveWait (k : Nat) (posted : Nat) (cursor : Nat)
  | saveDone (result : SaveResult)
  /-- `Engine::remove_torrent`. -/
  | removeFind (uuid : Uuid)
  | removeLookup (entry : TorrentEntry)
  | removePost (k : Nat)
  | removeDone
  /-- The loop of `run_sweep`'s tick and, when `final`, of `checkpoint`. -/
  | flushList (final : Bool)
  | flushNext (final : Bool) (todo : List TorrentEntry)
  | flushNeed (final : Bool) (k : Nat) (uuid : Uuid) (todo : List TorrentEntry)
  | flushInc (final : Bool) (k : Nat) (todo : List TorrentEntry)
  | flushPost (final : Bool) (k : Nat) (todo : List TorrentEntry)
  | flushUndo (final : Bool) (todo : List TorrentEntry)
  /-- `Inflight::wait_zero`, called by `checkpoint`. -/
  | waitCreate
  | waitLoad (since : Nat)
  | waitPark (since : Nat)
  /-- Past `wait_zero`, either by its return or by the deadline. -/
  | waitReturned
  | waitTimedOut
  | sweepDone
  | dropped
deriving DecidableEq, Repr

/-- How far `shutdown_with` got. -/
inductive Shutdown where
  | running
  /-- `quiesce` is set and the shutdown token is cancelled. -/
  | quiescing
  /-- `Engine::session` is `None`. -/
  | sessionTaken
  /-- `Engine::persist_tx` is `None`. -/
  | persistTaken
  | closed
deriving DecidableEq, Repr

namespace Shutdown

def quiesce : Shutdown → Bool
  | running => false
  | _ => true

def sessionOpen : Shutdown → Bool
  | running | quiescing => true
  | _ => false

def persistOpen : Shutdown → Bool
  | running | quiescing | sessionTaken => true
  | _ => false

end Shutdown

structure Engine where
  session : Session
  /-- The `Engine::add_torrent` call of each torrent. -/
  adds : List AddPc
  /-- What the persister sent on the ack channels of the adds. -/
  acks : Nat → Option Bool
  tasks : List Task
  registry : Registry
  inflight : Inflight
  dirty : Finset Uuid
  events : List Event
  queue : List Op
  persister : PersisterPc
  /-- The content of `<uuid>.resume`. -/
  disk : Uuid → Option ResumeData
  /-- The uuids whose resume file a `DeleteResume` has removed. -/
  deleted : Finset Uuid
  pump : Pump
  shutdown : Shutdown
  /-- `fatal` was called: the process is gone. -/
  fatal : Bool

namespace Engine

/-- The registry after `restore` registered the first `n` torrents. -/
def restoredRegistry : Nat → Registry
  | 0 => Registry.new
  | n + 1 => ((restoredRegistry n).upsert (entryOf n).id (entryOf n).token n).1

/-- The engine as `Engine::start` leaves it, with `restored` torrents re-added
from their resume files. -/
def start (restored : Nat) : Engine where
  session := .start restored
  adds := List.replicate restored .restored
  acks _ := none
  tasks := []
  registry := restoredRegistry restored
  inflight := ⟨0, 0, 0⟩
  dirty := ∅
  events := []
  queue := []
  persister := .idle
  disk u := if u < restored then some initialRecord else none
  deleted := ∅
  pump := ⟨.select, [], [], (List.range restored).map (.addTorrent · true)⟩
  shutdown := .running
  fatal := false

/-- `Inflight::dec`, as a step of the engine. -/
def dec (s : Engine) : Engine :=
  match s.inflight.dec with
  | some inflight => { s with inflight }
  | none => { s with fatal := true }

/-- `events.send`. -/
def publish (s : Engine) (event : Event) : Engine := { s with events := s.events ++ [event] }

/-- The pump's next program counter. -/
def goto (s : Engine) (pc : PumpPc) : Engine := { s with pump := { s.pump with pc } }

/-- The pump begins to handle `alert`, with `rest` left of its batch. -/
def take (s : Engine) (alert : Alert) (rest : List Alert) : Engine :=
  { s with pump := { s.pump with todo := rest, handled := s.pump.handled ++ [alert] } }

/-- `BatchState::ops.push`, on the way to `pc`. -/
def push (s : Engine) (op : Op) (pc : PumpPc) : Engine :=
  { s with pump := { s.pump with pc, ops := s.pump.ops ++ [op] } }

/-- `persist.send` of the pump; `rest` is left to send. -/
def sendOp (s : Engine) (op : Op) (rest : List Op) : Engine :=
  { s with queue := s.queue ++ [op], pump := { s.pump with ops := rest } }

/-- `task.abort()`: the operations that the pump has not sent are dropped with its future. -/
def abortPump (s : Engine) : Engine :=
  { s with pump := { s.pump with pc := .select, ops := [] }, shutdown := .persistTaken }

/-- The next program counter of the call that adds torrent `k`. -/
def setAdd (s : Engine) (k : Nat) (pc : AddPc) : Engine := { s with adds := s.adds.set k pc }

/-- `persist_tx.send` of an API call. -/
def enqueue (s : Engine) (op : Op) : Engine := { s with queue := s.queue ++ [op] }

def setTask (s : Engine) (i : Nat) (task : Task) : Engine :=
  { s with tasks := s.tasks.set i task }

/-- `dec` does not touch `notifies`, and leaves a positive counter or a
notification that is still to come. -/
theorem dec_keeps (s : Engine) :
    s.dec.inflight.notifies = s.inflight.notifies ∧
      (0 < s.inflight.count ∨ 0 < s.inflight.notifying →
        0 < s.dec.inflight.count ∨ 0 < s.dec.inflight.notifying) := by
  simp only [dec, Inflight.dec]
  by_cases zero : s.inflight.count = 0
  · simp [zero]
  · simp only [if_neg zero]
    refine ⟨trivial, fun _ => ?_⟩
    split <;> omega

attribute [simp] publish goto take push sendOp abortPump enqueue setAdd setTask

/-- A `dec` that finds a token. -/
theorem dec_inflight {s : Engine} (token : 0 < s.inflight.count) :
    s.dec.fatal = s.fatal ∧ s.dec.inflight.count + 1 = s.inflight.count := by
  have found : s.inflight.count ≠ 0 := by omega
  simp only [dec, Inflight.dec, if_neg found]
  exact ⟨trivial, by omega⟩

@[simp] theorem dec_session (s : Engine) : s.dec.session = s.session := by rw [dec]; split <;> rfl
@[simp] theorem dec_adds (s : Engine) : s.dec.adds = s.adds := by rw [dec]; split <;> rfl
@[simp] theorem dec_acks (s : Engine) : s.dec.acks = s.acks := by rw [dec]; split <;> rfl
@[simp] theorem dec_tasks (s : Engine) : s.dec.tasks = s.tasks := by rw [dec]; split <;> rfl
@[simp] theorem dec_registry (s : Engine) : s.dec.registry = s.registry := by rw [dec]; split <;> rfl
@[simp] theorem dec_dirty (s : Engine) : s.dec.dirty = s.dirty := by rw [dec]; split <;> rfl
@[simp] theorem dec_events (s : Engine) : s.dec.events = s.events := by rw [dec]; split <;> rfl
@[simp] theorem dec_queue (s : Engine) : s.dec.queue = s.queue := by rw [dec]; split <;> rfl
@[simp] theorem dec_persister (s : Engine) : s.dec.persister = s.persister := by rw [dec]; split <;> rfl
@[simp] theorem dec_disk (s : Engine) : s.dec.disk = s.disk := by rw [dec]; split <;> rfl
@[simp] theorem dec_deleted (s : Engine) : s.dec.deleted = s.deleted := by rw [dec]; split <;> rfl
@[simp] theorem dec_pump (s : Engine) : s.dec.pump = s.pump := by rw [dec]; split <;> rfl
@[simp] theorem dec_shutdown (s : Engine) : s.dec.shutdown = s.shutdown := by rw [dec]; split <;> rfl

end Engine

end Rsbtd
