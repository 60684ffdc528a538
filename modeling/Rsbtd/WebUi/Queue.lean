import Rsbtd.Sequence.Moves

/-!
# Queue commands of the web UI

`torrentCommands.queue` moves a selection one torrent at a time, in the order of the
positions the torrent store holds; a move that fails is collected and the next one
is sent.  The daemon moves a torrent of the session within the download queue; one
that is not queued stays out of it.
-/

namespace Rsbtd.WebUi

open Sequence

structure QueuedRow where
  /-- None for a torrent outside the queue. -/
  queuePosition : Option Nat

/-- The torrent store's `byUuid`. -/
abbrev QueuedRows (Uuid : Type) := Uuid → Option QueuedRow

inductive QueueOp
  | top
  | up
  | down
  | bottom
deriving DecidableEq, Repr

/-- The torrents of the session and the download queue. -/
structure DownloadQueue (Uuid : Type) where
  torrents : List Uuid
  queue : List Uuid
  unique : queue.Nodup
  queued : ∀ uuid ∈ queue, uuid ∈ torrents

/-- `bulk`'s result. -/
structure BulkResult (Uuid : Type) where
  ok : Nat
  errors : List (Uuid × String)

/-- The count and the first message of `bulkToast`. -/
structure BulkToast where
  count : Nat
  message : String
deriving DecidableEq, Repr

variable {Uuid State : Type}

/-! ## The daemon -/

namespace DownloadQueue

variable [DecidableEq Uuid]

/-- `lookup`, then the handle's move. -/
def move (move : List Uuid → List Uuid) (perm : ∀ queue, (move queue).Perm queue) (uuid : Uuid)
    (d : DownloadQueue Uuid) : Except String (DownloadQueue Uuid) :=
  if uuid ∈ d.torrents then
    .ok {
      torrents := d.torrents
      queue := move d.queue
      unique := (perm d.queue).nodup_iff.mpr d.unique
      queued := fun uuid listed => d.queued uuid ((perm d.queue).mem_iff.mp listed) }
  else .error "torrent not found"

def queueTop (uuid : Uuid) : DownloadQueue Uuid → Except String (DownloadQueue Uuid) :=
  move (top uuid) (top_perm uuid) uuid

def queueUp (uuid : Uuid) : DownloadQueue Uuid → Except String (DownloadQueue Uuid) :=
  move (up uuid) (up_perm uuid) uuid

def queueDown (uuid : Uuid) : DownloadQueue Uuid → Except String (DownloadQueue Uuid) :=
  move (down uuid) (down_perm uuid) uuid

def queueBottom (uuid : Uuid) : DownloadQueue Uuid → Except String (DownloadQueue Uuid) :=
  move (bottom uuid) (bottom_perm uuid) uuid

end DownloadQueue

/-! ## The commands -/

/-- One mutation after another; a failure does not keep the rest from being sent. -/
def bulk (fn : Uuid → State → Except String State) :
    List Uuid → BulkResult Uuid → State → BulkResult Uuid × State
  | [], result, state => (result, state)
  | uuid :: uuids, result, state =>
    match fn uuid state with
    | .ok state => bulk fn uuids { result with ok := result.ok + 1 } state
    | .error message =>
      bulk fn uuids { result with errors := result.errors ++ [(uuid, message)] } state

def bulkToast (uuids : List Uuid) (fn : Uuid → State → Except String State) (state : State) :
    Option BulkToast × State :=
  let (result, state) := bulk fn uuids ⟨0, []⟩ state
  match result.errors with
  | [] => (none, state)
  | (_, message) :: _ => (some ⟨result.errors.length, message⟩, state)

namespace torrentCommands

def MAX_SAFE_INTEGER : Nat := 9007199254740991

def position (store : QueuedRows Uuid) (uuid : Uuid) : Nat :=
  ((store uuid).bind (·.queuePosition)).getD MAX_SAFE_INTEGER

/-- Ascending for up and bottom, descending for down and top. -/
def ordered (store : QueuedRows Uuid) (uuids : List Uuid) (op : QueueOp) : List Uuid :=
  uuids.mergeSort fun a b =>
    if op = .up ∨ op = .bottom then position store a ≤ position store b
    else position store b ≤ position store a

def queueMutation [DecidableEq Uuid] (op : QueueOp) (uuid : Uuid) :
    DownloadQueue Uuid → Except String (DownloadQueue Uuid) :=
  match op with
  | .top => DownloadQueue.queueTop uuid
  | .up => DownloadQueue.queueUp uuid
  | .down => DownloadQueue.queueDown uuid
  | .bottom => DownloadQueue.queueBottom uuid

def queue [DecidableEq Uuid] (store : QueuedRows Uuid) (uuids : List Uuid) (op : QueueOp)
    (d : DownloadQueue Uuid) : Option BulkToast × DownloadQueue Uuid :=
  bulkToast (ordered store uuids op) (queueMutation op) d

end torrentCommands

end Rsbtd.WebUi
