import Rsbtd.Engine.State
import Rsbtd.Transition.Runs

/-!
# The session state

`apply_settings`, `set_ip_filter` and `checkpoint` run under
`session_state_lock`: mutate the session, snapshot it, queue the snapshot for
the persister and wait for its acknowledgement, and undo the mutation when any
of that fails.  A checkpoint has a deadline; when it elapses the lock is
released and a queued snapshot stays queued.

`Daemon` are the pinned values and what the repository calls of libtorrent's
session; `Lawful` is what libtorrent documents of it.  Histories that no task reads:
`State.acquired`, `State.written` and the images of `CallPc`.
-/

namespace Rsbtd.SessionState

open Transition (Run)

/-- The settings, of which the daemon owns two. -/
inductive Setting (κ : Type) where
  | alertMask
  | alertQueueSize
  | other (key : κ)
deriving DecidableEq, Repr

/-- The effective settings: every setting is present. -/
abbrev Settings (κ ν : Type) := Setting κ → ν

abbrev SettingsPack (κ ν : Type) := Setting κ → Option ν

/-- What the session state keeps of the live session, but for the DHT nodes. -/
structure Image (κ ν φ : Type) where
  settings : Settings κ ν
  filter : φ

structure Daemon (κ ν φ δ β : Type) where
  /-- `ALERT_MASK` and `ALERT_QUEUE_SIZE`. -/
  alertMask : ν
  alertQueueSize : ν
  /-- `session_handle::apply_settings`. -/
  applySettings : SettingsPack κ ν → Settings κ ν → Settings κ ν
  /-- `Session::save_state` and `SessionParams::load_state`. -/
  saveState : Settings κ ν → φ → δ → β
  loadState : β → Option (Settings κ ν × φ)

variable {κ ν φ δ β : Type}

structure Daemon.Lawful (d : Daemon κ ν φ δ β) : Prop where
  /-- The settings that the pack leaves out keep their values. -/
  overlay : ∀ pack settings key, d.applySettings pack settings key = (pack key).getD (settings key)
  loads : ∀ settings filter dht, d.loadState (d.saveState settings filter dht) =
    some (settings, filter)

/-- `Session::apply_settings` and `Session::set_ip_filter`. -/
inductive Mutation (κ ν φ : Type) where
  | applySettings (pack : SettingsPack κ ν)
  | setIpFilter (filter : φ)

namespace Mutation

def run (d : Daemon κ ν φ δ β) : Mutation κ ν φ → Image κ ν φ → Image κ ν φ
  | applySettings pack, image => { image with settings := d.applySettings pack image.settings }
  | setIpFilter filter, image => { image with filter }

/-- The call that rolls the mutation back, from what was read before it. -/
def undo : Mutation κ ν φ → Image κ ν φ → Mutation κ ν φ
  | applySettings _, previous => .applySettings fun key => some (previous.settings key)
  | setIpFilter _, previous => .setIpFilter previous.filter

end Mutation

inductive Request (κ ν φ : Type) where
  | applySettings (pack : SettingsPack κ ν)
  | setIpFilter (filter : φ)
  | checkpoint

/-- The start of `Engine::apply_settings`: packs touching the alert settings are
overridden. -/
def Daemon.pin (d : Daemon κ ν φ δ β) (pack : SettingsPack κ ν) : SettingsPack κ ν
  | .alertMask => (pack .alertMask).map fun _ => d.alertMask
  | .alertQueueSize => (pack .alertQueueSize).map fun _ => d.alertQueueSize
  | .other key => pack (.other key)

def Request.mutation (d : Daemon κ ν φ δ β) : Request κ ν φ → Option (Mutation κ ν φ)
  | applySettings pack => some (.applySettings (d.pin pack))
  | setIpFilter filter => some (.setIpFilter filter)
  | checkpoint => none

/-- `undo` is the prepared rollback; a checkpoint has none. -/
inductive CallPc (κ ν φ β : Type) where
  | lock
  /-- The lock is held: `self.session()`, which a checkpoint has called before, and
  what a rollback needs. -/
  | session
  | mutate (mutation : Mutation κ ν φ) (undo : Mutation κ ν φ)
  | save (undo : Option (Mutation κ ν φ))
  | enqueue (undo : Option (Mutation κ ν φ)) (bytes : β)
  | ack (undo : Option (Mutation κ ν φ))
  | rollback (undo : Mutation κ ν φ)
  /-- Returned, with the live images when the lock was taken and at the end. -/
  | done (ok : Bool) (before after : Image κ ν φ)

namespace CallPc

def isOk : CallPc κ ν φ β → Bool
  | done ok _ _ => ok
  | _ => false

end CallPc

structure Call (κ ν φ β : Type) where
  request : Request κ ν φ
  pc : CallPc κ ν φ β

structure State (κ ν φ δ β : Type) where
  calls : List (Call κ ν φ β)
  /-- The holder of `session_state_lock`, and the live image when it took it. -/
  holder : Option Nat
  entered : Image κ ν φ
  image : Image κ ν φ
  dht : δ
  /-- `session.state`. -/
  disk : Option β
  /-- Queued `WriteSessionState` operations, and the one being executed. -/
  queue : List (β × Nat)
  writing : Option (β × Nat)
  acks : Nat → Option Bool
  /-- The calls that took the lock, oldest first. -/
  acquired : List Nat
  /-- A write has succeeded. -/
  written : Bool

/-- The end of `Engine::start`: the restored settings are pinned again. -/
def Daemon.fix [DecidableEq ν] (d : Daemon κ ν φ δ β) (effective : Settings κ ν) :
    SettingsPack κ ν
  | .alertMask => if effective .alertMask ≠ d.alertMask then some d.alertMask else none
  | .alertQueueSize =>
    if effective .alertQueueSize ≠ d.alertQueueSize then some d.alertQueueSize else none
  | .other _ => none

/-- The live image of a started engine. -/
def Daemon.initial [DecidableEq ν] (d : Daemon κ ν φ δ β) (loaded : Image κ ν φ) : Image κ ν φ :=
  (Mutation.applySettings (d.fix loaded.settings)).run d loaded

namespace State

def start (image : Image κ ν φ) (dht : δ) (disk : Option β) : State κ ν φ δ β where
  calls := []
  holder := none
  entered := image
  image
  dht
  disk
  queue := []
  writing := none
  acks := fun _ => none
  acquired := []
  written := false

variable (s : State κ ν φ δ β)

/-- The writes the persister has not finished. -/
def pending : List (β × Nat) := s.writing.toList ++ s.queue

def goto (c : Nat) (call : Call κ ν φ β) (pc : CallPc κ ν φ β) : State κ ν φ δ β :=
  { s with calls := s.calls.set c { call with pc } }

/-- The call returns and drops the lock guard. -/
def finish (c : Nat) (call : Call κ ν φ β) (ok : Bool) : State κ ν φ δ β :=
  { s with holder := none }.goto c call (.done ok s.entered s.image)

/-- The error path behind a mutation: roll back, and then return. -/
def failed (c : Nat) (call : Call κ ν φ β) : Option (Mutation κ ν φ) → State κ ν φ δ β
  | some undo => s.goto c call (.rollback undo)
  | none => s.finish c call false

/-- The next call on a shared component of call `c`; `ok` is its outcome where
it can fail. -/
def next (d : Daemon κ ν φ δ β) (c : Nat) (call : Call κ ν φ β) (ok : Bool) :
    Option (State κ ν φ δ β) :=
  match call.pc with
  | .lock =>
    if s.holder = none then
      some
        ({ s with
          holder := some c, entered := s.image
          acquired := s.acquired ++ [c] }.goto c call .session)
    else none
  | .session =>
    match ok, call.request.mutation d with
    | false, _ => some (s.finish c call false)
    | true, some mutation => some (s.goto c call (.mutate mutation (mutation.undo s.image)))
    | true, none => some (s.goto c call (.save none))
  | .mutate mutation undo =>
    if ok then some ({ s with image := mutation.run d s.image }.goto c call (.save (some undo)))
    else some (s.finish c call false)
  | .save undo =>
    if ok then
      some (s.goto c call (.enqueue undo (d.saveState s.image.settings s.image.filter s.dht)))
    else some (s.failed c call undo)
  | .enqueue undo bytes =>
    -- a closed queue refuses the operation, a full one makes the call wait
    if !ok then some (s.failed c call undo)
    else if s.queue.length < persistQueueCapacity then
      some ({ s with queue := s.queue ++ [(bytes, c)] }.goto c call (.ack undo))
    else none
  | .ack undo =>
    match s.acks c with
    | none => none
    | some true => some (s.finish c call true)
    | some false => some (s.failed c call undo)
  | .rollback undo => some ({ s with image := undo.run d s.image }.finish c call false)
  | .done _ _ _ => none

/-- A checkpoint's deadline elapses at one of its awaits. -/
def expire (c : Nat) (call : Call κ ν φ β) : Option (State κ ν φ δ β) :=
  match call.request, call.pc with
  | .checkpoint, .lock => some (s.goto c call (.done false s.image s.image))
  | .checkpoint, .enqueue _ _ | .checkpoint, .ack _ => some (s.finish c call false)
  | _, _ => none

/-- The persister receives the next operation. -/
def take : Option (State κ ν φ δ β) :=
  match s.writing, s.queue with
  | none, next :: rest => some { s with writing := some next, queue := rest }
  | _, _ => none

/-- `write_atomic` returns and the result is acknowledged.  A write that fails,
or is dropped unprocessed, leaves the file as it was. -/
def complete (ok : Bool) : Option (State κ ν φ δ β) :=
  s.writing.map fun write =>
    { s with
      writing := none
      disk := if ok then some write.1 else s.disk
      written := s.written || ok
      acks := Function.update s.acks write.2 (some ok) }

end State

inductive Action (κ ν φ δ : Type) where
  | call (request : Request κ ν φ)
  | next (c : Nat) (ok : Bool)
  | expire (c : Nat)
  | take
  | complete (ok : Bool)
  /-- The DHT nodes change. -/
  | dht (nodes : δ)

namespace State

def step (d : Daemon κ ν φ δ β) (s : State κ ν φ δ β) : Action κ ν φ δ → Option (State κ ν φ δ β)
  | .call request => some { s with calls := s.calls ++ [⟨request, .lock⟩] }
  | .next c ok => s.calls[c]?.bind fun call => s.next d c call ok
  | .expire c => s.calls[c]?.bind fun call => s.expire c call
  | .take => s.take
  | .complete ok => s.complete ok
  | .dht nodes => some { s with dht := nodes }

/-- The mutations of the calls that returned `Ok`, in the order they took the lock. -/
def committed (d : Daemon κ ν φ δ β) (s : State κ ν φ δ β) : List (Mutation κ ν φ) :=
  s.acquired.filterMap fun c => s.calls[c]?.bind fun call =>
    if call.pc.isOk then call.request.mutation d else none

end State

/-- Apply mutations one after the other. -/
def replay (d : Daemon κ ν φ δ β) (mutations : List (Mutation κ ν φ)) (image : Image κ ν φ) :
    Image κ ν φ :=
  mutations.foldl (fun image mutation => mutation.run d image) image

end Rsbtd.SessionState
