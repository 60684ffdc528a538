import Rsbtd.WebUi.Connection

/-!
# Live data

`live.ts` reacts to the connection: it takes a full snapshot of the torrents in every
new generation and polls for one while the connection is degraded.  Updates that come
in while a snapshot is in flight wait in a queue, which a resync of the same generation
takes over from the one it supersedes.

A step is one task of the event loop.  An aborted request may have its response
already, so every request in flight may settle either way.  Updates are handed over and
subscriptions retried at any time, also by streams that were disposed.

`log` is what happened to the torrent store.  The numbers of the updates, `handed` and
`abandoned` are histories.
-/

namespace Rsbtd.WebUi

/-- A resync, by the number of its call, and its queue among all queues. -/
structure InflightResync where
  id : Nat
  generation : Nat
  queue : Nat
deriving DecidableEq, Repr

/-- A poll that awaits its resync. -/
structure Tick where
  chain : Nat
  resync : InflightResync
deriving DecidableEq, Repr

structure PollTimer where
  id : Nat
  chain : Nat
deriving DecidableEq, Repr

/-- `update` is what `applyLive` is handed, `rows` a snapshot. -/
inductive Change (υ ρ : Type) where
  | snapshot (resync : InflightResync) (rows : ρ)
  | update (number : Nat) (update : υ) (drained : Option InflightResync)

structure HandOver (υ : Type) where
  update : υ
  /-- The resync in flight. -/
  during : Option InflightResync

structure Live (υ ρ : Type) where
  connection : Controller
  synced : Bool
  inflight : Option InflightResync
  /-- The resyncs whose request has not settled. -/
  pending : List InflightResync
  calls : Nat
  queues : List (List (Nat × υ))
  /-- The generations captured by the timers of failed resyncs. -/
  retries : List Nat
  polling : Bool
  pollChain : Nat
  pollTimer : Option Nat
  timers : List PollTimer
  timersSet : Nat
  ticks : List Tick
  log : List (Change υ ρ)
  handed : List (HandOver υ)
  abandoned : List (Nat × InflightResync)

inductive LiveAction (υ ρ : Type) where
  | connection (action : Action)
  /-- `onRetry` of the event subscription. -/
  | onRetry
  | handOver (update : υ)
  | settle (resync : InflightResync) (outcome : Option ρ)
  /-- The timer of a failed resync. -/
  | retry (generation : Nat)
  | poll (timer : PollTimer)
  /-- The continuation of a poll. -/
  | resume (tick : Tick)

namespace Live

variable {υ ρ : Type}

/-- The listener of `startLive` is subscribed. -/
def init : Live υ ρ where
  connection := .init
  synced := false
  inflight := none
  pending := []
  calls := 0
  queues := []
  retries := []
  polling := false
  pollChain := 0
  pollTimer := none
  timers := []
  timersSet := 0
  ticks := []
  log := []
  handed := []
  abandoned := []

def generation (l : Live υ ρ) : Nat := l.connection.snap.generation

/-- The queue of the resync in flight. -/
def queued (l : Live υ ρ) : List (Nat × υ) :=
  match l.inflight with
  | none => []
  | some current => l.queues[current.queue]?.getD []

def applyLive (l : Live υ ρ) (update : υ) : Live υ ρ :=
  let number := l.handed.length
  let l : Live υ ρ := { l with handed := l.handed ++ [⟨update, l.inflight⟩] }
  match l.inflight with
  | some inflight =>
    { l with queues := l.queues.modify inflight.queue (· ++ [(number, update)]) }
  | none => { l with log := l.log ++ [.update number update none] }

/-- `resync` up to its request. -/
def resync (l : Live υ ρ) : Live υ ρ :=
  -- the resync in flight is superseded; in one generation its queue is taken over
  let shared := l.inflight.filter (·.generation = l.generation)
  let current : InflightResync :=
    ⟨l.calls, l.generation, (shared.map (·.queue)).getD l.queues.length⟩
  { l with
    calls := l.calls + 1
    inflight := some current
    pending := l.pending ++ [current]
    queues := if shared.isSome then l.queues else l.queues ++ [[]]
    abandoned :=
      if shared.isSome then l.abandoned else l.abandoned ++ l.queued.map fun q => (q.1, current) }

/-- What follows a successful request. -/
def landed (l : Live υ ρ) (current : InflightResync) (rows : ρ) : Live υ ρ :=
  -- superseded, or of an old generation
  if l.inflight ≠ some current ∨ l.generation ≠ current.generation then l
  else { l with log := l.log ++ [.snapshot current rows], synced := true }

/-- What follows a failed request. -/
def failed (l : Live υ ρ) (current : InflightResync) : Live υ ρ :=
  if l.inflight = some current ∧ l.generation = current.generation then
    { l with retries := l.retries ++ [current.generation] }
  else l

/-- The `finally` block. -/
def finish (l : Live υ ρ) (current : InflightResync) : Live υ ρ :=
  if l.inflight = some current then
    { l with
      inflight := none
      log := l.log ++ l.queued.map fun q => .update q.1 q.2 (some current) }
  else l

/-- The continuation of `resync`. -/
def settle (l : Live υ ρ) (current : InflightResync) (outcome : Option ρ) : Live υ ρ :=
  let l : Live υ ρ := { l with pending := l.pending.erase current }
  match outcome with
  | some rows => (l.landed current rows).finish current
  | none => (l.failed current).finish current

/-- `tick` up to the resync it awaits. -/
def tick (l : Live υ ρ) (chain : Nat) : Live υ ρ :=
  let l := l.resync
  { l with ticks := l.ticks ++ l.inflight.toList.map (⟨chain, ·⟩) }

/-- The rest of `tick`. -/
def resumeTick (l : Live υ ρ) (tick : Tick) : Live υ ρ :=
  if l.polling = false ∨ tick.chain ≠ l.pollChain then { l with ticks := l.ticks.erase tick }
  else { l with
    ticks := l.ticks.erase tick
    timers := l.timers ++ [⟨l.timersSet, tick.chain⟩]
    pollTimer := some l.timersSet
    timersSet := l.timersSet + 1 }

def startPolling (l : Live υ ρ) : Live υ ρ :=
  if l.polling then l
  else { l with polling := true, pollChain := l.pollChain + 1 }.tick (l.pollChain + 1)

def stopPolling (l : Live υ ρ) : Live υ ρ :=
  let l : Live υ ρ := { l with polling := false }
  match l.pollTimer with
  | none => l
  | some id => { l with timers := l.timers.filter (·.id ≠ id), pollTimer := none }

/-- `onUp`; the streams it subscribes to hand over at any time. -/
def onUp (l : Live υ ρ) : Live υ ρ := { l with synced := false }.resync

/-- What the listener does in a new generation. -/
def renew (l : Live υ ρ) (prev : ConnectionSnapshot) : Live υ ρ :=
  if l.generation ≠ prev.generation ∧ l.connection.snap.state = .up then l.onUp
  else if l.generation ≠ prev.generation ∧ l.connection.snap.state = .degraded then
    { l with synced := false }
  else l

/-- The listener of `startLive`. -/
def react (l : Live υ ρ) (prev : ConnectionSnapshot) : Live υ ρ :=
  if l.connection.snap.state ≠ prev.state then
    if l.connection.snap.state = .degraded then (l.renew prev).startPolling
    else (l.renew prev).stopPolling
  else l.renew prev

def step (l : Live υ ρ) : LiveAction υ ρ → Option (Live υ ρ)
  | .connection action =>
    (l.connection.step action).map fun c => { l with connection := c }.react l.connection.snap
  | .onRetry => some l.resync
  | .handOver update => some (l.applyLive update)
  | .settle current outcome => if current ∈ l.pending then some (l.settle current outcome) else none
  | .retry generation =>
    if generation ∈ l.retries then
      let l : Live υ ρ := { l with retries := l.retries.erase generation }
      let snap := l.connection.snap
      -- the timer cannot be cleared, so it looks whether it is still wanted
      some (if snap.generation = generation ∧ snap.state = .up ∧ l.inflight = none then l.resync
        else l)
    else none
  | .poll timer =>
    if timer ∈ l.timers then some ({ l with timers := l.timers.erase timer }.tick timer.chain)
    else none
  | .resume tick =>
    if tick ∈ l.ticks ∧ tick.resync ∉ l.pending then some (l.resumeTick tick) else none

end Live

end Rsbtd.WebUi
