import Rsbtd.Api.Events
import Rsbtd.Transition.Broadcast

/-!
# Subscription streams

`torrentEvents` and `torrentChanged` each read the engine's event bus in a loop.
Between any two steps of a loop events are published and torrents come and go; rows
are loaded one at a time, the entry first and then the torrent's status.

`poll` is the next step of a stream, `none` while it waits for the bus.
-/

namespace Rsbtd.Api

open Transition (Channel Received)

inductive EngineError where
  | shuttingDown
  | notFound
  | torrent (error : Error)
deriving DecidableEq, Repr

/-- What a live handle answers. -/
structure TorrentHandle where
  status : Except Error TorrentStatus
  flags : Nat

structure Session where
  findTorrentByToken : Token → Option TorrentHandle

structure Engine where
  registry : Registry
  /-- `none` once the session is gone. -/
  session : Option Session

/-- The engine and its event bus. -/
structure Env where
  engine : Engine
  bus : Channel Event

/-- `Torrent::load`, with the handle found by `Engine::with_handle`. -/
def Torrent.load (env : Env) (entry : TorrentEntry) : Except EngineError Torrent :=
  match env.engine.session with
  | none => .error .shuttingDown
  | some session =>
    match session.findTorrentByToken entry.token with
    | none => .error .notFound
    | some handle =>
      match handle.status with
      | .error e => .error (.torrent e)
      | .ok status => .ok ⟨entry, status, handle.flags, env.bus.tail⟩

inductive EnvAction where
  | publish (event : Event)
  /-- The last sender is gone. -/
  | close
  | change (engine : Engine)

def Env.step (env : Env) : EnvAction → Option Env
  | .publish event => if env.bus.closed then none else some { env with bus := env.bus.send event }
  | .close => some { env with bus := env.bus.close }
  | .change engine => some { env with engine := engine }

/-- The filter lets the torrent pass. -/
def passes (filter : Option Uuid) (entry : TorrentEntry) : Bool := filter.all (entry.uuid == ·)

/-! ## Loading rows -/

/-- What is left to load: a status whose entry is still to be found, or an entry. -/
inductive Item where
  | status (status : TorrentStatus)
  | entry (entry : TorrentEntry)
deriving DecidableEq, Repr

/-- One step of a `filter_map` over statuses or entries: what it leaves to do, and the row it
loaded. -/
def Item.advance (env : Env) (filter : Option Uuid) : Item → List Item × List Torrent
  | .status snapshot =>
    match env.engine.registry.get snapshot.id with
    -- the torrent is gone, and has no row
    | none => ([], [])
    | some found => ([.entry found], [])
  | .entry found =>
    if passes filter found then
      match Torrent.load env found with
      | .ok torrent => ([], [torrent])
      | .error _ => ([], [])
    else ([], [])

/-! ## `torrentEvents` -/

inductive EventsPc where
  | receiving
  /-- `from_engine_event` of the event at the position. -/
  | converting (position : Nat) (event : Event) (todo : List Item) (torrents : List Torrent)
  /-- The stream has ended, before the event at the position. -/
  | ended (position : Nat)
deriving DecidableEq, Repr

/-- The positions in `delivered` are a history. -/
structure EventsStream where
  env : Env
  filter : Option Uuid
  cursor : Nat
  pc : EventsPc
  delivered : List (Nat × TorrentEvent)

/-- What the conversion of an event loads. -/
def EventKind.items : EventKind → List Item
  | .stateUpdate statuses => statuses.map .status
  | _ => []

/-- The `continue` of a filtered stream. -/
def skipped (filter : Option Uuid) (event : Event) : Bool := filter.any (event.torrent != some ·)

/-- `torrent_events`. -/
def torrentEvents (env : Env) (uuid : Option Uuid) : Except EngineError EventsStream :=
  if uuid.any fun f => (env.engine.registry.find f).isNone then .error .notFound
  else .ok ⟨env, uuid, env.bus.tail, .receiving, []⟩

def EventsStream.poll (s : EventsStream) : Option EventsStream :=
  match s.pc with
  | .receiving =>
    match s.env.bus.recv s.cursor with
    | none => none
    | some (.value event, next) =>
      if skipped s.filter event then some { s with cursor := next }
      else some { s with cursor := next, pc := .converting s.cursor event event.kind.items [] }
    -- a removal may be among the lost events: the stream ends, for a new snapshot
    | some (.lagged _, next) => some { s with cursor := next, pc := .ended s.cursor }
    | some (.closed, next) => some { s with cursor := next, pc := .ended s.cursor }
  | .converting position event (item :: todo) torrents =>
    let (more, loaded) := item.advance s.env none
    some { s with pc := .converting position event (more ++ todo) (torrents ++ loaded) }
  | .converting position event [] torrents =>
    match TorrentEvent.fromEngineEvent event torrents with
    | none => some { s with pc := .receiving }
    | some gqlEvent =>
      some { s with pc := .receiving, delivered := s.delivered ++ [(position, gqlEvent)] }
  | .ended _ => none

/-! ## `torrentChanged` -/

inductive ChangedPc where
  | receiving
  /-- The bus reported a lag; the registry is about to be listed. -/
  | lagged
  | collecting (todo : List Item) (torrents : List Torrent)
  | ended
deriving DecidableEq, Repr

structure ChangedStream where
  env : Env
  filter : Option Uuid
  cursor : Nat
  pc : ChangedPc
  emitted : List (List Torrent)

/-- `torrent_changed`. -/
def torrentChanged (env : Env) (uuid : Option Uuid) : Except EngineError ChangedStream :=
  if uuid.any fun f => (env.engine.registry.find f).isNone then .error .notFound
  else .ok ⟨env, uuid, env.bus.tail, .receiving, []⟩

def ChangedStream.poll (s : ChangedStream) : Option ChangedStream :=
  match s.pc with
  | .receiving =>
    match s.env.bus.recv s.cursor with
    | none => none
    | some (.value event, next) =>
      match event.kind with
      | .stateUpdate statuses =>
        some { s with cursor := next, pc := .collecting (statuses.map .status) [] }
      | _ => some { s with cursor := next }
    | some (.lagged _, next) => some { s with cursor := next, pc := .lagged }
    | some (.closed, next) => some { s with cursor := next, pc := .ended }
  -- every row is sent in place of the updates that were lost
  | .lagged => some { s with pc := .collecting (s.env.engine.registry.list.map .entry) [] }
  | .collecting (item :: todo) torrents =>
    let (more, loaded) := item.advance s.env s.filter
    some { s with pc := .collecting (more ++ todo) (torrents ++ loaded) }
  | .collecting [] torrents =>
    if torrents = [] then some { s with pc := .receiving }
    else some { s with pc := .receiving, emitted := s.emitted ++ [torrents] }
  | .ended => none

/-! ## Steps -/

inductive Action where
  | env (action : EnvAction)
  | poll

def EventsStream.step (s : EventsStream) : Action → Option EventsStream
  | .env action => (s.env.step action).map fun env => { s with env := env }
  | .poll => s.poll

def ChangedStream.step (s : ChangedStream) : Action → Option ChangedStream
  | .env action => (s.env.step action).map fun env => { s with env := env }
  | .poll => s.poll

end Rsbtd.Api
