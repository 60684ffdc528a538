import Rsbtd.WebUi.Live

/-!
# The torrent store and its streams

`torrents.ts` keeps the rows of the torrent list by uuid.  `live.ts` fills it from
snapshots, from the batches of `torrentChanged`, from rows it fetches one at a time, and
only its events take rows out again.

The daemon loads each row by itself, at any time before it sends the response or the
batch.  Each stream delivers in order; nothing orders one against the other or against
the responses.  A stream that is restarted drops what it had not delivered.

`handedRemovals` and `removals` are histories: the removal events handed to `applyLive`
and those applied to the store, each with the generation.
-/

namespace Rsbtd.WebUi

abbrev TorrentUuid := Nat

/-- A row; `fields` are all but its uuid. -/
structure TorrentRow (φ : Type) where
  uuid : TorrentUuid
  fields : φ
deriving DecidableEq, Repr

section Store

variable {φ : Type}

/-- The rows by uuid, in the order they were first set. -/
abbrev RowMap (φ : Type) := List (TorrentRow φ)

namespace RowMap

def get (map : RowMap φ) (uuid : TorrentUuid) : Option (TorrentRow φ) := map.find? (·.uuid = uuid)

def has (map : RowMap φ) (uuid : TorrentUuid) : Bool := map.any (·.uuid = uuid)

def set (map : RowMap φ) (row : TorrentRow φ) : RowMap φ :=
  if has map row.uuid then map.map fun existing => if existing.uuid = row.uuid then row else existing
  else map ++ [row]

def delete (map : RowMap φ) (uuid : TorrentUuid) : RowMap φ := map.filter (·.uuid ≠ uuid)

def keys (map : RowMap φ) : List TorrentUuid := map.map (·.uuid)

end RowMap

structure TorrentsState (φ : Type) where
  byUuid : RowMap φ
  listVersion : Nat
deriving DecidableEq, Repr

variable [DecidableEq φ]

/-- A row has all fields, so that merging it onto an existing one gives the row itself. -/
def applyRow (map : RowMap φ) (row : TorrentRow φ) : RowMap φ × Bool :=
  if map.get row.uuid = some row then (map, false) else (map.set row, true)

namespace TorrentsState

def has (s : TorrentsState φ) (uuid : TorrentUuid) : Bool := s.byUuid.has uuid

def patch (s : TorrentsState φ) (rows : List (TorrentRow φ)) : TorrentsState φ :=
  let next := rows.foldl (fun next row =>
    ((applyRow next.1 row).1, (applyRow next.1 row).2 || next.2)) (s.byUuid, false)
  if next.2 then ⟨next.1, s.listVersion + 1⟩ else s

def upsert (s : TorrentsState φ) (row : TorrentRow φ) : TorrentsState φ := s.patch [row]

def remove (s : TorrentsState φ) (uuid : TorrentUuid) : TorrentsState φ :=
  if s.byUuid.has uuid then ⟨s.byUuid.delete uuid, s.listVersion + 1⟩ else s

def replaceAll (s : TorrentsState φ) (rows : List (TorrentRow φ)) : TorrentsState φ :=
  let next : RowMap φ := rows.foldl RowMap.set []
  let changed := rows.any fun row => s.byUuid.get row.uuid ≠ some row
  if changed ∨ next.length ≠ s.byUuid.length ∨ next.keys ≠ s.byUuid.keys then
    ⟨next, s.listVersion + 1⟩
  else s

end TorrentsState

end Store

/-- The events `handleEvent` tells apart; `hint` are those that leave the rows alone. -/
inductive UiEvent where
  | torrentAdded (torrentUuid : TorrentUuid)
  | torrentRemoved (torrentUuid : TorrentUuid)
  | metadataReceived (torrentUuid : TorrentUuid)
  | torrentError (torrentUuid : TorrentUuid)
  | hint
deriving DecidableEq, Repr

/-- The closures `live.ts` hands to `applyLive`. -/
inductive LiveUpdate (φ : Type) where
  | patch (rows : List (TorrentRow φ))
  | event (event : UiEvent)
  | upsert (row : TorrentRow φ)
deriving DecidableEq, Repr

/-- A `fetchRow` whose response has not been handled; `answer` is what the daemon found. -/
structure RowFetch (φ : Type) where
  uuid : TorrentUuid
  generation : Nat
  answer : Option (Option (TorrentRow φ))
deriving DecidableEq, Repr

abbrev TorrentsLive (φ : Type) := Live (LiveUpdate φ) (List (TorrentRow φ))

structure Ui (φ : Type) where
  live : TorrentsLive φ
  store : TorrentsState φ
  fetches : List (RowFetch φ)
  /-- The daemon's torrents, and every uuid it ever had. -/
  torrents : RowMap φ
  minted : List TorrentUuid
  /-- What the event stream has not delivered. -/
  events : List UiEvent
  /-- The batch being loaded, and the batches not delivered. -/
  batch : List (TorrentRow φ)
  changed : List (List (TorrentRow φ))
  /-- The rows loaded for the snapshot of a resync, by the number of its call. -/
  loaded : List (Nat × TorrentRow φ)
  handedRemovals : List (Nat × TorrentUuid)
  removals : List (Nat × TorrentUuid)

inductive UiAction (φ : Type) where
  | connection (action : Action)
  /-- The event stream ended: `onRetry`. -/
  | onRetry
  | resubscribeEvents
  | resubscribeChanged
  | retry (generation : Nat)
  | poll (timer : PollTimer)
  | resume (tick : Tick)
  /-- The daemon. -/
  | register (row : TorrentRow φ)
  | change (row : TorrentRow φ)
  | unregister (uuid : TorrentUuid)
  | publish (event : UiEvent)
  | loadSnapshot (resync : InflightResync) (uuid : TorrentUuid)
  | loadBatch (uuid : TorrentUuid)
  | sendBatch
  | answerFetch (fetch : Nat)
  /-- The responses and the streams' next values. -/
  | settle (resync : InflightResync) (ok : Bool)
  | deliverEvent
  | deliverChanged
  | fetchRow (uuid : TorrentUuid)
  | resumeFetch (fetch : Nat) (ok : Bool)

namespace Ui

variable {φ : Type}

def init : Ui φ where
  live := .init
  store := ⟨[], 0⟩
  fetches := []
  torrents := []
  minted := []
  events := []
  batch := []
  changed := []
  loaded := []
  handedRemovals := []
  removals := []

/-- `fetchRow` up to its request. -/
def fetchRow (s : Ui φ) (uuid : TorrentUuid) : Ui φ :=
  { s with fetches := s.fetches ++ [⟨uuid, s.live.generation, none⟩] }

def handleEvent [DecidableEq φ] (s : Ui φ) : UiEvent → Ui φ
  | .torrentAdded uuid | .metadataReceived uuid | .torrentError uuid => s.fetchRow uuid
  | .torrentRemoved uuid =>
    { s with
      store := s.store.remove uuid
      removals := s.removals ++ [(s.live.generation, uuid)] }
  | .hint => s

variable [DecidableEq φ]

def applyChange (s : Ui φ) : Change (LiveUpdate φ) (List (TorrentRow φ)) → Ui φ
  | .snapshot _ rows => { s with store := s.store.replaceAll rows }
  | .update _ (.patch rows) _ => { s with store := s.store.patch rows }
  | .update _ (.upsert row) _ => { s with store := s.store.upsert row }
  | .update _ (.event event) _ => s.handleEvent event

/-- The store after a step of the live data: what the step added to the log is applied to it. -/
def absorb (s : Ui φ) (live : TorrentsLive φ) : Ui φ :=
  (live.log.drop s.live.log.length).foldl applyChange { s with live := live }

/-- `onUp` restarts the streams. -/
def restart (s : Ui φ) : Ui φ := { s with events := [], batch := [], changed := [] }

/-- `applyLive` of an event, as the event stream delivers it. -/
def handEvent (s : Ui φ) (event : UiEvent) : Ui φ :=
  let removed := match event with
    | .torrentRemoved uuid => [(s.live.generation, uuid)]
    | _ => []
  { s with handedRemovals := s.handedRemovals ++ removed }.absorb (s.live.applyLive (.event event))

/-- The rows a snapshot has. -/
def snapshotOf (s : Ui φ) (resync : InflightResync) : List (TorrentRow φ) :=
  (s.loaded.filter (·.1 = resync.id)).map Prod.snd

/-- What follows the request in `fetchRow`. -/
def fetched (s : Ui φ) (fetch : RowFetch φ) (ok : Bool) : Option (Ui φ) :=
  if ok then
    match fetch.answer with
    | none => none
    | some none => some s
    | some (some row) =>
      if fetch.generation = s.live.generation then some (s.absorb (s.live.applyLive (.upsert row)))
      else some s
  else some s

def step (s : Ui φ) : UiAction φ → Option (Ui φ)
  | .connection action =>
    (s.live.step (.connection action)).map fun live =>
      if live.generation ≠ s.live.generation ∧ live.connection.snap.state = .up then
        { s with live := live }.restart
      else { s with live := live }
  | .onRetry => (s.live.step .onRetry).map s.absorb
  | .resubscribeEvents => some { s with events := [] }
  | .resubscribeChanged => some { s with batch := [], changed := [] }
  | .retry generation => (s.live.step (.retry generation)).map s.absorb
  | .poll timer => (s.live.step (.poll timer)).map s.absorb
  | .resume tick => (s.live.step (.resume tick)).map s.absorb
  | .register row =>
    if row.uuid ∈ s.minted then none
    else some { s with
      torrents := s.torrents ++ [row]
      minted := s.minted ++ [row.uuid]
      events := s.events ++ [.torrentAdded row.uuid] }
  | .change row =>
    if s.torrents.has row.uuid then some { s with torrents := s.torrents.set row } else none
  | .unregister uuid =>
    if s.torrents.has uuid then
      some { s with
        torrents := s.torrents.delete uuid
        events := s.events ++ [.torrentRemoved uuid] }
    else none
  | .publish event =>
    match event with
    | .torrentAdded _ | .torrentRemoved _ => none
    | event => some { s with events := s.events ++ [event] }
  | .loadSnapshot resync uuid =>
    if resync ∈ s.live.pending then
      some { s with loaded := s.loaded ++ (s.torrents.get uuid).toList.map ((resync.id, ·)) }
    else none
  | .loadBatch uuid => some { s with batch := s.batch ++ (s.torrents.get uuid).toList }
  | .sendBatch =>
    if s.batch = [] then none else some { s with batch := [], changed := s.changed ++ [s.batch] }
  | .answerFetch fetch =>
    match s.fetches[fetch]? with
    | some ⟨uuid, generation, none⟩ =>
      some { s with fetches := s.fetches.set fetch ⟨uuid, generation, some (s.torrents.get uuid)⟩ }
    | _ => none
  | .settle resync ok =>
    (s.live.step (.settle resync (if ok then some (s.snapshotOf resync) else none))).map s.absorb
  | .deliverEvent =>
    match s.events with
    | [] => none
    | event :: rest => some ({ s with events := rest }.handEvent event)
  | .deliverChanged =>
    match s.changed with
    | [] => none
    | rows :: rest => some ({ s with changed := rest }.absorb (s.live.applyLive (.patch rows)))
  | .fetchRow uuid => some (s.fetchRow uuid)
  | .resumeFetch fetch ok =>
    match s.fetches[fetch]? with
    | none => none
    | some f => ({ s with fetches := s.fetches.eraseIdx fetch }).fetched f ok

end Ui

end Rsbtd.WebUi
