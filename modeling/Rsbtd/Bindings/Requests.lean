import Mathlib.Data.List.AList
import Mathlib.Logic.Function.Basic
import Rsbtd.Engine.Registry
import Rsbtd.Transition.Runs

/-!
# Pending requests of the bindings

`requests.rs` matches response alerts to the futures of `session_stats` and
`add_torrent`, and keeps the client data and the handle of every torrent under
the token of its add.  `Registry` is its locked state, with one operation for
each critical section.

`State` adds the futures, libtorrent and the alerts on their way to `process`.
libtorrent answers `session_stats` in the order of the requests and may lose any
of the responses; an add attaches, fails or resolves to a torrent that is already
there.  Histories that no task reads: the request in `Alert.sessionStats`, and
`responses`, `lost`, `failed`, `answered` and `swept` of `State`.
-/

namespace Rsbtd.Requests

open Transition (Run)

inductive Error where
  | binding (message : String)
  | libtorrent (value : Int) (message : String)
deriving DecidableEq, Repr

/-- The error every pending future resolves to when it can no longer be fulfilled. -/
def closedError : Error :=
  .binding "the session was closed before the response alert arrived"

/-- The error for pending futures when an overflow may have dropped their response. -/
def droppedError : Error :=
  .binding ("the alert queue overflowed and the response alert was dropped; retry the " ++
    "request (consider raising the alert_queue_size setting)")

def nullHandleError : Error :=
  .binding "add_torrent_alert has null handle"

def removedError : Error :=
  .binding "the torrent was removed"

/-- The sending half of a future's channel.  A stats future is numbered by its
request, an add future by its token. -/
abbrev Sender := Nat

/-- A handle, as the token of the torrent it points to. -/
abbrev Handle := Token

/-! ## The registry -/

structure Registry (δ : Type) where
  closed : Bool
  sessionStats : List Sender
  addTorrent : AList fun _ : Token => Sender
  clientData : AList fun _ : Token => δ
  handles : AList fun _ : Token => Handle

namespace Registry

variable {δ : Type}

def new : Registry δ := ⟨false, [], ∅, ∅, ∅⟩

def enqueueSessionStats (r : Registry δ) (post : Except Error Unit) (tx : Sender) :
    Except Error (Registry δ) :=
  if r.closed then .error closedError
  else post.map fun _ => { r with sessionStats := r.sessionStats ++ [tx] }

def enqueueAddTorrent (r : Registry δ) (token : Token) (tx : Sender) (data : δ) :
    Except Error (Registry δ) :=
  if r.closed then .error closedError
  else .ok { r with
    addTorrent := r.addTorrent.insert token tx
    clientData := r.clientData.insert token data }

/-- Drops the pending sender only. -/
def cancelAddTorrent (r : Registry δ) (token : Token) : Registry δ :=
  { r with addTorrent := r.addTorrent.erase token }

/-- Rolls back a refused post. -/
def abortAddTorrent (r : Registry δ) (token : Token) : Registry δ :=
  { r with
    addTorrent := r.addTorrent.erase token
    clientData := r.clientData.erase token }

/-- Replaces a live torrent's data. -/
def setClientData (r : Registry δ) (token : Token) (data : δ) : Except Error (Registry δ) :=
  match r.clientData.lookup token with
  | some _ => .ok { r with clientData := r.clientData.insert token data }
  | none => .error removedError

def resolveSessionStats (r : Registry δ) : Registry δ × Option Sender :=
  match r.sessionStats with
  | [] => (r, none)
  | tx :: rest => ({ r with sessionStats := rest }, some tx)

/-- `stored` is the handle of an add that survived. -/
def resolveAddTorrent (r : Registry δ) (token : Token) (stored : Option Handle) :
    Registry δ × Option Sender :=
  let sender := r.addTorrent.lookup token
  match stored with
  | some handle =>
    ({ r with
       addTorrent := r.addTorrent.erase token
       handles := r.handles.insert token handle }, sender)
  | none =>
    ({ r with
       addTorrent := r.addTorrent.erase token
       clientData := r.clientData.erase token }, sender)

def resolveTorrentRemoved (r : Registry δ) (token : Token) : Registry δ :=
  if token = 0 then r
  else { r with
    clientData := r.clientData.erase token
    handles := r.handles.erase token }

def ALERT_TYPE_ADD_TORRENT : Nat := 67
def ALERT_TYPE_SESSION_STATS : Nat := 70

/-- `bit` of `handle_alerts_dropped`. -/
def bit (dropped : BitVec 128) (ty : Nat) : Bool := decide (ty < 128) && dropped.getLsbD ty

/-- The registry after `handle_alerts_dropped` and the senders it fails. -/
def handleAlertsDropped (r : Registry δ) (dropped : BitVec 128) :
    Registry δ × List Sender × List Sender :=
  let stats := bit dropped ALERT_TYPE_SESSION_STATS
  let adds := bit dropped ALERT_TYPE_ADD_TORRENT
  ({ r with
     sessionStats := if stats then [] else r.sessionStats
     addTorrent := if adds then ∅ else r.addTorrent },
   if stats then r.sessionStats else [],
   if adds then r.addTorrent.entries.map Sigma.snd else [])

/-- The registry after `close` and the senders it drops. -/
def close (r : Registry δ) : Registry δ × List Sender × List Sender :=
  ({ r with closed := true, sessionStats := [], addTorrent := ∅ },
   r.sessionStats, r.addTorrent.entries.map Sigma.snd)

end Registry

/-! ## Futures -/

/-- The channel of one future: whether its caller still holds it, and what it was
resolved with. -/
structure Channel (ρ : Type) where
  receiver : Bool
  resolved : List ρ
deriving DecidableEq, Repr

namespace Channel

variable {ρ : Type}

def new : Channel ρ := ⟨true, []⟩

def send (c : Channel ρ) (r : ρ) : Channel ρ :=
  if c.receiver then { c with resolved := c.resolved ++ [r] } else c

/-- Sends one result to each of the senders. -/
def sendAll (channels : Sender → Channel ρ) (senders : List Sender) (r : ρ) :
    Sender → Channel ρ :=
  senders.foldl (fun cs tx => Function.update cs tx ((cs tx).send r)) channels

@[simp] theorem send_receiver (c : Channel ρ) (r : ρ) : (c.send r).receiver = c.receiver := by
  unfold send
  split <;> rfl

/-- A future is resolved by one send at most once more. -/
theorem send_resolved (c : Channel ρ) (r : ρ) :
    (c.send r).resolved = c.resolved ∨ (c.send r).resolved = c.resolved ++ [r] := by
  unfold send
  split
  · exact .inr rfl
  · exact .inl rfl

theorem sendAll_of_nodup (senders : List Sender) (distinct : senders.Nodup) (r : ρ) (n : Sender)
    (channels : Sender → Channel ρ) :
    sendAll channels senders r n = if n ∈ senders then (channels n).send r else channels n := by
  induction senders generalizing channels with
  | nil => rfl
  | cons tx senders ih =>
    obtain ⟨absent, distinct⟩ := List.nodup_cons.mp distinct
    have rest := ih distinct (Function.update channels tx ((channels tx).send r))
    change sendAll (Function.update channels tx ((channels tx).send r)) senders r n = _
    rw [rest]
    by_cases first : n = tx
    · subst first
      simp [absent]
    · rw [Function.update_of_ne first]
      simp [first]

end Channel

/-! ## libtorrent and the alert stream -/

/-- What became of the add posted under a token. -/
inductive Fate where
  | unused
  /-- The token is minted, `async_add_torrent` has not returned. -/
  | posting
  | refused
  | posted
  /-- `none`: no error, but a null handle. -/
  | failed (error : Option Error)
  /-- libtorrent also posted `torrent_removed` for the failed add. -/
  | failedRemoved (error : Option Error)
  /-- The add resolved to a torrent that was already there. -/
  | duplicate (existing : Token)
  | attached
  | removed
  /-- The removed torrent is destroyed, its handles are expired. -/
  | expired
deriving DecidableEq, Repr

inductive Alert where
  | sessionStats (request : Sender) (counters : Option (List Int))
  | addTorrent (userdata : Token) (error : Option Error) (handle : Option Handle)
  | torrentRemoved (userdata : Token)
  | alertsDropped (dropped : BitVec 128)
deriving DecidableEq, Repr

/-- `Registry::next_id` is `nextId`; `statsCalls` counts the stats futures. -/
structure State (δ : Type) where
  registry : Registry δ
  nextId : Nat
  statsCalls : Nat
  stats : Sender → Channel (Except Error (List Int))
  adds : Sender → Channel (Except Error Handle)
  /-- The stats requests libtorrent has not answered. -/
  asked : List Sender
  torrents : Token → Fate
  /-- Alerts not yet processed, the rest of the current batch included. -/
  stream : List Alert
  /-- The counters libtorrent answered each request with. -/
  responses : Sender → Option (List Int)
  /-- Requests whose response was lost. -/
  lost : List Sender
  /-- Requests failed by an overflow alert. -/
  failed : List Sender
  /-- Tokens whose `add_torrent` alert was processed. -/
  answered : Token → Bool
  /-- Tokens whose `torrent_removed` alert was processed. -/
  swept : Token → Bool

inductive Action (δ : Type) where
  | sessionStats (post : Except Error Unit)
  | dropStats (future : Sender)
  | enqueueAdd (data : δ)
  /-- `async_add_torrent` returned, without or with an error. -/
  | accepted (token : Token)
  | refused (token : Token)
  /-- The future is dropped and its `AddTorrentToken` with it. -/
  | dropAdd (token : Token)
  | setClientData (token : Token) (data : δ)
  | close
  | process
  | answerStats (counters : Option (List Int)) (delivered : Bool)
  | overflow (dropped : BitVec 128)
  | attach (token : Token)
  | fail (token : Token) (error : Option Error)
  | duplicate (token existing : Token)
  | remove (token : Token)
  | expire (token : Token)

namespace State

variable {δ : Type}

def init : State δ where
  registry := .new
  nextId := 0
  statsCalls := 0
  stats := fun _ => .new
  adds := fun _ => .new
  asked := []
  torrents := fun _ => .unused
  stream := []
  responses := fun _ => none
  lost := []
  failed := []
  answered := fun _ => false
  swept := fun _ => false

/-- `ct_torrent_handle_userdata`: the token of the torrent, 0 once it is destroyed. -/
def userdata (s : State δ) (handle : Handle) : Token :=
  match s.torrents handle with
  | .attached | .removed => handle
  | _ => 0

def setFate (s : State δ) (token : Token) (fate : Fate) : State δ :=
  { s with torrents := Function.update s.torrents token fate }

def post (s : State δ) (alert : Alert) : State δ :=
  { s with stream := s.stream ++ [alert] }

/-- `resolve_session_stats`. -/
def resolveSessionStats (s : State δ) (counters : Option (List Int)) : State δ :=
  match s.registry.resolveSessionStats with
  | (_, none) => s
  | (registry, some tx) =>
    let result := .ok (counters.getD [])
    { s with registry, stats := Function.update s.stats tx ((s.stats tx).send result) }

/-- The outcome an `add_torrent` alert carries. -/
def addResult (error : Option Error) (handle : Option Handle) : Except Error Handle :=
  match error, handle with
  | some e, _ => .error e
  | none, none => .error nullHandleError
  | none, some h => .ok h

/-- The handle to store, if the torrent attached under the token. -/
def surviving (s : State δ) (token : Token) : Except Error Handle → Option Handle
  | .ok handle => if s.userdata handle = token then some handle else none
  | .error _ => none

/-- `resolve_add_torrent`. -/
def resolveAddTorrent (s : State δ) (token : Token) (error : Option Error)
    (handle : Option Handle) : State δ :=
  let result := addResult error handle
  let resolved := s.registry.resolveAddTorrent token (s.surviving token result)
  { s with
    registry := resolved.1
    adds := Channel.sendAll s.adds resolved.2.toList result
    answered := Function.update s.answered token true }

/-- One round of the loop of `Registry::process`. -/
def dispatch (s : State δ) : Alert → State δ
  | .sessionStats _ counters => s.resolveSessionStats counters
  | .addTorrent userdata error handle => s.resolveAddTorrent userdata error handle
  | .torrentRemoved userdata =>
    { s with
      registry := s.registry.resolveTorrentRemoved userdata
      swept := Function.update s.swept userdata true }
  | .alertsDropped dropped =>
    let (registry, stats, adds) := s.registry.handleAlertsDropped dropped
    { s with
      registry
      stats := Channel.sendAll s.stats stats (.error droppedError)
      adds := Channel.sendAll s.adds adds (.error droppedError)
      failed := s.failed ++ stats }

def close (s : State δ) : State δ :=
  let (registry, stats, adds) := s.registry.close
  { s with
    registry
    -- a receiver whose sender is gone resolves to the closed error
    stats := Channel.sendAll s.stats stats (.error closedError)
    adds := Channel.sendAll s.adds adds (.error closedError) }

/-- The future of `token` exists: `Session::add_torrent` has returned it. -/
def returned (s : State δ) (token : Token) : Bool :=
  s.torrents token != .unused && s.torrents token != .posting && s.torrents token != .refused

def step (s : State δ) : Action δ → Option (State δ)
  | .sessionStats post =>
    match s.registry.enqueueSessionStats post s.statsCalls with
    | .error _ => some s
    | .ok registry =>
      some { s with
        registry
        statsCalls := s.statsCalls + 1
        asked := s.asked ++ [s.statsCalls] }
  | .dropStats n =>
    if n < s.statsCalls then
      some { s with stats := Function.update s.stats n { s.stats n with receiver := false } }
    else none
  | .enqueueAdd data =>
    let token := s.nextId + 1
    match s.registry.enqueueAddTorrent token token data with
    | .error _ => some s
    | .ok registry => some { s.setFate token .posting with registry, nextId := token }
  | .accepted token =>
    if s.torrents token = .posting then some (s.setFate token .posted) else none
  | .refused token =>
    if s.torrents token = .posting then
      some { s.setFate token .refused with registry := s.registry.abortAddTorrent token }
    else none
  | .dropAdd token =>
    if s.returned token then
      some { s with
        registry := s.registry.cancelAddTorrent token
        adds := Function.update s.adds token { s.adds token with receiver := false } }
    else none
  | .setClientData token data =>
    match s.registry.setClientData token data with
    | .error _ => some s
    | .ok registry => some { s with registry }
  | .close => some s.close
  | .process =>
    match s.stream with
    | [] => none
    | alert :: rest => some (dispatch { s with stream := rest } alert)
  | .answerStats counters delivered =>
    match s.asked with
    | [] => none
    | n :: rest =>
      let s := { s with
        asked := rest
        responses := Function.update s.responses n (some (counters.getD [])) }
      if delivered then some (s.post (.sessionStats n counters))
      else some { s with lost := s.lost ++ [n] }
  | .overflow dropped => some (s.post (.alertsDropped dropped))
  | .attach token =>
    if s.torrents token = .posted then
      some ((s.setFate token .attached).post (.addTorrent token none (some token)))
    else none
  | .fail token error =>
    if s.torrents token = .posted then
      some ((s.setFate token (.failed error)).post (.addTorrent token error none))
    else none
  | .duplicate token existing =>
    if s.torrents token = .posted ∧ s.torrents existing = .attached then
      some ((s.setFate token (.duplicate existing)).post (.addTorrent token none (some existing)))
    else none
  | .remove token =>
    match s.torrents token with
    | .attached => some ((s.setFate token .removed).post (.torrentRemoved token))
    | .failed error => some ((s.setFate token (.failedRemoved error)).post (.torrentRemoved token))
    | _ => none
  | .expire token =>
    if s.torrents token = .removed then some (s.setFate token .expired) else none

end State

end Rsbtd.Requests
