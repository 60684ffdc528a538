import Mathlib.Logic.Basic
import Rsbtd.Transition.Runs

/-!
# The web UI's connection controller

`connection.ts` keeps one connection to the daemon.  Every teardown and every
connect attempt bumps `epoch`; a probe and the callbacks of a socket capture the
epoch they belong to.  `client.ts` reports a 401 of any request to a handler that
calls `authLost`, before the request's own continuation runs.

A step is one task of the event loop: a response settles its request (and runs
the 401 handler), and the continuation that awaits the request resumes later.  A
request whose signal was aborted before that settles with an error.  Sockets may
call back at any time, also after they were disposed.  `Request.epoch` of a
request that captures none is a history: the epoch it was issued under.
-/

namespace Rsbtd.WebUi

open Transition (Run)

inductive ConnectionState where
  | idle | probing | authRequired | connecting | up | degraded | down
deriving DecidableEq, Repr

structure ConnectionSnapshot where
  state : ConnectionState
  generation : Nat
  error : Option String
  authFailed : Bool
  sessionError : Option String
deriving DecidableEq, Repr

/-- How a request ends: with data, with `AuthError`, or with another error. -/
inductive Response where
  | ok
  | unauthorized
  | failed (message : String)
deriving DecidableEq, Repr

def Response.isFailure : Response → Bool
  | .failed _ => true
  | .ok | .unauthorized => false

abbrev Client := Nat

inductive RequestKind where
  /-- The `VersionQuery` of `connect`. -/
  | probe
  /-- The `VersionQuery` of `onWsClosed`, which has no abort signal. -/
  | classify (client : Client)
  /-- Any other request of the UI. -/
  | other
deriving DecidableEq, Repr

inductive Phase where
  | pending
  /-- The response is there, the continuation has not run. -/
  | settled (response : Response)
  | finished
deriving DecidableEq, Repr

structure Request where
  kind : RequestKind
  epoch : Nat
  aborted : Bool
  phase : Phase
deriving DecidableEq, Repr

/-- The snapshot store, the fields of `ConnectionController`, and outside of it the
token `getToken` reads, all requests and sockets by number, and the disposed
sockets. -/
structure Controller where
  snap : ConnectionSnapshot
  ws : Option Client
  acked : Bool
  classifying : Bool
  retryTimer : Bool
  downBackoffMs : Nat
  started : Bool
  epoch : Nat
  probeAbort : Option Nat
  pendingIdentityBump : Bool
  token : Option String
  requests : List Request
  /-- The epoch each socket's callbacks captured. -/
  sockets : List Nat
  disposed : List Client
deriving DecidableEq, Repr

inductive Action where
  | start
  | reconnect
  | logout
  | authLost
  /-- A storage event, and whether its key is one of those watched. -/
  | storage (watched : Bool)
  | retry
  | wsConnected (client : Client)
  | wsClosed (client : Client)
  /-- The UI issues a request. -/
  | request
  | respond (id : Nat) (response : Response)
  | resume (id : Nat)
  | setToken (token : Option String)
  | setSessionError (message : Option String)
deriving DecidableEq, Repr

namespace Controller

def init : Controller where
  snap := ⟨.idle, 0, none, false, none⟩
  ws := none
  acked := false
  classifying := false
  retryTimer := false
  downBackoffMs := 2000
  started := false
  epoch := 0
  probeAbort := none
  pendingIdentityBump := false
  token := none
  requests := []
  sockets := []
  disposed := []

def setSnap (c : Controller) (f : ConnectionSnapshot → ConnectionSnapshot) : Controller :=
  { c with snap := f c.snap }

def clearRetry (c : Controller) : Controller := { c with retryTimer := false }

/-- `this.probeAbort?.abort()`. -/
def abortProbe (c : Controller) : Controller :=
  match c.probeAbort with
  | none => c
  | some id => { c with requests := c.requests.modify id fun r => { r with aborted := true } }

def teardown (c : Controller) : Controller :=
  let c := { c with epoch := c.epoch + 1 }.clearRetry.abortProbe
  -- the callbacks of a disposed socket still run, under the epoch they captured
  { c with
    probeAbort := none
    ws := none
    acked := false
    disposed := c.disposed ++ c.ws.toList }

/-- `connect` up to its request. -/
def connect (c : Controller) : Controller :=
  let c := { c.clearRetry with epoch := c.epoch + 1 }.abortProbe
  { c with
    probeAbort := some c.requests.length
    requests := c.requests ++ [⟨.probe, c.epoch, false, .pending⟩]
    snap := { c.snap with state := .probing, error := none, authFailed := false } }

def reconnect (c : Controller) : Controller :=
  { c with pendingIdentityBump := true }.teardown.connect

def logout (c : Controller) : Controller :=
  c.teardown.setSnap fun snap =>
    { snap with state := .authRequired, error := none, authFailed := false }

def authLost (c : Controller) : Controller :=
  if c.snap.state = .authRequired then c
  else c.teardown.setSnap fun snap =>
    { snap with state := .authRequired, error := none, authFailed := c.token.isSome }

def toDown (c : Controller) (message : String) : Controller :=
  let c := c.teardown.setSnap fun snap => { snap with state := .down, error := some message }
  { c with retryTimer := true, downBackoffMs := min (c.downBackoffMs * 2) 30000 }

def openWs (c : Controller) (epoch : Nat) : Controller :=
  let c := c.setSnap fun snap => { snap with state := .connecting }
  { c with
    acked := false
    sockets := c.sockets ++ [epoch]
    ws := some c.sockets.length }

/-- What follows the request in `connect`. -/
def probed (c : Controller) (epoch : Nat) (response : Response) : Controller :=
  if epoch ≠ c.epoch then c
  else match response with
    | .unauthorized => c.setSnap fun snap =>
        { snap with state := .authRequired, authFailed := c.token.isSome }
    | .failed message => c.toDown message
    | .ok => c.openWs epoch

/-- What follows the request in `onWsClosed`. -/
def classified (c : Controller) (epoch : Nat) (client : Client) (response : Response) :
    Controller :=
  let c' :=
    if epoch ≠ c.epoch ∨ c.ws ≠ some client then c
    else match response with
      | .ok =>
        -- the socket has got through meanwhile
        if c.snap.state = .up then c
        else if c.pendingIdentityBump then
          -- no socket was acknowledged since the reconnect: the generation is bumped here
          { c with pendingIdentityBump := false }.setSnap fun snap =>
            { snap with
              state := .degraded, generation := snap.generation + 1, sessionError := none }
        else c.setSnap fun snap => { snap with state := .degraded }
      | .unauthorized => c.teardown.setSnap fun snap =>
          { snap with state := .authRequired, error := none, authFailed := c.token.isSome }
      | .failed message => c.toDown message
  { c' with classifying := false }

def onConnected (c : Controller) (epoch : Nat) (client : Client) : Controller :=
  if epoch ≠ c.epoch ∨ c.ws ≠ some client then c
  else { c with acked := true, downBackoffMs := 2000, pendingIdentityBump := false }.setSnap
    fun snap => { snap with
      state := .up, generation := snap.generation + 1, error := none, sessionError := none }

/-- `onClosed` and `onWsClosed` up to its request. -/
def onClosed (c : Controller) (epoch : Nat) (client : Client) : Controller :=
  if epoch ≠ c.epoch ∨ c.ws ≠ some client then c
  else if c.snap.state = .authRequired ∨ c.snap.state = .down then c
  else if c.acked then
    { c with acked := false }.setSnap fun snap => { snap with state := .degraded }
  else if c.classifying then c
  else { c with
    classifying := true
    requests := c.requests ++ [⟨.classify client, epoch, false, .pending⟩] }

def setPhase (c : Controller) (id : Nat) (phase : Phase) : Controller :=
  { c with requests := c.requests.modify id fun r => { r with phase } }

/-- `post` after its `fetch`: the handler of a 401 runs before the error is thrown. -/
def respond (c : Controller) (id : Nat) (response : Response) : Controller :=
  let c := c.setPhase id (.settled response)
  if response = .unauthorized then c.authLost else c

/-- The continuation awaiting the request. -/
def resume (c : Controller) (id : Nat) (r : Request) (response : Response) : Controller :=
  let c := c.setPhase id .finished
  match r.kind with
  | .probe => c.probed r.epoch response
  | .classify client => c.classified r.epoch client response
  | .other => c

def step (c : Controller) : Action → Option Controller
  | .start => some (if c.started then c else { c with started := true }.connect)
  | .reconnect => some c.reconnect
  | .logout => some c.logout
  | .authLost => some c.authLost
  | .storage watched => some (if c.started ∧ watched then c.reconnect else c)
  | .retry => if c.retryTimer then some c.connect else none
  | .wsConnected client => c.sockets[client]?.map fun epoch => c.onConnected epoch client
  | .wsClosed client => c.sockets[client]?.map fun epoch => c.onClosed epoch client
  | .request => some { c with requests := c.requests ++ [⟨.other, c.epoch, false, .pending⟩] }
  | .respond id response =>
    c.requests[id]?.bind fun r =>
      -- an aborted `fetch` can only fail
      if r.phase = .pending ∧ (r.aborted = true → response.isFailure = true) then
        some (c.respond id response)
      else none
  | .resume id =>
    c.requests[id]?.bind fun r =>
      match r.phase with
      | .settled response => some (c.resume id r response)
      | _ => none
  | .setToken token => some { c with token }
  | .setSessionError message => some (c.setSnap fun snap => { snap with sessionError := message })

end Controller

end Rsbtd.WebUi
