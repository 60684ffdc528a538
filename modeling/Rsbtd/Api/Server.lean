import Mathlib.Data.List.Basic
import Rsbtd.Api.Auth
import Rsbtd.Transition.Runs

/-!
# The API server and its shutdown

`/graphql` takes requests and WebSocket upgrades.  A WebSocket holds one of 64
permits until its `connection_init` has come, and its task outlives the HTTP
server; `Daemon::stop_with` waits for both before it stops the engine.

A task is polled, and a signal that comes during a poll is seen at the next one:
a poll of a socket's `serve` first looks at the inbound stream, which ends with the
stop signal, and a poll of a request first looks at the kill switch.  So a poll has a
beginning and an end, and uses the engine any number of times in between.  The body
of a multipart response is polled by its connection, outside the kill switch.

`GraphQLWebSocket` may do what async-graphql documents of it: it calls the init
callback at most once, starts operations after the callback's future has returned
`Ok`, and returns at any time.  `Semaphore`, `watch` and `CancellationToken` are as
tokio documents them: a permit is given back when it is dropped, and a value that was
sent and a cancellation are seen by every later poll.  Every timer may fire whenever it
is armed.  `reached` is a history that no task reads.
-/

namespace Rsbtd.Server

open Api (Auth Request requireBearer)

def MAX_PENDING_WS : Nat := 64

inductive CloseCode where
  | policy | away
deriving DecidableEq, Repr

/-- Where `stop_with` is. -/
inductive StopPc where
  | running
  | httpGrace
  | reqKillGrace
  | wsGrace
  | wsKilled
  | engine
  | done
deriving DecidableEq, Repr

def StopPc.engineDown : StopPc → Bool
  | engine | done => true
  | _ => false

/-- Where the task of an upgrade is. -/
inductive SocketPc where
  /-- The 101 response is given, and the connection not yet upgraded. -/
  | upgrading
  /-- In `serve`, with the deadline armed. -/
  | initializing
  /-- The init callback has been called. -/
  | checking
  | serving
  /-- The init was turned down; `serve` winds down. -/
  | refused
  | closing (code : CloseCode)
  | draining
  | ended
deriving DecidableEq, Repr

structure Socket where
  /-- The `Authorization` header of the upgrade. -/
  authorization : Option Text
  headerOk : Bool
  /-- The `token` of the init payload, once it has come. -/
  token : Option Text
  /-- Whether the task holds its permit. -/
  permit : Bool
  pc : SocketPc
  /-- A poll of `serve` past its look at the inbound stream, and where `stop_with` was then. -/
  poll : Option StopPc
deriving DecidableEq, Repr

/-- The task is one of the `TaskTracker`'s. -/
def Socket.tracked (socket : Socket) : Bool :=
  match socket.pc with
  | .upgrading | .ended => false
  | _ => true

/-- The task is in `serve`. -/
def Socket.inServe (socket : Socket) : Bool :=
  match socket.pc with
  | .initializing | .checking | .serving | .refused => true
  | _ => false

inductive HandledPc where
  /-- In a poll past its look at the kill switch, and where `stop_with` was then. -/
  | polling (began : StopPc)
  | waiting
  /-- Answered, with a body that is still being made. -/
  | streaming
  | finished
deriving DecidableEq, Repr

/-- A request to the GraphQL service. -/
structure Handled where
  authorization : Option Text
  pc : HandledPc
deriving DecidableEq, Repr

def Handled.running (request : Handled) : Bool := request.pc != .finished

inductive HttpServer where
  | serving
  /-- Every connection is closed. -/
  | ended
  /-- The coordinator is gone, its connections are not. -/
  | aborted
  | failed
deriving DecidableEq, Repr

/-- What reached the engine: where `stop_with` was when the poll began, and where it was then. -/
inductive Reached where
  | request (i : Nat) (began stop : StopPc)
  | body (i : Nat) (stop : StopPc)
  | operation (socket : Nat) (began stop : StopPc)
deriving DecidableEq, Repr

def Reached.stop : Reached → StopPc
  | request _ _ stop | body _ stop | operation _ _ stop => stop

structure State where
  /-- The permits of the semaphore. -/
  pending : Nat
  sockets : List Socket
  requests : List Handled
  http : HttpServer
  stopping : Bool
  reqKill : Bool
  wsKill : Bool
  stop : StopPc
  reached : List Reached
deriving DecidableEq, Repr

inductive Response where
  /-- The GraphQL service answers. -/
  | service
  | switchingProtocols
  | badRequest
  | unauthorized
  | methodNotAllowed
  | tooManyPending
  | shuttingDown
deriving DecidableEq, Repr

inductive Action where
  | request (request : Request)
  | pollRequest (i : Nat)
  | useRequest (i : Nat)
  | yieldRequest (i : Nat)
  | respond (i : Nat) (streamed : Bool)
  /-- The request's middleware is polled after `req_kill`. -/
  | cancelRequest (i : Nat)
  | useBody (i : Nat)
  /-- The end of a body, or of the connection. -/
  | dropRequest (i : Nat)
  | upgraded (i : Nat)
  | upgradeFailed (i : Nat)
  | pollSocket (i : Nat)
  | connectionInit (i : Nat) (token : Option Text)
  | checkInit (i : Nat)
  | operation (i : Nat)
  | yieldSocket (i : Nat)
  | serveReturns (i : Nat)
  | initDeadline (i : Nat)
  | closeSent (i : Nat) (ok : Bool)
  /-- The client's close reply, an error, or the end of the grace. -/
  | drained (i : Nat)
  | killed (i : Nat)
  | httpEnds
  | httpFails
  | stopWith
  | joinHttp
  | httpGraceOver
  | reqKillGraceOver
  | socketsGone
  | wsGraceOver
  | engineStopped
deriving DecidableEq, Repr

namespace State

def init : State where
  pending := MAX_PENDING_WS
  sockets := []
  requests := []
  http := .serving
  stopping := false
  reqKill := false
  wsKill := false
  stop := .running
  reached := []

section Handlers

variable {δ : Type*} [DecidableEq δ] (digest : Text → δ) (auth : Auth δ)

/-- The extractors come first: an upgrade that offers no subprotocol of the server, or lacks a
header of a handshake, does not get as far as the permit. -/
def graphqlWs (s : State) (request : Request) : State × Response :=
  if request.protocol && request.handshake then
    let headerOk := auth.checkAuthorization digest request.authorization
    match s.pending with
    | 0 => (s, .tooManyPending)
    | pending + 1 =>
      ({ s with
        pending
        sockets := s.sockets ++ [⟨request.authorization, headerOk, none, true, .upgrading, none⟩] },
        .switchingProtocols)
  else (s, .badRequest)

/-- The middlewares of `/graphql` and its two routes. -/
def route (s : State) (request : Request) : State × Response :=
  if s.reqKill then (s, .shuttingDown)
  else if requireBearer digest auth request then
    match request.method with
    | .post =>
      ({ s with requests := s.requests ++ [⟨request.authorization, .polling s.stop⟩] }, .service)
    | .get =>
      if request.isWsUpgrade then s.graphqlWs digest auth request else (s, .badRequest)
    | .other => (s, .methodNotAllowed)
  else (s, .unauthorized)

end Handlers

def setSocket (s : State) (i : Nat) (socket : Socket) : State :=
  { s with sockets := s.sockets.set i socket }

/-- The socket's permit is dropped. -/
def release (s : State) (i : Nat) (socket : Socket) (pc : SocketPc) : State :=
  { s.setSocket i { socket with permit := false, pc } with
    pending := s.pending + socket.permit.toNat }

/-- Where the task goes once `serve` has returned. -/
def afterServe (s : State) : SocketPc := if s.stopping then .closing .away else .ended

def untracked (s : State) : Bool := s.sockets.all fun socket => !socket.tracked

def idle (s : State) : Bool := s.requests.all fun request => !request.running

section Step

variable {δ : Type*} [DecidableEq δ] (digest : Text → δ) (auth : Auth δ)

/-- A step of the task of a socket. -/
def socketStep (s : State) (i : Nat) (socket : Socket) : Action → Option State
  | .upgraded _ =>
    if socket.pc = .upgrading then some (s.setSocket i { socket with pc := .initializing })
    else none
  | .upgradeFailed _ => if socket.pc = .upgrading then some (s.release i socket .ended) else none
  | .pollSocket _ =>
    -- the inbound stream ends with the stop signal
    if socket.inServe ∧ socket.poll = none ∧ s.stopping = false then
      some (s.setSocket i { socket with poll := some s.stop })
    else none
  | .connectionInit _ token =>
    if socket.pc = .initializing ∧ socket.poll.isSome then
      some (s.release i { socket with token } .checking)
    else none
  | .checkInit _ =>
    -- `init_payload` accepts what either the header or the payload proves
    if socket.pc = .checking ∧ socket.poll.isSome then
      let payloadOk := socket.token.any (auth.checkToken digest ·)
      some (s.setSocket i
        { socket with pc := if socket.headerOk || payloadOk then .serving else .refused })
    else none
  | .operation _ =>
    match socket.pc, socket.poll with
    | .serving, some began => some { s with reached := s.reached ++ [.operation i began s.stop] }
    | _, _ => none
  | .yieldSocket _ =>
    if socket.poll.isSome then some (s.setSocket i { socket with poll := none }) else none
  | .serveReturns _ =>
    if socket.inServe ∧ socket.poll = none then some (s.release i socket s.afterServe) else none
  | .initDeadline _ =>
    if socket.pc = .initializing ∧ socket.poll = none then
      some (s.release i socket (.closing .policy))
    else none
  | .closeSent _ ok =>
    match socket.pc with
    | .closing _ => some (s.setSocket i { socket with pc := if ok then .draining else .ended })
    | _ => none
  | .drained _ =>
    if socket.pc = .draining then some (s.setSocket i { socket with pc := .ended }) else none
  | .killed _ =>
    -- the kill drops the task's future, which is not done in the middle of a poll
    if s.wsKill = true ∧ socket.tracked ∧ socket.poll = none then
      some (s.release i socket .ended)
    else none
  | _ => none

/-- A step of `stop_with` or of the HTTP server. -/
def stopStep (s : State) : Action → Option State
  | .httpEnds =>
    -- `with_graceful_shutdown` waits for every connection
    if s.http = .serving ∧ s.stopping = true ∧ s.idle then some { s with http := .ended } else none
  | .httpFails => if s.http = .serving then some { s with http := .failed } else none
  | .stopWith =>
    if s.stop = .running then some { s with stopping := true, stop := .httpGrace } else none
  | .joinHttp =>
    if (s.stop = .httpGrace ∨ s.stop = .reqKillGrace) ∧ s.http ≠ .serving then
      some { s with stop := .wsGrace }
    else none
  | .httpGraceOver =>
    if s.stop = .httpGrace ∧ s.http = .serving then
      some { s with reqKill := true, stop := .reqKillGrace }
    else none
  | .reqKillGraceOver =>
    if s.stop = .reqKillGrace ∧ s.http = .serving then
      some { s with http := .aborted, stop := .wsGrace }
    else none
  | .socketsGone =>
    if (s.stop = .wsGrace ∨ s.stop = .wsKilled) ∧ s.untracked then some { s with stop := .engine }
    else none
  | .wsGraceOver =>
    if s.stop = .wsGrace ∧ s.untracked = false then
      some { s with wsKill := true, stop := .wsKilled }
    else none
  | .engineStopped => if s.stop = .engine then some { s with stop := .done } else none
  | _ => none

def setRequest (s : State) (i : Nat) (request : Handled) (pc : HandledPc) : State :=
  { s with requests := s.requests.set i { request with pc } }

/-- A step of a request that the service handles. -/
def requestStep (s : State) (i : Nat) (request : Handled) : Action → Option State
  | .pollRequest _ =>
    -- the middleware's `select!` is biased towards the kill
    if request.pc = .waiting ∧ s.reqKill = false then
      some (s.setRequest i request (.polling s.stop))
    else none
  | .useRequest _ =>
    match request.pc with
    | .polling began => some { s with reached := s.reached ++ [.request i began s.stop] }
    | _ => none
  | .yieldRequest _ =>
    match request.pc with
    | .polling _ => some (s.setRequest i request .waiting)
    | _ => none
  | .respond _ streamed =>
    match request.pc with
    | .polling _ => some (s.setRequest i request (if streamed then .streaming else .finished))
    | _ => none
  | .cancelRequest _ =>
    if request.pc = .waiting ∧ s.reqKill = true then some (s.setRequest i request .finished)
    else none
  | .useBody _ =>
    if request.pc = .streaming then some { s with reached := s.reached ++ [.body i s.stop] }
    else none
  | .dropRequest _ =>
    if request.pc = .waiting ∨ request.pc = .streaming then
      some (s.setRequest i request .finished)
    else none
  | _ => none

def step (s : State) (a : Action) : Option State :=
  match a with
  | .request request => if s.http = .ended then none else some (s.route digest auth request).1
  | .pollRequest i | .useRequest i | .yieldRequest i | .respond i _ | .cancelRequest i | .useBody i
  | .dropRequest i => s.requests[i]?.bind fun r => s.requestStep i r a
  | .upgraded i | .upgradeFailed i | .pollSocket i | .connectionInit i _ | .checkInit i
  | .operation i | .yieldSocket i | .serveReturns i | .initDeadline i | .closeSent i _ | .drained i
  | .killed i =>
    s.sockets[i]?.bind fun socket => s.socketStep digest auth i socket a
  | a => s.stopStep a

end Step

end State

end Rsbtd.Server
