import Mathlib.Data.List.Basic
import Rsbtd.Text.Str
import Rsbtd.Transition.Runs

/-!
# The tray app's supervisor

A thread owns the daemon and takes commands from a queue; the UI thread sends them.
`κ` is what a configuration carries beside the token.  A step of the thread ends at
an await point, and `Daemon::start` and `stop_with` are answered by the step after
them.

`given`, `daemons` and `log` are histories that nothing reads.  The flush that a
checkpoint spawns is left out; `log` has the moment it is spawned.
-/

namespace Rsbtd.Supervisor

abbrev SocketAddr := String

structure Config (κ : Type*) where
  token : Option Text
  rest : κ
deriving DecidableEq, Repr

inductive IoErrorKind where
  | addrInUse | other
deriving DecidableEq, Repr

/-- An error with its chain of sources, `none` where a source is no I/O error. -/
structure BoxError where
  message : String
  sources : List (Option IoErrorKind)
deriving DecidableEq, Repr

/-- The first I/O error of the chain decides. -/
def isAddrInUse : List (Option IoErrorKind) → Bool
  | [] => false
  | some kind :: _ => kind = .addrInUse
  | none :: rest => isAddrInUse rest

inductive Cmd (κ : Type*) where
  | apply (config : Config κ)
  | checkpoint
  | quit
  | quitFast
deriving DecidableEq, Repr

inductive Status where
  | starting
  | running (addr : SocketAddr) (token : Option Text)
  | failed (message : String)
  | stopped
deriving DecidableEq, Repr

inductive Next (κ : Type*) where
  | apply (config : Config κ)
  | quit
  | quitFast
deriving DecidableEq, Repr

/-- Where the thread is; a daemon is its number. -/
inductive Pc (κ : Type*) where
  /-- Before the runtime is there. -/
  | booting (initial : Except String (Config κ))
  /-- No valid config yet. -/
  | waiting
  /-- In `start_with_retry`, in `Daemon::start`. -/
  | starting (config : Config κ) (attempts : Nat)
  | sleeping (config : Config κ) (attempts : Nat)
  | running (daemon : Nat) (config : Config κ)
  | stopping (daemon : Nat) (next : Next κ)
  /-- The start has failed for good. -/
  | failed
  /-- Out of the loop. -/
  | leaving
  | ended
deriving DecidableEq

structure Daemon (κ : Type*) where
  config : Config κ
  addr : SocketAddr

inductive Event where
  | attempt (attempts : Nat)
  | refused
  | started (daemon : Nat)
  | checkpoint (daemon : Nat)
  | stop (daemon : Nat) (fast : Bool)
  | stopped (daemon : Nat)
deriving DecidableEq, Repr

structure State (κ : Type*) where
  /-- The join handle is there to take. -/
  handle : Bool
  /-- The caller that took it waits in `join`. -/
  joining : Bool
  /-- The `Supervisor` has not been dropped. -/
  sender : Bool
  queue : List (Cmd κ)
  pc : Pc κ
  status : Status
  /-- The configurations given, the initial one first. -/
  given : List (Config κ)
  /-- The configurations that a start was begun with. -/
  tried : List (Config κ)
  daemons : List (Daemon κ)
  log : List Event

inductive Action (κ : Type*) where
  | apply (config : Config κ)
  | checkpoint
  | stopAndJoin (fast : Bool)
  | joinReturns
  | drop
  /-- The runtime starts, or fails with a message. -/
  | boot (result : Except String Unit)
  | recv
  | startReturns (result : Except BoxError SocketAddr)
  | sleepEnds
  | stopReturns
  | leave

def Action.thread {κ : Type*} : Action κ → Bool
  | joinReturns | boot _ | recv | startReturns _ | sleepEnds | stopReturns | leave => true
  | apply _ | checkpoint | stopAndJoin _ | drop => false

namespace State

variable {κ : Type*}

def spawn (initial : Except String (Config κ)) : State κ where
  handle := true
  joining := false
  sender := true
  queue := []
  pc := .booting initial
  status := .starting
  given := initial.toOption.toList
  tried := []
  daemons := []
  log := []

/-- The top of the loop with a config: the status, and the first attempt. -/
def begin (s : State κ) (config : Config κ) : State κ :=
  { s with
    pc := .starting config 0
    status := .starting
    tried := s.tried ++ [config]
    log := s.log ++ [.attempt 0] }

/-- A command is lost once the receiver is gone. -/
def send (s : State κ) (cmd : Cmd κ) : State κ :=
  match s.pc with
  | .ended => s
  | _ => { s with queue := s.queue ++ [cmd] }

/-- What the thread makes of a received command, `none` if the channel is closed. -/
def receive (s : State κ) (cmd : Option (Cmd κ)) : Option (State κ) :=
  match s.pc, cmd with
  | .waiting, some (.apply config) | .failed, some (.apply config) => some (s.begin config)
  -- nothing runs, so there is nothing to flush
  | .waiting, some .checkpoint | .failed, some .checkpoint => some s
  | .waiting, some .quit | .failed, some .quit => some { s with pc := .leaving }
  | .waiting, some .quitFast | .failed, some .quitFast => some { s with pc := .leaving }
  | .waiting, none | .failed, none => some { s with pc := .leaving }
  | .running daemon _, some .checkpoint => some { s with log := s.log ++ [.checkpoint daemon] }
  | .running daemon _, some (.apply config) =>
    some { s with pc := .stopping daemon (.apply config), log := s.log ++ [.stop daemon false] }
  | .running daemon _, some .quit | .running daemon _, none =>
    some { s with pc := .stopping daemon .quit, log := s.log ++ [.stop daemon false] }
  | .running daemon _, some .quitFast =>
    some { s with pc := .stopping daemon .quitFast, log := s.log ++ [.stop daemon true] }
  | _, _ => none

def recv (s : State κ) : Option (State κ) :=
  match s.queue with
  | cmd :: queue => { s with queue }.receive (some cmd)
  | [] => if s.sender then none else s.receive none

/-- `Daemon::start` has returned, in `start_with_retry`. -/
def startReturns (s : State κ) (config : Config κ) (attempts : Nat) :
    Except BoxError SocketAddr → State κ
  | .error e =>
    if attempts < 3 ∧ isAddrInUse e.sources = true then
      { s with pc := .sleeping config (attempts + 1), log := s.log ++ [.refused] }
    else { s with pc := .failed, status := .failed e.message, log := s.log ++ [.refused] }
  | .ok addr =>
    { s with
      pc := .running s.daemons.length config
      status := .running addr config.token
      daemons := s.daemons ++ [⟨config, addr⟩]
      log := s.log ++ [.started s.daemons.length] }

def step (s : State κ) : Action κ → Option (State κ)
  | .apply config =>
    if s.sender then some { s.send (.apply config) with given := s.given ++ [config] } else none
  | .checkpoint => if s.sender then some (s.send .checkpoint) else none
  | .stopAndJoin fast =>
    if s.sender then
      -- only the caller that takes the handle sends, and joins
      if s.handle then
        some { s.send (if fast then .quitFast else .quit) with handle := false, joining := true }
      else some s
    else none
  | .joinReturns =>
    match s.joining, s.pc with
    | true, .ended => some { s with joining := false }
    | _, _ => none
  | .drop => if s.sender ∧ s.joining = false then some { s with sender := false } else none
  | .boot result =>
    match s.pc, result with
    | .booting _, .error e =>
      some { s with pc := .ended, status := .failed ("cannot start the runtime: " ++ e) }
    | .booting (.ok config), .ok () => some (s.begin config)
    | .booting (.error e), .ok () => some { s with pc := .waiting, status := .failed e }
    | _, _ => none
  | .recv => s.recv
  | .startReturns result =>
    match s.pc with
    | .starting config attempts => some (s.startReturns config attempts result)
    | _ => none
  | .sleepEnds =>
    match s.pc with
    | .sleeping config attempts =>
      some { s with pc := .starting config attempts, log := s.log ++ [.attempt attempts] }
    | _ => none
  | .stopReturns =>
    match s.pc with
    | .stopping daemon (.apply config) =>
      some ({ s with log := s.log ++ [Event.stopped daemon] }.begin config)
    | .stopping daemon _ =>
      some { s with pc := .leaving, log := s.log ++ [.stopped daemon] }
    | _ => none
  | .leave =>
    match s.pc with
    | .leaving => some { s with pc := .ended, status := .stopped }
    | _ => none

end State

end Rsbtd.Supervisor
