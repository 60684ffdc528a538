import Mathlib.Data.List.Basic

/-!
# The unix socket of the API

`bind_unix`, `Bound::serve` and `Bound::close`, for any number of daemons that are
configured with one path.  The state is what is at the path and where each daemon
is; a system call is a step, and its result part of the action, so calls of
different daemons interleave.

A socket file is that of the daemon that bound it, or of a process that is gone.
-/

namespace Rsbtd.Listener

inductive Entry where
  | free
  | socket (owner : Option Nat)
  /-- Anything that is not a socket. -/
  | other
deriving DecidableEq, Repr

inductive ErrorKind where
  | addrInUse
  | alreadyExists
  | notFound
  | permissionDenied
  | otherKind
deriving DecidableEq, Repr

inductive Probe where
  | connected
  | notFound
  | connectionRefused
  | inconclusive (kind : ErrorKind)
deriving DecidableEq, Repr

inductive Pc where
  | starting
  /-- The probe was refused; `symlink_metadata` is next. -/
  | checking
  | removing
  | binding
  /-- The file is there; `listen` is next. -/
  | opening
  /-- Listening; `set_permissions` is next. -/
  | restricting
  /-- There is a `Bound`. -/
  | bound
  | serving
  /-- The shutdown signal has come, connections are still served. -/
  | draining
  /-- Before the `remove_file` of `serve` and `close`. -/
  | cleaning
  /-- `close` has removed the file, its `Bound` is dropped next. -/
  | dropping
  | ended
  | failed (kind : ErrorKind)
  | crashed
deriving DecidableEq, Repr

structure Daemon where
  pc : Pc
  /-- The listener exists. -/
  listening : Bool
deriving DecidableEq, Repr

structure State where
  entry : Entry
  daemons : List Daemon
deriving DecidableEq, Repr

inductive Action where
  | start
  | connect (i : Nat) (result : Probe)
  | check (i : Nat) (error : Option ErrorKind)
  | remove (i : Nat) (error : Option ErrorKind)
  | bind (i : Nat) (error : Option ErrorKind)
  | listen (i : Nat) (error : Option ErrorKind)
  | restrict (i : Nat) (error : Option ErrorKind)
  | serve (i : Nat)
  | close (i : Nat)
  | shutdown (i : Nat)
  | dropListener (i : Nat)
  | served (i : Nat)
  | removeOwn (i : Nat) (removed : Bool)
  | dropOwn (i : Nat)
  | crash (i : Nat)
deriving DecidableEq, Repr

namespace State

def initial (entry : Entry) : State := ⟨entry, []⟩

def setDaemon (s : State) (i : Nat) (pc : Pc) (listening : Bool) : State :=
  { s with daemons := s.daemons.set i ⟨pc, listening⟩ }

/-- Somebody accepts connections at the path. -/
def accepting (s : State) : Bool :=
  match s.entry with
  | .socket (some owner) => s.daemons[owner]?.any Daemon.listening
  | _ => false

/-- What `connect` can report.  The errors other than these two may always come. -/
def reports (s : State) : Probe → Bool
  | .connected => s.accepting || s.entry == .other
  | .notFound => s.entry == .free || s.entry == .other
  | .connectionRefused => !s.accepting && s.entry != .free
  | .inconclusive _ => true

/-- The arms of `bind_unix`'s match. -/
def probed (s : State) (i : Nat) : Probe → State
  | .connected => s.setDaemon i (.failed .addrInUse) false
  | .notFound => s.setDaemon i .binding false
  | .connectionRefused => s.setDaemon i .checking false
  | .inconclusive kind => s.setDaemon i (.failed kind) false

def check (s : State) (i : Nat) (error : Option ErrorKind) : State :=
  match s.entry, error with
  | .free, _ => s.setDaemon i (.failed .notFound) false
  | _, some kind => s.setDaemon i (.failed kind) false
  | .socket _, none => s.setDaemon i .removing false
  | .other, none => s.setDaemon i (.failed .alreadyExists) false

def remove (s : State) (i : Nat) (error : Option ErrorKind) : State :=
  match s.entry, error with
  -- somebody else has removed it
  | .free, _ => s.setDaemon i .binding false
  | _, none => { s.setDaemon i .binding false with entry := .free }
  | _, some kind => s.setDaemon i (.failed kind) false

def bind (s : State) (i : Nat) (error : Option ErrorKind) : State :=
  match error with
  | some kind => s.setDaemon i (.failed kind) false
  | none =>
    if s.entry = .free then { s.setDaemon i .opening false with entry := .socket (some i) }
    else s.setDaemon i (.failed .addrInUse) false

/-- A daemon that fails from here on leaves its file behind. -/
def listen (s : State) (i : Nat) (error : Option ErrorKind) : State :=
  match error with
  | some kind => s.setDaemon i (.failed kind) false
  | none => s.setDaemon i .restricting true

/-- The `remove_file` of `close`, which has the listener still, or of `serve`. -/
def removeOwn (s : State) (i : Nat) (listening removed : Bool) : State :=
  { s.setDaemon i (if listening then .dropping else .ended) listening with
    entry := if removed then .free else s.entry }

def step (s : State) : Action → Option State
  | .start => some { s with daemons := s.daemons ++ [⟨.starting, false⟩] }
  | .connect i result =>
    if s.daemons[i]? = some ⟨.starting, false⟩ ∧ s.reports result = true then
      some (s.probed i result)
    else none
  | .check i error =>
    if s.daemons[i]? = some ⟨.checking, false⟩ then some (s.check i error) else none
  | .remove i error =>
    if s.daemons[i]? = some ⟨.removing, false⟩ then some (s.remove i error) else none
  | .bind i error =>
    if s.daemons[i]? = some ⟨.binding, false⟩ then some (s.bind i error) else none
  | .listen i error =>
    if s.daemons[i]? = some ⟨.opening, false⟩ then some (s.listen i error) else none
  | .restrict i error =>
    if s.daemons[i]? = some ⟨.restricting, true⟩ then
      match error with
      | none => if s.entry = .free then none else some (s.setDaemon i .bound true)
      -- the listener is dropped with the error, its file stays
      | some kind => some (s.setDaemon i (.failed kind) false)
    else none
  | .serve i =>
    if s.daemons[i]? = some ⟨.bound, true⟩ then some (s.setDaemon i .serving true) else none
  | .close i =>
    if s.daemons[i]? = some ⟨.bound, true⟩ then some (s.setDaemon i .cleaning true) else none
  | .shutdown i =>
    if s.daemons[i]? = some ⟨.serving, true⟩ then some (s.setDaemon i .draining true) else none
  | .dropListener i =>
    if s.daemons[i]? = some ⟨.draining, true⟩ then some (s.setDaemon i .draining false) else none
  | .served i =>
    match s.daemons[i]? with
    | some ⟨.serving, true⟩ | some ⟨.draining, _⟩ => some (s.setDaemon i .cleaning false)
    | _ => none
  | .removeOwn i removed =>
    match s.daemons[i]? with
    | some ⟨.cleaning, listening⟩ => some (s.removeOwn i listening removed)
    | _ => none
  | .dropOwn i =>
    if s.daemons[i]? = some ⟨.dropping, true⟩ then some (s.setDaemon i .ended false) else none
  | .crash i =>
    match s.daemons[i]? with
    | some ⟨.ended, _⟩ | some ⟨.failed _, _⟩ | some ⟨.crashed, _⟩ | none => none
    | some _ => some (s.setDaemon i .crashed false)

end State

end Rsbtd.Listener
