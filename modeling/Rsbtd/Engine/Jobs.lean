import Mathlib.Data.List.Basic
import Mathlib.Logic.Function.Basic
import Rsbtd.Transition.Runs

/-!
# Torrent-creation jobs

`JobManager` starts a blocking worker for each job, and keeps an entry with the
job's watch channel and cancel flag.  A `Job` is these two cells and the worker
that shares them; it outlives its entry, since subscribers hold the channel too.

The critical sections of the `jobs` mutex that are not one access to a job are
split up: `Critical` is the task that holds it and how far it has come.  The
worker and the subscribers need no lock.  What the bindings and the file system
answer a worker is given by its step.  Histories that no task reads:
`Job.winners` and `State.results`.
-/

namespace Rsbtd.Jobs

open Transition (Run)

/-- How long a finished job stays queryable, in seconds. -/
def JOB_TTL : Nat := 3600

inductive JobState where
  | listing | hashing | finished | failed | cancelled
deriving DecidableEq, Repr

def JobState.isTerminal : JobState → Bool
  | finished | failed | cancelled => true
  | listing | hashing => false

abbrev Bytes := List UInt8

structure JobSnapshot where
  id : Nat
  state : JobState
  piecesDone : Nat
  piecesTotal : Nat
  error : Option String
  torrent : Option Bytes
  outputPath : Option String
deriving DecidableEq, Repr

/-- Where `build` can fail, with the error it is given. -/
inductive BuildFailure where
  | listFiles (e : String)
  | createTorrent (e : String)
  | addTracker (url e : String)
  | addUrlSeed (url e : String)
  | setComment (e : String)
  | setCreator (e : String)
  | hashing (e : String)
  | generate (e : String)
deriving DecidableEq, Repr

def BuildFailure.message : BuildFailure → String
  | listFiles e => "cannot list files: " ++ e
  | createTorrent e => "cannot create torrent: " ++ e
  | addTracker url e => "cannot add tracker " ++ url ++ ": " ++ e
  | addUrlSeed url e => "cannot add url seed " ++ url ++ ": " ++ e
  | setComment e | setCreator e => e
  | hashing e => "hashing failed: " ++ e
  | generate e => "cannot generate: " ++ e

def writeFailure (path e : String) : String := "cannot write " ++ path ++ ": " ++ e

/-- Where a worker is: in `build` up to `built`, then in `run_job`. -/
inductive Worker where
  | listing
  | hashing
  /-- In the progress callback, before it reads the cancel flag. -/
  | progressed
  | built (result : Except String Bytes)
  /-- The cancel flag was not set. -/
  | publishing (result : Except String Bytes)
  | written (path : String) (result : Except String Unit)
  /-- A concurrent cancel won; the output is removed. -/
  | discarding
  | returning
  | ended
deriving DecidableEq

inductive WorkerStep where
  | prepared (result : Except BuildFailure Nat)
  | piece (index : Nat)
  /-- `e` is what the hashing of a cancelled job fails with. -/
  | checkPiece (e : String)
  | hashed (result : Except BuildFailure Bytes)
  | checkCancel
  | writeAtomic (result : Except String Unit)
  | commit
  | removeFile
  | finish
deriving DecidableEq

/-- Who committed the terminal state. -/
inductive Winner where
  | worker
  | cancel (call : Nat)
  | cancelAll (call : Nat)
deriving DecidableEq, Repr

structure Job where
  snapshot : JobSnapshot
  /-- The version of the watch channel's value. -/
  version : Nat
  cancel : Bool
  worker : Worker
  terminalSeen : Option Nat
  winners : List Winner
deriving DecidableEq

namespace Job

def initial (id : Nat) (outputPath : Option String) : Job where
  snapshot := ⟨id, .listing, 0, 0, none, none, outputPath⟩
  version := 0
  cancel := false
  worker := .listing
  terminalSeen := none
  winners := []

def terminal (j : Job) : Bool := j.snapshot.state.isTerminal

/-- `send_if_modified` with a closure that leaves a terminal snapshot alone. -/
def progress (j : Job) (apply : JobSnapshot → JobSnapshot) : Job :=
  if j.terminal then j
  else { j with snapshot := apply j.snapshot, version := j.version + 1 }

/-- `commit_terminal`, and whether this commit won. -/
def commitTerminal (j : Job) (apply : JobSnapshot → JobSnapshot) (winner : Winner) : Job × Bool :=
  if j.terminal then (j, false)
  else ({ j with
    snapshot := apply j.snapshot
    version := j.version + 1
    winners := j.winners ++ [winner] }, true)

def commitCancelled (j : Job) (winner : Winner) : Job × Bool :=
  j.commitTerminal (fun s => { s with state := .cancelled }) winner

def commitFailed (j : Job) (message : String) : Job :=
  (j.commitTerminal (fun s => { s with state := .failed, error := some message }) .worker).1

/-- One step of `run_job`. -/
def work (j : Job) : WorkerStep → Option Job
  | .prepared result =>
    if j.worker = .listing then
      match result with
      | .error e => some { j with worker := .built (.error e.message) }
      | .ok total =>
        some { j.progress (fun s => { s with state := .hashing, piecesTotal := total }) with
          worker := .hashing }
    else none
  | .piece index =>
    if j.worker = .hashing then
      some { j.progress (fun s => { s with piecesDone := index + 1 }) with worker := .progressed }
    else none
  | .checkPiece e =>
    if j.worker = .progressed then
      if j.cancel then some { j with worker := .built (.error (BuildFailure.hashing e).message) }
      else some { j with worker := .hashing }
    else none
  | .hashed result =>
    if j.worker = .hashing then
      some { j with worker := .built (result.mapError BuildFailure.message) }
    else none
  | .checkCancel =>
    match j.worker with
    | .built result =>
      if j.cancel then some { j with worker := .returning }
      else some { j with worker := .publishing result }
    | _ => none
  | .writeAtomic result =>
    match j.worker, j.snapshot.outputPath with
    | .publishing (.ok _), some path => some { j with worker := .written path result }
    | _, _ => none
  | .commit =>
    match j.worker with
    | .publishing (.ok bytes) =>
      if j.snapshot.outputPath = none then
        let (j, _) := j.commitTerminal (fun s =>
          { s with state := .finished, piecesDone := s.piecesTotal, torrent := some bytes }) .worker
        some { j with worker := .returning }
      else none
    | .publishing (.error message) => some { j.commitFailed message with worker := .returning }
    | .written _ (.ok _) =>
      let (j, finished) := j.commitTerminal (fun s =>
        { s with state := .finished, piecesDone := s.piecesTotal }) .worker
      some { j with worker := if finished then .returning else .discarding }
    | .written path (.error e) =>
      some { j.commitFailed (writeFailure path e) with worker := .returning }
    | _ => none
  | .removeFile => if j.worker = .discarding then some { j with worker := .returning } else none
  | .finish => if j.worker = .returning then some { j with worker := .ended } else none

/-- Whether `prune` keeps the job, and the job with its end state observed. -/
def retain (j : Job) (now : Nat) : Job × Bool :=
  if !j.terminal then (j, true)
  else if j.worker ≠ .ended then (j, true)
  else match j.terminalSeen with
    | none => ({ j with terminalSeen := some now }, true)
    | some seen => (j, decide (now - seen < JOB_TTL))

end Job

/-! ## The manager and the subscribers -/

/-- The task that holds the `jobs` mutex. -/
inductive Critical where
  /-- `prune` with the jobs it has yet to visit, in `start` of a job or in a query. -/
  | prune (now : Nat) (rest : List Nat) (start : Option Nat)
  /-- `cancel` has stored the flag. -/
  | cancel (call id : Nat)
  | cancelAll (call : Nat) (rest : List Nat)
  /-- `cancel_all` has stored the flag of a job. -/
  | cancelAllStored (call id : Nat) (rest : List Nat)
deriving DecidableEq, Repr

/-- The state of a `createJobProgress` stream. -/
inductive St where
  | yielding
  | waiting
  | done
  /-- The stream has returned `None`. -/
  | ended
deriving DecidableEq, Repr

structure Progress where
  job : Nat
  /-- The version its receiver has seen. -/
  seen : Nat
  st : St
  yielded : List JobSnapshot
deriving DecidableEq, Repr

structure State where
  jobs : Nat → Option Job
  /-- The keys of the `jobs` map. -/
  entries : List Nat
  nextId : Nat
  stopping : Bool
  /-- The output paths of the `start` calls that have an id and wait for the mutex. -/
  starts : Nat → Option (Option String)
  lock : Option Critical
  nextCall : Nat
  /-- The job and the result of each `cancel` call that has returned. -/
  results : Nat → Option (Nat × Bool)
  streams : List Progress

inductive Action where
  /-- `start` up to the id; its source exists. -/
  | start (outputPath : Option String)
  | enterStart (id now : Nat)
  | enterPrune (now : Nat)
  /-- The holder of the mutex turns to a job. -/
  | visit (id : Nat)
  /-- The holder of the mutex commits the cancellation it has stored. -/
  | commit
  /-- The holder of the mutex has visited every job. -/
  | leave
  | cancel (id : Nat)
  | cancelAll
  | work (id : Nat) (step : WorkerStep)
  | subscribe (id : Nat)
  | borrow (stream : Nat)
  | changed (stream : Nat)
  | poll (stream : Nat)

namespace State

def init : State where
  jobs := fun _ => none
  entries := []
  nextId := 0
  stopping := false
  starts := fun _ => none
  lock := none
  nextCall := 0
  results := fun _ => none
  streams := []

def setJob (s : State) (id : Nat) (j : Job) : State :=
  { s with jobs := Function.update s.jobs id (some j) }

/-- `job.cancel.store(true)`. -/
def storeCancel (s : State) (id : Nat) (j : Job) : State := s.setJob id { j with cancel := true }

/-- All senders of the job's channel are gone: its entry and its worker. -/
def closed (s : State) (id : Nat) (j : Job) : Bool :=
  !s.entries.contains id && j.worker = .ended

def visit (s : State) (id : Nat) : Option State :=
  (s.jobs id).bind fun j =>
    match s.lock with
    | some (.prune now rest start) =>
      if id ∈ rest then
        let (j, kept) := j.retain now
        some { s.setJob id j with
          entries := if kept then s.entries else s.entries.erase id
          lock := some (.prune now (rest.erase id) start) }
      else none
    | some (.cancelAll call rest) =>
      if id ∈ rest then
        some { s.storeCancel id j with lock := some (.cancelAllStored call id (rest.erase id)) }
      else none
    | _ => none

def commit (s : State) : Option State :=
  match s.lock with
  | some (.cancel call id) =>
    (s.jobs id).map fun j =>
      let (j, won) := j.commitCancelled (.cancel call)
      { s.setJob id j with
        results := Function.update s.results call (some (id, won)), lock := none }
  | some (.cancelAllStored call id rest) =>
    (s.jobs id).map fun j =>
      { s.setJob id (j.commitCancelled (.cancelAll call)).1 with lock := some (.cancelAll call rest) }
  | _ => none

def leave (s : State) : Option State :=
  match s.lock with
  | some (.prune _ [] none) => some { s with lock := none }
  | some (.prune _ [] (some id)) =>
    (s.starts id).map fun outputPath =>
      { s.setJob id (.initial id outputPath) with
        entries := s.entries ++ [id]
        starts := Function.update s.starts id none
        lock := none }
  | some (.cancelAll _ []) => some { s with lock := none }
  | _ => none

def setStream (s : State) (n : Nat) (p : Progress) : State :=
  { s with streams := s.streams.set n p }

def step (s : State) : Action → Option State
  | .start outputPath =>
    let id := s.nextId + 1
    some { s with nextId := id, starts := Function.update s.starts id (some outputPath) }
  | .enterStart id now =>
    if s.lock = none ∧ (s.starts id).isSome then
      if s.stopping then
        -- the call returns `ShuttingDown`
        some { s with starts := Function.update s.starts id none }
      else some { s with lock := some (.prune now s.entries (some id)) }
    else none
  | .enterPrune now =>
    if s.lock = none then some { s with lock := some (.prune now s.entries none) } else none
  | .visit id => s.visit id
  | .commit => s.commit
  | .leave => s.leave
  | .cancel id =>
    if s.lock = none then
      let call := s.nextCall
      match s.entries.contains id, s.jobs id with
      | true, some j =>
        some { s.storeCancel id j with lock := some (.cancel call id), nextCall := call + 1 }
      | _, _ =>
        some { s with
          results := Function.update s.results call (some (id, false)), nextCall := call + 1 }
    else none
  | .cancelAll =>
    if s.lock = none then
      some { s with
        stopping := true
        lock := some (.cancelAll s.nextCall s.entries)
        nextCall := s.nextCall + 1 }
    else none
  | .work id step => (s.jobs id).bind fun j => (j.work step).map fun j => s.setJob id j
  | .subscribe id =>
    if s.lock = none ∧ id ∈ s.entries then
      (s.jobs id).map fun j => { s with streams := s.streams ++ [⟨id, j.version, .yielding, []⟩] }
    else none
  | .borrow n =>
    s.streams[n]?.bind fun p =>
      if p.st = .yielding then
        (s.jobs p.job).map fun j =>
          s.setStream n { p with
            seen := j.version
            st := if j.terminal then .done else .waiting
            yielded := p.yielded ++ [j.snapshot] }
      else none
  | .changed n =>
    s.streams[n]?.bind fun p =>
      if p.st = .waiting then
        (s.jobs p.job).bind fun j =>
          if j.version ≠ p.seen then some (s.setStream n { p with seen := j.version, st := .yielding })
          else if s.closed p.job j then some (s.setStream n { p with st := .ended })
          else none
      else none
  | .poll n =>
    s.streams[n]?.bind fun p =>
      if p.st = .done then some (s.setStream n { p with st := .ended }) else none

end State

end Rsbtd.Jobs
