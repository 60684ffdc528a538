import Rsbtd.Sync.Notify

/-!
# The alert stream

`Session::alerts`, `Alerts::next_batch`, `Alerts::try_next_batch` and the drop of
a receiver, with libtorrent's alert queue at the other end.  libtorrent posts
alerts from its own threads and calls the notify callback when the queue goes
from empty to non-empty, here at any time after the post.

A pop and the first poll of `notified()` are two steps, so an alert may come
between them.  A `next_batch` future is dropped only where it can be: before its
first poll, or while it waits.
-/

namespace Rsbtd.AlertStream

open Sync (Notify)

/-- Where a receiver and the future that borrows it are. -/
inductive Pc where
  /-- There is no future. -/
  | idle
  | popping
  /-- The pop was empty; `notified()` is polled next. -/
  | checking
  | waiting
  /-- The batch is freed, `alerts_taken` is not yet reset. -/
  | releasing
  | gone
deriving DecidableEq, Repr

structure State (α : Type*) where
  /-- libtorrent's queue. -/
  queue : List α
  /-- Notify callbacks that libtorrent has still to make. -/
  owed : Nat
  notify : Notify Nat
  alertsTaken : Bool
  receivers : List Pc
  /-- Every alert queued since the session was opened. -/
  posted : List α
  /-- The batches the callers got, in order. -/
  delivered : List (List α)
deriving DecidableEq, Repr

inductive Action (α : Type*) where
  | post (alert : α)
  | callback
  | alerts
  | nextBatch (i : Nat)
  | pop (i : Nat)
  /-- `ct_session_pop_alerts` reports an error. -/
  | popFails (i : Nat)
  | notified (i : Nat)
  /-- The future is dropped. -/
  | cancel (i : Nat)
  | tryNextBatch (i : Nat)
  | drop (i : Nat)
  | release (i : Nat)
deriving DecidableEq, Repr

namespace State

variable {α : Type*}

/-- `Session::new`, with what libtorrent has queued by then. -/
def opened (queue : List α) : State α where
  queue
  owed := 0
  notify := .empty
  alertsTaken := false
  receivers := []
  posted := queue
  delivered := []

def post (s : State α) (alert : α) : State α :=
  { s with
    queue := s.queue ++ [alert]
    posted := s.posted ++ [alert]
    owed := if s.queue.isEmpty then s.owed + 1 else s.owed }

def setPc (s : State α) (i : Nat) (pc : Pc) : State α :=
  { s with receivers := s.receivers.set i pc }

/-- `Alerts::pop`, and what the caller does about the number of alerts in it. -/
def pop (s : State α) (i : Nat) (none : Pc) : State α :=
  match s.queue with
  | [] => s.setPc i none
  | alert :: rest =>
    { s.setPc i .idle with queue := [], delivered := s.delivered ++ [alert :: rest] }

/-- `Session::alerts`; `none` is its assertion. -/
def alerts (s : State α) : Option (State α) :=
  if s.alertsTaken then none
  else some { s with alertsTaken := true, receivers := s.receivers ++ [.idle] }

def step (s : State α) : Action α → Option (State α)
  | .post alert => some (s.post alert)
  | .callback =>
    match s.owed with
    | 0 => none
    | owed + 1 => some { s with owed, notify := s.notify.notifyOne }
  | .alerts => s.alerts
  | .nextBatch i =>
    if s.receivers[i]? = some .idle then some (s.setPc i .popping) else none
  | .pop i =>
    if s.receivers[i]? = some .popping then some (s.pop i .checking) else none
  | .popFails i =>
    if s.receivers[i]? = some .popping then some (s.setPc i .idle) else none
  | .notified i =>
    let (notify, ready) := s.notify.poll i
    match s.receivers[i]? with
    | some .checking => some { s.setPc i (if ready then .popping else .waiting) with notify }
    | some .waiting =>
      -- a poll without a wakeup changes nothing
      if ready then some { s.setPc i .popping with notify } else none
    | _ => none
  | .cancel i =>
    match s.receivers[i]? with
    | some .popping => some (s.setPc i .idle)
    | some .waiting => some { s.setPc i .idle with notify := s.notify.cancel i }
    | _ => none
  | .tryNextBatch i =>
    if s.receivers[i]? = some .idle then some (s.pop i .idle) else none
  | .drop i =>
    if s.receivers[i]? = some .idle then some (s.setPc i .releasing) else none
  | .release i =>
    if s.receivers[i]? = some .releasing then
      some { s.setPc i .gone with alertsTaken := false }
    else none

end State

end Rsbtd.AlertStream
