import Rsbtd.Transition.Decreasing
import Rsbtd.Verified.Admission

/-!
# The engine stops last

`Ordered` is what `stop_with` keeps in every state, as long as the server task does
not fail by itself.  The one task that the tracker cannot see is an upgrade that
has not completed; when it does, its inbound stream has ended, so it is never
initialized.  The tracker waits for a socket that is in a poll, and so does the server
for a request; a server that is aborted no longer waits.

The uses of the engine and the polls of the requests aside, every step from the stop
signal on lowers `remaining`, and `stop_with` is never stuck: its timers cover the server
and the sockets, and the kill covers what ignores them.
-/

namespace Rsbtd.Server

open Api (Auth)
open Transition (Run Settles exec exists_run_of_exec)

variable {δ : Type*} [DecidableEq δ] {digest : Text → δ} {auth : Auth δ} {s t : State}

/-- The socket is past its init and in `serve`. -/
def Socket.inSession (socket : Socket) : Bool :=
  match socket.pc with
  | .checking | .serving | .refused => true
  | _ => false

/-- The socket does nothing for its peer any more. -/
def Socket.quiet (socket : Socket) : Bool := !socket.inSession && socket.poll.isNone

/-- `stop_with` is done with the HTTP server. -/
def StopPc.pastHttp : StopPc → Bool
  | wsGrace | wsKilled | engine | done => true
  | _ => false

/-- The requests have not been killed. -/
def StopPc.beforeKill : StopPc → Bool
  | running | httpGrace => true
  | _ => false

/-- How late an entry may be. -/
def Reached.Timely : Reached → Prop
  | .request _ began _ => began.beforeKill = true
  | .body .. => True
  | .operation _ began stop => began = .running ∧ stop.engineDown = false

structure State.Ordered (s : State) : Prop where
  stopping : s.stopping = true ↔ s.stop ≠ .running
  killed : s.stop = .reqKillGrace → s.reqKill = true
  ended : s.http = .ended → s.stopping = true ∧ s.idle = true
  aborted : s.http = .aborted → s.reqKill = true
  past : s.stop.pastHttp = true → s.http ≠ .serving
  polls : ∀ socket ∈ s.sockets, ∀ began, socket.poll = some began → began = .running
  requests : ∀ request ∈ s.requests, ∀ began, request.pc = .polling began → began.beforeKill = true
  gone : s.stop.engineDown = true → ∀ socket ∈ s.sockets, socket.quiet = true
  timely : ∀ entry ∈ s.reached, entry.Timely
  before : s.http ≠ .aborted → ∀ entry ∈ s.reached, entry.stop.engineDown = false

theorem StopPc.pastHttp_of_engineDown {stop : StopPc} (down : stop.engineDown = true) :
    stop.pastHttp = true := by
  cases stop <;> simp_all [StopPc.engineDown, StopPc.pastHttp]

theorem idle_iff : s.idle = true ↔ ∀ request ∈ s.requests, request.running = false := by
  simp [State.idle]

theorem ordered_init : State.init.Ordered where
  stopping := by simp [State.init]
  killed := by simp [State.init]
  ended := by simp [State.init]
  aborted := by simp [State.init]
  past := by simp [State.init, StopPc.pastHttp]
  polls := by simp [State.init]
  requests := by simp [State.init]
  gone := by simp [State.init]
  timely := by simp [State.init]
  before := by simp [State.init]

theorem quiet_of_untracked {socket : Socket} (sound : socket.Sound digest auth)
    (untracked : socket.tracked = false) : socket.quiet = true := by
  have outside : socket.inSession = false ∧ socket.inServe = false := by
    unfold Socket.tracked at untracked
    unfold Socket.inSession Socket.inServe
    cases pc : socket.pc <;> simp_all
  have between : socket.poll = none := by
    by_contra polled
    rw [sound.polled (Option.isSome_iff_ne_none.mpr polled)] at outside
    cases outside.2
  simp [Socket.quiet, outside.1, between]

theorem State.Ordered.stopped (ordered : s.Ordered) (guarded : s.Guarded digest auth)
    (move : StopMove s t) (up : t.http ≠ .failed) : t.Ordered := by
  cases move with
  | httpEnds serving stopping idle =>
    exact { ordered with
      ended := fun _ => ⟨stopping, idle⟩, aborted := by simp, past := by simp
      before := fun _ => ordered.before (by simp [serving]) }
  | httpFails => exact absurd rfl up
  | stopWith here =>
    -- before the signal the server has not ended, and no grace is over
    have notStopping : s.stopping = false := by
      have := ordered.stopping
      simp_all
    refine { ordered with
      stopping := by simp, killed := by simp, ended := fun ended => ?_
      past := by simp [StopPc.pastHttp], gone := by simp [StopPc.engineDown] }
    rw [(ordered.ended ended).1] at notStopping
    cases notStopping
  | joinHttp here gone =>
    have stopping : s.stop ≠ .running := by rcases here with here | here <;> simp [here]
    exact { ordered with
      stopping := by simp [ordered.stopping.mpr stopping], killed := by simp
      past := fun _ => gone, gone := by simp [StopPc.engineDown] }
  | httpGraceOver here serving =>
    have stopping : s.stop ≠ .running := by simp [here]
    exact { ordered with
      stopping := by simp [ordered.stopping.mpr stopping], killed := fun _ => rfl
      aborted := fun _ => rfl, past := by simp [StopPc.pastHttp]
      gone := by simp [StopPc.engineDown] }
  | reqKillGraceOver here serving =>
    have stopping : s.stop ≠ .running := by simp [here]
    exact { ordered with
      stopping := by simp [ordered.stopping.mpr stopping], killed := by simp
      ended := by simp, aborted := fun _ => ordered.killed here
      past := by simp, gone := by simp [StopPc.engineDown]
      before := fun alive => absurd rfl alive }
  | socketsGone here gone =>
    have stopping : s.stop ≠ .running := by rcases here with here | here <;> simp [here]
    refine { ordered with
      stopping := by simp [ordered.stopping.mpr stopping], killed := by simp
      past := fun _ => ordered.past ?_, gone := fun _ socket member => ?_ }
    · rcases here with here | here <;> simp [here, StopPc.pastHttp]
    · -- an upgrade that has not completed is not in the tracker either
      obtain ⟨i, present⟩ := List.mem_iff_getElem?.mp member
      exact quiet_of_untracked (guarded.sockets i socket present)
        (by simpa using List.all_eq_true.mp gone socket member)
  | wsGraceOver here left =>
    have stopping : s.stop ≠ .running := by simp [here]
    exact { ordered with
      stopping := by simp [ordered.stopping.mpr stopping], killed := by simp
      past := fun _ => ordered.past (by simp [here, StopPc.pastHttp])
      gone := by simp [StopPc.engineDown] }
  | engineStopped here =>
    have stopping : s.stop ≠ .running := by simp [here]
    exact { ordered with
      stopping := by simp [ordered.stopping.mpr stopping], killed := by simp
      past := fun _ => ordered.past (by simp [here, StopPc.pastHttp])
      gone := fun _ => ordered.gone (by simp [here, StopPc.engineDown]) }

/-- With the stop signalled, no socket that is quiet is woken any more. -/
theorem SocketMove.quiet {socket socket' : Socket}
    (move : SocketMove digest auth s socket socket') (stopping : s.stopping = true)
    (quiet : socket.quiet = true) : socket'.quiet = true := by
  simp only [Socket.quiet, Bool.and_eq_true, Bool.not_eq_true', Option.isNone_iff_eq_none]
    at quiet ⊢
  obtain ⟨outside, between⟩ := quiet
  cases move with
  | upgraded => exact ⟨rfl, between⟩
  | polled _ open_ =>
    rw [stopping] at open_
    cases open_
  | yielded => exact ⟨outside, rfl⟩
  -- an init is read in a poll, and a quiet socket is in none
  | init _ _ polled =>
    rw [between] at polled
    cases polled
  | accepted here | refused here => simp [Socket.inSession, here] at outside
  | @left pc _ low | @closed pc low =>
    refine ⟨?_, between⟩
    cases pc <;> simp_all [Socket.inSession, SocketPc.rank]

/-- A poll that is begun is begun before the stop signal. -/
theorem SocketMove.poll {socket socket' : Socket} {began : StopPc}
    (move : SocketMove digest auth s socket socket') (polled : socket'.poll = some began) :
    socket.poll = some began ∨ (began = s.stop ∧ s.stopping = false) := by
  cases move with
  | polled _ open_ => exact .inr ⟨(Option.some.inj polled).symm, open_⟩
  | yielded => cases polled
  | _ => exact .inl polled

/-- As long as the requests are not killed and the server is not through with them, `stop_with`
waits for it. -/
theorem State.Ordered.beforeKill (ordered : s.Ordered) (up : s.http ≠ .failed)
    (alive : s.http = .ended → s.idle = false) (notKilled : s.reqKill = false) :
    s.stop.beforeKill = true := by
  -- past its grace `stop_with` has waited for the server to end, or has aborted it
  have early : s.stop.pastHttp = false := by
    by_contra past
    cases http : s.http with
    | serving => exact ordered.past (Bool.of_not_eq_false past) http
    | ended =>
      have running := alive http
      rw [(ordered.ended http).2] at running
      cases running
    | aborted =>
      rw [ordered.aborted http] at notKilled
      cases notKilled
    | failed => exact up http
  cases stop : s.stop with
  | running | httpGrace => rfl
  | reqKillGrace =>
    rw [ordered.killed stop] at notKilled
    cases notKilled
  | wsGrace | wsKilled | engine | done => simp [stop, StopPc.pastHttp] at early

theorem not_idle {i : Nat} {request : Handled} (present : s.requests[i]? = some request)
    (running : request.running = true) : s.idle = false := by
  by_contra idle
  have finished := idle_iff.mp (Bool.of_not_eq_false idle) request (List.mem_of_getElem? present)
  rw [running] at finished
  cases finished

theorem RequestMove.running {request : Handled} {advances : Bool} {pc : HandledPc}
    (move : RequestMove s request advances pc) : request.running = true := by
  cases move with
  | polled here | yielded here | streams here => simp [Handled.running, here]
  | finished running => exact running

/-- What a use of the engine can be, in a state that `stop_with` keeps in order. -/
theorem Uses.timely {entry : Reached} (uses : Uses s entry) (ordered : s.Ordered)
    (up : s.http ≠ .failed) :
    entry.Timely ∧ (s.http ≠ .aborted → entry.stop.engineDown = false) := by
  -- the server is not through with a request that uses the engine
  have served {i : Nat} {request : Handled} (present : s.requests[i]? = some request)
      (running : request.running = true) (whole : s.http ≠ .aborted) :
      s.stop.engineDown = false := by
    by_contra down
    have past := ordered.past (StopPc.pastHttp_of_engineDown (Bool.of_not_eq_false down))
    cases http : s.http with
    | serving => exact past http
    | ended =>
      have idle := (ordered.ended http).2
      rw [not_idle present running] at idle
      cases idle
    | aborted => exact whole http
    | failed => exact up http
  cases uses with
  | request present here =>
    exact ⟨ordered.requests _ (List.mem_of_getElem? present) _ here,
      served present (by simp [Handled.running, here])⟩
  | body present here => exact ⟨trivial, served present (by simp [Handled.running, here])⟩
  | @operation i socket began present here polled =>
    have member := List.mem_of_getElem? present
    have early : s.stop.engineDown = false := by
      by_contra down
      have quiet := ordered.gone (Bool.of_not_eq_false down) socket member
      simp [Socket.quiet, polled] at quiet
    exact ⟨⟨ordered.polls socket member began polled, early⟩, fun _ => early⟩

theorem State.Ordered.worked {advances : Bool} (ordered : s.Ordered)
    (guarded : s.Guarded digest auth) (work : Work digest auth s advances t)
    (up : t.http ≠ .failed) : t.Ordered := by
  cases work with
  | @socket i pending socket socket' present moved balance =>
    have member := List.mem_of_getElem? present
    refine { ordered with
      polls := fun other found began polled => ?_, gone := fun down other found => ?_ }
    · obtain old | rfl := List.mem_or_eq_of_mem_set found
      · exact ordered.polls other old began polled
      · obtain before | ⟨rfl, open_⟩ := moved.poll polled
        · exact ordered.polls socket member began before
        · by_contra stopping
          rw [ordered.stopping.mpr stopping] at open_
          cases open_
    · -- the engine is only stopped after the signal, and no poll is begun any more
      have stopping : s.stopping = true := by
        apply ordered.stopping.mpr
        rintro running
        rw [State.setSocket, running] at down
        cases down
      obtain old | rfl := List.mem_or_eq_of_mem_set found
      · exact ordered.gone down other old
      · exact moved.quiet stopping (ordered.gone down socket member)
  | @request i request _ pc present moved =>
    have member := List.mem_of_getElem? present
    refine { ordered with
      ended := fun ended => ?_, requests := fun other found began here => ?_ }
    · -- the server does not end before its requests do
      have idle := (ordered.ended ended).2
      rw [not_idle present moved.running] at idle
      cases idle
    · obtain old | rfl := List.mem_or_eq_of_mem_set found
      · exact ordered.requests other old began here
      · cases moved with
        | polled waiting notKilled =>
          obtain ⟨⟩ := here
          exact ordered.beforeKill up
            (fun _ => not_idle present (by simp [Handled.running, waiting])) notKilled
        | yielded | streams | finished => cases here
  | @uses entry uses =>
    obtain ⟨timely, before⟩ := uses.timely ordered up
    refine { ordered with
      timely := fun other member => ?_, before := fun whole other member => ?_ }
    · obtain old | new := List.mem_append.mp member
      · exact ordered.timely other old
      · obtain rfl := List.mem_singleton.mp new
        exact timely
    · obtain old | new := List.mem_append.mp member
      · exact ordered.before whole other old
      · obtain rfl := List.mem_singleton.mp new
        exact before whole
  | stop moved => exact ordered.stopped guarded moved up

theorem Work.http {advances : Bool} (work : Work digest auth s advances t)
    (up : t.http ≠ .failed) : s.http ≠ .failed := by
  intro failed
  cases work with
  | stop moved => cases moved <;> simp_all
  | _ => exact up failed

theorem State.Ordered.move (ordered : s.Ordered) (guarded : s.Guarded digest auth)
    (move : Move digest auth s t) (up : t.http ≠ .failed) : t.Ordered := by
  cases move with
  | refused => exact ordered
  | admitted request alive notKilled free =>
    refine { ordered with
      polls := fun socket member began polled => ?_, gone := fun down socket member => ?_ }
    · obtain old | new := List.mem_append.mp member
      · exact ordered.polls socket old began polled
      · obtain rfl := List.mem_singleton.mp new
        cases polled
    · obtain old | new := List.mem_append.mp member
      · exact ordered.gone down socket old
      · obtain rfl := List.mem_singleton.mp new
        rfl
  | handled header alive notKilled accepted =>
    refine { ordered with
      ended := fun ended => absurd ended alive
      requests := fun request member began here => ?_ }
    obtain old | new := List.mem_append.mp member
    · exact ordered.requests request old began here
    · obtain rfl := List.mem_singleton.mp new
      obtain ⟨⟩ := here
      exact ordered.beforeKill up (fun ended => absurd ended alive) notKilled
  | work done => exact ordered.worked guarded done up

theorem Move.http (move : Move digest auth s t) (up : t.http ≠ .failed) : s.http ≠ .failed := by
  cases move with
  | work done => exact done.http up
  | _ => exact up

theorem ordered_run {ok : State → Action → Prop} (run : Run (State.step digest auth) ok .init s)
    (up : s.http ≠ .failed) : s.Ordered := by
  revert up
  refine (run.invariant (I := fun s => s.Guarded digest auth ∧ (s.http ≠ .failed → s.Ordered))
    ⟨guarded_init, fun _ => ordered_init⟩ ?_).2
  intro s a t _ ⟨guarded, ih⟩ _ stepped
  -- a server that has not failed had not failed before
  have move := step_move stepped
  exact ⟨guarded.move move, fun up => (ih (move.http up)).move guarded move up⟩

/-- The engine stops last.  A socket reaches it only in a poll begun before the stop signal, and a
request only in one begun before the kill.  Once the engine is being stopped no socket is in a
session or a poll, and nothing reaches the engine unless the server had to be aborted. -/
theorem engine_stops_last {ok : State → Action → Prop}
    (run : Run (State.step digest auth) ok .init s) (up : s.http ≠ .failed) :
    (∀ i began stop, .operation i began stop ∈ s.reached →
        began = .running ∧ stop.engineDown = false) ∧
      (∀ i began stop, .request i began stop ∈ s.reached →
        began = .running ∨ began = .httpGrace) ∧
      (s.http ≠ .aborted → ∀ entry ∈ s.reached, entry.stop.engineDown = false) ∧
      (s.stop.engineDown = true →
        ∀ socket ∈ s.sockets, socket.inSession = false ∧ socket.poll = none) := by
  have ordered := ordered_run run up
  refine ⟨fun i began stop member => ordered.timely _ member, fun i began stop member => ?_,
    ordered.before, fun down socket member => ?_⟩
  · have early : began.beforeKill = true := ordered.timely _ member
    cases began with
    | running => exact .inl rfl
    | httpGrace => exact .inr rfl
    | reqKillGrace | wsGrace | wsKilled | engine | done => cases early
  · simpa [Socket.quiet] using ordered.gone down socket member

/-- A request and an operation are in a poll when the stop signal comes, and reach the engine after
it; the body of a streamed response reaches the engine while it is being stopped. -/
theorem engine_stops_last_streamed :
    ∃ s : State, s.reached = [.request 0 .running .httpGrace, .operation 0 .running .httpGrace,
        .body 0 .engine] ∧ s.http = .aborted ∧
      ∀ socket ∈ s.sockets, socket.inSession = false ∧ socket.poll = none := by
  have replayed : (exec (State.step id (Auth.new id none)) (fun _ _ => true) .init
      [.request ⟨.post, none, none, false, false⟩,
        .request ⟨.get, some "websocket".toList, none, true, true⟩, .upgraded 0, .pollSocket 0,
        .connectionInit 0 none, .checkInit 0, .stopWith, .useRequest 0, .respond 0 true,
        .operation 0, .yieldSocket 0, .httpGraceOver, .reqKillGraceOver, .wsGraceOver, .killed 0,
        .socketsGone, .useBody 0]).map
      (fun s => decide (s.reached = [.request 0 .running .httpGrace,
        .operation 0 .running .httpGrace, .body 0 .engine]) && (decide (s.http = .aborted) &&
        s.stop.engineDown)) = some true := by
    decide +kernel
  obtain ⟨s, run, found⟩ := exists_run_of_exec replayed
  obtain ⟨reached, found⟩ := Bool.and_eq_true_iff.mp found
  obtain ⟨aborted, down⟩ := Bool.and_eq_true_iff.mp found
  have aborted := of_decide_eq_true aborted
  exact ⟨s, of_decide_eq_true reached, aborted,
    (engine_stops_last run (by simp [aborted])).2.2.2 down⟩

/-! ## Nothing hangs -/

def Action.internal : Action → Bool
  | .request _ => false
  | _ => true

def StopPc.rank : StopPc → Nat
  | running => 6
  | httpGrace => 5
  | reqKillGrace => 4
  | wsGrace => 3
  | wsKilled => 2
  | engine => 1
  | done => 0

def HttpServer.rank : HttpServer → Nat
  | serving => 1
  | ended | aborted | failed => 0

def HandledPc.rank : HandledPc → Nat
  | polling _ | waiting => 2
  | streaming => 1
  | finished => 0

/-- The end of a poll is a step of its own. -/
def Socket.rank (socket : Socket) : Nat := 2 * socket.pc.rank + socket.poll.isSome.toNat

/-- How many steps are left at most, of those that advance. -/
def State.remaining (s : State) : Nat :=
  s.stop.rank + s.http.rank + (s.requests.map fun request => request.pc.rank).sum +
    (s.sockets.map Socket.rank).sum

theorem SocketMove.rank_lt {socket socket' : Socket}
    (move : SocketMove digest auth s socket socket') (stopping : s.stopping = true) :
    socket'.rank < socket.rank := by
  cases move with
  | polled _ open_ =>
    rw [stopping] at open_
    cases open_
  | yielded polled => simp [Socket.rank, polled]
  | upgraded here | init _ here _ | accepted here _ | refused here =>
    simp [Socket.rank, here, SocketPc.rank]
  | left _ _ lower | closed _ lower _ =>
    simp only [Socket.rank]
    omega

theorem RequestMove.rank_le {request : Handled} {advances : Bool} {pc : HandledPc}
    (move : RequestMove s request advances pc) : advances.toNat + pc.rank ≤ request.pc.rank := by
  cases move with
  | polled here | yielded here | streams here => simp [here, HandledPc.rank]
  | finished running =>
    cases here : request.pc <;> simp_all [Handled.running, HandledPc.rank]

theorem StopMove.remaining_lt (move : StopMove s t) (stopping : s.stop ≠ .running) :
    t.remaining < s.remaining := by
  cases move with
  | stopWith here => exact absurd here stopping
  | httpEnds serving | httpFails serving => simp [State.remaining, serving, HttpServer.rank]
  | joinHttp here gone =>
    rcases here with here | here <;> simp [State.remaining, here, StopPc.rank]
  | httpGraceOver here serving | reqKillGraceOver here serving =>
    simp [State.remaining, here, serving, StopPc.rank, HttpServer.rank]
  | socketsGone here =>
    rcases here with here | here <;> simp [State.remaining, here, StopPc.rank]
  | wsGraceOver here | engineStopped here => simp [State.remaining, here, StopPc.rank]

theorem Work.remaining_le {advances : Bool} (work : Work digest auth s advances t)
    (stopping : s.stopping = true) (called : s.stop ≠ .running) :
    advances.toNat + t.remaining ≤ s.remaining := by
  cases work with
  | @socket i pending socket socket' present moved balance =>
    -- one socket comes nearer to its end, the others stay where they are
    have lower := moved.rank_lt stopping
    have sum := Transition.sum_set Socket.rank present socket'
    simp only [State.remaining, State.setSocket, Bool.toNat_true] at sum ⊢
    omega
  | @request i request _ pc present moved =>
    have lower := moved.rank_le
    -- a poll that begins or ends leaves the request as far as it was
    have sum := Transition.sum_set (fun request : Handled => request.pc.rank) present
      { request with pc }
    simp only [State.remaining, State.setRequest] at sum ⊢
    omega
  | uses => simp [State.remaining]
  | stop moved =>
    have lower := moved.remaining_lt called
    simp only [Bool.toNat_true]
    omega

/-- `stop_with` has been called. -/
def State.Called (s : State) : Prop := s.stopping = true ∧ s.stop ≠ .running

theorem State.Called.work {advances : Bool} (called : s.Called)
    (work : Work digest auth s advances t) : t.Called := by
  obtain ⟨stopping, past⟩ := called
  cases work with
  | stop moved => cases moved <;> simp_all [State.Called]
  | _ => exact ⟨stopping, past⟩

/-- Some step of `stop_with`, or of a socket it waits for, is enabled. -/
theorem State.Called.enabled (called : s.Called) (unfinished : s.stop ≠ .done)
    (killed : s.stop = .wsKilled → s.wsKill = true) :
    ∃ a t, a.internal = true ∧ a.advances = true ∧ s.step digest auth a = some t := by
  cases stop : s.stop with
  | running => exact absurd stop called.2
  | httpGrace =>
    by_cases serving : s.http = .serving
    · exact ⟨.httpGraceOver, _, rfl, rfl, if_pos ⟨stop, serving⟩⟩
    · exact ⟨.joinHttp, _, rfl, rfl, if_pos ⟨.inl stop, serving⟩⟩
  | reqKillGrace =>
    by_cases serving : s.http = .serving
    · exact ⟨.reqKillGraceOver, _, rfl, rfl, if_pos ⟨stop, serving⟩⟩
    · exact ⟨.joinHttp, _, rfl, rfl, if_pos ⟨.inr stop, serving⟩⟩
  | wsGrace =>
    cases gone : s.untracked with
    | true => exact ⟨.socketsGone, _, rfl, rfl, if_pos ⟨.inl stop, gone⟩⟩
    | false => exact ⟨.wsGraceOver, _, rfl, rfl, if_pos ⟨stop, gone⟩⟩
  | wsKilled =>
    cases gone : s.untracked with
    | true => exact ⟨.socketsGone, _, rfl, rfl, if_pos ⟨.inr stop, gone⟩⟩
    | false =>
      -- a socket that is left ends its poll, and sees the kill at the next one
      obtain ⟨socket, member, tracked⟩ := List.all_eq_false.mp gone
      obtain ⟨i, present⟩ := List.mem_iff_getElem?.mp member
      have alive : socket.tracked = true := by simpa using tracked
      cases polled : socket.poll with
      | some began =>
        refine ⟨.yieldSocket i, s.setSocket i { socket with poll := none }, rfl, rfl, ?_⟩
        simp [State.step, present, State.socketStep, polled]
      | none =>
        refine ⟨.killed i, s.release i socket .ended, rfl, rfl, ?_⟩
        simp [State.step, present, State.socketStep, killed stop, alive, polled]
  | engine => exact ⟨.engineStopped, _, rfl, rfl, if_pos stop⟩
  | done => exact absurd stop unfinished

theorem settles : Settles (State.step digest auth) (fun _ a => a.internal) Action.advances
    (fun s => s.Called ∧ (s.stop = .wsKilled → s.wsKill = true)) State.remaining
    (fun s => s.stop = .done) where
  kept s a t called internal stepped := by
    obtain ⟨advances, work⟩ : ∃ advances, Work digest auth s advances t :=
      ⟨_, step_work stepped (by rintro request rfl; cases internal)⟩
    refine ⟨called.1.work work, ?_⟩
    have killed := called.2
    cases work with
    | stop moved => cases moved <;> simp_all
    | _ => exact killed
  lowers s a t called internal stepped :=
    (step_work stepped (by rintro request rfl; cases internal)).remaining_le called.1.1 called.1.2
  enabled s called unfinished := called.1.enabled unfinished called.2

/-- What `stop_with` needs of a state it can be in. -/
theorem killed_run {ok : State → Action → Prop} (run : Run (State.step digest auth) ok .init s) :
    (s.stop = .wsKilled → s.wsKill = true) ∧ (s.stopping = true → s.stop ≠ .running) := by
  refine run.invariant (I := fun s => (s.stop = .wsKilled → s.wsKill = true) ∧
    (s.stopping = true → s.stop ≠ .running)) (by simp [State.init]) ?_
  intro s a t _ kept _ stepped
  cases step_move stepped with
  | work done =>
    cases done with
    | stop moved => cases moved <;> simp_all
    | _ => exact kept
  | _ => exact kept

/-- From the stop signal on, as long as no request comes in, every order of the steps takes at most
`remaining` of those that advance; and where none of these is left the engine is stopped. -/
theorem stop_with_returns {ok : State → Action → Prop}
    (run : Run (State.step digest auth) ok .init s) (stopping : s.stopping = true) :
    ∀ as t, exec (State.step digest auth) (fun _ a => a.internal) s as = some t →
      as.countP Action.advances ≤ s.remaining ∧
        ((∀ a, a.internal = true → a.advances = true → t.step digest auth a = none) →
          t.stop = .done) := by
  obtain ⟨killed, called⟩ := killed_run run
  have start : s.Called ∧ (s.stop = .wsKilled → s.wsKill = true) :=
    ⟨⟨stopping, called stopping⟩, killed⟩
  intro as t replayed
  exact ⟨settles.countP_le start replayed, settles.final_of_stuck start replayed⟩

/-- A socket that is in a poll and a request that is polled again are both cut off. -/
theorem stop_with_returns_socket : ∃ s t : State, s.sockets.length = 1 ∧ s.requests.length = 1 ∧
    t.stop = .done ∧
    exec (State.step id (Auth.new id none)) (fun _ a => a.internal) s
      [.pollRequest 0, .useRequest 0, .operation 0, .yieldRequest 0, .httpGraceOver,
        .cancelRequest 0, .httpEnds, .joinHttp, .wsGraceOver, .yieldSocket 0, .killed 0,
        .socketsGone, .engineStopped] = some t ∧ 9 ≤ s.remaining := by
  have replayed : (exec (State.step id (Auth.new id none)) (fun _ _ => true) .init
      [.request ⟨.get, some "websocket".toList, none, true, true⟩, .upgraded 0, .pollSocket 0,
        .connectionInit 0 none, .checkInit 0, .request ⟨.post, none, none, false, false⟩,
        .yieldRequest 0, .stopWith]).map
      (fun s => (decide (s.sockets.length = 1) && decide (s.requests.length = 1)) &&
        s.stopping && (exec (State.step id (Auth.new id none)) (fun _ a => a.internal) s
          [.pollRequest 0, .useRequest 0, .operation 0, .yieldRequest 0, .httpGraceOver,
            .cancelRequest 0, .httpEnds, .joinHttp, .wsGraceOver, .yieldSocket 0, .killed 0,
            .socketsGone, .engineStopped]).any (·.stop = .done)) = some true := by
    decide +kernel
  obtain ⟨s, run, found⟩ := exists_run_of_exec replayed
  obtain ⟨found, rest⟩ := Bool.and_eq_true_iff.mp found
  obtain ⟨single, stopping⟩ := Bool.and_eq_true_iff.mp found
  obtain ⟨sockets, requests⟩ := Bool.and_eq_true_iff.mp single
  obtain ⟨t, reached, done⟩ := (Option.any_eq_true _ _).mp rest
  exact ⟨s, t, of_decide_eq_true sockets, of_decide_eq_true requests, of_decide_eq_true done,
    reached, (stop_with_returns run stopping _ t reached).1⟩

end Rsbtd.Server
