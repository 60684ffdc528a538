import Rsbtd.Api.Server
import Rsbtd.Transition.Pool

/-!
# Who gets in

`SocketMove` is what a step can do to a socket and `Move` what it can do to the
server.  The free permits and the sockets that await their init add up in every
state, so none is lost on the way out of an upgrade, whichever way that is.  What
reaches the engine came with the token: in the header of its request, in the header
of its socket's upgrade or in the socket's init.
-/

namespace Rsbtd.Server

open Api (Auth Request requireBearer)
open Transition (Run exec exists_run_of_exec)

variable {δ : Type*} [DecidableEq δ] {digest : Text → δ} {auth : Auth δ}

/-! ## The steps -/

/-- The socket awaits its `connection_init`. -/
def Socket.awaiting (socket : Socket) : Bool :=
  match socket.pc with
  | .upgrading | .initializing => true
  | _ => false

def SocketPc.rank : SocketPc → Nat
  | upgrading => 7
  | initializing => 6
  | checking => 5
  | serving | refused => 4
  | closing _ => 3
  | draining => 2
  | ended => 0

/-- The init was accepted by what the socket has presented. -/
def Socket.accepted (digest : Text → δ) (auth : Auth δ) (socket : Socket) : Bool :=
  socket.headerOk || socket.token.any (auth.checkToken digest ·)

inductive SocketMove (digest : Text → δ) (auth : Auth δ) (s : State) (socket : Socket) :
    Socket → Prop where
  | upgraded : socket.pc = .upgrading →
      SocketMove digest auth s socket { socket with pc := .initializing }
  | polled : socket.inServe = true → s.stopping = false →
      SocketMove digest auth s socket { socket with poll := some s.stop }
  | yielded : socket.poll.isSome = true →
      SocketMove digest auth s socket { socket with poll := none }
  | init (token : Option Text) : socket.pc = .initializing → socket.poll.isSome = true →
      SocketMove digest auth s socket { socket with token, permit := false, pc := .checking }
  | accepted : socket.pc = .checking → socket.accepted digest auth = true →
      SocketMove digest auth s socket { socket with pc := .serving }
  | refused : socket.pc = .checking →
      SocketMove digest auth s socket { socket with pc := .refused }
  /-- Out of `serve`, or out of the task. -/
  | left {pc : SocketPc} : socket.poll = none ∨ socket.inServe = false → pc.rank ≤ 3 →
      pc.rank < socket.pc.rank →
      SocketMove digest auth s socket { socket with permit := false, pc }
  /-- In the close handshake. -/
  | closed {pc : SocketPc} : pc.rank ≤ 2 → pc.rank < socket.pc.rank → socket.pc.rank ≤ 3 →
      SocketMove digest auth s socket { socket with pc }

/-- What the steps of `stop_with` and of the HTTP server change. -/
inductive StopMove (s : State) : State → Prop where
  | httpEnds : s.http = .serving → s.stopping = true → s.idle = true →
      StopMove s { s with http := .ended }
  | httpFails : s.http = .serving → StopMove s { s with http := .failed }
  | stopWith : s.stop = .running → StopMove s { s with stopping := true, stop := .httpGrace }
  | joinHttp : s.stop = .httpGrace ∨ s.stop = .reqKillGrace → s.http ≠ .serving →
      StopMove s { s with stop := .wsGrace }
  | httpGraceOver : s.stop = .httpGrace → s.http = .serving →
      StopMove s { s with reqKill := true, stop := .reqKillGrace }
  | reqKillGraceOver : s.stop = .reqKillGrace → s.http = .serving →
      StopMove s { s with http := .aborted, stop := .wsGrace }
  | socketsGone : s.stop = .wsGrace ∨ s.stop = .wsKilled → s.untracked = true →
      StopMove s { s with stop := .engine }
  | wsGraceOver : s.stop = .wsGrace → s.untracked = false →
      StopMove s { s with wsKill := true, stop := .wsKilled }
  | engineStopped : s.stop = .engine → StopMove s { s with stop := .done }

/-- The step brings its task, or `stop_with`, further; a poll of a request and a use of the engine
do not. -/
def Action.advances : Action → Bool
  | .pollRequest _ | .useRequest _ | .yieldRequest _ | .useBody _ | .operation _ => false
  | _ => true

/-- Where a request goes, and whether that is further. -/
inductive RequestMove (s : State) (request : Handled) : Bool → HandledPc → Prop where
  | polled : request.pc = .waiting → s.reqKill = false →
      RequestMove s request false (.polling s.stop)
  | yielded {began : StopPc} : request.pc = .polling began → RequestMove s request false .waiting
  | streams {began : StopPc} : request.pc = .polling began → RequestMove s request true .streaming
  | finished : request.running = true → RequestMove s request true .finished

/-- The engine is used, in a poll or for a body. -/
inductive Uses (s : State) : Reached → Prop where
  | request {i : Nat} {request : Handled} {began : StopPc} : s.requests[i]? = some request →
      request.pc = .polling began → Uses s (.request i began s.stop)
  | body {i : Nat} {request : Handled} : s.requests[i]? = some request →
      request.pc = .streaming → Uses s (.body i s.stop)
  | operation {i : Nat} {socket : Socket} {began : StopPc} : s.sockets[i]? = some socket →
      socket.pc = .serving → socket.poll = some began → Uses s (.operation i began s.stop)

/-- The steps of tasks that are already there. -/
inductive Work (digest : Text → δ) (auth : Auth δ) (s : State) : Bool → State → Prop where
  | socket {i pending : Nat} {socket socket' : Socket} : s.sockets[i]? = some socket →
      SocketMove digest auth s socket socket' →
      pending + socket'.permit.toNat = s.pending + socket.permit.toNat →
      Work digest auth s true { s.setSocket i socket' with pending }
  | request {i : Nat} {request : Handled} {advances : Bool} {pc : HandledPc} :
      s.requests[i]? = some request → RequestMove s request advances pc →
      Work digest auth s advances (s.setRequest i request pc)
  | uses {entry : Reached} : Uses s entry →
      Work digest auth s false { s with reached := s.reached ++ [entry] }
  | stop {t : State} : StopMove s t → Work digest auth s true t

inductive Move (digest : Text → δ) (auth : Auth δ) (s : State) : State → Prop where
  | refused : Move digest auth s s
  | admitted (request : Request) {pending : Nat} : s.http ≠ .ended → s.reqKill = false →
      s.pending = pending + 1 →
      Move digest auth s { s with
        pending
        sockets := s.sockets ++ [⟨request.authorization,
          auth.checkAuthorization digest request.authorization, none, true, .upgrading, none⟩] }
  | handled (header : Option Text) : s.http ≠ .ended → s.reqKill = false →
      auth.checkAuthorization digest header = true →
      Move digest auth s { s with requests := s.requests ++ [⟨header, .polling s.stop⟩] }
  | work {advances : Bool} {t : State} : Work digest auth s advances t → Move digest auth s t

section Inversion

variable {s t : State} {i : Nat} {socket : Socket} {a : Action}

theorem route_move (request : Request) (alive : s.http ≠ .ended) :
    Move digest auth s (s.route digest auth request).1 := by
  unfold State.route
  split
  · exact .refused
  case isFalse notKilled =>
    have notKilled : s.reqKill = false := by simpa using notKilled
    split
    case isTrue allowed =>
      cases method : request.method with
      | post =>
        rw [Api.requireBearer_of_post method] at allowed
        exact .handled _ alive notKilled allowed
      | get =>
        simp only
        split
        · unfold State.graphqlWs
          split
          · cases free : s.pending with
            | zero => exact .refused
            | succ pending => exact .admitted request alive notKilled free
          · exact .refused
        · exact .refused
      | other => exact .refused
    · exact .refused

/-- A step that drops the permit. -/
theorem release_work (present : s.sockets[i]? = some socket) {socket' : Socket} {pc : SocketPc}
    (same : socket'.permit = socket.permit)
    (moved : SocketMove digest auth s socket { socket' with permit := false, pc }) :
    Work digest auth s true (s.release i socket' pc) := by
  -- what the permit was worth goes back to the semaphore
  have work := @Work.socket _ _ digest auth s i (s.pending + socket.permit.toNat) socket _
    present moved (by simp)
  rw [← same] at work
  exact work

theorem set_work (present : s.sockets[i]? = some socket) {socket' : Socket}
    (same : socket'.permit = socket.permit) (moved : SocketMove digest auth s socket socket') :
    Work digest auth s true (s.setSocket i socket') :=
  @Work.socket _ _ digest auth s i s.pending socket socket' present moved (by rw [same])

theorem rank_afterServe : s.afterServe.rank ≤ 3 := by
  unfold State.afterServe
  split <;> simp [SocketPc.rank]

theorem rank_inServe (inside : socket.inServe = true) : 4 ≤ socket.pc.rank := by
  unfold Socket.inServe at inside
  cases pc : socket.pc <;> simp_all [SocketPc.rank]

theorem rank_tracked (tracked : socket.tracked = true) : 2 ≤ socket.pc.rank := by
  unfold Socket.tracked at tracked
  cases pc : socket.pc <;> simp_all [SocketPc.rank]

theorem socketStep_work (present : s.sockets[i]? = some socket)
    (stepped : s.socketStep digest auth i socket a = some t) :
    Work digest auth s a.advances t := by
  cases a with
  | upgraded =>
    obtain ⟨here, ⟨⟩⟩ := Option.ite_none_right_eq_some.mp stepped
    exact set_work present rfl (.upgraded here)
  | upgradeFailed =>
    obtain ⟨here, ⟨⟩⟩ := Option.ite_none_right_eq_some.mp stepped
    exact release_work present rfl (.left (.inr (by simp [Socket.inServe, here]))
      (by simp [SocketPc.rank]) (by simp [here, SocketPc.rank]))
  | pollSocket =>
    obtain ⟨⟨inside, -, open_⟩, ⟨⟩⟩ := Option.ite_none_right_eq_some.mp stepped
    exact set_work present rfl (.polled inside open_)
  | connectionInit _ token =>
    obtain ⟨⟨here, polled⟩, ⟨⟩⟩ := Option.ite_none_right_eq_some.mp stepped
    exact release_work present rfl (.init token here polled)
  | checkInit =>
    obtain ⟨⟨here, -⟩, ⟨⟩⟩ := Option.ite_none_right_eq_some.mp stepped
    refine set_work present (by rfl) ?_
    split
    case isTrue accepted => exact .accepted here accepted
    case isFalse => exact .refused here
  | operation =>
    simp only [State.socketStep] at stepped
    split at stepped
    case h_1 began here polled =>
      obtain ⟨⟩ := stepped
      exact .uses (.operation present here polled)
    case h_2 => cases stepped
  | yieldSocket =>
    obtain ⟨polled, ⟨⟩⟩ := Option.ite_none_right_eq_some.mp stepped
    exact set_work present rfl (.yielded polled)
  | serveReturns =>
    obtain ⟨⟨inside, between⟩, ⟨⟩⟩ := Option.ite_none_right_eq_some.mp stepped
    -- Where a socket goes after `serve` is below where `serve` was.
    have low := rank_afterServe (s := s)
    have high := rank_inServe inside
    exact release_work present rfl (.left (.inl between) low (by omega))
  | initDeadline =>
    obtain ⟨⟨here, between⟩, ⟨⟩⟩ := Option.ite_none_right_eq_some.mp stepped
    exact release_work present rfl (.left (.inl between) (by simp [SocketPc.rank])
      (by simp [here, SocketPc.rank]))
  | closeSent _ ok =>
    simp only [State.socketStep] at stepped
    split at stepped
    case h_1 code here =>
      obtain ⟨⟩ := stepped
      refine set_work present (by rfl) ?_
      cases ok <;> exact .closed (by simp [SocketPc.rank]) (by simp [here, SocketPc.rank])
        (by simp [here, SocketPc.rank])
    case h_2 => cases stepped
  | drained =>
    obtain ⟨here, ⟨⟩⟩ := Option.ite_none_right_eq_some.mp stepped
    exact set_work present rfl (.closed (by simp [SocketPc.rank]) (by simp [here, SocketPc.rank])
      (by simp [here, SocketPc.rank]))
  | killed =>
    obtain ⟨⟨-, tracked, between⟩, ⟨⟩⟩ := Option.ite_none_right_eq_some.mp stepped
    have high := rank_tracked tracked
    exact release_work present rfl (.left (.inl between) (by simp [SocketPc.rank])
      (by rw [SocketPc.rank]; omega))
  | request | pollRequest | useRequest | yieldRequest | respond | cancelRequest | useBody
  | dropRequest | httpEnds | httpFails | stopWith | joinHttp | httpGraceOver | reqKillGraceOver
  | socketsGone | wsGraceOver | engineStopped => cases stepped

theorem stopStep_work (stepped : s.stopStep a = some t) :
    Work digest auth s a.advances t := by
  cases a with
  | httpEnds =>
    obtain ⟨⟨serving, stopping, idle⟩, ⟨⟩⟩ := Option.ite_none_right_eq_some.mp stepped
    exact .stop (.httpEnds serving stopping idle)
  | httpFails =>
    obtain ⟨serving, ⟨⟩⟩ := Option.ite_none_right_eq_some.mp stepped
    exact .stop (.httpFails serving)
  | stopWith =>
    obtain ⟨here, ⟨⟩⟩ := Option.ite_none_right_eq_some.mp stepped
    exact .stop (.stopWith here)
  | joinHttp =>
    obtain ⟨⟨here, gone⟩, ⟨⟩⟩ := Option.ite_none_right_eq_some.mp stepped
    exact .stop (.joinHttp here gone)
  | httpGraceOver =>
    obtain ⟨⟨here, serving⟩, ⟨⟩⟩ := Option.ite_none_right_eq_some.mp stepped
    exact .stop (.httpGraceOver here serving)
  | reqKillGraceOver =>
    obtain ⟨⟨here, serving⟩, ⟨⟩⟩ := Option.ite_none_right_eq_some.mp stepped
    exact .stop (.reqKillGraceOver here serving)
  | socketsGone =>
    obtain ⟨⟨here, gone⟩, ⟨⟩⟩ := Option.ite_none_right_eq_some.mp stepped
    exact .stop (.socketsGone here gone)
  | wsGraceOver =>
    obtain ⟨⟨here, left⟩, ⟨⟩⟩ := Option.ite_none_right_eq_some.mp stepped
    exact .stop (.wsGraceOver here left)
  | engineStopped =>
    obtain ⟨here, ⟨⟩⟩ := Option.ite_none_right_eq_some.mp stepped
    exact .stop (.engineStopped here)
  | _ => cases stepped

theorem requestStep_work {request : Handled} (present : s.requests[i]? = some request)
    (stepped : s.requestStep i request a = some t) : Work digest auth s a.advances t := by
  have running {pc : HandledPc} (here : request.pc = pc) (before : pc ≠ .finished) :
      request.running = true := by simp [Handled.running, here, before]
  cases a with
  | pollRequest =>
    obtain ⟨⟨here, alive⟩, ⟨⟩⟩ := Option.ite_none_right_eq_some.mp stepped
    exact .request present (.polled here alive)
  | useRequest =>
    simp only [State.requestStep] at stepped
    split at stepped
    case h_1 began here =>
      obtain ⟨⟩ := stepped
      exact .uses (.request present here)
    case h_2 => cases stepped
  | yieldRequest =>
    simp only [State.requestStep] at stepped
    split at stepped
    case h_1 began here =>
      obtain ⟨⟩ := stepped
      exact .request present (.yielded here)
    case h_2 => cases stepped
  | respond _ streamed =>
    simp only [State.requestStep] at stepped
    split at stepped
    case h_1 began here =>
      obtain ⟨⟩ := stepped
      cases streamed with
      | true => exact .request present (.streams here)
      | false => exact .request present (.finished (running here (by simp)))
    case h_2 => cases stepped
  | cancelRequest =>
    obtain ⟨⟨here, -⟩, ⟨⟩⟩ := Option.ite_none_right_eq_some.mp stepped
    exact .request present (.finished (running here (by simp)))
  | useBody =>
    obtain ⟨here, ⟨⟩⟩ := Option.ite_none_right_eq_some.mp stepped
    exact .uses (.body present here)
  | dropRequest =>
    obtain ⟨here | here, ⟨⟩⟩ := Option.ite_none_right_eq_some.mp stepped
    · exact .request present (.finished (running here (by simp)))
    · exact .request present (.finished (running here (by simp)))
  | _ => cases stepped

theorem step_work (stepped : s.step digest auth a = some t)
    (work : ∀ request, a ≠ .request request) : Work digest auth s a.advances t := by
  unfold State.step at stepped
  split at stepped
  case h_1 request => exact absurd rfl (work request)
  case h_21 => exact stopStep_work stepped
  all_goals obtain ⟨found, present, stepped⟩ := Option.bind_eq_some_iff.mp stepped
  case h_2 | h_3 | h_4 | h_5 | h_6 | h_7 | h_8 => exact requestStep_work present stepped
  -- what is left are the steps of a socket
  all_goals exact socketStep_work present stepped

theorem step_move (stepped : s.step digest auth a = some t) : Move digest auth s t := by
  cases a with
  | request request =>
    simp only [State.step] at stepped
    split at stepped
    case isTrue => cases stepped
    case isFalse alive =>
      obtain ⟨⟩ := stepped
      exact route_move request alive
  | _ => exact .work (step_work stepped (by simp))

end Inversion

/-! ## Sockets -/

structure Socket.Sound (digest : Text → δ) (auth : Auth δ) (socket : Socket) : Prop where
  permit : socket.permit = socket.awaiting
  polled : socket.poll.isSome = true → socket.inServe = true
  header : socket.headerOk = auth.checkAuthorization digest socket.authorization
  serving : socket.pc = .serving → socket.accepted digest auth = true

section Sockets

variable {s : State} {socket socket' : Socket}

theorem awaiting_of_rank (low : socket.pc.rank ≤ 5) : socket.awaiting = false := by
  unfold Socket.awaiting
  cases pc : socket.pc <;> simp_all [SocketPc.rank]

theorem poll_eq_none_of_rank (sound : socket.Sound digest auth) (low : socket.pc.rank ≤ 3) :
    socket.poll = none := by
  by_contra polled
  have high := rank_inServe (sound.polled (Option.isSome_iff_ne_none.mpr polled))
  omega

theorem SocketMove.sound (move : SocketMove digest auth s socket socket')
    (sound : socket.Sound digest auth) : socket'.Sound digest auth := by
  have header := sound.header
  cases move with
  | upgraded here =>
    exact ⟨by simpa [Socket.awaiting, here] using sound.permit, fun _ => rfl, header, by simp⟩
  | polled inside => exact ⟨sound.permit, fun _ => inside, header, sound.serving⟩
  | yielded => exact ⟨sound.permit, by simp, header, sound.serving⟩
  | init token here polled => exact ⟨rfl, fun _ => rfl, header, by simp⟩
  | accepted here accepted =>
    exact ⟨by simpa [Socket.awaiting, here] using sound.permit, fun _ => rfl, header,
      fun _ => accepted⟩
  | refused here =>
    exact ⟨by simpa [Socket.awaiting, here] using sound.permit, fun _ => rfl, header, by simp⟩
  | left between low lower =>
    -- a task leaves `serve` between two polls, and is in none outside of it
    have unpolled : socket.poll = none := by
      refine between.elim id fun outside => ?_
      by_contra polled
      rw [sound.polled (Option.isSome_iff_ne_none.mpr polled)] at outside
      cases outside
    refine ⟨(awaiting_of_rank (by simp only; omega)).symm, by simp [unpolled], header, ?_⟩
    rintro ⟨⟩
    simp [SocketPc.rank] at low
  | closed low lower handshake =>
    -- nobody awaits the init in the close handshake
    have before : socket.awaiting = false := awaiting_of_rank (by omega)
    refine ⟨?_, by simp [poll_eq_none_of_rank sound handshake], header, ?_⟩
    · rw [awaiting_of_rank (by simp only; omega)]
      exact sound.permit.trans before
    · rintro ⟨⟩
      simp [SocketPc.rank] at low

/-- Past its init, what a socket has presented stays as it is. -/
theorem SocketMove.past (move : SocketMove digest auth s socket socket')
    (past : socket.pc.rank ≤ 4) :
    socket'.pc.rank ≤ 4 ∧ socket'.accepted digest auth = socket.accepted digest auth := by
  cases move with
  | upgraded here | init _ here _ | accepted here _ | refused here =>
    simp [here, SocketPc.rank] at past
  | polled | yielded => exact ⟨past, rfl⟩
  | left between low lower => exact ⟨by simp only; omega, rfl⟩
  | closed low lower handshake => exact ⟨by simp only; omega, rfl⟩

end Sockets

/-! ## Every run -/

/-- What was let through to the engine. -/
def Reached.Authorized (digest : Text → δ) (auth : Auth δ) (s : State) : Reached → Prop
  | .request i _ _ | .body i _ => ∃ request, s.requests[i]? = some request ∧
      auth.checkAuthorization digest request.authorization = true
  | .operation i _ _ => ∃ socket, s.sockets[i]? = some socket ∧ socket.pc.rank ≤ 4 ∧
      socket.accepted digest auth = true

structure State.Guarded (digest : Text → δ) (auth : Auth δ) (s : State) : Prop where
  permits : s.pending + s.sockets.countP Socket.awaiting = MAX_PENDING_WS
  sockets : ∀ (i : Nat) (socket : Socket), s.sockets[i]? = some socket → socket.Sound digest auth
  requests : ∀ request ∈ s.requests, auth.checkAuthorization digest request.authorization = true
  reached : ∀ entry ∈ s.reached, entry.Authorized digest auth s

section Steps

variable {s t : State}

theorem guarded_init : State.init.Guarded digest auth where
  permits := rfl
  sockets i socket present := by simp [State.init] at present
  requests request member := by cases member
  reached entry member := by cases member

/-- The requests keep their headers and the sockets, past their init, what they presented. -/
theorem Reached.Authorized.mono {entry : Reached} (authorized : entry.Authorized digest auth s)
    (requests : ∀ (i : Nat) (request : Handled), s.requests[i]? = some request →
      ∃ request' : Handled, t.requests[i]? = some request' ∧
        request'.authorization = request.authorization)
    (sockets : ∀ (i : Nat) (socket : Socket), s.sockets[i]? = some socket → socket.pc.rank ≤ 4 →
      ∃ socket' : Socket, t.sockets[i]? = some socket' ∧ socket'.pc.rank ≤ 4 ∧
        socket'.accepted digest auth = socket.accepted digest auth) :
    entry.Authorized digest auth t := by
  cases entry with
  | request i | body i =>
    obtain ⟨request, present, accepted⟩ := authorized
    obtain ⟨request', present', same⟩ := requests i request present
    exact ⟨request', present', by rw [same]; exact accepted⟩
  | operation i =>
    obtain ⟨socket, present, past, accepted⟩ := authorized
    obtain ⟨socket', present', past', same⟩ := sockets i socket present past
    exact ⟨socket', present', past', by rw [same]; exact accepted⟩

theorem State.Guarded.stopped (guarded : s.Guarded digest auth) (move : StopMove s t) :
    t.Guarded digest auth := by
  have same : t.pending = s.pending ∧ t.sockets = s.sockets ∧ t.requests = s.requests ∧
      t.reached = s.reached := by
    cases move <;> exact ⟨rfl, rfl, rfl, rfl⟩
  obtain ⟨pending, sockets, requests, reached⟩ := same
  refine ⟨by rw [pending, sockets]; exact guarded.permits, by rw [sockets]; exact guarded.sockets,
    by rw [requests]; exact guarded.requests, ?_⟩
  intro entry member
  rw [reached] at member
  apply (guarded.reached entry member).mono
  · intro i request present
    exact ⟨request, by rw [requests]; exact present, rfl⟩
  · intro i socket present past
    exact ⟨socket, by rw [sockets]; exact present, past, rfl⟩

theorem Uses.authorized {entry : Reached} (uses : Uses s entry) (guarded : s.Guarded digest auth) :
    entry.Authorized digest auth s := by
  cases uses with
  | request present _ | body present _ =>
    exact ⟨_, present, guarded.requests _ (List.mem_of_getElem? present)⟩
  | operation present here polled =>
    exact ⟨_, present, by simp [here, SocketPc.rank], (guarded.sockets _ _ present).serving here⟩

theorem State.Guarded.worked {advances : Bool} (guarded : s.Guarded digest auth)
    (work : Work digest auth s advances t) : t.Guarded digest auth := by
  have permits := guarded.permits
  cases work with
  | @socket i pending socket socket' present moved balance =>
    have sound := guarded.sockets i socket present
    have sound' := moved.sound sound
    refine ⟨?_, ?_, guarded.requests, fun entry member =>
      (guarded.reached entry member).mono ?_ ?_⟩
    · -- a socket holds its permit as long as it awaits its init, so the sum stays
      have counted := Transition.countP_set Socket.awaiting present socket'
      rw [sound.permit, sound'.permit] at balance
      simp only [State.setSocket]
      omega
    · intro j other found
      obtain ⟨-, rfl⟩ | ⟨-, old⟩ := Transition.get_set found
      · exact sound'
      · exact guarded.sockets j other old
    · exact fun j request found => ⟨request, found, rfl⟩
    · intro j other found past
      by_cases same : j = i
      · subst same
        obtain rfl := Option.some.inj (present.symm.trans found)
        -- a socket that was used is past its init, and keeps what it presented
        obtain ⟨past', unchanged⟩ := moved.past past
        exact ⟨socket', Transition.get_set_self present _, past', unchanged⟩
      · exact ⟨other, by rw [← found]; exact List.getElem?_set_ne (Ne.symm same), past, rfl⟩
  | @request i request _ pc present moved =>
    refine ⟨permits, guarded.sockets, fun other member => ?_, fun entry member =>
      (guarded.reached entry member).mono ?_ ?_⟩
    · obtain old | rfl := List.mem_or_eq_of_mem_set member
      · exact guarded.requests other old
      · exact guarded.requests request (List.mem_of_getElem? present)
    · intro j other found
      by_cases same : j = i
      · subst same
        obtain rfl := Option.some.inj (present.symm.trans found)
        exact ⟨_, Transition.get_set_self present _, rfl⟩
      · exact ⟨other, by rw [← found]; exact List.getElem?_set_ne (Ne.symm same), rfl⟩
    · exact fun j other found past => ⟨other, found, past, rfl⟩
  | @uses entry uses =>
    refine ⟨permits, guarded.sockets, guarded.requests, fun entry member => ?_⟩
    obtain old | new := List.mem_append.mp member
    · exact (guarded.reached entry old).mono (fun i request found => ⟨request, found, rfl⟩)
        fun i socket found past => ⟨socket, found, past, rfl⟩
    · obtain rfl := List.mem_singleton.mp new
      exact (uses.authorized guarded).mono (fun i request found => ⟨request, found, rfl⟩)
        fun i socket found past => ⟨socket, found, past, rfl⟩
  | stop moved => exact guarded.stopped moved

theorem State.Guarded.move (guarded : s.Guarded digest auth) (move : Move digest auth s t) :
    t.Guarded digest auth := by
  have permits := guarded.permits
  cases move with
  | refused => exact guarded
  | work done => exact guarded.worked done
  | admitted request alive notKilled free =>
    refine ⟨?_, ?_, guarded.requests, fun entry member =>
      (guarded.reached entry member).mono ?_ ?_⟩
    · -- the permit moves from the semaphore to the new socket
      simp only [Transition.countP_concat, Socket.awaiting, Bool.toNat_true]
      omega
    · intro i socket present
      obtain old | ⟨-, rfl⟩ := Transition.get_append present
      · exact guarded.sockets i socket old
      · exact ⟨rfl, by simp, rfl, by simp⟩
    · exact fun i request present => ⟨request, present, rfl⟩
    · exact fun i socket present past =>
        ⟨socket, Transition.get_append_of_get present _, past, rfl⟩
  | handled header alive notKilled accepted =>
    refine ⟨permits, guarded.sockets, fun request member => ?_, fun entry member => ?_⟩
    · obtain old | new := List.mem_append.mp member
      · exact guarded.requests request old
      · obtain rfl := List.mem_singleton.mp new
        exact accepted
    · apply (guarded.reached entry member).mono
      · exact fun i request present => ⟨request, Transition.get_append_of_get present _, rfl⟩
      · exact fun i socket present past => ⟨socket, present, past, rfl⟩

theorem guarded_run {ok : State → Action → Prop} (run : Run (State.step digest auth) ok .init s) :
    s.Guarded digest auth :=
  run.invariant guarded_init fun _ _ _ _ guarded _ stepped => guarded.move (step_move stepped)

end Steps

/-! ## Admission -/

/-- The request gets as far as the permit: an upgrade with the headers of a handshake and a
subprotocol of the server. -/
def Tries (request : Request) : Prop :=
  request.isWsUpgrade = true ∧ request.protocol = true ∧ request.handshake = true

/-- A request is refused for want of a permit exactly when it gets as far, and 64 sockets await
their init. -/
theorem upgrade_refused_iff {s : State} {request : Request} (guarded : s.Guarded digest auth) :
    (s.route digest auth request).2 = .tooManyPending ↔
      Tries request ∧ s.reqKill = false ∧ s.sockets.countP Socket.awaiting = MAX_PENDING_WS := by
  have permits := guarded.permits
  -- the permits that are not free are with the sockets
  have full : (s.pending = 0) ↔ s.sockets.countP Socket.awaiting = MAX_PENDING_WS := by omega
  unfold State.route
  split
  case isTrue killed => simp [killed]
  case isFalse notKilled =>
    have up : s.reqKill = false := by simpa using notKilled
    by_cases upgrade : request.isWsUpgrade = true
    · have get : request.method = .get := by simp_all [Request.isWsUpgrade]
      simp only [requireBearer, upgrade, Bool.true_or, if_true, get, State.graphqlWs]
      cases offered : request.protocol && request.handshake with
      | false =>
        have untried : ¬ Tries request := by
          rintro ⟨-, protocol, handshake⟩
          simp [protocol, handshake] at offered
        simp [untried]
      | true =>
        have tries : Tries request := ⟨upgrade, by simpa using offered⟩
        cases free : s.pending with
        | zero => simp [tries, up, ← full, free]
        | succ pending => simp [← full, free]
    · have untried : ¬ Tries request := fun tries => upgrade tries.1
      simp only [untried, false_and, iff_false]
      split
      · cases request.method <;> simp
      · simp

section Results

variable {s : State} {ok : State → Action → Prop}

/-- In every state of every run the free permits and the sockets that await their
`connection_init` are 64 together; an upgrade is refused when it would be the 65th. -/
theorem websocket_admission (run : Run (State.step digest auth) ok .init s) :
    s.pending + s.sockets.countP Socket.awaiting = MAX_PENDING_WS ∧
      ∀ request : Request, (s.route digest auth request).2 = .tooManyPending ↔
        Tries request ∧ s.reqKill = false ∧
          s.sockets.countP Socket.awaiting = MAX_PENDING_WS := by
  have guarded := guarded_run run
  exact ⟨guarded.permits, fun request => upgrade_refused_iff guarded⟩

/-- A connection that never sends its init gives its permit back at the deadline, and the
sixty-fifth of those that come after it is refused. -/
theorem websocket_admission_full :
    ∃ s : State, s.sockets.length = 65 ∧ s.pending = 0 ∧
      (s.route id (Auth.new id none) ⟨.get, some "WebSocket".toList, none, true, true⟩).2 =
        .tooManyPending := by
  have replayed : (exec (State.step id (Auth.new id none)) (fun _ _ => true) .init
      ([.request ⟨.get, some "WebSocket".toList, none, true, true⟩, .upgraded 0,
        .initDeadline 0] ++ List.replicate 64
          (.request ⟨.get, some "WebSocket".toList, none, true, true⟩))).map
      (fun s => decide (s.sockets.length = 65) && (!s.reqKill &&
        decide (s.sockets.countP Socket.awaiting = MAX_PENDING_WS))) = some true := by
    decide +kernel
  obtain ⟨s, run, found⟩ := exists_run_of_exec replayed
  obtain ⟨length, found⟩ := Bool.and_eq_true_iff.mp found
  obtain ⟨notKilled, full⟩ := Bool.and_eq_true_iff.mp found
  have full := of_decide_eq_true full
  obtain ⟨permits, refused⟩ := websocket_admission run
  refine ⟨s, of_decide_eq_true length, by omega, (refused _).mpr ⟨⟨?_, rfl, rfl⟩, ?_, full⟩⟩
  · decide
  · simpa using notKilled

end Results

end Rsbtd.Server
