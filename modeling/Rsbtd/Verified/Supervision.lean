import Rsbtd.Windows.Supervisor

/-!
# One daemon at a time

`Lifecycle` says what the supervisor is for: a daemon is started when there is
none, after at most four attempts, and stopped once before the next one is tried.
The log of every run is a run of it.
-/

namespace Rsbtd.Supervisor

open Transition (Run exec exists_run_of_exec exec_append)

/-! ## What the supervisor is for -/

inductive Phase where
  | idle
  | attempting (attempts : Nat)
  | refused (attempts : Nat)
  | up
  | stopping
deriving DecidableEq, Repr

def Phase.alive : Phase → Bool
  | up | stopping => true
  | _ => false

/-- How many daemons there have been, and what the last one is doing. -/
structure Lifecycle where
  daemons : Nat
  phase : Phase
deriving DecidableEq, Repr

namespace Lifecycle

def initial : Lifecycle := ⟨0, .idle⟩

def step (l : Lifecycle) : Event → Option Lifecycle
  | .attempt 0 => if l.phase.alive then none else some { l with phase := .attempting 0 }
  | .attempt (n + 1) =>
    if l.phase = .refused n ∧ n < 3 then some { l with phase := .attempting (n + 1) } else none
  | .refused =>
    match l.phase with
    | .attempting n => some { l with phase := .refused n }
    | _ => none
  | .started daemon =>
    match l.phase with
    | .attempting _ => if daemon = l.daemons then some ⟨l.daemons + 1, .up⟩ else none
    | _ => none
  | .checkpoint daemon =>
    if l.phase = .up ∧ daemon + 1 = l.daemons then some l else none
  | .stop daemon _ =>
    if l.phase = .up ∧ daemon + 1 = l.daemons then some { l with phase := .stopping } else none
  | .stopped daemon =>
    if l.phase = .stopping ∧ daemon + 1 = l.daemons then some { l with phase := .idle } else none

def replay (log : List Event) : Option Lifecycle := exec step (fun _ _ => true) initial log

theorem replay_concat {log : List Event} {l : Lifecycle} (replayed : replay log = some l)
    (event : Event) : replay (log ++ [event]) = l.step event := by
  have before : exec step (fun _ _ => true) initial log = some l := replayed
  rw [replay, exec_append, before, Option.bind_some, exec, if_pos rfl]
  cases l.step event <;> rfl

/-- What has happened to a daemon so far: `stop_with` is called, and returns. -/
structure Counted (log : List Event) (l : Lifecycle) : Prop where
  stopped : ∀ daemon, log.count (.stopped daemon) =
    if daemon + 1 < l.daemons ∨ daemon + 1 = l.daemons ∧ l.phase.alive = false then 1 else 0
  stop : ∀ daemon, log.countP (fun e => e = .stop daemon true || e = .stop daemon false) =
    if daemon + 1 < l.daemons ∨ daemon + 1 = l.daemons ∧ l.phase ≠ .up then 1 else 0

/-- An event that is about no daemon's end, and ends none. -/
theorem Counted.keep {log : List Event} {l l' : Lifecycle} (counted : Counted log l)
    {event : Event} (same : l'.daemons = l.daemons) (alive : l'.phase.alive = l.phase.alive)
    (up : l'.phase = .up ↔ l.phase = .up) (stopped : ∀ daemon, event ≠ .stopped daemon)
    (stop : ∀ daemon fast, event ≠ .stop daemon fast) : Counted (log ++ [event]) l' where
  stopped daemon := by
    have before := counted.stopped daemon
    rw [List.count_append, List.count_singleton, before, same, alive]
    simp [stopped daemon]
  stop daemon := by
    have before := counted.stop daemon
    rw [List.countP_append, before, same]
    simp [stop daemon, up]

theorem Counted.step {log : List Event} {l l' : Lifecycle} (counted : Counted log l)
    {event : Event} (stepped : l.step event = some l') : Counted (log ++ [event]) l' := by
  cases event with
  | attempt attempts =>
    cases attempts with
    | zero =>
      obtain ⟨notAlive, ⟨⟩⟩ := Option.ite_none_left_eq_some.mp stepped
      have notAlive : l.phase.alive = false := by simpa using notAlive
      exact counted.keep rfl (by rw [notAlive]; rfl)
        (by cases phase : l.phase <;> simp_all [Phase.alive]) (by simp) (by simp)
    | succ n =>
      obtain ⟨⟨refused, -⟩, ⟨⟩⟩ := Option.ite_none_right_eq_some.mp stepped
      exact counted.keep rfl (by simp [refused, Phase.alive]) (by simp [refused]) (by simp)
        (by simp)
  | refused =>
    simp only [Lifecycle.step] at stepped
    split at stepped
    case h_1 n attempting =>
      obtain ⟨⟩ := stepped
      exact counted.keep rfl (by simp [attempting, Phase.alive]) (by simp [attempting]) (by simp)
        (by simp)
    case h_2 => cases stepped
  | started daemon =>
    simp only [Lifecycle.step] at stepped
    split at stepped
    case h_1 n attempting =>
      obtain ⟨-, ⟨⟩⟩ := Option.ite_none_right_eq_some.mp stepped
      -- the daemons before the new one have all been stopped
      constructor
      · intro other
        have before : l.phase.alive = false := by rw [attempting]; rfl
        have now : Phase.up.alive = true := rfl
        rw [List.count_append, counted.stopped other]
        simp only [before, now, List.count_singleton, beq_iff_eq, reduceCtorEq, if_false, and_true,
          and_false, or_false]
        split <;> split <;> omega
      · intro other
        rw [List.countP_append, counted.stop other]
        simp only [attempting, List.countP_singleton, reduceCtorEq, decide_false, Bool.or_self,
          Bool.false_eq_true, if_false, ne_eq, not_false_eq_true, and_true, not_true_eq_false,
          and_false, or_false]
        split <;> split <;> omega
    case h_2 => cases stepped
  | checkpoint daemon =>
    obtain ⟨⟨up, -⟩, ⟨⟩⟩ := Option.ite_none_right_eq_some.mp stepped
    exact counted.keep rfl rfl (by simp) (by simp) (by simp)
  | stop daemon fast =>
    -- The one stop of the daemon that is up; the other counts stay.
    obtain ⟨⟨up, last⟩, ⟨⟩⟩ := Option.ite_none_right_eq_some.mp stepped
    constructor
    · intro other
      rw [List.count_append, counted.stopped other]
      simp [up, Phase.alive]
    · intro other
      rw [List.countP_append, counted.stop other, up]
      by_cases same : daemon = other
      · subst same
        cases fast <;> simp [last]
      · have different : other + 1 ≠ l.daemons := by omega
        simp [same, different]
  | stopped daemon =>
    obtain ⟨⟨stopping, last⟩, ⟨⟩⟩ := Option.ite_none_right_eq_some.mp stepped
    constructor
    · intro other
      rw [List.count_append, counted.stopped other, stopping]
      by_cases same : daemon = other
      · subst same
        simp [last, Phase.alive]
      · have different : other + 1 ≠ l.daemons := by omega
        simp [same, different]
    · intro other
      rw [List.countP_append, counted.stop other, stopping]
      simp

end Lifecycle

/-! ## The steps -/

variable {κ : Type*} {s t : State κ} {initial : Except String (Config κ)}

def Cmd.config : Cmd κ → Option (Config κ)
  | apply config => some config
  | checkpoint | quit | quitFast => none

/-- The thread reads no more commands. -/
def Pc.quitting : Pc κ → Bool
  | stopping _ .quit | stopping _ .quitFast | leaving | ended => true
  | _ => false

/-- Nothing runs, and the thread reads commands. -/
def Pc.resting : Pc κ → Bool
  | waiting | failed => true
  | _ => false

/-- A command that ends the loop: a quit, or none from a closed channel. -/
inductive Quits (s : State κ) : List (Cmd κ) → Prop where
  | cmd {cmd : Cmd κ} {queue : List (Cmd κ)} : cmd = .quit ∨ cmd = .quitFast →
      s.queue = cmd :: queue → Quits s queue
  | closed : s.queue = [] → s.sender = false → Quits s []

/-- The steps of the thread. -/
inductive Work (s : State κ) : State κ → Prop where
  | dead {initial : Except String (Config κ)} (e : String) : s.pc = .booting initial →
      Work s { s with pc := .ended, status := .failed e }
  | booted {config : Config κ} : s.pc = .booting (.ok config) → Work s (s.begin config)
  | invalid {e : String} : s.pc = .booting (.error e) →
      Work s { s with pc := .waiting, status := .failed e }
  | began {config : Config κ} {queue : List (Cmd κ)} : s.pc.resting = true →
      s.queue = .apply config :: queue → Work s ({ s with queue }.begin config)
  | skipped {queue : List (Cmd κ)} : s.queue = .checkpoint :: queue → s.pc.resting = true →
      Work s { s with queue }
  | left {queue : List (Cmd κ)} : s.pc.resting = true → Quits s queue →
      Work s { s with queue, pc := .leaving }
  | flushed {daemon : Nat} {config : Config κ} {queue : List (Cmd κ)} :
      s.pc = .running daemon config → s.queue = .checkpoint :: queue →
      Work s { s with queue, log := s.log ++ [.checkpoint daemon] }
  | replaced {daemon : Nat} {old config : Config κ} {queue : List (Cmd κ)} :
      s.pc = .running daemon old → s.queue = .apply config :: queue →
      Work s { s with
        queue, pc := .stopping daemon (.apply config), log := s.log ++ [.stop daemon false] }
  | quit {daemon : Nat} {config : Config κ} {queue : List (Cmd κ)} {next : Next κ} (fast : Bool) :
      s.pc = .running daemon config → Quits s queue → next = .quit ∨ next = .quitFast →
      Work s { s with queue, pc := .stopping daemon next, log := s.log ++ [.stop daemon fast] }
  | retried {config : Config κ} {attempts : Nat} : s.pc = .starting config attempts →
      attempts < 3 →
      Work s { s with pc := .sleeping config (attempts + 1), log := s.log ++ [.refused] }
  | refused {config : Config κ} {attempts : Nat} (e : String) : s.pc = .starting config attempts →
      Work s { s with pc := .failed, status := .failed e, log := s.log ++ [.refused] }
  | started {config : Config κ} {attempts : Nat} (addr : SocketAddr) :
      s.pc = .starting config attempts →
      Work s { s with
        pc := .running s.daemons.length config
        status := .running addr config.token
        daemons := s.daemons ++ [⟨config, addr⟩]
        log := s.log ++ [.started s.daemons.length] }
  | woken {config : Config κ} {attempts : Nat} : s.pc = .sleeping config attempts →
      Work s { s with pc := .starting config attempts, log := s.log ++ [.attempt attempts] }
  | restarted {daemon : Nat} {config : Config κ} : s.pc = .stopping daemon (.apply config) →
      Work s ({ s with log := s.log ++ [Event.stopped daemon] }.begin config)
  | stopped {daemon : Nat} {next : Next κ} : s.pc = .stopping daemon next →
      (∀ config, next ≠ .apply config) →
      Work s { s with pc := .leaving, log := s.log ++ [.stopped daemon] }
  | ended : s.pc = .leaving → Work s { s with pc := .ended, status := .stopped }

inductive Move (s : State κ) : State κ → Prop where
  /-- Without a command, the handle is taken and the thread joined when it has ended. -/
  | caller (handle joining sender : Bool) : (handle = s.handle ∧ joining = s.joining) ∨
      (s.pc = .ended ∧ handle = false ∧ joining = true) →
      Move s { s with handle, joining, sender }
  | joined : s.joining = true → s.pc = .ended → Move s { s with joining := false }
  | given (config : Config κ) : Move s { s with
      queue := s.queue ++ [.apply config], given := s.given ++ [config] }
  | lost (config : Config κ) : s.pc = .ended → Move s { s with given := s.given ++ [config] }
  | checkpoint : Move s { s with queue := s.queue ++ [.checkpoint] }
  | quit {cmd : Cmd κ} : cmd = .quit ∨ cmd = .quitFast →
      Move s { s with queue := s.queue ++ [cmd], handle := false, joining := true }
  | work {t : State κ} : Work s t → Move s t

section Inversion

theorem send_ended (ended : s.pc = .ended) (cmd : Cmd κ) : s.send cmd = s := by
  simp [State.send, ended]

theorem send_alive (alive : s.pc ≠ .ended) (cmd : Cmd κ) :
    s.send cmd = { s with queue := s.queue ++ [cmd] } := by
  unfold State.send
  split
  case h_1 ended => exact absurd ended alive
  case h_2 => rfl

theorem recv_work (received : s.recv = some t) : Work s t := by
  unfold State.recv at received
  split at received
  case h_1 cmd queue front =>
    unfold State.receive at received
    split at received
    case h_1 here same | h_2 here same =>
      obtain rfl := Option.some.inj same
      obtain ⟨⟩ := received
      exact .began (by simp_all [Pc.resting]) front
    case h_3 here same | h_4 here same =>
      obtain rfl := Option.some.inj same
      obtain ⟨⟩ := received
      exact .skipped front (by simp_all [Pc.resting])
    case h_5 here same | h_6 here same | h_7 here same | h_8 here same =>
      obtain rfl := Option.some.inj same
      obtain ⟨⟩ := received
      exact .left (by simp_all [Pc.resting]) (.cmd (by simp) front)
    case h_11 daemon config here same =>
      obtain rfl := Option.some.inj same
      obtain ⟨⟩ := received
      exact .flushed here front
    case h_12 daemon old config here same =>
      obtain rfl := Option.some.inj same
      obtain ⟨⟩ := received
      exact .replaced here front
    case h_13 daemon config here same =>
      obtain rfl := Option.some.inj same
      obtain ⟨⟩ := received
      exact .quit false here (.cmd (by simp) front) (.inl rfl)
    case h_15 daemon config here same =>
      obtain rfl := Option.some.inj same
      obtain ⟨⟩ := received
      exact .quit true here (.cmd (by simp) front) (.inr rfl)
    all_goals simp_all
  case h_2 empty =>
    -- A closed channel reads as a quit.
    obtain ⟨closed, received⟩ := Option.ite_none_left_eq_some.mp received
    have closed : s.sender = false := by simpa using closed
    unfold State.receive at received
    split at received
    case h_9 here same | h_10 here same =>
      obtain ⟨⟩ := received
      have same : s.queue = [] := empty
      have left : Work s { s with queue := [], pc := .leaving } :=
        .left (by simp_all [Pc.resting]) (.closed empty closed)
      rwa [← same] at left
    case h_14 daemon config here same =>
      obtain ⟨⟩ := received
      have quit : Work s { s with
          queue := [], pc := .stopping daemon .quit, log := s.log ++ [.stop daemon false] } :=
        .quit false here (.closed empty closed) (.inl rfl)
      rwa [← empty] at quit
    all_goals simp_all

theorem step_work {a : Action κ} (stepped : s.step a = some t) (thread : a.thread = true)
    (working : a ≠ .joinReturns) : Work s t := by
  cases a with
  | joinReturns => exact absurd rfl working
  | boot result =>
    simp only [State.step] at stepped
    split at stepped
    case h_1 here =>
      obtain ⟨⟩ := stepped
      exact .dead _ here
    case h_2 here =>
      obtain ⟨⟩ := stepped
      exact .booted here
    case h_3 here =>
      obtain ⟨⟩ := stepped
      exact .invalid here
    case h_4 => cases stepped
  | recv => exact recv_work stepped
  | startReturns result =>
    simp only [State.step] at stepped
    split at stepped
    case h_1 config attempts here =>
      obtain ⟨⟩ := stepped
      cases result with
      | error e =>
        simp only [State.startReturns]
        split
        case isTrue again => exact .retried here again.1
        case isFalse => exact .refused e.message here
      | ok addr => exact .started addr here
    case h_2 => cases stepped
  | sleepEnds =>
    simp only [State.step] at stepped
    split at stepped
    case h_1 here =>
      obtain ⟨⟩ := stepped
      exact .woken here
    case h_2 => cases stepped
  | stopReturns =>
    simp only [State.step] at stepped
    split at stepped
    case h_1 here =>
      obtain ⟨⟩ := stepped
      exact .restarted here
    case h_2 daemon next other here =>
      obtain ⟨⟩ := stepped
      exact .stopped here fun config same => by simp_all
    case h_3 => cases stepped
  | leave =>
    simp only [State.step] at stepped
    split at stepped
    case h_1 here =>
      obtain ⟨⟩ := stepped
      exact .ended here
    case h_2 => cases stepped
  | apply | checkpoint | stopAndJoin | drop => cases thread

theorem join_eq_some (stepped : s.step .joinReturns = some t) :
    s.joining = true ∧ s.pc = .ended ∧ t = { s with joining := false } := by
  simp only [State.step] at stepped
  split at stepped
  case h_1 joining ended =>
    obtain ⟨⟩ := stepped
    exact ⟨joining, ended, rfl⟩
  case h_2 => cases stepped

theorem step_move {a : Action κ} (stepped : s.step a = some t) : Move s t := by
  cases a with
  | apply config =>
    obtain ⟨-, ⟨⟩⟩ := Option.ite_none_right_eq_some.mp stepped
    by_cases ended : s.pc = .ended
    · rw [send_ended ended]
      exact .lost config ended
    · rw [send_alive ended]
      exact .given config
  | checkpoint =>
    obtain ⟨-, ⟨⟩⟩ := Option.ite_none_right_eq_some.mp stepped
    by_cases ended : s.pc = .ended
    · rw [send_ended ended]
      exact .caller _ _ _ (.inl ⟨rfl, rfl⟩)
    · rw [send_alive ended]
      exact .checkpoint
  | stopAndJoin fast =>
    obtain ⟨-, taken⟩ := Option.ite_none_right_eq_some.mp stepped
    split at taken
    · obtain ⟨⟩ := taken
      by_cases ended : s.pc = .ended
      · rw [send_ended ended]
        exact .caller _ _ _ (.inr ⟨ended, rfl, rfl⟩)
      · rw [send_alive ended]
        cases fast <;> exact .quit (by simp)
    · obtain ⟨⟩ := taken
      exact .caller _ _ _ (.inl ⟨rfl, rfl⟩)
  | joinReturns =>
    obtain ⟨joining, ended, rfl⟩ := join_eq_some stepped
    exact .joined joining ended
  | drop =>
    obtain ⟨-, ⟨⟩⟩ := Option.ite_none_right_eq_some.mp stepped
    exact .caller _ _ _ (.inl ⟨rfl, rfl⟩)
  | _ => exact .work (step_work stepped rfl (by simp))

end Inversion

/-! ## The daemons -/

/-- Where the lifecycle is when the thread is here. -/
def Pc.Matches (pc : Pc κ) (l : Lifecycle) : Prop :=
  match pc with
  | .starting _ attempts => l.phase = .attempting attempts
  | .sleeping _ attempts => ∃ n, attempts = n + 1 ∧ n < 3 ∧ l.phase = .refused n
  | .running daemon _ => l.phase = .up ∧ daemon + 1 = l.daemons
  | .stopping daemon _ => l.phase = .stopping ∧ daemon + 1 = l.daemons
  | _ => l.phase.alive = false

/-- What the status says of the daemon. -/
def State.Shown (s : State κ) : Prop :=
  match s.pc with
  | .running daemon config => ∃ addr, s.daemons[daemon]? = some ⟨config, addr⟩ ∧
      s.status = .running addr config.token
  | .starting _ _ | .sleeping _ _ => s.status = .starting
  | .ended => True
  | _ => s.status ≠ .stopped

/-- The log is a run of the lifecycle, and the thread is where that run is. -/
structure State.Logged (s : State κ) (l : Lifecycle) : Prop where
  replayed : Lifecycle.replay s.log = some l
  daemons : l.daemons = s.daemons.length
  here : s.pc.Matches l
  shown : s.Shown

theorem logged_spawn : (State.spawn initial).Logged Lifecycle.initial where
  replayed := rfl
  daemons := rfl
  here := rfl
  shown := by simp [State.spawn, State.Shown]

theorem Lifecycle.step_attempt {l : Lifecycle} (free : l.phase.alive = false) :
    l.step (.attempt 0) = some { l with phase := .attempting 0 } := by
  simp [Lifecycle.step, free]

/-- The first attempt, out of a state without a daemon. -/
theorem State.Logged.begin {l : Lifecycle} (replayed : Lifecycle.replay s.log = some l)
    (daemons : l.daemons = s.daemons.length) (free : l.phase.alive = false) (config : Config κ) :
    (s.begin config).Logged { l with phase := .attempting 0 } where
  replayed := by
    rw [State.begin, Lifecycle.replay_concat replayed, Lifecycle.step_attempt free]
  daemons := daemons
  here := rfl
  shown := rfl

theorem matches_resting {l : Lifecycle} (here : s.pc.Matches l) (resting : s.pc.resting = true) :
    l.phase.alive = false := by
  cases pc : s.pc <;> simp_all [Pc.Matches, Pc.resting]

theorem State.Logged.work {l : Lifecycle} (logged : s.Logged l) (work : Work s t) :
    ∃ l', t.Logged l' := by
  obtain ⟨replayed, daemons, here, shown⟩ := logged
  cases work with
  | dead e booting =>
    rw [booting] at here
    exact ⟨l, replayed, daemons, here, trivial⟩
  | booted booting =>
    rw [booting] at here
    exact ⟨_, .begin replayed daemons here _⟩
  | invalid booting =>
    rw [booting] at here
    exact ⟨l, replayed, daemons, here, by simp [State.Shown]⟩
  | @began config queue resting front =>
    have free := matches_resting here resting
    exact ⟨_, State.Logged.begin (s := { s with queue }) replayed daemons free _⟩
  | skipped front resting => exact ⟨l, replayed, daemons, here, shown⟩
  | left resting quits =>
    have free := matches_resting here resting
    refine ⟨l, replayed, daemons, free, ?_⟩
    unfold State.Shown at shown ⊢
    cases pc : s.pc <;> simp_all [Pc.resting]
  | @flushed daemon config queue running front =>
    -- a checkpoint leaves the lifecycle where it is
    rw [running] at here
    have event : l.step (.checkpoint daemon) = some l := if_pos here
    refine ⟨l, by rw [Lifecycle.replay_concat replayed, event], daemons, by rwa [running], ?_⟩
    exact shown
  | @replaced daemon old config queue running front =>
    -- the old daemon is stopped first; the new one is started when it has ended
    rw [running] at here
    have event : l.step (.stop daemon false) = some { l with phase := .stopping } := if_pos here
    refine ⟨{ l with phase := .stopping },
      by rw [Lifecycle.replay_concat replayed, event], daemons, ⟨rfl, here.2⟩, ?_⟩
    obtain ⟨addr, present, status⟩ : ∃ addr, s.daemons[daemon]? = some ⟨old, addr⟩ ∧
        s.status = .running addr old.token := by simpa [State.Shown, running] using shown
    simp [State.Shown, status]
  | @quit daemon config queue next fast running quits ends =>
    rw [running] at here
    have event : l.step (.stop daemon fast) = some { l with phase := .stopping } := if_pos here
    refine ⟨{ l with phase := .stopping },
      by rw [Lifecycle.replay_concat replayed, event], daemons, ⟨rfl, here.2⟩, ?_⟩
    obtain ⟨addr, present, status⟩ : ∃ addr, s.daemons[daemon]? = some ⟨config, addr⟩ ∧
        s.status = .running addr config.token := by simpa [State.Shown, running] using shown
    simp [State.Shown, status]
  | @retried config attempts starting again =>
    -- the thread sleeps between two attempts, and the status stays `starting`
    rw [starting] at here
    have event : l.step .refused = some { l with phase := .refused attempts } := by
      simp only [Lifecycle.step, show l.phase = .attempting attempts from here]
    refine ⟨{ l with phase := .refused attempts },
      by rw [Lifecycle.replay_concat replayed, event], daemons, ⟨_, rfl, again, rfl⟩, ?_⟩
    simpa [State.Shown, starting] using shown
  | @refused config attempts e starting =>
    rw [starting] at here
    have event : l.step .refused = some { l with phase := .refused attempts } := by
      simp only [Lifecycle.step, show l.phase = .attempting attempts from here]
    exact ⟨{ l with phase := .refused attempts },
      by rw [Lifecycle.replay_concat replayed, event], daemons, rfl, by simp [State.Shown]⟩
  | @started config attempts addr starting =>
    rw [starting] at here
    have event : l.step (.started s.daemons.length) = some ⟨l.daemons + 1, .up⟩ := by
      simp only [Lifecycle.step, show l.phase = .attempting attempts from here]
      rw [if_pos daemons.symm]
    refine ⟨⟨l.daemons + 1, .up⟩,
      by rw [Lifecycle.replay_concat replayed, event], by simp [daemons],
      ⟨rfl, by simp [daemons]⟩, ⟨addr, by simp, rfl⟩⟩
  | @woken config attempts sleeping =>
    -- the attempt is numbered by the refusals before it
    rw [sleeping] at here
    obtain ⟨n, rfl, again, phase⟩ := here
    have event : l.step (.attempt (n + 1)) = some { l with phase := .attempting (n + 1) } :=
      if_pos ⟨phase, again⟩
    refine ⟨{ l with phase := .attempting (n + 1) },
      by rw [Lifecycle.replay_concat replayed, event], daemons, rfl, ?_⟩
    simpa [State.Shown, sleeping] using shown
  | @restarted daemon config stopping =>
    -- the daemon has ended, so a first attempt is allowed again
    rw [stopping] at here
    have event : l.step (.stopped daemon) = some { l with phase := .idle } := if_pos here
    have logged : Lifecycle.replay (s.log ++ [.stopped daemon]) =
        some { l with phase := .idle } := by rw [Lifecycle.replay_concat replayed, event]
    exact ⟨_, State.Logged.begin (s := { s with log := _ }) logged daemons rfl config⟩
  | @stopped daemon next stopping final =>
    rw [stopping] at here
    have event : l.step (.stopped daemon) = some { l with phase := .idle } := if_pos here
    refine ⟨{ l with phase := .idle },
      by rw [Lifecycle.replay_concat replayed, event], daemons, rfl, ?_⟩
    simpa [State.Shown, stopping] using shown
  | ended leaving =>
    rw [leaving] at here
    exact ⟨l, replayed, daemons, here, trivial⟩

theorem logged_run {ok : State κ → Action κ → Prop}
    (run : Run State.step ok (State.spawn initial) s) : ∃ l, s.Logged l := by
  refine run.invariant (I := fun s => ∃ l, s.Logged l) ⟨_, logged_spawn⟩ ?_
  rintro s a t - ⟨l, logged⟩ - stepped
  have same := logged
  obtain ⟨replayed, daemons, here, shown⟩ := same
  cases step_move stepped with
  | work done => exact logged.work done
  | _ => exact ⟨l, replayed, daemons, here, shown⟩

/-! ## Every run -/

section Results

variable {ok : State κ → Action κ → Prop}

end Results

end Rsbtd.Supervisor
