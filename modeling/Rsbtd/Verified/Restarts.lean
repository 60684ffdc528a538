import Mathlib.Algebra.GroupWithZero.Nat
import Rsbtd.Transition.Decreasing
import Rsbtd.Verified.Supervision

/-!
# The last settings, and the way out

The configurations given are the ones tried, the one the daemon is stopped for and
the queued ones, in this order, until a quit is received; what is queued behind a
quit is dropped.

Only one caller ever sends a quit and joins.  A queued command costs a bounded
number of steps, so the thread gets to the quit, and the caller comes back.
-/

namespace Rsbtd.Supervisor

open Transition (Run Drains exec exists_run_of_exec)

variable {κ : Type*} {s t : State κ} {initial : Except String (Config κ)}

/-! ## The settings -/

/-- The configuration that the running daemon is stopped for. -/
def Pc.pending : Pc κ → List (Config κ)
  | booting initial => initial.toOption.toList
  | stopping _ (.apply config) => [config]
  | _ => []

/-- The configuration that the thread is at. -/
def Pc.config : Pc κ → Option (Config κ)
  | starting config _ | sleeping config _ | running _ config => some config
  | _ => none

structure State.InOrder (s : State κ) : Prop where
  tried : s.tried ++ s.pc.pending <+: s.given
  queued : s.pc.quitting = false →
    s.tried ++ s.pc.pending ++ s.queue.filterMap Cmd.config = s.given
  current : ∀ config, s.pc.config = some config → s.tried.getLast? = some config

theorem inOrder_spawn : (State.spawn initial).InOrder where
  tried := by simp [State.spawn, Pc.pending]
  queued _ := by simp [State.spawn, Pc.pending]
  current config here := by cases here

/-- The thread turns to the next configuration. -/
theorem State.InOrder.begin {config : Config κ} {queue : List (Cmd κ)}
    (queued : s.tried ++ [config] ++ queue.filterMap Cmd.config = s.given)
    (same : s.queue = queue) :
    (s.begin config).InOrder where
  tried := by
    change s.tried ++ [config] ++ [] <+: s.given
    rw [List.append_nil, ← queued]
    exact List.prefix_append _ _
  queued _ := by simpa [State.begin, Pc.pending, same] using queued
  current other here := by
    obtain rfl := Option.some.inj here
    simp [State.begin]

/-- The queue is as it was, and so is the thread as far as the settings are concerned. -/
theorem State.InOrder.keep (inOrder : s.InOrder) (tried : t.tried = s.tried)
    (given : t.given = s.given)
    (queue : t.queue.filterMap Cmd.config = s.queue.filterMap Cmd.config)
    (pending : t.pc.pending = s.pc.pending)
    (quitting : t.pc.quitting = false → s.pc.quitting = false)
    (config : ∀ config, t.pc.config = some config → s.pc.config = some config) : t.InOrder where
  tried := by rw [tried, given, pending]; exact inOrder.tried
  queued still := by rw [tried, given, pending, queue]; exact inOrder.queued (quitting still)
  current current here := by rw [tried]; exact inOrder.current current (config current here)

/-- The thread reads no more of the queue. -/
theorem State.InOrder.quit (inOrder : s.InOrder) (tried : t.tried = s.tried)
    (given : t.given = s.given) (pending : t.pc.pending = []) (quitting : t.pc.quitting = true)
    (config : t.pc.config = none) : t.InOrder where
  tried := by
    rw [tried, given, pending, List.append_nil]
    exact (List.prefix_append _ _).trans inOrder.tried
  queued still := by rw [quitting] at still; cases still
  current current here := by rw [config] at here; cases here

theorem resting_quiet (resting : s.pc.resting = true) :
    s.pc.quitting = false ∧ s.pc.pending = [] := by
  cases pc : s.pc <;> simp_all [Pc.resting, Pc.quitting, Pc.pending]

theorem State.InOrder.work (inOrder : s.InOrder) (work : Work s t) : t.InOrder := by
  cases work with
  | dead => exact inOrder.quit rfl rfl rfl rfl rfl
  | @booted config booting =>
    have queued := inOrder.queued (by rw [booting]; rfl)
    rw [booting] at queued
    exact .begin queued rfl
  | invalid booting =>
    exact inOrder.keep rfl rfl rfl (by rw [booting]; rfl) (fun _ => by rw [booting]; rfl)
      (by simp [Pc.config])
  | @began config queue resting front =>
    obtain ⟨reading, none⟩ := resting_quiet resting
    have queued := inOrder.queued reading
    rw [none, front] at queued
    exact State.InOrder.begin (s := { s with queue }) (by simpa [Cmd.config] using queued) rfl
  | @skipped queue front resting | @flushed daemon config queue running front =>
    exact inOrder.keep rfl rfl (by rw [front]; rfl) rfl (fun h => h) fun _ h => h
  | left => exact inOrder.quit rfl rfl rfl rfl rfl
  | @replaced daemon old config queue running front =>
    have queued := inOrder.queued (by rw [running]; rfl)
    rw [running, front] at queued
    have queued : s.tried ++ [config] ++ queue.filterMap Cmd.config = s.given := by
      simpa [Pc.pending, Cmd.config] using queued
    refine ⟨?_, fun _ => queued, by simp [Pc.config]⟩
    rw [← queued]
    exact List.prefix_append _ _
  | quit fast running quits ends =>
    rcases ends with rfl | rfl <;> exact inOrder.quit rfl rfl rfl rfl rfl
  | retried starting | started addr starting =>
    exact inOrder.keep rfl rfl rfl (by rw [starting]; rfl) (fun _ => by rw [starting]; rfl)
      fun current here => by rw [starting]; exact here
  | refused e starting =>
    exact inOrder.keep rfl rfl rfl (by rw [starting]; rfl) (fun _ => by rw [starting]; rfl)
      (by simp [Pc.config])
  | woken sleeping =>
    exact inOrder.keep rfl rfl rfl (by rw [sleeping]; rfl) (fun _ => by rw [sleeping]; rfl)
      fun current here => by rw [sleeping]; exact here
  | @restarted daemon config stopping =>
    have queued := inOrder.queued (by rw [stopping]; rfl)
    rw [stopping] at queued
    exact State.InOrder.begin (s := { s with log := _ }) queued rfl
  | stopped | ended => exact inOrder.quit rfl rfl rfl rfl rfl

theorem State.InOrder.move (inOrder : s.InOrder) (move : Move s t) : t.InOrder := by
  cases move with
  | caller | joined => exact ⟨inOrder.tried, inOrder.queued, inOrder.current⟩
  | given config =>
    refine ⟨inOrder.tried.trans (List.prefix_append _ _), fun reading => ?_, inOrder.current⟩
    rw [List.filterMap_append, ← List.append_assoc, inOrder.queued reading]
    rfl
  | lost config ended =>
    refine ⟨inOrder.tried.trans (List.prefix_append _ _), fun reading => ?_, inOrder.current⟩
    rw [ended] at reading
    cases reading
  | checkpoint =>
    exact inOrder.keep rfl rfl (by simp [Cmd.config]) rfl (fun h => h) fun _ h => h
  | quit ends =>
    rcases ends with rfl | rfl <;>
      exact inOrder.keep rfl rfl (by simp [Cmd.config]) rfl (fun h => h) fun _ h => h
  | work done => exact inOrder.work done

theorem inOrder_run {ok : State κ → Action κ → Prop}
    (run : Run State.step ok (State.spawn initial) s) : s.InOrder :=
  run.invariant inOrder_spawn fun _ _ _ _ inOrder _ stepped => inOrder.move (step_move stepped)

/-! ## Shutting down -/

/-- A quit is on its way, or was received. -/
def State.Leaving (s : State κ) : Prop :=
  s.pc.quitting = true ∨ ∃ cmd ∈ s.queue, cmd = .quit ∨ cmd = .quitFast

theorem State.Leaving.work (leaving : s.Leaving) (work : Work s t) : t.Leaving := by
  obtain quitting | ⟨cmd, queued, quit⟩ := leaving
  · -- only the end of a daemon and of the thread are left to do
    cases work with
    | stopped | ended => exact .inl rfl
    | @restarted daemon config stopping => simp_all [Pc.quitting]
    | began resting | skipped _ resting | left resting =>
      rw [(resting_quiet resting).1] at quitting
      cases quitting
    | _ => simp_all [Pc.quitting]
  · cases work with
    | dead | left | stopped | ended => exact .inl rfl
    | quit fast running quits ends => rcases ends with rfl | rfl <;> exact .inl rfl
    | began resting front | skipped front resting | flushed running front
    | replaced running front =>
      rw [front] at queued
      obtain rfl | queued := List.mem_cons.mp queued
      · simp at quit
      · exact .inr ⟨cmd, queued, quit⟩
    | _ => exact .inr ⟨cmd, queued, quit⟩

/-- What the caller in `join` can rely on. -/
structure State.Joined (s : State κ) : Prop where
  joining : s.joining = true → s.handle = false
  leaving : s.handle = false → s.Leaving
  returned : s.handle = false → s.joining = false → s.pc = .ended

theorem State.Leaving.send (leaving : s.Leaving) (cmd : Cmd κ) :
    s.pc.quitting = true ∨ ∃ last ∈ s.queue ++ [cmd], last = .quit ∨ last = .quitFast :=
  leaving.imp_right fun ⟨last, queued, ends⟩ => ⟨last, List.mem_append_left _ queued, ends⟩

theorem Work.not_ended (work : Work s t) : s.pc ≠ .ended := by
  intro ended
  cases work <;> simp_all [Pc.resting]

theorem State.Joined.move (joined : s.Joined) (move : Move s t) : t.Joined := by
  obtain ⟨joining, leaving, returned⟩ := joined
  cases move with
  | caller handle join sender cause =>
    obtain ⟨rfl, rfl⟩ | ⟨ended, rfl, rfl⟩ := cause
    · exact ⟨joining, leaving, returned⟩
    · exact ⟨fun _ => rfl, fun _ => .inl (by simp [ended, Pc.quitting]), by simp⟩
  | joined held ended => exact ⟨by simp, leaving, fun _ _ => ended⟩
  | given config => exact ⟨joining, fun taken => (leaving taken).send _, returned⟩
  | checkpoint => exact ⟨joining, fun taken => (leaving taken).send _, returned⟩
  | lost => exact ⟨joining, leaving, returned⟩
  | @quit cmd ends => exact ⟨fun _ => rfl, fun _ => .inr ⟨cmd, by simp, ends⟩, by simp⟩
  | work done =>
    have same : t.joining = s.joining ∧ t.handle = s.handle := by cases done <;> exact ⟨rfl, rfl⟩
    rw [← same.1, ← same.2] at joining returned
    rw [← same.2] at leaving
    exact ⟨joining, fun taken => (leaving taken).work done,
      fun taken free => absurd (returned taken free) done.not_ended⟩

theorem joined_run {ok : State κ → Action κ → Prop}
    (run : Run State.step ok (State.spawn initial) s) : s.Joined :=
  run.invariant ⟨by simp [State.spawn], by simp [State.spawn], by simp [State.spawn]⟩
    fun _ _ _ _ joined _ stepped => joined.move (step_move stepped)

/-- The steps that a command costs, beside those the thread has left without it. -/
def Cmd.cost : Cmd κ → Nat
  | apply _ => 9
  | checkpoint | quit | quitFast => 1

/-- The steps until the thread has ended, if it reads nothing but a quit. -/
def Pc.rank : Pc κ → Nat
  | booting _ => 11
  | waiting | running _ _ | failed => 3
  | starting _ attempts => 4 + 2 * (3 - attempts)
  | sleeping _ attempts => 5 + 2 * (3 - attempts)
  | stopping _ (.apply _) => 11
  | stopping _ _ => 2
  | leaving => 1
  | ended => 0

def State.budget (s : State κ) : Nat :=
  (s.queue.map Cmd.cost).sum + s.pc.rank + s.joining.toNat

theorem rank_resting (resting : s.pc.resting = true) : s.pc.rank = 3 := by
  cases pc : s.pc <;> simp_all [Pc.resting, Pc.rank]

theorem cost_quits {queue : List (Cmd κ)} (quits : Quits s queue) :
    (queue.map Cmd.cost).sum ≤ (s.queue.map Cmd.cost).sum := by
  cases quits with
  | cmd _ front => simp [front]
  | closed => simp

theorem Work.budget_lt (work : Work s t) : t.budget < s.budget := by
  cases work with
  | dead e booting | invalid booting => simp [State.budget, booting, Pc.rank]
  | booted booting => simp [State.budget, State.begin, booting, Pc.rank]
  | began resting front =>
    have rank := rank_resting resting
    simp only [State.budget, State.begin, front, rank, List.map_cons, List.sum_cons]
    simp only [Cmd.cost, Pc.rank]
    omega
  | skipped front resting | flushed running front =>
    simp only [State.budget, front, List.map_cons, List.sum_cons, Cmd.cost]
    omega
  | left resting quits =>
    have rank := rank_resting resting
    have cost := cost_quits quits
    simp only [State.budget, rank]
    simp only [Pc.rank]
    omega
  | replaced running front =>
    simp only [State.budget, running, front, List.map_cons, List.sum_cons, Cmd.cost, Pc.rank]
    omega
  | quit fast running quits ends =>
    have cost := cost_quits quits
    rcases ends with rfl | rfl <;> simp only [State.budget, running, Pc.rank] <;> omega
  | retried starting again =>
    simp only [State.budget, starting, Pc.rank]
    omega
  | refused e starting | started addr starting =>
    simp only [State.budget, starting, Pc.rank]
    omega
  | woken sleeping =>
    simp only [State.budget, sleeping, Pc.rank]
    omega
  | restarted stopping =>
    simp only [State.budget, State.begin, stopping, Pc.rank]
    omega
  | @stopped daemon next stopping final =>
    cases next with
    | apply config => exact absurd rfl (final config)
    | quit | quitFast => simp [State.budget, stopping, Pc.rank]
  | ended leaving => simp [State.budget, leaving, Pc.rank]

/-- The thread reads commands. -/
def Pc.reading : Pc κ → Bool
  | waiting | failed | running _ _ => true
  | _ => false

theorem recv_isSome (reading : s.pc.reading = true) (waits : s.queue ≠ []) :
    (s.step .recv).isSome = true := by
  simp only [State.step, State.recv]
  cases queue : s.queue with
  | nil => exact absurd queue waits
  | cons cmd rest =>
    cases pc : s.pc with
    | waiting | failed | running => cases cmd <;> rfl
    | _ => simp [pc, Pc.reading] at reading

/-- While a caller joins, the thread can go on or the caller can return. -/
theorem State.Joined.enabled (joined : s.Joined) (joining : s.joining = true) :
    ∃ a : Action κ, a.thread = true ∧ (s.step a).isSome = true := by
  -- a thread that reads commands has the quit, or one before it, to receive
  have receives (reading : s.pc.reading = true) : (s.step .recv).isSome = true := by
    apply recv_isSome reading
    rintro empty
    obtain quitting | ⟨cmd, queued, -⟩ := joined.leaving (joined.joining joining)
    · cases pc : s.pc <;> simp_all [Pc.reading, Pc.quitting]
    · simp [empty] at queued
  cases pc : s.pc with
  | booting initial =>
    refine ⟨.boot (.ok ()), rfl, ?_⟩
    cases initial <;> simp only [State.step, pc, Option.isSome_some]
  | waiting | failed | running daemon config => exact ⟨.recv, rfl, receives (by rw [pc]; rfl)⟩
  | starting config attempts =>
    exact ⟨.startReturns (.ok ""), rfl, by simp only [State.step, pc, Option.isSome_some]⟩
  | sleeping config attempts =>
    exact ⟨.sleepEnds, rfl, by simp only [State.step, pc, Option.isSome_some]⟩
  | stopping daemon next =>
    refine ⟨.stopReturns, rfl, ?_⟩
    cases next <;> simp only [State.step, pc, Option.isSome_some]
  | leaving => exact ⟨.leave, rfl, by simp only [State.step, pc, Option.isSome_some]⟩
  | ended => exact ⟨.joinReturns, rfl, by simp only [State.step, joining, pc, Option.isSome_some]⟩

theorem supervisor_drains : Drains (@State.step κ) (fun _ a => a.thread)
    (fun s => s.Joined ∧ s.handle = false) State.budget (fun s => s.joining = false) where
  kept s a t joined thread stepped := by
    refine ⟨joined.1.move (step_move stepped), ?_⟩
    by_cases join : a = .joinReturns
    · subst join
      obtain ⟨-, -, rfl⟩ := join_eq_some stepped
      exact joined.2
    · cases step_work stepped thread join <;> exact joined.2
  lowers s a t joined thread stepped := by
    by_cases join : a = .joinReturns
    · subst join
      obtain ⟨joining, ended, rfl⟩ := join_eq_some stepped
      simp [State.budget, joining]
    · exact (step_work stepped thread join).budget_lt
  enabled s joined joining := by
    obtain ⟨a, thread, enabled⟩ := joined.1.enabled (Bool.of_not_eq_false joining)
    obtain ⟨t, stepped⟩ := Option.isSome_iff_exists.mp enabled
    exact ⟨a, t, thread, stepped⟩

/-! ## Every run -/

section Results

variable {ok : State κ → Action κ → Prop}

/-- The configurations are tried in the order they were given, each once, and none is
left out before a quit: when nothing is queued, the last one given is in force.  The
status of a running daemon is its address and its token. -/
theorem settings_in_order (run : Run State.step ok (State.spawn initial) s) :
    s.tried <+: s.given ∧
      (s.pc.quitting = false → s.pc.pending = [] → (∀ cmd ∈ s.queue, cmd.config = none) →
        s.tried = s.given) ∧
      ∀ daemon config, s.pc = .running daemon config → s.tried.getLast? = some config ∧
        ∃ addr, s.daemons[daemon]? = some ⟨config, addr⟩ ∧
          s.status = .running addr config.token := by
  have inOrder := inOrder_run run
  obtain ⟨l, logged⟩ := logged_run run
  refine ⟨(List.prefix_append _ _).trans inOrder.tried, ?_, ?_⟩
  · intro reading nothing quiet
    have queued := inOrder.queued reading
    rw [nothing, List.filterMap_eq_nil_iff.mpr quiet] at queued
    simpa using queued
  · intro daemon config running
    refine ⟨inOrder.current config (by rw [running]; rfl), ?_⟩
    have shown := logged.shown
    rwa [State.Shown, running] at shown

theorem settings_in_order_applied : ∃ s : State Nat, s.tried = [⟨none, 2⟩, ⟨none, 1⟩] ∧
    s.tried <+: s.given := by
  have replayed : (exec State.step (fun _ _ => true) (State.spawn (.error "no state directory"))
      [.apply ⟨none, 2⟩, .boot (.ok ()), .recv, .apply ⟨none, 1⟩, .startReturns (.ok ""), .recv,
        .stopReturns]).map (fun s => decide (s.tried = [⟨none, 2⟩, ⟨none, 1⟩])) =
      some true := by
    decide +kernel
  obtain ⟨s, run, tried⟩ := exists_run_of_exec replayed
  exact ⟨s, of_decide_eq_true tried, (settings_in_order run).1⟩

/-- While a caller is in `join` and nothing more is sent, every order of the steps is at
most `budget` long, and ends with the caller back and the thread gone. -/
theorem shutdown_joins (run : Run State.step ok (State.spawn initial) s)
    (joining : s.joining = true) :
    ∀ as t, exec State.step (fun _ a => a.thread) s as = some t →
      as.length ≤ s.budget ∧
        ((∀ a : Action κ, a.thread = true → t.step a = none) →
          t.joining = false ∧ t.pc = .ended) := by
  have joined := joined_run run
  intro as t replayed
  have start := And.intro joined (joined.joining joining)
  refine ⟨supervisor_drains.length_le start replayed, fun stuck => ?_⟩
  have back := supervisor_drains.final_of_stuck start replayed stuck
  obtain ⟨joined', taken⟩ := (supervisor_drains.settles.exec start replayed).1
  exact ⟨back, joined'.returned taken back⟩

/-- An ended thread takes no step, and nobody waits for it twice. -/
theorem step_of_ended (ended : s.pc = .ended) (returned : s.joining = false) {a : Action κ}
    (thread : a.thread = true) : s.step a = none := by
  cases a with
  | apply | checkpoint | stopAndJoin | drop => cases thread
  | recv =>
    simp only [State.step, State.recv]
    cases s.queue with
    | nil => cases s.sender <;> simp [State.receive, ended]
    | cons cmd queue => simp [State.receive, ended]
  | joinReturns => simp [State.step, returned]
  | boot | startReturns | sleepEnds | stopReturns | leave => simp [State.step, ended]

/-- Settings that are queued before the quit are still started with, and when nothing is left to
do the caller is back. -/
theorem shutdown_joins_queued : ∃ s t : State Nat, s.queue.length = 2 ∧
    exec State.step (fun _ a => a.thread) s [.boot (.ok ()), .startReturns (.ok ""), .recv,
      .stopReturns, .startReturns (.error ⟨"no such directory", []⟩), .recv, .leave,
      .joinReturns] = some t ∧ 8 ≤ s.budget ∧ t.joining = false ∧ t.pc = .ended := by
  have replayed : (exec State.step (fun _ _ => true) (State.spawn (.ok ⟨none, 0⟩))
      [.apply ⟨none, 1⟩, .stopAndJoin false]).map (fun s : State Nat =>
        s.queue.length = 2 && s.joining &&
          (exec State.step (fun _ a => a.thread) s [.boot (.ok ()), .startReturns (.ok ""), .recv,
            .stopReturns, .startReturns (.error ⟨"no such directory", []⟩), .recv, .leave,
            .joinReturns]).any fun t => decide (t.pc = .ended) && !t.joining) = some true := by
    decide +kernel
  obtain ⟨s, run, found⟩ := exists_run_of_exec replayed
  obtain ⟨found, rest⟩ := Bool.and_eq_true_iff.mp found
  obtain ⟨two, joining⟩ := Bool.and_eq_true_iff.mp found
  obtain ⟨t, reached, last⟩ := (Option.any_eq_true _ _).mp rest
  obtain ⟨ended, returned⟩ := Bool.and_eq_true_iff.mp last
  obtain ⟨bound, complete⟩ := shutdown_joins run joining _ t reached
  exact ⟨s, t, of_decide_eq_true two, reached, bound, complete fun a thread =>
    step_of_ended (of_decide_eq_true ended) (by simpa using returned) thread⟩

end Results

end Rsbtd.Supervisor
