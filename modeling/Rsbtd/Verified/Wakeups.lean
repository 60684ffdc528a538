import Rsbtd.Bindings.AlertStream
import Rsbtd.Transition.Decreasing
import Rsbtd.Transition.Pool

/-!
# No alert is lost and no receiver sleeps on one

A receiver that waits has found the queue empty after it last popped.  `Wired`
says what then wakes it: while something is queued and the receiver is past its
pop, a callback is still to come or the cell holds a signal for it.  Only one
receiver is ever alive, so the signal cannot go to another task.
-/

namespace Rsbtd.AlertStream

open Transition
open Sync (Notify)

variable {α : Type*}

/-- The receiver exists. -/
def Pc.alive : Pc → Bool
  | gone => false
  | _ => true

/-- In `next_batch`. -/
def Pc.inCall : Pc → Bool
  | popping | checking | waiting => true
  | idle | releasing | gone => false

/-- In `next_batch`, past the pop. -/
def Pc.parked : Pc → Bool
  | checking | waiting => true
  | _ => false

theorem Pc.alive_of_inCall {pc : Pc} (calling : pc.inCall = true) : pc.alive = true := by
  cases pc <;> simp_all [inCall, alive]

theorem Pc.alive_of_parked {pc : Pc} (parked : pc.parked = true) : pc.alive = true := by
  cases pc <;> simp_all [Pc.parked, alive]

namespace State

section Steps

variable {s t : State α} {i : Nat} {pc : Pc}

/-- What one step can do. -/
inductive Move (s : State α) : State α → Prop where
  | post (alert : α) : Move s (s.post alert)
  | callback {owed : Nat} : s.owed = owed + 1 →
      Move s { s with owed, notify := s.notify.notifyOne }
  | alerts : s.alertsTaken = false →
      Move s { s with alertsTaken := true, receivers := s.receivers ++ [.idle] }
  /-- A step of receiver `i` that leaves the queue and the cell alone. -/
  | own {i : Nat} {pc pc' : Pc} : s.receivers[i]? = some pc → pc.alive = true →
      pc ≠ .waiting → pc' ≠ .waiting → pc'.alive = true → (pc'.parked = true → s.queue = []) →
      Move s (s.setPc i pc')
  | popAll {i : Nat} {pc : Pc} : s.receivers[i]? = some pc → pc.alive = true → pc ≠ .waiting →
      s.queue ≠ [] →
      Move s { s.setPc i .idle with queue := [], delivered := s.delivered ++ [s.queue] }
  | woken {i : Nat} {pc : Pc} : s.receivers[i]? = some pc → pc.parked = true →
      (s.notify.poll i).2 = true →
      Move s { s.setPc i .popping with notify := (s.notify.poll i).1 }
  | waits {i : Nat} : s.receivers[i]? = some .checking → (s.notify.poll i).2 = false →
      Move s { s.setPc i .waiting with notify := (s.notify.poll i).1 }
  | cancel {i : Nat} : s.receivers[i]? = some .waiting →
      Move s { s.setPc i .idle with notify := s.notify.cancel i }
  | release {i : Nat} : s.receivers[i]? = some .releasing →
      Move s { s.setPc i .gone with alertsTaken := false }

theorem pop_move (present : s.receivers[i]? = some pc) (alive : pc.alive = true)
    (awake : pc ≠ .waiting) {rest : Pc} (next : rest ≠ .waiting) (kept : rest.alive = true) :
    Move s (s.pop i rest) := by
  unfold State.pop
  split
  case h_1 empty => exact .own present alive awake next kept fun _ => empty
  case h_2 alert more queued =>
    rw [← queued]
    exact .popAll present alive awake (by simp [queued])

theorem step_move {a : Action α} (stepped : s.step a = some t) : Move s t := by
  cases a with
  | post alert =>
    obtain rfl := Option.some.inj stepped
    exact .post alert
  | callback =>
    simp only [step] at stepped
    split at stepped
    case h_1 => cases stepped
    case h_2 owed here =>
      obtain rfl := Option.some.inj stepped
      exact .callback here
  | alerts =>
    simp only [step, State.alerts] at stepped
    split at stepped
    case isTrue => cases stepped
    case isFalse free =>
      obtain rfl := Option.some.inj stepped
      exact .alerts (by simpa using free)
  | nextBatch i =>
    obtain ⟨here, rfl⟩ := Option.ite_none_right_eq_some.mp stepped |>.imp_right Option.some.inj
    exact .own here rfl (by simp) (by simp) rfl (by simp [Pc.parked])
  | pop i =>
    obtain ⟨here, rfl⟩ := Option.ite_none_right_eq_some.mp stepped |>.imp_right Option.some.inj
    exact pop_move here rfl (by simp) (by simp) rfl
  | popFails i =>
    obtain ⟨here, rfl⟩ := Option.ite_none_right_eq_some.mp stepped |>.imp_right Option.some.inj
    exact .own here rfl (by simp) (by simp) rfl (by simp [Pc.parked])
  | notified i =>
    simp only [step] at stepped
    split at stepped
    case h_1 here =>
      obtain rfl := Option.some.inj stepped
      cases ready : (s.notify.poll i).2 with
      | true => exact .woken here rfl ready
      | false => exact .waits here ready
    case h_2 here =>
      obtain ⟨ready, rfl⟩ := Option.ite_none_right_eq_some.mp stepped |>.imp_right Option.some.inj
      exact .woken here rfl ready
    case h_3 => cases stepped
  | cancel i =>
    simp only [step] at stepped
    split at stepped
    case h_1 here =>
      obtain rfl := Option.some.inj stepped
      exact .own here rfl (by simp) (by simp) rfl (by simp [Pc.parked])
    case h_2 here =>
      obtain rfl := Option.some.inj stepped
      exact .cancel here
    case h_3 => cases stepped
  | tryNextBatch i =>
    obtain ⟨here, rfl⟩ := Option.ite_none_right_eq_some.mp stepped |>.imp_right Option.some.inj
    exact pop_move here rfl (by simp) (by simp) rfl
  | drop i =>
    obtain ⟨here, rfl⟩ := Option.ite_none_right_eq_some.mp stepped |>.imp_right Option.some.inj
    exact .own here rfl (by simp) (by simp) rfl (by simp [Pc.parked])
  | release i =>
    obtain ⟨here, rfl⟩ := Option.ite_none_right_eq_some.mp stepped |>.imp_right Option.some.inj
    exact .release here

end Steps

/-! ## What every run keeps -/

structure Wired (s : State α) : Prop where
  sound : s.notify.Sound
  /-- The tasks in the cell are the receivers that wait. -/
  registered : ∀ j : Nat, j ∈ s.notify.waiters ++ s.notify.woken ↔
    s.receivers[j]? = some .waiting
  alive : s.receivers.countP Pc.alive = s.alertsTaken.toNat
  wakes : s.queue ≠ [] → ∀ (j : Nat) (pc : Pc), s.receivers[j]? = some pc → pc.parked = true →
    0 < s.owed ∨ 0 < s.notify.signals
  posted : s.delivered.flatten ++ s.queue = s.posted
  batches : [] ∉ s.delivered

section Invariant

variable {s t : State α} {i : Nat} {pc pc' : Pc}

theorem wired_opened (queue : List α) : (opened queue).Wired where
  sound := Notify.sound_empty
  registered := by simp [opened, Notify.empty]
  alive := rfl
  wakes := by simp [opened]
  posted := by simp [opened]
  batches := by simp [opened]

theorem Wired.alive_le (wired : s.Wired) : s.receivers.countP Pc.alive ≤ 1 := by
  rw [wired.alive]
  exact Bool.toNat_le s.alertsTaken

/-- Only one receiver is alive. -/
theorem Wired.unique (wired : s.Wired) {j : Nat} (first : s.receivers[i]? = some pc)
    (second : s.receivers[j]? = some pc') (alive : pc.alive = true) (alive' : pc'.alive = true) :
    j = i :=
  index_unique Pc.alive wired.alive_le second first alive' alive

theorem Wired.absent (wired : s.Wired) (present : s.receivers[i]? = some pc)
    (awake : pc ≠ .waiting) : i ∉ s.notify.waiters ++ s.notify.woken := by
  rw [wired.registered, present]
  simpa using awake

theorem registered_set (wired : s.Wired) (present : s.receivers[i]? = some pc) {n : Notify Nat}
    (others : ∀ j, j ≠ i → (j ∈ n.waiters ++ n.woken ↔ j ∈ s.notify.waiters ++ s.notify.woken))
    (self : i ∈ n.waiters ++ n.woken ↔ pc' = .waiting) (j : Nat) :
    j ∈ n.waiters ++ n.woken ↔ (s.receivers.set i pc')[j]? = some .waiting := by
  by_cases same : j = i
  · subst same
    rw [self, get_set_self present, Option.some.injEq]
  · rw [others j same, wired.registered, List.getElem?_set_ne (Ne.symm same)]

theorem alive_set (wired : s.Wired) (present : s.receivers[i]? = some pc)
    (alive : pc.alive = true) (alive' : pc'.alive = true) :
    (s.receivers.set i pc').countP Pc.alive = s.alertsTaken.toNat := by
  have moved := countP_set Pc.alive present pc'
  rw [alive, alive'] at moved
  rw [← wired.alive]
  omega

/-- After a step of the one receiver that is alive, nobody else is past a pop. -/
theorem parked_set (wired : s.Wired) (present : s.receivers[i]? = some pc)
    (alive : pc.alive = true) {j : Nat} {last : Pc}
    (entry : (s.receivers.set i pc')[j]? = some last) (parked : last.parked = true) :
    last = pc' := by
  rcases get_set entry with ⟨_, same⟩ | ⟨different, old⟩
  · exact same
  · exact absurd (wired.unique present old alive (Pc.alive_of_parked parked)) different

theorem Move.wired (move : Move s t) (wired : s.Wired) : t.Wired := by
  cases move with
  | post alert =>
    refine ⟨wired.sound, wired.registered, wired.alive, fun _ j pc present parked => ?_, ?_,
      wired.batches⟩
    · simp only [State.post]
      split
      -- the first alert of a queue is announced
      case isTrue => exact .inl (Nat.succ_pos _)
      case isFalse queued => exact wired.wakes (by simpa using queued) j pc present parked
    · simp [State.post, ← wired.posted]
  | callback here =>
    -- what was owed is in the cell now
    refine ⟨wired.sound.notifyOne, fun j => ?_, wired.alive,
      fun _ _ _ _ _ => .inr Notify.signals_notifyOne_pos, wired.posted, wired.batches⟩
    rw [Notify.mem_notifyOne]
    exact wired.registered j
  | alerts free =>
    have none : s.receivers.countP Pc.alive = 0 := by rw [wired.alive, free]; rfl
    refine ⟨wired.sound, fun j => ?_, ?_, fun queued j pc present parked => ?_, wired.posted,
      wired.batches⟩
    · rw [wired.registered]
      refine ⟨fun old => get_append_of_get old _, fun entry => ?_⟩
      exact (get_append entry).resolve_right (by simp)
    · rw [countP_concat, none]
      rfl
    · rcases get_append present with old | ⟨_, rfl⟩
      · exact wired.wakes queued j pc old parked
      · cases parked
  | @own i pc pc' present alive awake next alive' empty =>
    have absent := wired.absent present awake
    refine ⟨wired.sound, registered_set wired present (fun _ _ => Iff.rfl)
        (iff_of_false absent next),
      alive_set wired present alive alive', fun queued j last entry parked => ?_, wired.posted,
      wired.batches⟩
    obtain rfl := parked_set wired present alive entry parked
    -- a receiver parks only after a pop that found nothing
    exact absurd (empty parked) queued
  | @popAll i pc present alive awake queued =>
    have absent := wired.absent present awake
    refine ⟨wired.sound, registered_set wired present (fun _ _ => Iff.rfl)
        (iff_of_false absent (by simp)),
      alive_set wired present alive rfl, fun queued => absurd rfl queued, ?_, ?_⟩
    · rw [List.flatten_append, List.append_nil, List.flatten_singleton]
      exact wired.posted
    · simp [wired.batches, Ne.symm queued]
  | @woken i pc present parked ready =>
    have alive := Pc.alive_of_parked parked
    refine ⟨wired.sound.poll i, registered_set wired present (fun j different => ?_) ?_,
      alive_set wired present alive rfl, fun queued j last entry parked => ?_, wired.posted,
      wired.batches⟩
    · rw [Notify.mem_poll_ready wired.sound ready]
      exact ⟨And.left, fun member => ⟨member, different⟩⟩
    · simp [Notify.mem_poll_ready wired.sound ready]
    · obtain rfl := parked_set wired present alive entry parked
      cases parked
  | @waits i present pending =>
    refine ⟨wired.sound.poll i, registered_set wired present (fun j different => ?_) ?_,
      alive_set wired present rfl rfl, fun queued j last entry parked => ?_, wired.posted,
      wired.batches⟩
    · rw [Notify.mem_poll_pending pending]
      exact ⟨fun member => member.resolve_right different, .inl⟩
    · simp [Notify.mem_poll_pending pending]
    · -- nothing was in the cell, so what wakes it is still owed
      rw [Notify.signals_poll_pending pending]
      exact wired.wakes queued i .checking present rfl
  | @cancel i present =>
    refine ⟨wired.sound.cancel i, registered_set wired present (fun j different => ?_) ?_,
      alive_set wired present rfl rfl, fun queued j last entry parked => ?_, wired.posted,
      wired.batches⟩
    · rw [Notify.mem_cancel wired.sound]
      exact ⟨And.left, fun member => ⟨member, different⟩⟩
    · simp [Notify.mem_cancel wired.sound]
    · obtain rfl := parked_set wired present rfl entry parked
      cases parked
  | @release i present =>
    have absent := wired.absent present (by simp)
    refine ⟨wired.sound, registered_set wired present (fun _ _ => Iff.rfl)
        (iff_of_false absent (by simp)), ?_,
      fun queued j last entry parked => ?_, wired.posted, wired.batches⟩
    · have moved := countP_set Pc.alive present .gone
      have one := wired.alive_le
      simp only [Pc.alive, Bool.toNat_true, Bool.toNat_false] at moved ⊢
      simp only [setPc]
      omega
    · obtain rfl := parked_set wired present rfl entry parked
      cases parked

theorem wired_run {ok : State α → Action α → Prop} {queue : List α}
    (run : Run step ok (opened queue) s) : s.Wired :=
  run.invariant (wired_opened queue) fun _ _ _ _ wired _ stepped => (step_move stepped).wired wired

end Invariant

/-! ## A call returns -/

def internal : Action α → Bool
  | .callback | .pop _ | .notified _ => true
  | _ => false

/-- How far a receiver still gets without a signal. -/
def rank : Pc → Nat
  | .popping => 2
  | .checking => 1
  | _ => 0

def budget (s : State α) : Nat :=
  4 * s.owed + 3 * s.notify.signals + (s.receivers.map rank).sum

/-- From `s`, where receiver `i` is in a call: it is still in it, or has returned what
was queued. -/
def Towards (s : State α) (i : Nat) (t : State α) : Prop :=
  (t.queue = s.queue ∧ t.delivered = s.delivered ∧
      ∃ pc, t.receivers[i]? = some pc ∧ pc.inCall = true) ∨
    (t.delivered = s.delivered ++ [s.queue] ∧ t.receivers[i]? = some .idle)

section Calls

variable {s t u : State α} {i : Nat} {pc : Pc} {a : Action α}

theorem budget_lt (stepped : t.step a = some u) (own : internal a = true) :
    u.budget < t.budget := by
  cases a with
  | callback =>
    simp only [step] at stepped
    split at stepped
    case h_1 => cases stepped
    case h_2 owed here =>
      obtain rfl := Option.some.inj stepped
      have le := @Notify.signals_notifyOne_le _ t.notify
      simp only [budget, here]
      omega
  | pop i =>
    obtain ⟨here, rfl⟩ := Option.ite_none_right_eq_some.mp stepped |>.imp_right Option.some.inj
    unfold State.pop
    split
    case h_1 =>
      have moved := sum_set rank here .checking
      simp only [rank] at moved
      simp only [budget, setPc]
      omega
    case h_2 =>
      have moved := sum_set rank here .idle
      simp only [rank] at moved
      simp only [budget, setPc]
      omega
  | notified i =>
    have woken : ∀ pc, t.receivers[i]? = some pc → (t.notify.poll i).2 = true →
        budget { t.setPc i .popping with notify := (t.notify.poll i).1 } < t.budget := by
      -- the signal is worth the second pop
      intro pc here ready
      have used := Notify.signals_poll ready
      have moved := sum_set rank here .popping
      simp only [rank] at moved
      simp only [budget, setPc]
      omega
    simp only [step] at stepped
    split at stepped
    case h_1 here =>
      obtain rfl := Option.some.inj stepped
      cases ready : (t.notify.poll i).2 with
      | true => exact woken _ here ready
      | false =>
        have same := Notify.signals_poll_pending ready
        have moved := sum_set rank here .waiting
        simp only [rank] at moved
        simp only [budget, setPc, Bool.false_eq_true, if_false, same]
        omega
    case h_2 here =>
      obtain ⟨ready, rfl⟩ := Option.ite_none_right_eq_some.mp stepped |>.imp_right Option.some.inj
      exact woken _ here ready
    case h_3 => cases stepped
  | _ => cases own

/-- The step of a receiver in a call is one of receiver `i`. -/
theorem Towards.step (wired : t.Wired) (towards : Towards s i t) (queued : s.queue ≠ [])
    (stepped : t.step a = some u) (own : internal a = true) : Towards s i u := by
  have same : ∀ {j : Nat} {pc : Pc}, t.receivers[j]? = some pc → pc.inCall = true → j = i ∧
      t.queue = s.queue ∧ t.delivered = s.delivered := by
    intro j pc present calling
    rcases towards with ⟨queue, delivered, last, here, alive⟩ | ⟨_, here⟩
    · exact ⟨wired.unique here present (Pc.alive_of_inCall alive) (Pc.alive_of_inCall calling),
        queue, delivered⟩
    · obtain rfl := wired.unique here present rfl (Pc.alive_of_inCall calling)
      rw [here] at present
      cases present
      cases calling
  cases a with
  | callback =>
    simp only [State.step] at stepped
    split at stepped
    case h_1 => cases stepped
    case h_2 =>
      obtain rfl := Option.some.inj stepped
      exact towards
  | pop j =>
    obtain ⟨here, rfl⟩ := Option.ite_none_right_eq_some.mp stepped |>.imp_right Option.some.inj
    obtain ⟨rfl, queue, delivered⟩ := same here rfl
    unfold State.pop
    split
    case h_1 empty => exact absurd (queue.symm.trans empty) queued
    -- the pop takes all that was queued, and the call returns it
    case h_2 alert rest full =>
      rw [← full, queue]
      exact .inr ⟨by rw [delivered], get_set_self here _⟩
  | notified j =>
    simp only [State.step] at stepped
    split at stepped
    case h_1 here =>
      obtain rfl := Option.some.inj stepped
      obtain ⟨rfl, queue, delivered⟩ := same here rfl
      exact .inl ⟨queue, delivered, _, get_set_self here _, by split <;> rfl⟩
    case h_2 here =>
      obtain ⟨_, rfl⟩ := Option.ite_none_right_eq_some.mp stepped |>.imp_right Option.some.inj
      obtain ⟨rfl, queue, delivered⟩ := same here rfl
      exact .inl ⟨queue, delivered, _, get_set_self here _, rfl⟩
    case h_3 => cases stepped
  | _ => cases own

/-- While something is queued the call can go on. -/
theorem exists_step (wired : t.Wired) (present : t.receivers[i]? = some pc)
    (calling : pc.inCall = true) (queued : t.queue ≠ []) :
    ∃ a u, internal a = true ∧ t.step a = some u := by
  cases pc with
  | popping => exact ⟨.pop i, _, rfl, if_pos present⟩
  | checking => exact ⟨.notified i, _, rfl, by simp only [State.step, present]; rfl⟩
  | waiting =>
    rcases wired.wakes queued i .waiting present rfl with coming | signaled
    · obtain ⟨owed, here⟩ := Nat.exists_eq_add_of_lt coming
      exact ⟨.callback, { t with owed, notify := t.notify.notifyOne }, rfl, by
        simp [State.step, here]⟩
    · have only : ∀ j ∈ t.notify.waiters ++ t.notify.woken, j = i := fun j member =>
        wired.unique present ((wired.registered j).mp member) rfl rfl
      have ready := Notify.poll_ready wired.sound only signaled
      exact ⟨.notified i, _, rfl, by simp only [State.step, present, ready, if_true]; rfl⟩
  | idle | releasing | gone => cases calling

theorem calls_drain (queued : s.queue ≠ []) :
    Drains step (fun _ => internal) (fun t => t.Wired ∧ Towards s i t) budget
      (fun t : State α => t.delivered = s.delivered ++ [s.queue] ∧
        t.receivers[i]? = some .idle) where
  kept t a u holds own stepped :=
    ⟨(step_move stepped).wired holds.1, holds.2.step holds.1 queued stepped own⟩
  lowers _ _ _ _ own stepped := budget_lt stepped own
  enabled t holds unfinished := by
    rcases holds.2 with ⟨queue, _, pc, present, calling⟩ | finished
    · exact exists_step holds.1 present calling (queue ▸ queued)
    · exact absurd finished unfinished

end Calls

section Results

variable {s : State α} {ok : State α → Action α → Prop} {queue : List α}

/-- The batches the callers got and the queue are together what was posted, in order,
however calls are cancelled and the stream dropped and taken again.  `alerts` fails its
assertion exactly while a receiver exists. -/
theorem alerts_delivered_in_order (run : Run step ok (opened queue) s) :
    s.delivered.flatten ++ s.queue = s.posted ∧ [] ∉ s.delivered ∧
      (s.alerts = none ↔ ∃ (i : Nat) (pc : Pc), s.receivers[i]? = some pc ∧ pc ≠ .gone) := by
  have wired := wired_run run
  refine ⟨wired.posted, wired.batches, ?_⟩
  have taken : s.alerts = none ↔ s.alertsTaken = true := by
    unfold State.alerts
    split <;> simp_all
  rw [taken]
  constructor
  · intro taken
    have one : 0 < s.receivers.countP Pc.alive := by rw [wired.alive, taken]; exact Nat.one_pos
    obtain ⟨pc, member, alive⟩ := List.countP_pos_iff.mp one
    obtain ⟨i, bound, rfl⟩ := List.getElem_of_mem member
    refine ⟨i, _, List.getElem?_eq_getElem bound, fun gone => ?_⟩
    rw [gone] at alive
    cases alive
  · rintro ⟨i, pc, present, here⟩
    have alive : pc.alive = true := by cases pc <;> simp_all [Pc.alive]
    have one := countP_pos Pc.alive present alive
    rw [wired.alive] at one
    exact Bool.toNat_eq_one.mp (by have := Bool.toNat_le s.alertsTaken; omega)

/-- A call is dropped with a wakeup, the stream is taken again, and nothing is missing. -/
theorem alerts_delivered_in_order_cancelled : ∃ s : State Nat, s.delivered = [[7], [8, 9]] ∧
    s.delivered.flatten ++ s.queue = s.posted := by
  have replayed : (exec step (fun _ _ => true) (opened [7])
      [.alerts, .nextBatch 0, .pop 0, .nextBatch 0, .pop 0, .notified 0, .post 8, .callback,
        .cancel 0, .drop 0, .release 0, .alerts, .post 9, .nextBatch 1, .pop 1]).map
      (fun s => decide (s.delivered = [[7], [8, 9]])) = some true := by
    decide +kernel
  obtain ⟨s, run, found⟩ := exists_run_of_exec replayed
  exact ⟨s, of_decide_eq_true found, (alerts_delivered_in_order run).1⟩

/-- No wakeup is lost: with alerts queued, a call that is in progress returns all of
them after at most `budget` steps of libtorrent's callback and the receiver, in every
order of these. -/
theorem next_batch_returns (run : Run step ok (opened queue) s) {i : Nat} {pc : Pc}
    (present : s.receivers[i]? = some pc) (calling : pc.inCall = true) (queued : s.queue ≠ []) :
    ∀ as t, exec step (fun _ => internal) s as = some t →
      as.length ≤ s.budget ∧
        ((∀ a : Action α, internal a = true → t.step a = none) →
          t.delivered = s.delivered ++ [s.queue] ∧ t.receivers[i]? = some .idle) := by
  intro as t replayed
  have start : s.Wired ∧ Towards s i s := ⟨wired_run run, .inl ⟨rfl, rfl, pc, present, calling⟩⟩
  exact ⟨(calls_drain queued).length_le start replayed,
    (calls_drain queued).final_of_stuck start replayed⟩

/-- The alert comes between the empty pop and the first poll of `notified()`. -/
theorem next_batch_returns_between : ∃ s t : State Nat, s.receivers[0]? = some .checking ∧
    exec step (fun _ => internal) s [.notified 0, .callback, .notified 0, .pop 0] = some t ∧
      4 ≤ s.budget := by
  have replayed : (exec step (fun _ _ => true) (opened [])
      [.alerts, .nextBatch 0, .pop 0, .post 8]).map (fun s : State Nat =>
        decide (s.receivers[0]? = some .checking) && decide (s.queue ≠ []) &&
          (exec step (fun _ => internal) s
            [.notified 0, .callback, .notified 0, .pop 0]).isSome) = some true := by
    decide +kernel
  obtain ⟨s, run, found⟩ := exists_run_of_exec replayed
  obtain ⟨found, ended⟩ := Bool.and_eq_true_iff.mp found
  obtain ⟨present, queued⟩ := Bool.and_eq_true_iff.mp found
  have present := of_decide_eq_true present
  obtain ⟨t, reached⟩ := Option.isSome_iff_exists.mp ended
  exact ⟨s, t, present, reached,
    (next_batch_returns run present rfl (of_decide_eq_true queued) _ t reached).1⟩

end Results

end State

end Rsbtd.AlertStream
