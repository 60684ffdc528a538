import Rsbtd.Verified.Inflight

/-!
# Waiting for zero

`Inflight::wait_zero` creates its `Notified` future, loads the counter and parks
if it is positive.  A waiter created before a notification is woken by it, so no
wakeup is lost; with the accounting of `Rsbtd.Verified.Inflight` a checkpoint
waits exactly for the saves that are outstanding.
-/

namespace Rsbtd

open Transition

variable {s s' : Engine}

/-- The number of notifications a `wait_zero` caller was created after. -/
def Task.since : Task → Option Nat
  | .waitLoad since | .waitPark since => some since
  | _ => none

def Task.parkedSince : Task → Option Nat
  | .waitPark since => some since
  | _ => none

theorem Task.since_initial {task : Task} (initial : task.initial = true) :
    task.since = none ∧ task.parkedSince = none := by
  cases task <;> first | exact ⟨rfl, rfl⟩ | cases initial

namespace Engine

/-- Nothing is in flight, no `dec` is about to notify, and a `wait_zero` caller
is parked that no notification has reached. -/
def Stranded (s : Engine) : Prop :=
  s.inflight.count = 0 ∧ s.inflight.notifying = 0 ∧
    ∃ i since : Nat, s.tasks[i]? = some (Task.waitPark since) ∧ s.inflight.notifies ≤ since

/-- A waiter created after the last notification parks only while the counter is
positive, and then some `dec` will notify it. -/
structure Notified (s : Engine) : Prop where
  created : ∀ task ∈ s.tasks, ∀ since, task.since = some since → since ≤ s.inflight.notifies
  woken : ∀ task ∈ s.tasks, task.parkedSince = some s.inflight.notifies →
    0 < s.inflight.count ∨ 0 < s.inflight.notifying

theorem Notified.not_stranded (notified : s.Notified) : ¬ s.Stranded := by
  rintro ⟨zero, quiet, i, since, parked, late⟩
  have member := List.mem_of_getElem? parked
  have early := notified.created _ member since rfl
  have := notified.woken _ member (by rw [Nat.le_antisymm late early]; rfl)
  omega

/-- The waiters are as they were, and what will wake them is still to come. -/
theorem Notified.keep (notified : s.Notified) (tasks : s'.tasks = s.tasks)
    (notifies : s'.inflight.notifies = s.inflight.notifies)
    (kept : 0 < s.inflight.count ∨ 0 < s.inflight.notifying →
      0 < s'.inflight.count ∨ 0 < s'.inflight.notifying) : s'.Notified where
  created task member since created := by
    rw [notifies]
    exact notified.created task (tasks ▸ member) since created
  woken task member parked := by
    rw [notifies] at parked
    exact kept (notified.woken task (tasks ▸ member) parked)

theorem Notified.dec (notified : s.Notified) : s.dec.Notified :=
  notified.keep (dec_tasks s) s.dec_keeps.1 s.dec_keeps.2

theorem Notified.inc (notified : s.Notified) :
    ({ s with inflight := s.inflight.inc } : Engine).Notified :=
  notified.keep rfl rfl fun _ => .inl (Nat.succ_pos _)

theorem mem_setTask {i : Nat} {task later : Task} (member : task ∈ (s.setTask i later).tasks) :
    task ∈ s.tasks ∨ task = later :=
  List.mem_or_eq_of_mem_set member

theorem Notified.setTask (notified : s.Notified) (i : Nat) {later : Task}
    (created : ∀ since, later.since = some since → since ≤ s.inflight.notifies)
    (woken : later.parkedSince = some s.inflight.notifies →
      0 < s.inflight.count ∨ 0 < s.inflight.notifying) : (s.setTask i later).Notified where
  created task member since := by
    rcases mem_setTask member with old | rfl
    · exact notified.created task old since
    · exact created since
  woken task member := by
    rcases mem_setTask member with old | rfl
    · exact notified.woken task old
    · exact woken

end Engine

theorem PumpMove.notified (move : PumpMove s s') (notified : s.Notified) : s'.Notified := by
  cases move with
  | dropped | droppedLoud | saveFailed | requestUndo | retryUndo =>
    exact notified.dec.keep rfl rfl id
  | requestInc | retryInc => exact notified.inc.keep rfl rfl id
  | _ => exact notified.keep rfl rfl id

theorem PersisterMove.notified {ok : Bool} (move : PersisterMove s ok s')
    (notified : s.Notified) : s'.Notified := by
  cases move with
  | dec => exact notified.dec.keep rfl rfl id
  | _ => exact notified.keep rfl rfl id

theorem AddMove.notified {k : Nat} {ok : Bool} {pc : AddPc} (move : AddMove s k ok pc s')
    (notified : s.Notified) : s'.Notified := by
  cases move with
  | reserve => exact notified.inc.keep rfl rfl id
  | release => exact notified.dec.keep rfl rfl id
  | _ => exact notified.keep rfl rfl id

theorem TaskMove.notified {i : Nat} {task : Task} (call : s.tasks[i]? = some task)
    (move : TaskMove s i task s') (notified : s.Notified) : s'.Notified := by
  have member := List.mem_of_getElem? call
  have session : ∀ session, ({ s with session } : Engine).Notified :=
    fun _ => notified.keep rfl rfl id
  cases move with
  | waitCreate =>
    exact notified.setTask i (by rintro _ ⟨⟩; exact Nat.le_refl _) (by simp [Task.parkedSince])
  | waitPark pending =>
    exact notified.setTask i (fun since created => notified.created _ member since created)
      fun _ => .inl (Nat.pos_of_ne_zero pending)
  | saveInc | flushInc =>
    exact notified.inc.setTask i (by simp [Task.since]) (by simp [Task.parkedSince])
  | saveUndo | flushUndo =>
    exact notified.dec.setTask i (by simp [Task.since]) (by simp [Task.parkedSince])
  | savePosted | saveRefused | flushPosted | flushRefused | removePost =>
    exact (session _).setTask i (by simp [Task.since]) (by simp [Task.parkedSince])
  | @flushEnd final =>
    cases final <;>
      exact notified.setTask i (by simp [afterFlush, Task.since])
        (by simp [afterFlush, Task.parkedSince])
  | _ => exact notified.setTask i (by simp [Task.since]) (by simp [Task.parkedSince])

theorem Move.notified {a : Action} (move : Move s a s') (notified : s.Notified) :
    s'.Notified := by
  cases move with
  | pump move => exact move.notified notified
  | persister move => exact move.notified notified
  | add call move => exact move.notified notified
  | task call move => exact move.notified call notified
  | notify pending =>
    refine ⟨fun task member since created => ?_, fun task member parked => ?_⟩
    · have := notified.created task member since created
      show since ≤ s.inflight.notifies + 1
      omega
    · have created : task.since = some (s.inflight.notifies + 1) := by
        cases task <;> first | exact parked | cases parked
      have := notified.created task member _ created
      omega
  | @startTask task initial =>
    obtain ⟨fresh, unparked⟩ := Task.since_initial initial
    refine ⟨fun other member since created => ?_, fun other member parked => ?_⟩
    · rcases List.mem_append.mp member with old | new
      · exact notified.created other old since created
      · rw [List.mem_singleton.mp new, fresh] at created
        cases created
    · rcases List.mem_append.mp member with old | new
      · exact notified.woken other old parked
      · rw [List.mem_singleton.mp new, unparked] at parked
        cases parked
  | dropTask => exact notified.setTask _ (by simp [Task.since]) (by simp [Task.parkedSince])
  | session | startAdd | sendSessionState | quiesce | takeSession | takePersist | abortPump | close
  | dropAdd => exact notified.keep rfl rfl id

/-- No wakeup is lost, whatever is dropped. -/
theorem notified_run {ok : Engine → Action → Prop} {restored : Nat}
    (run : EngineRun ok restored s) : s.Notified :=
  run.invariant ⟨by simp [Engine.start], by simp [Engine.start]⟩ fun _ _ _ _ notified _ stepped =>
    (step_move stepped).2.notified notified

/-! ## Returning -/

/-- A task's step changes its own entry; it returns from `wait_zero` only when it
reads the counter as zero. -/
theorem TaskMove.sets {i : Nat} {task : Task} (move : TaskMove s i task s') :
    ∃ later, s'.tasks = s.tasks.set i later ∧ (later = .waitReturned → s.inflight.count = 0) := by
  cases move with
  | waitZero zero => exact ⟨_, rfl, fun _ => zero⟩
  | saveUndo => exact ⟨.saveDone .notFound, by simp, nofun⟩
  | @flushUndo final todo => exact ⟨.flushNext final todo, by simp, nofun⟩
  | @flushEnd final => cases final <;> exact ⟨_, rfl, nofun⟩
  | _ => exact ⟨_, rfl, nofun⟩

/-- `wait_zero` returns only in a state in which it read the counter as zero. -/
theorem Move.returns {a : Action} {i : Nat} (move : Move s a s')
    (before : s.tasks[i]? ≠ some .waitReturned) (after : s'.tasks[i]? = some .waitReturned) :
    s.inflight.count = 0 := by
  cases move with
  | pump move => exact absurd (move.frame.tasks ▸ after) before
  | persister move => exact absurd (move.frame.tasks ▸ after) before
  | add call move => exact absurd (move.frame.tasks ▸ after) before
  | task call move =>
    obtain ⟨later, tasks, zero⟩ := move.sets
    rcases get_set (tasks ▸ after) with ⟨_, rfl⟩ | ⟨_, old⟩
    · exact zero rfl
    · exact absurd old before
  | startTask initial =>
    rcases get_append after with old | ⟨_, rfl⟩
    · exact absurd old before
    · cases initial
  | dropTask call awaits =>
    rcases get_set after with ⟨_, new⟩ | ⟨_, old⟩
    · cases new
    · exact absurd old before
  | session | startAdd | sendSessionState | quiesce | takeSession | takePersist | abortPump | close
  | dropAdd | notify => exact absurd after before

/-- The counter is exact in every reachable state, `dec` never underflows, and
`wait_zero` returns exactly when nothing is outstanding. -/
theorem inflight_accounting {restored : Nat}
    (run : EngineRun (fun _ a => a.drops = false) restored s) :
    s.fatal = false ∧ s.inflight.count = s.outstanding ∧ ¬ s.Stranded ∧
      ∀ (a : Action) (s' : Engine) (i : Nat), s.step a = some s' →
        s.tasks[i]? ≠ some .waitReturned →
        s'.tasks[i]? = some .waitReturned → s.outstanding = 0 := by
  have accounted : s.Accounted := accounted_run (run.mono fun _ _ => Engine.dropsToken_of_drops)
  refine ⟨accounted.alive, accounted.count, (notified_run run).not_stranded, ?_⟩
  intro a s' i stepped before after
  rw [← accounted.count]
  exact (step_move stepped).2.returns before after

/-- An add whose initial record is queued has the one token there is. -/
theorem inflight_accounting_queued_write :
    ∃ s, EngineRun (fun _ a => a.drops = false) 0 s ∧ s.queue.length = 1 ∧
      s.inflight.count = 1 ∧ s.inflight.count = s.outstanding := by
  have replayed : (exec Engine.step (fun _ a => !a.drops) (.start 0)
      [.startAdd true, .session (.attach 0 true), .pump .batch, .pump .next, .add 0 true,
        .add 0 true, .add 0 true, .add 0 true, .add 0 true, .add 0 true, .add 0 true]).map
      (fun s => s.queue.length == 1 && s.inflight.count == 1) = some true := by decide +kernel
  obtain ⟨s, run, reached⟩ := exists_run_of_exec replayed
  simp only [Bool.and_eq_true, beq_iff_eq] at reached
  have kept : EngineRun (fun _ a => a.drops = false) 0 s := run.mono (by simp)
  exact ⟨s, kept, reached.1, reached.2, (inflight_accounting kept).2.1⟩

/-! ## Completion -/

theorem AddPc.holds_of_finished {pc : AddPc} (finished : pc.finished = true) :
    pc.holds = false := by
  cases pc <;> simp [AddPc.finished, AddPc.holds] at finished ⊢

theorem Task.holds_of_settled {task : Task} (settled : task.settled = true) :
    task.holds = false := by
  cases task <;> simp [Task.settled, Task.holds] at settled ⊢

/-- Where every post, alert, operation and call is finished, no token is left. -/
theorem Engine.Settled.outstanding {s : Engine} (settled : s.Settled) (done : s.pump.BatchDone) :
    s.outstanding = 0 := by
  have select := settled.select
  have todo := done (by rw [select]; rfl)
  have adds : s.adds.countP AddPc.holds = 0 := by
    refine List.countP_eq_zero.mpr fun pc member => ?_
    simp [AddPc.holds_of_finished (List.all_eq_true.mp settled.adds pc member)]
  have tasks : s.tasks.countP Task.holds = 0 := by
    refine List.countP_eq_zero.mpr fun task member => ?_
    simp [Task.holds_of_settled (List.all_eq_true.mp settled.tasks task member)]
  simp [Engine.outstanding, adds, tasks, select, settled.idle, todo, settled.saves, settled.alerts,
    settled.ops, settled.queue, PumpPc.holds, PersisterPc.holds]

/-- In `wait_zero`. -/
def Task.waiting : Task → Bool
  | .waitCreate | .waitLoad _ | .waitPark _ => true
  | _ => false

/-- The steps of `wait_zero` alone: its caller's, and pending notifications. -/
def Action.waits (i : Nat) : Action → Prop
  | .notify => True
  | .task j .next => j = i
  | _ => False

/-- A run in which only the `i`-th task's `wait_zero` and pending notifications move. -/
abbrev WaitRun (i : Nat) : Engine → Engine → Prop := Run Engine.step fun _ a => a.waits i

theorem WaitRun.step {i : Nat} (stepped : s.step (.task i .next) = some s') : WaitRun i s s' :=
  .single (show (Action.task i .next).waits i from rfl) stepped

theorem waitCreate_completes {i : Nat} (alive : s.fatal = false) (zero : s.inflight.count = 0)
    (call : s.tasks[i]? = some .waitCreate) :
    ∃ t, WaitRun i s t ∧ t.tasks[i]? = some .waitReturned := by
  let loading := s.setTask i (.waitLoad s.inflight.notifies)
  have load : loading.tasks[i]? = some (.waitLoad s.inflight.notifies) := get_set_self call _
  have created : s.step (.task i .next) = some loading := by
    simp [Engine.step, alive, call, taskStep, loading]
  have returned : loading.step (.task i .next) = some (loading.setTask i .waitReturned) := by
    have : loading.inflight.count = 0 := zero
    have : loading.fatal = false := alive
    simp [Engine.step, taskStep, *]
  refine ⟨loading.setTask i .waitReturned, ?_, get_set_self load _⟩
  exact (WaitRun.step created).trans (WaitRun.step returned)

/-- With nothing in flight, every `wait_zero` caller returns on its own. -/
theorem wait_completes {i : Nat} {task : Task} (alive : s.fatal = false)
    (zero : s.inflight.count = 0) (notified : s.Notified) (call : s.tasks[i]? = some task)
    (waiting : task.waiting = true) :
    ∃ t, WaitRun i s t ∧ t.tasks[i]? = some .waitReturned := by
  cases task with
  | waitCreate => exact waitCreate_completes alive zero call
  | waitLoad since =>
    have returned : s.step (.task i .next) = some (s.setTask i .waitReturned) := by
      simp [Engine.step, alive, call, taskStep, zero]
    exact ⟨_, WaitRun.step returned, get_set_self call _⟩
  | waitPark since =>
    have early := notified.created _ (List.mem_of_getElem? call) since rfl
    by_cases woken : since < s.inflight.notifies
    · have wake : s.step (.task i .next) = some (s.setTask i .waitCreate) := by
        simp [Engine.step, alive, call, taskStep, woken]
      obtain ⟨t, run, returned⟩ :=
        waitCreate_completes (s := s.setTask i .waitCreate) alive zero (get_set_self call _)
      exact ⟨t, (WaitRun.step wake).trans run, returned⟩
    · -- the `dec` that reached zero is still to notify
      have latest : since = s.inflight.notifies := by omega
      have pending : 0 < s.inflight.notifying := by
        have := notified.woken _ (List.mem_of_getElem? call) (by rw [latest]; rfl)
        omega
      let after : Engine :=
        { s with inflight := ⟨s.inflight.count, s.inflight.notifying - 1, s.inflight.notifies + 1⟩ }
      have notify : s.step .notify = some after := by
        simp [Engine.step, alive, Inflight.notifyWaiters, Nat.ne_of_gt pending, after]
      have wake : after.step (.task i .next) = some (after.setTask i .waitCreate) := by
        have call : after.tasks[i]? = some (.waitPark since) := call
        have alive : after.fatal = false := alive
        have woken : since < after.inflight.notifies := by
          show since < s.inflight.notifies + 1
          omega
        simp [Engine.step, alive, call, taskStep, woken]
      obtain ⟨t, run, returned⟩ :=
        waitCreate_completes (s := after.setTask i .waitCreate) alive zero (get_set_self call _)
      have first : WaitRun i s after :=
        .single (show Action.notify.waits i from trivial) notify
      exact ⟨t, (first.trans (WaitRun.step wake)).trans run, returned⟩
  | _ => cases waiting

/-- If neither an `add_torrent` future nor the pump is dropped while it waits for
room in the persist queue, a settled engine has no token left, and `wait_zero`
completes. -/
theorem settled_completes {restored : Nat}
    (run : EngineRun (fun s a => s.dropsToken a = false) restored s) (settled : s.Settled) :
    s.inflight.count = 0 ∧ ¬ s.Stranded ∧
      ∀ i task, s.tasks[i]? = some task → task.waiting = true →
        ∃ t, WaitRun i s t ∧ t.tasks[i]? = some .waitReturned := by
  have accounted := accounted_run run
  have notified := notified_run run
  have zero : s.inflight.count = 0 := 
    accounted.count.trans (settled.outstanding (batchDone_run run))
  exact ⟨zero, notified.not_stranded, fun i task call waiting =>
    wait_completes accounted.alive zero notified call waiting⟩

/-- An add runs to its end while another one's future is dropped at its ack. -/
theorem settled_completes_dropped_ack :
    ∃ s, EngineRun (fun s a => s.dropsToken a = false) 0 s ∧ s.Settled ∧
      s.adds.length = 1 ∧ s.inflight.count = 0 := by
  have replayed : (exec Engine.step (fun s a => !s.dropsToken a) (.start 0)
      [[.startAdd true, .session (.attach 0 true), .pump .batch],
        List.replicate 8 (.pump .next), List.replicate 7 (.add 0 true), [.dropAdd 0],
        List.replicate 6 (.persister true)].flatten).map
      (fun s => decide s.Settled && s.adds.length == 1) = some true := by decide +kernel
  obtain ⟨s, run, reached⟩ := exists_run_of_exec replayed
  simp only [Bool.and_eq_true, beq_iff_eq, decide_eq_true_eq] at reached
  have kept : EngineRun (fun s a => s.dropsToken a = false) 0 s := run.mono (by simp)
  exact ⟨s, kept, reached.1, reached.2, (settled_completes kept reached.1).1⟩

/-- The future of an add is dropped between its reservation and its send: the
engine settles with a token that nobody will release. -/
theorem dropped_send_leaks :
    ¬ ∀ s, EngineRun (fun _ _ => True) 0 s → s.Settled → s.inflight.count = 0 := by
  intro claim
  have replayed : (exec Engine.step (fun _ _ => true) (.start 0)
      [[.startAdd true, .session (.attach 0 true), .pump .batch],
        List.replicate 8 (.pump .next), List.replicate 6 (.add 0 true), [.dropAdd 0]].flatten).map
      (fun s => decide s.Settled && s.inflight.count == 1) = some true := by decide +kernel
  obtain ⟨s, run, reached⟩ := exists_run_of_exec replayed
  simp only [Bool.and_eq_true, beq_iff_eq, decide_eq_true_eq] at reached
  have := claim s (run.mono fun _ _ _ => trivial) reached.1
  omega

end Rsbtd
