import Rsbtd.Engine.JobFiles
import Rsbtd.Verified.JobLifecycle

/-!
# Output files of cancelled jobs

A worker writes before it commits.  As long as no cancellation takes effect between
its check of the cancel flag and its commit, a job that has written commits its end
itself, and one that was cancelled or failed has not touched any file.  A cancel in
that window makes the worker remove the file it has replaced.
-/

namespace Rsbtd.Jobs

open Transition (Run exec exists_run_of_exec)

/-- The worker has written its output and has not committed. -/
def Job.wrote (j : Job) : Bool :=
  match j.worker with
  | .written _ (.ok _) => true
  | _ => false

/-- A worker does not write for a job that was cancelled already, and no cancel commits between the
write and the worker's commit. -/
def Disk.undisturbed (d : Disk) (a : DiskAction) : Bool :=
  match a.action with
  | .work id (.writeAtomic (.ok _)) => (d.state.jobs id).all fun j => !j.terminal
  | .commit =>
    match d.state.lock with
    | some (.cancel _ id) => (d.state.jobs id).all fun j => !j.wrote
    | some (.cancelAllStored _ id _) => (d.state.jobs id).all fun j => !j.wrote
    | _ => true
  | _ => true

/-- A job in an undisturbed run, which has changed files or not. -/
structure Job.Committing (changed : Prop) (j : Job) : Prop where
  kept : j.worker ≠ .discarding
  running : j.wrote = true → j.terminal = false
  changed : changed → j.wrote = true ∨ j.snapshot.state = .finished

namespace Job

variable {changed changed' : Prop} {j j' : Job}

theorem Committing.mono (committing : j.Committing changed) (less : changed' → changed) :
    j.Committing changed' :=
  ⟨committing.kept, committing.running, fun also => committing.changed (less also)⟩

/-- The worker has neither written nor lost its commit. -/
theorem Committing.turn (committing : j.Committing changed) (unwritten : j.wrote = false)
    (frozen : j.terminal = true → j'.snapshot = j.snapshot) (kept : j'.worker ≠ .discarding)
    (still : j'.wrote = false) : j'.Committing changed := by
  refine ⟨kept, by simp [still], ?_⟩
  intro also
  rcases committing.changed also with wrote | finished
  · rw [unwritten] at wrote
    cases wrote
  · rw [frozen (by simp [terminal, finished, JobState.isTerminal])]
    exact .inr finished

theorem Committing.worked (committing : j.Committing changed) (consistent : j.Consistent)
    {step : WorkerStep} (worked : j.work step = some j')
    (early : step = .writeAtomic (.ok ()) → j.terminal = false) :
    j'.Committing (changed ∨ step = .writeAtomic (.ok ())) := by
  have frozen : j.terminal = true → j'.snapshot = j.snapshot :=
    fun terminal => ((consistent.worked worked).frozen terminal).1
  -- a step after which the worker has neither written nor lost its commit
  have turned : j.wrote = false → j'.worker ≠ .discarding → j'.wrote = false →
      j'.Committing (changed ∨ step = .writeAtomic (.ok ())) ∨ step = .writeAtomic (.ok ()) := by
    intro unwritten kept still
    by_cases writing : step = .writeAtomic (.ok ())
    · exact .inr writing
    · exact .inl ((committing.turn unwritten frozen kept still).mono (by simp [writing]))
  cases step with
  | prepared result =>
    obtain ⟨here, answered⟩ := Option.ite_none_right_eq_some.mp worked
    have ahead : j'.worker = .hashing ∨ ∃ built, j'.worker = .built built := by
      cases result with
      | error e =>
        obtain ⟨⟩ := answered
        exact .inr ⟨_, rfl⟩
      | ok total =>
        obtain ⟨⟩ := answered
        exact .inl rfl
    apply (turned (by simp [wrote, here]) ?_ ?_).resolve_right (by simp)
    · rcases ahead with worker | ⟨built, worker⟩ <;> simp [worker]
    · rcases ahead with worker | ⟨built, worker⟩ <;> simp [wrote, worker]
  | piece index =>
    obtain ⟨here, ⟨⟩⟩ := Option.ite_none_right_eq_some.mp worked
    exact (turned (by simp [wrote, here]) (by simp) (by simp [wrote])).resolve_right (by simp)
  | checkPiece e =>
    obtain ⟨here, answered⟩ := Option.ite_none_right_eq_some.mp worked
    have ahead : j'.worker = .hashing ∨ ∃ built, j'.worker = .built built := by
      split at answered
      · obtain ⟨⟩ := answered
        exact .inr ⟨_, rfl⟩
      · obtain ⟨⟩ := answered
        exact .inl rfl
    apply (turned (by simp [wrote, here]) ?_ ?_).resolve_right (by simp)
    · rcases ahead with worker | ⟨built, worker⟩ <;> simp [worker]
    · rcases ahead with worker | ⟨built, worker⟩ <;> simp [wrote, worker]
  | hashed result =>
    obtain ⟨here, ⟨⟩⟩ := Option.ite_none_right_eq_some.mp worked
    exact (turned (by simp [wrote, here]) (by simp) (by simp [wrote])).resolve_right (by simp)
  | checkCancel =>
    simp only [work] at worked
    split at worked
    case h_1 result here =>
      have ahead : j'.worker = .returning ∨ ∃ built, j'.worker = .publishing built := by
        split at worked
        · obtain ⟨⟩ := worked
          exact .inl rfl
        · obtain ⟨⟩ := worked
          exact .inr ⟨_, rfl⟩
      apply (turned (by simp [wrote, here]) ?_ ?_).resolve_right (by simp)
      · rcases ahead with worker | ⟨built, worker⟩ <;> simp [worker]
      · rcases ahead with worker | ⟨built, worker⟩ <;> simp [wrote, worker]
    case h_2 => cases worked
  | writeAtomic result =>
    simp only [work] at worked
    split at worked
    case h_1 bytes path here chosen =>
      obtain ⟨⟩ := worked
      cases result with
      | error e =>
        exact (turned (by simp [wrote, here]) (by simp) (by simp [wrote])).resolve_right (by simp)
      | ok done =>
        exact ⟨by simp, fun _ => early rfl, fun _ => .inl rfl⟩
    case h_2 => cases worked
  | commit =>
    simp only [work] at worked
    split at worked
    case h_1 bytes here =>
      obtain ⟨-, ⟨⟩⟩ := Option.ite_none_right_eq_some.mp worked
      exact (turned (by simp [wrote, here]) (by simp) (by simp [wrote])).resolve_right (by simp)
    case h_2 message here =>
      obtain ⟨⟩ := worked
      exact (turned (by simp [wrote, here]) (by simp) (by simp [wrote])).resolve_right (by simp)
    case h_3 path answer here =>
      -- the commit cannot be lost
      have running : j.terminal = false := committing.running (by simp [wrote, here])
      obtain ⟨⟩ := worked
      refine ⟨?_, ?_, ?_⟩
      · simp [commitTerminal, running]
      · simp [commitTerminal, running, wrote]
      · intro _
        simp [commitTerminal, running]
    case h_4 path e here =>
      obtain ⟨⟩ := worked
      exact (turned (by simp [wrote, here]) (by simp) (by simp [wrote])).resolve_right (by simp)
    case h_5 => cases worked
  | removeFile =>
    obtain ⟨here, -⟩ := Option.ite_none_right_eq_some.mp worked
    exact absurd here committing.kept
  | finish =>
    obtain ⟨here, ⟨⟩⟩ := Option.ite_none_right_eq_some.mp worked
    exact (turned (by simp [wrote, here]) (by simp) (by simp [wrote])).resolve_right (by simp)

theorem Committing.cancelled (committing : j.Committing changed) (unwritten : j.wrote = false)
    (winner : Winner) : (j.commitCancelled winner).1.Committing changed := by
  have worker : (j.commitCancelled winner).1.worker = j.worker := by
    unfold commitCancelled commitTerminal
    split <;> rfl
  apply committing.turn unwritten
  · intro terminal
    simp [commitCancelled, commitTerminal, terminal]
  · rw [worker]
    exact committing.kept
  · unfold wrote
    rw [worker]
    exact unwritten

theorem Committing.alike (committing : j.Committing changed) (worker : j'.worker = j.worker)
    (snapshot : j'.snapshot = j.snapshot) : j'.Committing changed := by
  have wrote : j'.wrote = j.wrote := by
    unfold Job.wrote
    rw [worker]
  have terminal : j'.terminal = j.terminal := by
    unfold Job.terminal
    rw [snapshot]
  refine ⟨worker ▸ committing.kept, ?_, ?_⟩
  · rw [wrote, terminal]
    exact committing.running
  · rw [wrote, snapshot]
    exact committing.changed

theorem committing_initial (id : Nat) (outputPath : Option String) (unchanged : ¬changed) :
    (initial id outputPath).Committing changed :=
  ⟨by simp [initial], by simp [initial, wrote], fun also => absurd also unchanged⟩

theorem retain_alike (j : Job) (now : Nat) :
    (j.retain now).1.worker = j.worker ∧ (j.retain now).1.snapshot = j.snapshot := by
  refine ⟨?_, retain_snapshot j now⟩
  unfold retain
  split
  · rfl
  · split
    · rfl
    · split <;> rfl

end Job

/-! ## The steps of the manager -/

/-- What a step that is not a worker's makes of a job. -/
inductive Managed (s : State) (a : Action) (id : Nat) (j' : Job) : Prop where
  | alike (j : Job) : s.jobs id = some j → j'.worker = j.worker → j'.snapshot = j.snapshot →
      Managed s a id j'
  | cancelled (j : Job) (winner : Winner) : s.jobs id = some j → a = .commit →
      (∃ call, s.lock = some (.cancel call id)) ∨
        (∃ call rest, s.lock = some (.cancelAllStored call id rest)) →
      j' = (j.commitCancelled winner).1 → Managed s a id j'
  | created (outputPath : Option String) : s.jobs id = none → j' = .initial id outputPath →
      Managed s a id j'

section Managed

variable {s t : State} {a : Action} {id own : Nat} {j j' k : Job}

theorem managed_same (jobs : t.jobs = s.jobs) (present : t.jobs id = some j') : Managed s a id j' :=
  .alike j' (jobs ▸ present) rfl rfl

theorem managed_setJob (managed : id = own → Managed s a own k)
    (present : (s.setJob own k).jobs id = some j') : Managed s a id j' := by
  by_cases same : id = own
  · subst same
    obtain rfl : k = j' := by simpa [State.setJob] using present
    exact managed rfl
  · exact .alike j' (by simpa [State.setJob, same] using present) rfl rfl

theorem managed_of_step (minted : Minted s) (stepped : s.step a = some t)
    (manager : ∀ id step, a ≠ .work id step) (present : t.jobs id = some j') :
    Managed s a id j' := by
  cases a with
  | start outputPath =>
    obtain ⟨⟩ := stepped
    exact managed_same (t := s) rfl present
  | enterStart own now =>
    obtain ⟨-, entered⟩ := Option.ite_none_right_eq_some.mp stepped
    split at entered
    · obtain ⟨⟩ := entered
      exact managed_same (t := s) rfl present
    · obtain ⟨⟩ := entered
      exact managed_same (t := s) rfl present
  | enterPrune now =>
    obtain ⟨-, ⟨⟩⟩ := Option.ite_none_right_eq_some.mp stepped
    exact managed_same (t := s) rfl present
  | visit own =>
    obtain ⟨j, held, visited⟩ := Option.bind_eq_some_iff.mp stepped
    split at visited
    case h_1 now rest start lock =>
      -- `prune` looks at the job and at most stamps it
      obtain ⟨-, visited⟩ := Option.ite_none_right_eq_some.mp visited
      obtain rfl := Option.some.inj visited
      apply managed_setJob (k := (j.retain now).1) _ present
      intro _
      exact .alike j held (j.retain_alike now).1 (j.retain_alike now).2
    case h_2 call rest lock =>
      -- `cancel_all` stores the flag; the snapshot changes with its commit
      obtain ⟨-, ⟨⟩⟩ := Option.ite_none_right_eq_some.mp visited
      apply managed_setJob (k := { j with cancel := true }) _ present
      intro _
      exact .alike j held rfl rfl
    case h_3 => cases visited
  | commit =>
    simp only [State.step, State.commit] at stepped
    split at stepped
    case h_1 call own lock =>
      obtain ⟨j, held, rfl⟩ := Option.map_eq_some_iff.mp stepped
      apply managed_setJob (k := (j.commitCancelled (.cancel call)).1) _ present
      intro _
      exact .cancelled j _ held rfl (.inl ⟨call, lock⟩) rfl
    case h_2 call own rest lock =>
      obtain ⟨j, held, rfl⟩ := Option.map_eq_some_iff.mp stepped
      apply managed_setJob (k := (j.commitCancelled (.cancelAll call)).1) _ present
      intro _
      exact .cancelled j _ held rfl (.inr ⟨call, rest, lock⟩) rfl
    case h_3 => cases stepped
  | leave =>
    simp only [State.step, State.leave] at stepped
    split at stepped
    case h_1 =>
      obtain ⟨⟩ := stepped
      exact managed_same (t := s) rfl present
    case h_2 now own lock =>
      obtain ⟨path, waiting, rfl⟩ := Option.map_eq_some_iff.mp stepped
      apply managed_setJob (k := .initial own path) _ present
      intro _
      exact .created path (minted.pending own (by simp [waiting])) rfl
    case h_3 =>
      obtain ⟨⟩ := stepped
      exact managed_same (t := s) rfl present
    case h_4 => cases stepped
  | cancel own =>
    obtain ⟨-, called⟩ := Option.ite_none_right_eq_some.mp stepped
    split at called
    case h_1 j _ held =>
      obtain ⟨⟩ := called
      apply managed_setJob (k := { j with cancel := true }) _ present
      intro _
      exact .alike j held rfl rfl
    case h_2 =>
      obtain ⟨⟩ := called
      exact managed_same (t := s) rfl present
  | cancelAll =>
    obtain ⟨-, ⟨⟩⟩ := Option.ite_none_right_eq_some.mp stepped
    exact managed_same (t := s) rfl present
  | work own step => exact absurd rfl (manager own step)
  | subscribe own =>
    obtain ⟨-, subscribed⟩ := Option.ite_none_right_eq_some.mp stepped
    obtain ⟨j, -, rfl⟩ := Option.map_eq_some_iff.mp subscribed
    exact managed_same (t := s) rfl present
  | borrow n =>
    obtain ⟨p, -, borrowed⟩ := Option.bind_eq_some_iff.mp stepped
    obtain ⟨-, borrowed⟩ := Option.ite_none_right_eq_some.mp borrowed
    obtain ⟨j, -, rfl⟩ := Option.map_eq_some_iff.mp borrowed
    exact managed_same (t := s) rfl present
  | changed n =>
    obtain ⟨p, -, changed⟩ := Option.bind_eq_some_iff.mp stepped
    obtain ⟨-, changed⟩ := Option.ite_none_right_eq_some.mp changed
    obtain ⟨j, -, changed⟩ := Option.bind_eq_some_iff.mp changed
    split at changed
    · obtain ⟨⟩ := changed
      exact managed_same (t := s) rfl present
    · obtain ⟨-, ⟨⟩⟩ := Option.ite_none_right_eq_some.mp changed
      exact managed_same (t := s) rfl present
  | poll n =>
    obtain ⟨p, -, polled⟩ := Option.bind_eq_some_iff.mp stepped
    obtain ⟨-, ⟨⟩⟩ := Option.ite_none_right_eq_some.mp polled
    exact managed_same (t := s) rfl present

end Managed

/-! ## The files -/

/-- The files are what the changes made of them, and a job that changed any commits its end. -/
structure Guarded (files : Files) (d : Disk) : Prop where
  minted : Minted d.state
  files : d.files = replay files d.changes
  known : ∀ c ∈ d.changes, d.state.jobs c.job ≠ none
  committing : ∀ id j, d.state.jobs id = some j → j.Committing (∃ c ∈ d.changes, c.job = id)

section Guarded

variable {files : Files} {d d' : Disk} {a : DiskAction}

theorem guarded_init (files : Files) : Guarded files (.init files) where
  minted := ⟨fun _ _ => rfl, fun _ _ => rfl, fun _ _ => rfl, by simp [Disk.init, State.init]⟩
  files := rfl
  known := by simp [Disk.init]
  committing := by simp [Disk.init, State.init]

/-- No job disappears. -/
theorem Minted.known {s t : State} (minted : Minted s) (moved : Move s t) {id : Nat}
    (known : s.jobs id ≠ none) : t.jobs id ≠ none := by
  intro gone
  have step := minted.jobsMove moved id
  rw [gone] at step
  generalize s.jobs id = before at step known
  cases step
  exact known rfl

theorem Guarded.managed (guarded : Guarded files d) {state : State}
    (undisturbed : d.undisturbed a = true) (stepped : d.state.step a.action = some state)
    (manager : ∀ id step, a.action ≠ .work id step) : Guarded files { d with state } where
  minted := guarded.minted.move (step_move stepped)
  files := guarded.files
  known := fun c listed => guarded.minted.known (step_move stepped) (guarded.known c listed)
  committing := by
    intro id j' present
    cases managed_of_step guarded.minted stepped manager present with
    | alike j held worker snapshot => exact (guarded.committing id j held).alike worker snapshot
    | cancelled j winner held commit lock same =>
      subst same
      apply (guarded.committing id j held).cancelled
      unfold Disk.undisturbed at undisturbed
      rcases lock with ⟨call, lock⟩ | ⟨call, rest, lock⟩ <;>
        simpa [commit, lock, held] using undisturbed
    | created outputPath absent same =>
      subst same
      apply Job.committing_initial
      rintro ⟨c, listed, rfl⟩
      exact guarded.known c listed absent

theorem Guarded.worked (guarded : Guarded files d) {id : Nat} {step : WorkerStep} {removable : Bool}
    (undisturbed : d.undisturbed ⟨.work id step, removable⟩ = true)
    (stepped : d.step ⟨.work id step, removable⟩ = some d') : Guarded files d' := by
  obtain ⟨state, moved, rfl⟩ := Option.map_eq_some_iff.mp stepped
  have minted : Minted state := guarded.minted.move (step_move moved)
  obtain ⟨j, held, worked⟩ := Option.bind_eq_some_iff.mp moved
  obtain ⟨j', answered, rfl⟩ := Option.map_eq_some_iff.mp worked
  have early : step = .writeAtomic (.ok ()) → j.terminal = false := by
    rintro rfl
    simpa [Disk.undisturbed, held] using undisturbed
  have committing := (guarded.committing id j held).worked (guarded.minted.consistent id j held)
    answered early
  have changed : d.change ⟨.work id step, removable⟩ = j.change id removable step := by
    simp [Disk.change, held]
  rw [changed]
  -- the job that works, and the others
  have jobs : ∀ {changes : List Change},
      (∀ c ∈ changes, c ∈ d.changes ∨ c.job = id ∧ step = .writeAtomic (.ok ())) →
      ∀ other k, (d.state.setJob id j').jobs other = some k →
        k.Committing (∃ c ∈ changes, c.job = other) := by
    intro changes bounded other k present
    by_cases same : other = id
    · subst same
      obtain rfl : j' = k := by simpa [State.setJob] using present
      apply committing.mono
      rintro ⟨c, listed, own⟩
      rcases bounded c listed with before | ⟨-, write⟩
      · exact .inl ⟨c, before, own⟩
      · exact .inr write
    · apply (guarded.committing other k (by simpa [State.setJob, same] using present)).mono
      rintro ⟨c, listed, own⟩
      rcases bounded c listed with before | ⟨foreign, -⟩
      · exact ⟨c, before, own⟩
      · exact absurd (own.symm.trans foreign) same
  have known : ∀ {other : Nat}, d.state.jobs other ≠ none →
      (d.state.setJob id j').jobs other ≠ none :=
    fun {_} before => guarded.minted.known (step_move moved) before
  cases change : j.change id removable step with
  | none =>
    exact ⟨minted, guarded.files, fun c listed => known (guarded.known c listed),
      jobs fun c listed => .inl listed⟩
  | some c =>
    have own : c.job = id ∧ step = .writeAtomic (.ok ()) := by
      unfold Job.change at change
      split at change
      · split at change
        · obtain ⟨⟩ := change
          exact ⟨rfl, rfl⟩
        · cases change
      · -- nothing is removed: the commit was not lost
        obtain ⟨here, -⟩ := Option.ite_none_right_eq_some.mp answered
        exact absurd here (guarded.committing id j held).kept
      · cases change
    refine ⟨minted, ?_, ?_, ?_⟩
    · rw [guarded.files, replay, replay, List.foldl_concat]
    · intro other listed
      rcases List.mem_append.mp listed with before | now
      · exact known (guarded.known other before)
      · obtain rfl := List.mem_singleton.mp now
        rw [own.1]
        exact known (by simp [held])
    · apply jobs
      intro other listed
      rcases List.mem_append.mp listed with before | now
      · exact .inl before
      · obtain rfl := List.mem_singleton.mp now
        exact .inr own

theorem Guarded.step (guarded : Guarded files d) (undisturbed : d.undisturbed a = true)
    (stepped : d.step a = some d') : Guarded files d' := by
  obtain ⟨action, removable⟩ := a
  by_cases worker : ∃ id step, action = .work id step
  · obtain ⟨id, step, rfl⟩ := worker
    exact guarded.worked undisturbed stepped
  · have manager : ∀ id step, action ≠ .work id step := by
      intro id step same
      exact worker ⟨id, step, same⟩
    obtain ⟨state, moved, rfl⟩ := Option.map_eq_some_iff.mp stepped
    have unchanged : d.change ⟨action, removable⟩ = none := by
      unfold Disk.change
      split
      case h_1 id step same => exact absurd same (manager id step)
      case h_2 => rfl
    rw [unchanged]
    exact guarded.managed undisturbed moved manager

end Guarded

/-- As long as no cancellation takes effect between a worker's check of the cancel flag and its commit,
the files are what they would be had a job that ended cancelled or failed never run. -/
theorem output_untouched {files : Files} {d : Disk} {id : Nat} {j : Job}
    (run : Run Disk.step (fun d a => d.undisturbed a = true) (.init files) d)
    (present : d.state.jobs id = some j) (ended : j.worker = .ended)
    (fruitless : j.snapshot.state = .cancelled ∨ j.snapshot.state = .failed) :
    d.files = replay files (d.changes.filter fun c => c.job ≠ id) := by
  have guarded : Guarded files d := by
    refine Run.invariant (I := fun d => Guarded files d) (guarded_init files) ?_ run
    intro d a d' _ guarded undisturbed stepped
    exact guarded.step undisturbed stepped
  have unchanged : ∀ c ∈ d.changes, c.job ≠ id := by
    intro c listed own
    rcases (guarded.committing id j present).changed ⟨c, listed, own⟩ with wrote | finished
    · simp [Job.wrote, ended] at wrote
    · rcases fruitless with cancelled | failed
      · simp [cancelled] at finished
      · simp [failed] at finished
  rw [guarded.files, List.filter_eq_self.mpr (by simpa using unchanged)]

/-! ## A job on a path that holds a file -/

def fileAtX : Files := fun path => if path = "/x" then some [1] else none

/-- A job with the output path `/x`, up to the check of its cancel flag, and what follows. -/
def builtAtX (rest : List Action) : List DiskAction :=
  let built : List Action := [.start (some "/x"), .enterStart 1 0, .leave,
    .work 1 (.prepared (.ok 1)), .work 1 (.hashed (.ok [2]))]
  (built ++ rest).map fun action => ⟨action, true⟩

/-- The job is cancelled before the check. -/
theorem output_untouched_early :
    ∃ (d : Disk) (j : Job), d.state.jobs 1 = some j ∧ j.snapshot.state = .cancelled ∧
      d.files = replay fileAtX (d.changes.filter fun c => c.job ≠ 1) := by
  have replayed : (exec Disk.step Disk.undisturbed (.init fileAtX)
      (builtAtX [.cancel 1, .commit, .work 1 .checkCancel, .work 1 .finish])).map (fun d =>
          decide (∃ j ∈ d.state.jobs 1, j.worker = .ended ∧ j.snapshot.state = .cancelled)) =
        some true := by
    decide +kernel
  obtain ⟨d, run, reached⟩ := exists_run_of_exec replayed
  obtain ⟨j, present, ended, cancelled⟩ := of_decide_eq_true reached
  exact ⟨d, j, present, cancelled, output_untouched run present ended (.inl cancelled)⟩

/-- The cancel comes between the check and the commit: the file that was there is gone. -/
theorem output_removed :
    ∃ (d : Disk) (j : Job), Run Disk.step (fun _ _ => True) (.init fileAtX) d ∧
      d.state.jobs 1 = some j ∧ j.worker = .ended ∧ j.snapshot.state = .cancelled ∧
      d.files "/x" = none ∧
      replay fileAtX (d.changes.filter fun c => c.job ≠ 1) "/x" = some [1] := by
  have replayed : (exec Disk.step (fun _ _ => true) (.init fileAtX)
      (builtAtX [.work 1 .checkCancel, .cancel 1, .commit, .work 1 (.writeAtomic (.ok ())),
        .work 1 .commit, .work 1 .removeFile, .work 1 .finish])).map (fun d =>
          decide ((∃ j ∈ d.state.jobs 1, j.worker = .ended ∧ j.snapshot.state = .cancelled) ∧
            d.files "/x" = none ∧
            replay fileAtX (d.changes.filter fun c => c.job ≠ 1) "/x" = some [1])) = some true := by
    decide +kernel
  obtain ⟨d, run, reached⟩ := exists_run_of_exec replayed
  obtain ⟨⟨j, present, ended, cancelled⟩, removed, kept⟩ := of_decide_eq_true reached
  exact ⟨d, j, run.mono (by simp), present, ended, cancelled, removed, kept⟩

end Rsbtd.Jobs
