import Mathlib.Tactic.ByContra
import Rsbtd.Engine.Jobs

/-!
# The life of a creation job

`JobMove` is what a step can do to one job and `Move` what it can do to the state.
The worker and a cancel call race for the terminal commit: the flag may be set
while the worker still commits, and a worker that sees the flag leaves without a
commit, since the cancel that set it has committed or is about to.  A stream
cannot miss the terminal snapshot: its version is one the receiver has not seen,
and that is reported before the closed channel is.
-/

namespace Rsbtd.Jobs

open Transition (Run exec exists_run_of_exec)

/-! ## One job -/

/-- The worker is past its commit. -/
def Worker.left : Worker → Bool
  | discarding | returning | ended => true
  | _ => false

/-- What a snapshot carries in each state. -/
structure JobSnapshot.Consistent (s : JobSnapshot) : Prop where
  torrent : s.torrent.isSome = true ↔ s.state = .finished ∧ s.outputPath = none
  error : s.error.isSome = true ↔ s.state = .failed

structure Job.Consistent (j : Job) : Prop where
  snapshot : j.snapshot.Consistent
  winners : j.winners.length = if j.terminal then 1 else 0
  written : ∀ path result, j.worker = .written path result → j.snapshot.outputPath = some path
  /-- The worker leaves when the job is terminal or about to be cancelled. -/
  left : j.worker.left = true → j.terminal = true ∨ j.cancel = true

/-- Where the channel stands after a step. -/
inductive Published (j j' : Job) : Prop where
  | same : j'.snapshot = j.snapshot → j'.version = j.version → j'.winners = j.winners →
      Published j j'
  | progress : j.terminal = false → j'.terminal = false → j'.version = j.version + 1 →
      j'.winners = j.winners → Published j j'
  | committed (winner : Winner) : j.terminal = false → j'.terminal = true →
      j'.version = j.version + 1 → j'.winners = j.winners ++ [winner] → Published j j'

/-- What a step does to one job: who has published what, and where the worker and
the flag are. -/
structure JobMove (winner : Winner → Prop) (j j' : Job) : Prop where
  published : Published j j'
  winner : ∀ w ∈ j'.winners, w ∈ j.winners ∨ winner w
  cancel : j'.cancel = j.cancel
  ended : j.worker = .ended → j'.worker = .ended
  consistent : j'.Consistent

namespace Job

variable {j j' : Job}

theorem Consistent.blank (consistent : j.Consistent) (running : j.terminal = false) :
    j.snapshot.torrent = none ∧ j.snapshot.error = none := by
  have torrent := consistent.snapshot.torrent
  have error := consistent.snapshot.error
  unfold terminal at running
  constructor
  · cases present : j.snapshot.torrent with
    | none => rfl
    | some bytes =>
      have finished := (torrent.mp (by simp [present])).1
      simp [finished, JobState.isTerminal] at running
  · cases present : j.snapshot.error with
    | none => rfl
    | some message =>
      have failed := error.mp (by simp [present])
      simp [failed, JobState.isTerminal] at running

theorem consistent_initial (id : Nat) (outputPath : Option String) :
    (initial id outputPath).Consistent where
  snapshot := ⟨by simp [initial], by simp [initial]⟩
  winners := rfl
  written := by simp [initial]
  left := by simp [initial, Worker.left]

/-- A change of the worker alone. -/
theorem Consistent.turn (consistent : j.Consistent) {worker : Worker}
    (written : ∀ path result, worker = .written path result → j.snapshot.outputPath = some path)
    (left : worker.left = true → j.worker.left = true ∨ j.cancel = true)
    (ended : j.worker = .ended → worker = .ended) (winner : Winner → Prop) :
    JobMove winner j { j with worker } where
  published := .same rfl rfl rfl
  winner := fun _ won => .inl won
  cancel := rfl
  ended := ended
  consistent :=
    { snapshot := consistent.snapshot
      winners := consistent.winners
      written := written
      left := fun past => (left past).elim consistent.left .inr }

/-- A progress report, from which the worker goes on. -/
theorem Consistent.report (consistent : j.Consistent) {apply : JobSnapshot → JobSnapshot}
    {worker : Worker} (past : j.worker.left = false) (ahead : worker.left = false)
    (unwritten : ∀ path result, worker ≠ .written path result)
    (running : ∀ s : JobSnapshot, s.state.isTerminal = false →
      (apply s).state.isTerminal = false ∧ (apply s).torrent = s.torrent ∧
        (apply s).error = s.error ∧ (apply s).outputPath = s.outputPath) (winner : Winner → Prop) :
    JobMove winner j { j.progress apply with worker } := by
  have working : j.worker ≠ .ended := by
    intro ended
    rw [ended] at past
    cases past
  cases state : j.terminal with
  | true =>
    have same : j.progress apply = j := by simp [progress, state]
    rw [same]
    exact consistent.turn (fun path result h => absurd h (unwritten path result))
      (fun left => by rw [ahead] at left; cases left) (fun ended => absurd ended working) winner
  | false =>
    obtain ⟨open_, torrent, error, _⟩ := running j.snapshot state
    obtain ⟨noTorrent, noError⟩ := consistent.blank state
    have next : j.progress apply =
        { j with snapshot := apply j.snapshot, version := j.version + 1 } := by
      simp [progress, state]
    rw [next]
    have still : ({ j with
        snapshot := apply j.snapshot, version := j.version + 1, worker } : Job).terminal = false :=
      open_
    refine ⟨.progress state still rfl rfl, fun _ won => .inl won, rfl,
      fun ended => absurd ended working, ⟨?_, ?_⟩, ?_, ?_, ?_⟩
    · change (apply j.snapshot).torrent.isSome = true ↔ _
      rw [torrent, noTorrent]
      refine ⟨fun present => (by cases present), fun finished => ?_⟩
      rw [show (apply j.snapshot).state = .finished from finished.1] at open_
      cases open_
    · change (apply j.snapshot).error.isSome = true ↔ _
      rw [error, noError]
      refine ⟨fun present => (by cases present), fun failed => ?_⟩
      rw [show (apply j.snapshot).state = .failed from failed] at open_
      cases open_
    · rw [still]
      simpa [state] using consistent.winners
    · exact fun path result h => absurd h (unwritten path result)
    · intro left
      rw [show worker.left = true from left] at ahead
      cases ahead

/-- A terminal commit, after which the job is terminal whoever has won. -/
theorem Consistent.commit (consistent : j.Consistent) {apply : JobSnapshot → JobSnapshot}
    {won : Winner} (worker : Worker)
    (unwritten : ∀ path result, worker = .written path result → j.worker = .written path result)
    (ended : j.worker = .ended → worker = .ended)
    (outputPath : (apply j.snapshot).outputPath = j.snapshot.outputPath)
    (final : j.snapshot.torrent = none → j.snapshot.error = none →
      (apply j.snapshot).state.isTerminal = true ∧ (apply j.snapshot).Consistent) :
    JobMove (· = won) j { (j.commitTerminal apply won).1 with worker } := by
  cases state : j.terminal with
  | true =>
    have same : (j.commitTerminal apply won).1 = j := by simp [commitTerminal, state]
    rw [same]
    refine ⟨.same rfl rfl rfl, fun _ won => .inl won, rfl, ended, ?_⟩
    exact ⟨consistent.snapshot, consistent.winners,
      fun path result h => consistent.written path result (unwritten path result h),
      fun _ => .inl state⟩
  | false =>
    obtain ⟨noTorrent, noError⟩ := consistent.blank state
    obtain ⟨closed, fair⟩ := final noTorrent noError
    have next : (j.commitTerminal apply won).1 =
        { j with
          snapshot := apply j.snapshot, version := j.version + 1
          winners := j.winners ++ [won] } := by
      simp [commitTerminal, state]
    have nobody : j.winners = [] := by simpa [state] using consistent.winners
    rw [next]
    refine ⟨.committed won state closed rfl rfl, ?_, rfl, ended, fair, ?_, ?_,
      fun _ => .inl closed⟩
    · intro w member
      rcases List.mem_append.mp member with old | new
      · exact .inl old
      · exact .inr (List.mem_singleton.mp new)
    · have terminal : ({ j with
          snapshot := apply j.snapshot, version := j.version + 1
          winners := j.winners ++ [won], worker } : Job).terminal = true := closed
      rw [terminal]
      simp [nobody]
    · intro path result h
      change (apply j.snapshot).outputPath = some path
      rw [outputPath]
      exact consistent.written path result (unwritten path result h)

theorem Consistent.stored (consistent : j.Consistent) : { j with cancel := true }.Consistent where
  snapshot := consistent.snapshot
  winners := consistent.winners
  written := consistent.written
  left := fun _ => .inr rfl

theorem Consistent.cancelled (consistent : j.Consistent) (winner : Winner) :
    JobMove (· = winner) j (j.commitCancelled winner).1 := by
  have moved : JobMove (· = winner) j { (j.commitCancelled winner).1 with worker := j.worker } := by
    apply consistent.commit j.worker (fun _ _ h => h) (fun h => h) rfl
    intro torrent error
    exact ⟨rfl, ⟨by simp [torrent], by simp [error]⟩⟩
  have same : ({ (j.commitCancelled winner).1 with worker := j.worker } : Job) =
      (j.commitCancelled winner).1 := by
    unfold commitCancelled commitTerminal
    split <;> rfl
  rwa [same] at moved

theorem Consistent.retained (consistent : j.Consistent) (now : Nat) (winner : Winner → Prop) :
    JobMove winner j (j.retain now).1 := by
  have seen (terminalSeen : Option Nat) : JobMove winner j { j with terminalSeen } :=
    ⟨.same rfl rfl rfl, fun _ won => .inl won, rfl, fun ended => ended,
      ⟨consistent.snapshot, consistent.winners, consistent.written, consistent.left⟩⟩
  unfold retain
  split
  · exact seen j.terminalSeen
  · split
    · exact seen j.terminalSeen
    · split
      · exact seen (some now)
      · exact seen j.terminalSeen

/-- What `prune` drops is terminal, and its worker has ended. -/
theorem dropped_of_retain {now : Nat} (dropped : (j.retain now).2 = false) :
    (j.retain now).1 = j ∧ j.terminal = true ∧ j.worker = .ended := by
  unfold retain at dropped ⊢
  cases state : j.terminal with
  | false => simp [state] at dropped
  | true =>
    by_cases ended : j.worker = .ended
    · cases seen : j.terminalSeen <;> simp [state, ended, seen] at dropped ⊢
    · simp [state, ended] at dropped

theorem commit_consistent {s : JobSnapshot} {message : String} (torrent : s.torrent = none) :
    ({ s with state := .failed, error := some message } : JobSnapshot).Consistent :=
  ⟨by simp [torrent], by simp⟩

theorem Consistent.failed (consistent : j.Consistent) (message : String)
    (working : j.worker ≠ .ended) :
    JobMove (· = .worker) j { j.commitFailed message with worker := .returning } := by
  apply consistent.commit .returning (by simp) (fun ended => absurd ended working) rfl
  intro torrent _
  exact ⟨rfl, commit_consistent torrent⟩

/-- The steps of the worker. -/
theorem Consistent.worked (consistent : j.Consistent) {step : WorkerStep}
    (worked : j.work step = some j') : JobMove (· = .worker) j j' := by
  cases step with
  | prepared result =>
    obtain ⟨here, answered⟩ := Option.ite_none_right_eq_some.mp worked
    cases result with
    | error e =>
      obtain ⟨⟩ := answered
      exact consistent.turn (by simp) (by simp [Worker.left]) (by simp [here]) _
    | ok total =>
      obtain ⟨⟩ := answered
      apply consistent.report (by simp [here, Worker.left]) rfl (by simp)
      intro s _
      exact ⟨rfl, rfl, rfl, rfl⟩
  | piece index =>
    obtain ⟨here, ⟨⟩⟩ := Option.ite_none_right_eq_some.mp worked
    apply consistent.report (by simp [here, Worker.left]) rfl (by simp)
    intro s running
    exact ⟨running, rfl, rfl, rfl⟩
  | checkPiece e =>
    obtain ⟨here, checked⟩ := Option.ite_none_right_eq_some.mp worked
    split at checked
    · obtain ⟨⟩ := checked
      exact consistent.turn (by simp) (by simp [Worker.left]) (by simp [here]) _
    · obtain ⟨⟩ := checked
      exact consistent.turn (by simp) (by simp [Worker.left]) (by simp [here]) _
  | hashed result =>
    obtain ⟨here, ⟨⟩⟩ := Option.ite_none_right_eq_some.mp worked
    exact consistent.turn (by simp) (by simp [Worker.left]) (by simp [here]) _
  | checkCancel =>
    -- the worker gives up only where it has seen the flag
    simp only [work] at worked
    split at worked
    case h_1 result here =>
      split at worked
      case isTrue set =>
        obtain ⟨⟩ := worked
        exact consistent.turn (by simp) (fun _ => .inr set) (by simp [here]) _
      case isFalse =>
        obtain ⟨⟩ := worked
        exact consistent.turn (by simp) (by simp [Worker.left]) (by simp [here]) _
    case h_2 => cases worked
  | writeAtomic result =>
    simp only [work] at worked
    split at worked
    case h_1 bytes path here chosen =>
      obtain ⟨⟩ := worked
      apply consistent.turn ?_ (by simp [Worker.left]) (by simp [here])
      rintro other answer ⟨⟩
      exact chosen
    case h_2 => cases worked
  | commit =>
    -- one commit for each way the work can end
    simp only [work] at worked
    split at worked
    case h_1 bytes here =>
      obtain ⟨inMemory, ⟨⟩⟩ := Option.ite_none_right_eq_some.mp worked
      apply consistent.commit .returning (by simp) (by simp [here]) rfl
      intro _ error
      exact ⟨rfl, ⟨by simp [inMemory], by simp [error]⟩⟩
    case h_2 message here =>
      obtain ⟨⟩ := worked
      exact consistent.failed message (by simp [here])
    case h_3 path answer here =>
      obtain ⟨⟩ := worked
      have chosen := consistent.written path _ here
      apply consistent.commit _ (fun other result h => ?_) (by simp [here]) rfl
      · intro torrent error
        exact ⟨rfl, ⟨by simp [torrent, chosen], by simp [error]⟩⟩
      · split at h <;> cases h
    case h_4 path e here =>
      obtain ⟨⟩ := worked
      exact consistent.failed _ (by simp [here])
    case h_5 => cases worked
  | removeFile =>
    obtain ⟨here, ⟨⟩⟩ := Option.ite_none_right_eq_some.mp worked
    exact consistent.turn (by simp) (by simp [here, Worker.left]) (by simp [here]) _
  | finish =>
    obtain ⟨here, ⟨⟩⟩ := Option.ite_none_right_eq_some.mp worked
    exact consistent.turn (by simp) (by simp [here, Worker.left]) (by simp) _

end Job

/-! ## The steps of the system -/

/-- What a step can do to the state. -/
inductive Move (s : State) : State → Prop where
  | minted (outputPath : Option String) :
      Move s { s with
        nextId := s.nextId + 1
        starts := Function.update s.starts (s.nextId + 1) (some outputPath) }
  | refused (id : Nat) : Move s { s with starts := Function.update s.starts id none }
  | entered (id now : Nat) : s.lock = none → s.stopping = false →
      Move s { s with lock := some (.prune now s.entries (some id)) }
  | pruning (now : Nat) : s.lock = none →
      Move s { s with lock := some (.prune now s.entries none) }
  | retained {now id : Nat} {rest : List Nat} {start : Option Nat} {j : Job} :
      s.lock = some (.prune now rest start) → s.jobs id = some j →
      Move s { s.setJob id (j.retain now).1 with lock := some (.prune now (rest.erase id) start) }
  | dropped {now id : Nat} {rest : List Nat} {start : Option Nat} {j : Job} :
      s.lock = some (.prune now rest start) → s.jobs id = some j →
      j.terminal = true → j.worker = .ended →
      Move s { s.setJob id j with
        entries := s.entries.erase id, lock := some (.prune now (rest.erase id) start) }
  | storedAll {call id : Nat} {rest : List Nat} {j : Job} :
      s.lock = some (.cancelAll call rest) → s.jobs id = some j →
      Move s { s.storeCancel id j with lock := some (.cancelAllStored call id (rest.erase id)) }
  | committed {call id : Nat} {j : Job} : s.lock = some (.cancel call id) → s.jobs id = some j →
      Move s { s.setJob id (j.commitCancelled (.cancel call)).1 with
        results := Function.update s.results call
          (some (id, (j.commitCancelled (.cancel call)).2))
        lock := none }
  | committedAll {call id : Nat} {rest : List Nat} {j : Job} :
      s.lock = some (.cancelAllStored call id rest) → s.jobs id = some j →
      Move s { s.setJob id (j.commitCancelled (.cancelAll call)).1 with
        lock := some (.cancelAll call rest) }
  | left : (∀ call id, s.lock ≠ some (.cancel call id)) →
      (∀ call id rest, s.lock ≠ some (.cancelAllStored call id rest)) →
      Move s { s with lock := none }
  | created {now id : Nat} {outputPath : Option String} :
      s.lock = some (.prune now [] (some id)) → s.starts id = some outputPath →
      Move s { s.setJob id (.initial id outputPath) with
        entries := s.entries ++ [id], starts := Function.update s.starts id none, lock := none }
  | stored {id : Nat} {j : Job} : s.lock = none → s.jobs id = some j →
      Move s { s.storeCancel id j with
        lock := some (.cancel s.nextCall id), nextCall := s.nextCall + 1 }
  | unknown (id : Nat) : s.lock = none →
      Move s { s with
        results := Function.update s.results s.nextCall (some (id, false))
        nextCall := s.nextCall + 1 }
  | stopped : s.lock = none →
      Move s { s with
        stopping := true, lock := some (.cancelAll s.nextCall s.entries)
        nextCall := s.nextCall + 1 }
  | worked {id : Nat} {j j' : Job} (step : WorkerStep) : s.jobs id = some j →
      j.work step = some j' → Move s (s.setJob id j')
  | subscribed {id : Nat} {j : Job} : s.jobs id = some j →
      Move s { s with streams := s.streams ++ [⟨id, j.version, .yielding, []⟩] }
  | borrowed {n : Nat} {p : Progress} {j : Job} : s.streams[n]? = some p → p.st = .yielding →
      s.jobs p.job = some j →
      Move s (s.setStream n { p with
        seen := j.version
        st := if j.terminal then .done else .waiting
        yielded := p.yielded ++ [j.snapshot] })
  | notified {n : Nat} {p : Progress} {j : Job} : s.streams[n]? = some p → p.st = .waiting →
      s.jobs p.job = some j → Move s (s.setStream n { p with seen := j.version, st := .yielding })
  | exhausted {n : Nat} {p : Progress} {j : Job} : s.streams[n]? = some p → p.st = .waiting →
      s.jobs p.job = some j → j.version = p.seen → p.job ∉ s.entries → j.worker = .ended →
      Move s (s.setStream n { p with st := .ended })
  | polled {n : Nat} {p : Progress} : s.streams[n]? = some p → p.st = .done →
      Move s (s.setStream n { p with st := .ended })

section Steps

variable {s t : State}

theorem visit_move {id : Nat} (stepped : s.visit id = some t) : Move s t := by
  obtain ⟨j, present, visited⟩ := Option.bind_eq_some_iff.mp stepped
  split at visited
  case h_1 now rest start held =>
    obtain ⟨-, visited⟩ := Option.ite_none_right_eq_some.mp visited
    obtain rfl := Option.some.inj visited
    change Move s { s.setJob id (j.retain now).1 with
      entries := if (j.retain now).2 then s.entries else s.entries.erase id
      lock := some (.prune now (rest.erase id) start) }
    cases kept : (j.retain now).2 with
    | true => exact .retained held present
    | false =>
      obtain ⟨same, terminal, ended⟩ := Job.dropped_of_retain kept
      rw [same]
      exact .dropped held present terminal ended
  case h_2 call rest held =>
    obtain ⟨-, ⟨⟩⟩ := Option.ite_none_right_eq_some.mp visited
    exact .storedAll held present
  case h_3 => cases visited

theorem commit_move (stepped : s.commit = some t) : Move s t := by
  unfold State.commit at stepped
  split at stepped
  case h_1 call id held =>
    obtain ⟨j, present, rfl⟩ := Option.map_eq_some_iff.mp stepped
    exact .committed held present
  case h_2 call id rest held =>
    obtain ⟨j, present, rfl⟩ := Option.map_eq_some_iff.mp stepped
    exact .committedAll held present
  case h_3 => cases stepped

theorem leave_move (stepped : s.leave = some t) : Move s t := by
  unfold State.leave at stepped
  split at stepped
  case h_1 now held =>
    obtain ⟨⟩ := stepped
    exact .left (by simp [held]) (by simp [held])
  case h_2 now id held =>
    obtain ⟨path, waiting, rfl⟩ := Option.map_eq_some_iff.mp stepped
    exact .created held waiting
  case h_3 call held =>
    obtain ⟨⟩ := stepped
    exact .left (by simp [held]) (by simp [held])
  case h_4 => cases stepped

theorem step_move {a : Action} (stepped : s.step a = some t) : Move s t := by
  cases a with
  | start outputPath =>
    obtain ⟨⟩ := stepped
    exact .minted outputPath
  | enterStart id now =>
    obtain ⟨⟨free, -⟩, entered⟩ := Option.ite_none_right_eq_some.mp stepped
    split at entered
    · obtain ⟨⟩ := entered
      exact .refused id
    case isFalse running =>
      obtain ⟨⟩ := entered
      exact .entered id now free (by simpa using running)
  | enterPrune now =>
    obtain ⟨free, ⟨⟩⟩ := Option.ite_none_right_eq_some.mp stepped
    exact .pruning now free
  | visit id => exact visit_move stepped
  | commit => exact commit_move stepped
  | leave => exact leave_move stepped
  | cancel id =>
    obtain ⟨free, called⟩ := Option.ite_none_right_eq_some.mp stepped
    split at called
    case h_1 j _ present =>
      obtain ⟨⟩ := called
      exact .stored free present
    case h_2 =>
      obtain ⟨⟩ := called
      exact .unknown id free
  | cancelAll =>
    obtain ⟨free, ⟨⟩⟩ := Option.ite_none_right_eq_some.mp stepped
    exact .stopped free
  | work id step =>
    obtain ⟨j, present, worked⟩ := Option.bind_eq_some_iff.mp stepped
    obtain ⟨j', answered, rfl⟩ := Option.map_eq_some_iff.mp worked
    exact .worked step present answered
  | subscribe id =>
    obtain ⟨-, subscribed⟩ := Option.ite_none_right_eq_some.mp stepped
    obtain ⟨j, present, rfl⟩ := Option.map_eq_some_iff.mp subscribed
    exact .subscribed present
  | borrow n =>
    obtain ⟨p, found, borrowed⟩ := Option.bind_eq_some_iff.mp stepped
    obtain ⟨yielding, borrowed⟩ := Option.ite_none_right_eq_some.mp borrowed
    obtain ⟨j, present, rfl⟩ := Option.map_eq_some_iff.mp borrowed
    exact .borrowed found yielding present
  | changed n =>
    obtain ⟨p, found, changed⟩ := Option.bind_eq_some_iff.mp stepped
    obtain ⟨waiting, changed⟩ := Option.ite_none_right_eq_some.mp changed
    obtain ⟨j, present, changed⟩ := Option.bind_eq_some_iff.mp changed
    split at changed
    case isTrue =>
      obtain ⟨⟩ := changed
      exact .notified found waiting present
    case isFalse seen =>
      obtain ⟨closed, ⟨⟩⟩ := Option.ite_none_right_eq_some.mp changed
      obtain ⟨dropped, ended⟩ : p.job ∉ s.entries ∧ j.worker = .ended := by
        simpa [State.closed] using closed
      exact .exhausted found waiting present (by simpa using seen) dropped ended
  | poll n =>
    obtain ⟨p, found, polled⟩ := Option.bind_eq_some_iff.mp stepped
    obtain ⟨done, ⟨⟩⟩ := Option.ite_none_right_eq_some.mp polled
    exact .polled found done

end Steps

/-! ## Jobs -/

/-- An id is given to one `start` call, which makes its job. -/
structure Minted (s : State) : Prop where
  jobs : ∀ id, s.nextId < id → s.jobs id = none
  starts : ∀ id, s.nextId < id → s.starts id = none
  pending : ∀ id, s.starts id ≠ none → s.jobs id = none
  consistent : ∀ id j, s.jobs id = some j → j.Consistent

/-- The winners a step may add to a job. -/
def Commits (s : State) (id : Nat) (w : Winner) : Prop :=
  w = .worker ∨ (∃ call, s.lock = some (.cancel call id) ∧ w = .cancel call) ∨
    ∃ call rest, s.lock = some (.cancelAllStored call id rest) ∧ w = .cancelAll call

/-- What a step does to the job with an id. -/
inductive JobsMove (winner : Winner → Prop) : Option Job → Option Job → Prop where
  | same (j : Option Job) : JobsMove winner j j
  | created (id : Nat) (outputPath : Option String) :
      JobsMove winner none (some (.initial id outputPath))
  | stored (j : Job) : JobsMove winner (some j) (some { j with cancel := true })
  | moved {j j' : Job} : JobMove winner j j' → JobsMove winner (some j) (some j')

theorem JobMove.mono {winner winner' : Winner → Prop} {j j' : Job} (moved : JobMove winner j j')
    (weaker : ∀ w, winner w → winner' w) : JobMove winner' j j' :=
  { moved with winner := fun w won => (moved.winner w won).imp_right (weaker w) }

section Jobs

variable {s t : State}

theorem jobs_setJob {winner : Winner → Prop} {id other : Nat} {j j' : Job}
    (present : s.jobs id = some j) (moved : other = id → JobsMove winner (some j) (some j')) :
    JobsMove winner (s.jobs other) ((s.setJob id j').jobs other) := by
  by_cases own : other = id
  · subst own
    rw [present]
    simpa [State.setJob] using moved rfl
  · simpa [State.setJob, own] using JobsMove.same (s.jobs other)

/-- Every step moves each job on its own. -/
theorem Minted.jobsMove (minted : Minted s) (moved : Move s t) (id : Nat) :
    JobsMove (Commits s id) (s.jobs id) (t.jobs id) := by
  have consistent {id : Nat} {j : Job} (present : s.jobs id = some j) : j.Consistent :=
    minted.consistent id j present
  cases moved with
  | minted | refused | entered | pruning | left | unknown | stopped | subscribed | borrowed
  | notified | exhausted | polled => exact .same _
  | retained _ present =>
    exact jobs_setJob present fun _ => .moved ((consistent present).retained _ _)
  | @dropped now own rest start j held present =>
    by_cases same : id = own
    · subst same
      simpa [State.setJob, present] using JobsMove.same (some j)
    · simpa [State.setJob, same] using JobsMove.same (s.jobs id)
  | storedAll _ present | stored _ present =>
    exact jobs_setJob present fun _ => .stored _
  | committed held present =>
    apply jobs_setJob present
    rintro rfl
    exact .moved (((consistent present).cancelled _).mono fun w own => .inr (.inl ⟨_, held, own⟩))
  | committedAll held present =>
    apply jobs_setJob present
    rintro rfl
    exact .moved (((consistent present).cancelled _).mono
      fun w own => .inr (.inr ⟨_, _, held, own⟩))
  | @created now own outputPath _ waiting =>
    by_cases same : id = own
    · subst same
      have absent : s.jobs id = none := minted.pending id (by simp [waiting])
      rw [absent]
      simpa [State.setJob] using JobsMove.created id outputPath
    · simpa [State.setJob, same] using JobsMove.same (s.jobs id)
  | worked step present worked =>
    exact jobs_setJob present fun _ =>
      .moved (((consistent present).worked worked).mono fun w own => .inl own)

theorem JobsMove.consistent {winner : Winner → Prop} {o o' : Option Job}
    (moved : JobsMove winner o o') (before : ∀ j, o = some j → j.Consistent) {j : Job}
    (present : o' = some j) : j.Consistent := by
  cases moved with
  | same => exact before j present
  | created id outputPath =>
    obtain ⟨⟩ := present
    exact Job.consistent_initial id outputPath
  | stored =>
    obtain ⟨⟩ := present
    exact (before _ rfl).stored
  | moved moved =>
    obtain ⟨⟩ := present
    exact moved.consistent

theorem setJob_jobs_none {id other : Nat} {j j' : Job} (present : s.jobs id = some j) :
    (s.setJob id j').jobs other = none ↔ s.jobs other = none := by
  by_cases own : other = id
  · subst own
    simp [State.setJob, present]
  · simp [State.setJob, own]

/-- A step that makes no job and mints no id. -/
theorem Minted.keep (minted : Minted s)
    (consistent : ∀ id j, t.jobs id = some j → j.Consistent)
    (jobs : ∀ id, t.jobs id = none ↔ s.jobs id = none) (nextId : t.nextId = s.nextId)
    (starts : t.starts = s.starts) : Minted t where
  jobs := fun id later => (jobs id).mpr (minted.jobs id (nextId ▸ later))
  starts := fun id later => by rw [starts]; exact minted.starts id (nextId ▸ later)
  pending := fun id waiting => (jobs id).mpr (minted.pending id (starts ▸ waiting))
  consistent := consistent

theorem Minted.move (minted : Minted s) (moved : Move s t) : Minted t := by
  have consistent : ∀ id j, t.jobs id = some j → j.Consistent := fun id j present =>
    (minted.jobsMove moved id).consistent (minted.consistent id) present
  cases moved with
  | minted outputPath =>
    refine ⟨fun id later => minted.jobs id (Nat.lt_of_succ_lt later), ?_, ?_, consistent⟩
    · intro id later
      change Function.update s.starts (s.nextId + 1) _ id = none
      rw [Function.update_of_ne (Nat.ne_of_gt later)]
      exact minted.starts id (Nat.lt_of_succ_lt later)
    · intro id waiting
      by_cases own : id = s.nextId + 1
      · exact minted.jobs id (own ▸ Nat.lt_succ_self _)
      · apply minted.pending id
        simpa [own] using waiting
  | refused id =>
    refine ⟨minted.jobs, ?_, ?_, consistent⟩
    · intro other later
      by_cases own : other = id <;> simp [own, minted.starts other later]
    · intro other waiting
      by_cases own : other = id
      · simp [own] at waiting
      · exact minted.pending other (by simpa [own] using waiting)
  | @created now id outputPath _ waiting =>
    have known : id ≤ s.nextId := by
      by_contra later
      simp [minted.starts id (Nat.lt_of_not_le later)] at waiting
    refine ⟨?_, ?_, ?_, consistent⟩
    · intro other later
      have different : other ≠ id := Nat.ne_of_gt (Nat.lt_of_le_of_lt known later)
      simpa [State.setJob, different] using minted.jobs other later
    · intro other later
      have different : other ≠ id := Nat.ne_of_gt (Nat.lt_of_le_of_lt known later)
      simpa [State.setJob, different] using minted.starts other later
    · intro other pending
      by_cases own : other = id
      · simp [own] at pending
      · have before : s.starts other ≠ none := by simpa [State.setJob, own] using pending
        simpa [State.setJob, own] using minted.pending other before
  | retained _ present | dropped _ present | storedAll _ present | committed _ present
  | committedAll _ present | stored _ present | worked _ present =>
    exact minted.keep consistent (fun _ => setJob_jobs_none present) rfl rfl
  | entered | pruning | left | unknown | stopped | subscribed | borrowed | notified | exhausted
  | polled => exact minted.keep consistent (fun _ => Iff.rfl) rfl rfl

end Jobs

/-! ## Terminal states -/

theorem JobMove.frozen {winner : Winner → Prop} {j j' : Job} (moved : JobMove winner j j')
    (terminal : j.terminal = true) :
    j'.snapshot = j.snapshot ∧ j'.version = j.version ∧ j'.winners = j.winners := by
  cases moved.published with
  | same snapshot version winners => exact ⟨snapshot, version, winners⟩
  | progress running =>
    rw [terminal] at running
    cases running
  | committed _ running =>
    rw [terminal] at running
    cases running

theorem JobMove.terminal {winner : Winner → Prop} {j j' : Job} (moved : JobMove winner j j')
    (terminal : j.terminal = true) : j'.terminal = true := by
  unfold Job.terminal at terminal ⊢
  rw [(moved.frozen terminal).1]
  exact terminal

theorem JobsMove.frozen {winner : Winner → Prop} {j : Job} {o : Option Job}
    (moved : JobsMove winner (some j) o) (terminal : j.terminal = true) :
    ∃ j', o = some j' ∧ j'.snapshot = j.snapshot := by
  cases moved with
  | same => exact ⟨j, rfl, rfl⟩
  | stored => exact ⟨_, rfl, rfl⟩
  | moved moved => exact ⟨_, rfl, (moved.frozen terminal).1⟩

theorem commitCancelled_terminal (j : Job) (winner : Winner) :
    (j.commitCancelled winner).1.terminal = true := by
  unfold Job.commitCancelled Job.commitTerminal
  split
  case isTrue terminal => exact terminal
  case isFalse => rfl

@[simp] theorem retain_snapshot (j : Job) (now : Nat) : (j.retain now).1.snapshot = j.snapshot := by
  unfold Job.retain
  split <;> [rfl; split <;> [rfl; split <;> rfl]]

@[simp] theorem retain_cancel (j : Job) (now : Nat) : (j.retain now).1.cancel = j.cancel := by
  unfold Job.retain
  split <;> [rfl; split <;> [rfl; split <;> rfl]]

@[simp] theorem retain_worker (j : Job) (now : Nat) : (j.retain now).1.worker = j.worker := by
  unfold Job.retain
  split <;> [rfl; split <;> [rfl; split <;> rfl]]

/-- A `cancel` or `cancel_all` has stored the job's flag and not yet committed. -/
def State.cancelling (s : State) (id : Nat) : Prop :=
  (∃ call, s.lock = some (.cancel call id)) ∨ ∃ call rest, s.lock = some (.cancelAllStored call id rest)

/-- Flags are followed by commits, and what has left the map is over. -/
structure Settled (s : State) : Prop where
  minted : Minted s
  flagged : ∀ id j, s.jobs id = some j → j.cancel = true → j.terminal = true ∨ s.cancelling id
  gone : ∀ id j, s.jobs id = some j → id ∉ s.entries → j.terminal = true ∧ j.worker = .ended
  /-- A `start` that holds the mutex was not refused. -/
  stopped : s.stopping = true → ∀ now rest id, s.lock ≠ some (.prune now rest (some id))

namespace Settled

variable {s t : State}

/-- Nobody cancels, so that a flag means a terminal state. -/
theorem idle (settled : Settled s) {id : Nat} {j : Job}
    (none : ¬ s.cancelling id) (present : s.jobs id = some j) (set : j.cancel = true) :
    j.terminal = true :=
  (settled.flagged id j present set).resolve_right none

/-- A step after which every job is as it was. -/
theorem keep (settled : Settled s) (minted : Minted t) (jobs : t.jobs = s.jobs)
    (entries : t.entries = s.entries)
    (cancelling : ∀ id, s.cancelling id → t.cancelling id)
    (stopped : t.stopping = true → ∀ now rest id, t.lock ≠ some (.prune now rest (some id))) :
    Settled t where
  minted := minted
  flagged := fun id j present set =>
    (settled.flagged id j (jobs ▸ present) set).imp_right (cancelling id)
  gone := fun id j present absent => settled.gone id j (jobs ▸ present) (entries ▸ absent)
  stopped := stopped

theorem not_cancelling {id : Nat} {held : Option Critical} (lock : s.lock = held)
    (cancel : ∀ call id, held ≠ some (.cancel call id))
    (all : ∀ call id rest, held ≠ some (.cancelAllStored call id rest)) : ¬ s.cancelling id := by
  rintro (⟨call, own⟩ | ⟨call, rest, own⟩)
  · exact cancel call id (lock ▸ own)
  · exact all call id rest (lock ▸ own)

/-- A step that moves one job. -/
theorem job (settled : Settled s) (minted : Minted t) {id : Nat} {j j' : Job}
    (present : s.jobs id = some j) (jobs : t.jobs = (s.setJob id j').jobs)
    (entries : t.entries = s.entries)
    (flagged : j'.cancel = true → j'.terminal = true ∨ t.cancelling id)
    (cancelling : ∀ other, other ≠ id → s.cancelling other → t.cancelling other)
    (ended : j.terminal = true ∧ j.worker = .ended → j'.terminal = true ∧ j'.worker = .ended)
    (stopped : t.stopping = true → ∀ now rest id, t.lock ≠ some (.prune now rest (some id))) :
    Settled t where
  minted := minted
  flagged := fun other k there set => by
    rw [jobs] at there
    by_cases own : other = id
    · subst own
      obtain rfl : j' = k := by simpa [State.setJob] using there
      exact flagged set
    · have before : s.jobs other = some k := by simpa [State.setJob, own] using there
      exact (settled.flagged other k before set).imp_right (cancelling other own)
  gone := fun other k there absent => by
    rw [jobs] at there
    rw [entries] at absent
    by_cases own : other = id
    · subst own
      obtain rfl : j' = k := by simpa [State.setJob] using there
      exact ended (settled.gone other j present absent)
    · exact settled.gone other k (by simpa [State.setJob, own] using there) absent
  stopped := stopped

theorem move (settled : Settled s) (moved : Move s t) : Settled t := by
  have minted := settled.minted.move moved
  cases moved with
  | minted | refused | unknown | subscribed | borrowed | notified | exhausted | polled =>
    exact settled.keep minted rfl rfl (fun _ held => held) settled.stopped
  | entered id now free running =>
    refine settled.keep minted rfl rfl (fun other held => ?_) ?_
    · exact absurd held (not_cancelling free (by simp) (by simp))
    · intro stopping
      change s.stopping = true at stopping
      rw [running] at stopping
      cases stopping
  | pruning now free =>
    refine settled.keep minted rfl rfl (fun other held => ?_) (by simp)
    exact absurd held (not_cancelling free (by simp) (by simp))
  | stopped free =>
    refine settled.keep minted rfl rfl (fun other held => ?_) (by simp)
    exact absurd held (not_cancelling free (by simp) (by simp))
  | left cancel all =>
    refine settled.keep minted rfl rfl (fun other held => ?_) (by simp)
    exact absurd held (not_cancelling rfl cancel all)
  | @retained now id rest start j held present =>
    -- `prune` holds the mutex, so no cancel is half done
    have free (other : Nat) : ¬ s.cancelling other := not_cancelling held (by simp) (by simp)
    refine settled.job minted present rfl rfl ?_ (fun other _ held => absurd held (free other)) ?_ ?_
    · intro set
      have terminal := settled.idle (free id) present (by simpa using set)
      exact .inl (by simpa [Job.terminal] using terminal)
    · intro finished
      simpa [Job.terminal] using finished
    · intro stopping now' rest' other own
      obtain ⟨rfl, rfl, rfl⟩ : now = now' ∧ rest.erase id = rest' ∧ start = some other := by
        simpa using own
      exact settled.stopped stopping _ _ _ held
  | @dropped now id rest start j held present terminal ended =>
    -- the job leaves the map and stays what it was
    have free (other : Nat) : ¬ s.cancelling other := not_cancelling held (by simp) (by simp)
    have same : (s.setJob id j).jobs = s.jobs := by simp [State.setJob, ← present]
    refine ⟨minted, ?_, ?_, ?_⟩
    · intro other k there set
      have before : s.jobs other = some k := same ▸ there
      exact .inl (settled.idle (free other) before set)
    · intro other k there absent
      have before : s.jobs other = some k := same ▸ there
      by_cases own : other = id
      · subst own
        obtain rfl : j = k := Option.some.inj (present.symm.trans before)
        exact ⟨terminal, ended⟩
      · exact settled.gone other k before fun listed =>
          absent ((List.mem_erase_of_ne own).mpr listed)
    · intro stopping now' rest' other own
      obtain ⟨rfl, rfl, rfl⟩ : now = now' ∧ rest.erase id = rest' ∧ start = some other := by
        simpa using own
      exact settled.stopped stopping _ _ _ held
  | @storedAll call id rest j held present =>
    -- the flag is stored, and the same call is going to commit
    have free (other : Nat) : ¬ s.cancelling other := not_cancelling held (by simp) (by simp)
    exact settled.job minted present rfl rfl (fun _ => .inr (.inr ⟨call, _, rfl⟩))
      (fun other _ held => absurd held (free other)) (fun finished => finished) (by simp)
  | @stored id j free present =>
    have nobody (other : Nat) : ¬ s.cancelling other := not_cancelling free (by simp) (by simp)
    exact settled.job minted present rfl rfl (fun _ => .inr (.inl ⟨s.nextCall, rfl⟩))
      (fun other _ held => absurd held (nobody other)) (fun finished => finished) (by simp)
  | @committed call id j held present =>
    -- the commit of a cancel ends the job, or finds it ended
    refine settled.job minted present rfl rfl (fun _ => .inl (commitCancelled_terminal j _)) ?_ ?_
      (by simp)
    · rintro other different (⟨_, own⟩ | ⟨_, _, own⟩)
      · rw [held] at own
        cases own
        exact absurd rfl different
      · rw [held] at own
        cases own
    · intro finished
      have moved := (settled.minted.consistent id j present).cancelled (.cancel call)
      exact ⟨commitCancelled_terminal j _, moved.ended finished.2⟩
  | @committedAll call id rest j held present =>
    refine settled.job minted present rfl rfl (fun _ => .inl (commitCancelled_terminal j _)) ?_ ?_
      (by simp)
    · rintro other different (⟨_, own⟩ | ⟨_, _, own⟩)
      · rw [held] at own
        cases own
      · rw [held] at own
        cases own
        exact absurd rfl different
    · intro finished
      have moved := (settled.minted.consistent id j present).cancelled (.cancelAll call)
      exact ⟨commitCancelled_terminal j _, moved.ended finished.2⟩
  | @created now id outputPath held waiting =>
    -- a new job enters the map with its flag clear
    have free (other : Nat) : ¬ s.cancelling other := not_cancelling held (by simp) (by simp)
    refine ⟨minted, ?_, ?_, by simp⟩
    · intro other k there set
      by_cases own : other = id
      · subst own
        obtain rfl : Job.initial other outputPath = k := by simpa [State.setJob] using there
        cases set
      · have before : s.jobs other = some k := by simpa [State.setJob, own] using there
        exact .inl (settled.idle (free other) before set)
    · intro other k there absent
      have different : other ≠ id := by
        rintro rfl
        exact absent (List.mem_append_right _ (List.mem_singleton.mpr rfl))
      apply settled.gone other k (by simpa [State.setJob, different] using there)
      exact fun listed => absent (List.mem_append_left _ listed)
  | @worked id j j' step present worked =>
    have moved := (settled.minted.consistent id j present).worked worked
    refine settled.job minted present rfl rfl ?_ (fun _ _ held => held) ?_ settled.stopped
    · intro set
      rw [moved.cancel] at set
      exact (settled.flagged id j present set).imp_left moved.terminal
    · rintro ⟨terminal, ended⟩
      exact ⟨moved.terminal terminal, moved.ended ended⟩

end Settled

/-! ## Results of `cancel` -/

/-- The cancel call has committed the job's terminal state. -/
def State.wonBy (s : State) (id call : Nat) : Prop :=
  ∃ j, s.jobs id = some j ∧ .cancel call ∈ j.winners

/-- A call has returned `true` exactly if it has won. -/
structure Called (s : State) : Prop where
  settled : Settled s
  later : ∀ call, s.nextCall ≤ call → s.results call = none ∧ ∀ id, s.lock ≠ some (.cancel call id)
  running : ∀ call id, s.lock = some (.cancel call id) → s.results call = none
  won : ∀ id call, s.wonBy id call ↔ s.results call = some (id, true)

namespace Called

variable {s t : State}

/-- A move of a job in which no cancel call wins. -/
theorem wonBy_setJob {id : Nat} {j j' : Job} (present : s.jobs id = some j)
    (same : ∀ call, .cancel call ∈ j'.winners ↔ .cancel call ∈ j.winners) (other call : Nat) :
    (s.setJob id j').wonBy other call ↔ s.wonBy other call := by
  by_cases own : other = id
  · subst own
    simp [State.wonBy, State.setJob, present, same]
  · simp [State.wonBy, State.setJob, own]

theorem winners_of_move {winner : Winner → Prop} {j j' : Job} (moved : JobMove winner j j')
    (apart : ∀ call, ¬ winner (.cancel call)) (call : Nat) :
    .cancel call ∈ j'.winners ↔ .cancel call ∈ j.winners := by
  constructor
  · intro member
    exact (moved.winner _ member).resolve_right (apart call)
  · intro member
    cases moved.published with
    | same _ _ winners | progress _ _ _ winners => exact winners ▸ member
    | committed _ _ _ _ winners => exact winners ▸ List.mem_append_left _ member

/-- A step in which no cancel call wins or returns. -/
theorem keep (called : Called s) (settled : Settled t)
    (won : ∀ id call, t.wonBy id call ↔ s.wonBy id call) (results : t.results = s.results)
    (nextCall : t.nextCall = s.nextCall)
    (lock : ∀ call id, t.lock = some (.cancel call id) → s.lock = some (.cancel call id)) :
    Called t where
  settled := settled
  later := fun call late => by
    rw [nextCall] at late
    refine ⟨results ▸ (called.later call late).1, fun id held => ?_⟩
    exact (called.later call late).2 id (lock call id held)
  running := fun call id held => results ▸ called.running call id (lock call id held)
  won := fun id call => by rw [won, results, called.won]

theorem move (called : Called s) (moved : Move s t) : Called t := by
  have settled := called.settled.move moved
  have consistent {id : Nat} {j : Job} (present : s.jobs id = some j) : j.Consistent :=
    called.settled.minted.consistent id j present
  cases moved with
  | minted | refused | subscribed | borrowed | notified | exhausted | polled =>
    exact called.keep settled (fun _ _ => Iff.rfl) rfl rfl (fun _ _ held => held)
  | entered | pruning | left =>
    exact called.keep settled (fun _ _ => Iff.rfl) rfl rfl (by simp)
  | @retained now id rest start j held present =>
    have moved := (consistent present).retained now (fun _ => False)
    exact called.keep settled (wonBy_setJob present (winners_of_move moved (by simp))) rfl rfl
      (by simp)
  | dropped held present =>
    exact called.keep settled (wonBy_setJob present (fun _ => Iff.rfl)) rfl rfl (by simp)
  | storedAll held present =>
    exact called.keep settled (wonBy_setJob present (fun _ => Iff.rfl)) rfl rfl (by simp)
  | @committedAll call id rest j held present =>
    have moved := (consistent present).cancelled (.cancelAll call)
    exact called.keep settled (wonBy_setJob present (winners_of_move moved (by simp))) rfl rfl
      (by simp)
  | worked step present worked =>
    have moved := (consistent present).worked worked
    exact called.keep settled (wonBy_setJob present (winners_of_move moved (by simp))) rfl rfl
      (fun _ _ held => held)
  | @created now id outputPath held waiting =>
    have absent : s.jobs id = none := called.settled.minted.pending id (by simp [waiting])
    refine called.keep settled (fun other call => ?_) rfl rfl (by simp)
    by_cases own : other = id
    · subst own
      simp [State.wonBy, State.setJob, absent, Job.initial]
    · simp [State.wonBy, State.setJob, own]
  | @stored id j free present =>
    -- the call takes its number here and has returned nothing yet
    have new := called.later s.nextCall Nat.le.refl
    have won : ∀ other call, (s.setJob id { j with cancel := true }).wonBy other call ↔
        s.wonBy other call := wonBy_setJob present (fun _ => Iff.rfl)
    refine ⟨settled, fun call late => ?_, fun call other held => ?_, fun other call => ?_⟩
    · refine ⟨(called.later call (Nat.le_of_succ_le late)).1, fun other held => ?_⟩
      obtain ⟨rfl, -⟩ : s.nextCall = call ∧ id = other := by simpa using held
      exact Nat.lt_irrefl _ late
    · obtain ⟨rfl, -⟩ : s.nextCall = call ∧ id = other := by simpa using held
      exact new.1
    · exact (won other call).trans (called.won other call)
  | unknown id free =>
    -- a job that does not exist is cancelled by nobody
    have new := called.later s.nextCall Nat.le.refl
    refine ⟨settled, fun call late => ?_, fun call other held => ?_, fun other call => ?_⟩
    · have different : call ≠ s.nextCall := Nat.ne_of_gt late
      refine ⟨?_, fun other held => ?_⟩
      · simpa [different] using (called.later call (Nat.le_of_succ_le late)).1
      · rw [show s.lock = some (.cancel call other) from held] at free
        cases free
    · rw [show s.lock = some (.cancel call other) from held] at free
      cases free
    · have before := called.won other call
      by_cases own : call = s.nextCall
      · subst own
        rw [new.1] at before
        simpa [State.wonBy] using before
      · simpa [State.wonBy, own] using before
  | stopped free =>
    refine ⟨settled, fun call late => ?_, by simp, called.won⟩
    exact ⟨(called.later call (Nat.le_of_succ_le late)).1, by simp⟩
  | @committed call id j held present =>
    have returned := called.running call id held
    have moved := (consistent present).cancelled (.cancel call)
    have known : call < s.nextCall := by
      by_contra late
      exact (called.later call (Nat.le_of_not_lt late)).2 id held
    have nobody (other : Nat) : ¬ s.wonBy other call := by
      rw [called.won, returned]
      simp
    refine ⟨settled, fun other late => ?_, by simp, fun other c => ?_⟩
    · have different : other ≠ call := Nat.ne_of_gt (Nat.lt_of_lt_of_le known late)
      refine ⟨?_, by simp⟩
      simpa [different] using (called.later other late).1
    -- the call wins exactly when the job was not over yet
    · by_cases mine : c = call
      · subst mine
        by_cases own : other = id
        · subst own
          have lost : .cancel c ∉ j.winners := fun member => nobody other ⟨j, present, member⟩
          by_cases terminal : j.terminal <;>
            simp [State.wonBy, State.setJob, Job.commitCancelled, Job.commitTerminal, terminal, lost]
        · have before := nobody other
          simpa [State.wonBy, State.setJob, own, Ne.symm own] using before
      · have winners : ∀ call', call' ≠ call →
            (.cancel call' ∈ (j.commitCancelled (.cancel call)).1.winners ↔
              .cancel call' ∈ j.winners) := by
          intro call' different
          unfold Job.commitCancelled Job.commitTerminal
          split <;> simp [different]
        have before := called.won other c
        by_cases own : other = id
        · subst own
          simpa [State.wonBy, State.setJob, present, winners c mine, mine] using before
        · simpa [State.wonBy, State.setJob, own, mine] using before

end Called

/-! ## Streams -/

/-- What a stream has yielded, beside its job. -/
structure Progress.Sound (p : Progress) (j : Job) : Prop where
  seen : p.seen ≤ j.version
  running : p.st = .yielding ∨ p.st = .waiting → ∀ x ∈ p.yielded, x.state.isTerminal = false
  /-- The terminal snapshot is not one the receiver has seen. -/
  unseen : p.st = .waiting → j.terminal = true → p.seen ≠ j.version
  final : p.st = .done ∨ p.st = .ended → j.terminal = true ∧
    ∃ before, p.yielded = before ++ [j.snapshot] ∧ ∀ x ∈ before, x.state.isTerminal = false

theorem Progress.Sound.move {p : Progress} {winner : Winner → Prop} {j j' : Job}
    (sound : p.Sound j) (moved : JobMove winner j j') : p.Sound j' := by
  cases moved.published with
  | same snapshot version _ =>
    have terminal : j'.terminal = j.terminal := by rw [Job.terminal, snapshot]; rfl
    refine ⟨version ▸ sound.seen, sound.running, ?_, ?_⟩
    · rw [terminal, version]
      exact sound.unseen
    · rw [terminal, snapshot]
      exact sound.final
  | progress before after version _ =>
    refine ⟨version ▸ Nat.le_succ_of_le sound.seen, sound.running, ?_, ?_⟩
    · rw [after]
      exact fun _ terminal => by cases terminal
    · intro finished
      have terminal := (sound.final finished).1
      rw [before] at terminal
      cases terminal
  | committed _ before _ version _ =>
    refine ⟨version ▸ Nat.le_succ_of_le sound.seen, sound.running, ?_, ?_⟩
    · intro _ _ same
      have seen := sound.seen
      rw [same, version] at seen
      exact Nat.not_succ_le_self _ seen
    · intro finished
      have terminal := (sound.final finished).1
      rw [before] at terminal
      cases terminal

/-- Every stream is sound for its job. -/
structure Streamed (s : State) : Prop where
  called : Called s
  streams : ∀ p ∈ s.streams, ∃ j, s.jobs p.job = some j ∧ p.Sound j

namespace Streamed

variable {s t : State}

/-- A step of the jobs leaves every stream sound. -/
theorem jobs (streamed : Streamed s) {winner : Nat → Winner → Prop}
    (moved : ∀ id, JobsMove (winner id) (s.jobs id) (t.jobs id)) (p : Progress)
    (member : p ∈ s.streams) : ∃ j, t.jobs p.job = some j ∧ p.Sound j := by
  obtain ⟨j, present, sound⟩ := streamed.streams p member
  have here := moved p.job
  rw [present] at here
  generalize after : t.jobs p.job = o at here
  cases here with
  | same => exact ⟨j, rfl, sound⟩
  | stored => exact ⟨_, rfl, sound.seen, sound.running, sound.unseen, sound.final⟩
  | moved moved => exact ⟨_, rfl, sound.move moved⟩

/-- A step of one stream. -/
theorem stream (streamed : Streamed s) {n : Nat} {p : Progress} {j : Job}
    (present : s.jobs p.job = some j) (sound : p.Sound j) (q : Progress)
    (member : q ∈ (s.setStream n p).streams) : ∃ j, s.jobs q.job = some j ∧ q.Sound j := by
  rcases List.mem_or_eq_of_mem_set member with old | rfl
  · exact streamed.streams q old
  · exact ⟨j, present, sound⟩

theorem move (streamed : Streamed s) (moved : Move s t) : Streamed t := by
  have called := streamed.called.move moved
  have minted := streamed.called.settled.minted
  refine ⟨called, ?_⟩
  have jobs := streamed.jobs (fun id => minted.jobsMove moved id)
  cases moved with
  | minted | refused | entered | pruning | left | unknown | stopped | retained | dropped
  | storedAll | committed | committedAll | created | stored | worked => exact jobs
  | @subscribed id j present =>
    intro p member
    rcases List.mem_append.mp member with old | new
    · exact streamed.streams p old
    · obtain rfl := List.mem_singleton.mp new
      exact ⟨j, present, Nat.le.refl, by simp, by simp, by simp⟩
  | @borrowed n p j found yielding present =>
    obtain ⟨k, same, sound⟩ := streamed.streams p (List.mem_of_getElem? found)
    obtain rfl : j = k := Option.some.inj (present.symm.trans same)
    have before := sound.running (.inl yielding)
    refine streamed.stream present ⟨Nat.le.refl, ?_, ?_, ?_⟩
    · cases terminal : j.terminal with
      | true => simp
      | false =>
        intro _ x member
        rcases List.mem_append.mp member with old | new
        · exact before x old
        · rw [List.mem_singleton.mp new]
          exact terminal
    · intro waiting terminal
      simp [terminal] at waiting
    · cases terminal : j.terminal with
      | true => exact fun _ => ⟨rfl, p.yielded, rfl, before⟩
      | false => simp
  | @notified n p j found waiting present =>
    obtain ⟨k, same, sound⟩ := streamed.streams p (List.mem_of_getElem? found)
    exact streamed.stream present ⟨Nat.le.refl, fun _ => sound.running (.inr waiting), by simp, by simp⟩
  | @exhausted n p j found waiting present seen dropped ended =>
    obtain ⟨k, same, sound⟩ := streamed.streams p (List.mem_of_getElem? found)
    obtain rfl : j = k := Option.some.inj (present.symm.trans same)
    -- a job without senders is terminal, and its last snapshot was not seen
    have terminal := (streamed.called.settled.gone p.job j present dropped).1
    exact absurd seen.symm (sound.unseen waiting terminal)
  | @polled n p found done =>
    obtain ⟨k, present, sound⟩ := streamed.streams p (List.mem_of_getElem? found)
    exact streamed.stream present ⟨sound.seen, by simp, by simp, fun _ => sound.final (.inl done)⟩

end Streamed

theorem streamed_init : Streamed .init where
  called :=
    { settled :=
        { minted := ⟨fun _ _ => rfl, fun _ _ => rfl, fun _ _ => rfl, by simp [State.init]⟩
          flagged := by simp [State.init]
          gone := by simp [State.init]
          stopped := by simp [State.init] }
      later := by simp [State.init]
      running := by simp [State.init]
      won := by simp [State.init, State.wonBy] }
  streams := by simp [State.init]

theorem streamed_run {s : State} (run : Run State.step (fun _ _ => True) .init s) : Streamed s := by
  refine Run.invariant (I := fun s => Streamed s) streamed_init ?_ run
  intro t a u _ streamed _ stepped
  exact streamed.move (step_move stepped)

/-- Once the manager stops, no job is made. -/
theorem Settled.refuses {s t : State} (settled : Settled s) (moved : Move s t)
    (stopping : s.stopping = true) :
    t.stopping = true ∧ ∀ id, s.jobs id = none → t.jobs id = none := by
  cases moved with
  | created held =>
    exact absurd held (settled.stopped stopping _ _ _)
  | retained _ present | dropped _ present | storedAll _ present | committed _ present
  | committedAll _ present | stored _ present | worked _ present =>
    exact ⟨stopping, fun id absent => (setJob_jobs_none present).mpr absent⟩
  | stopped => exact ⟨rfl, fun _ absent => absent⟩
  | minted | refused | entered | pruning | left | unknown | subscribed | borrowed | notified
  | exhausted | polled => exact ⟨stopping, fun _ absent => absent⟩

theorem stopped_run {s t : State} (reached : Run State.step (fun _ _ => True) .init s)
    (run : Run State.step (fun _ _ => True) s t) (stopping : s.stopping = true) :
    t.stopping = true ∧ ∀ id, s.jobs id = none → t.jobs id = none := by
  refine Run.invariant (I := fun t => t.stopping = true ∧
    ∀ id, s.jobs id = none → t.jobs id = none) ⟨stopping, fun _ absent => absent⟩ ?_ run
  rintro u a v further ⟨still, kept⟩ _ stepped
  obtain ⟨next, absent⟩ := (streamed_run (reached.trans further)).called.settled.refuses
    (step_move stepped) still
  exact ⟨next, fun id before => absent id (kept id before)⟩

end Rsbtd.Jobs
