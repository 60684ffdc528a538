import Rsbtd.Api.Listener
import Rsbtd.Transition.Decreasing
import Rsbtd.Transition.Pool

/-!
# Who is at the path

A daemon is in flight from a probe that found nobody until it listens, and again while
only one of its listener and its file is left.  As long as nobody probes while another
daemon is in flight, a listener's file stays at the path until its own daemon removes it,
so there is only one listener, and it is the one that clients reach.
-/

namespace Rsbtd.Listener

open Transition

namespace Daemon

def inFlight (d : Daemon) : Bool :=
  match d.pc with
  | .checking | .removing | .binding | .opening => true
  | .draining | .cleaning => !d.listening
  | .dropping => d.listening
  | _ => false

/-- It listens, and has not removed its file. -/
def serves (d : Daemon) : Bool := d.listening && d.pc != .dropping

/-- Its file is at the path, whether it listens by now or not. -/
def owns (d : Daemon) : Bool := d.serves || d.pc == .opening

end Daemon

namespace State

/-- Daemon `i` is there, and one of these. -/
def Has (s : State) (p : Daemon → Bool) (i : Nat) : Prop :=
  ∃ d, s.daemons[i]? = some d ∧ p d = true

abbrev Listens (s : State) (i : Nat) : Prop := s.Has Daemon.listening i

abbrev InFlight (s : State) (i : Nat) : Prop := s.Has Daemon.inFlight i

abbrev Serves (s : State) (i : Nat) : Prop := s.Has Daemon.serves i

section Steps

variable {s t : State} {a : Action} {i j : Nat} {d d' : Daemon} {pc : Pc} {listening : Bool}
  {p : Daemon → Bool}

theorem has_set (later : (s.setDaemon i pc listening).Has p j) :
    (j = i ∧ p ⟨pc, listening⟩ = true) ∨ (j ≠ i ∧ s.Has p j) := by
  obtain ⟨d, entry, holds⟩ := later
  rcases get_set entry with ⟨rfl, rfl⟩ | ⟨different, old⟩
  · exact .inl ⟨rfl, holds⟩
  · exact .inr ⟨different, d, old, holds⟩

/-- What one step does to the path and to who is in flight. -/
inductive Move (s : State) (a : Action) : State → Prop where
  | start : Move s a { s with daemons := s.daemons ++ [⟨.starting, false⟩] }
  | quiet {i : Nat} {d : Daemon} (d' : Daemon) : s.daemons[i]? = some d →
      (d'.owns = true → d.owns = true) → (d'.serves = true → d.serves = true) →
      (d'.inFlight = true → d.inFlight = true) → Move s a (s.setDaemon i d'.pc d'.listening)
  | enters {i : Nat} {pc : Pc} {result : Probe} : a = .connect i result → s.accepting = false →
      Daemon.owns ⟨pc, false⟩ = false → Move s a (s.setDaemon i pc false)
  | frees {i : Nat} {d : Daemon} (d' : Daemon) : s.daemons[i]? = some d →
      (d.inFlight || d.serves) = true → d'.owns = false →
      Move s a { s.setDaemon i d'.pc d'.listening with entry := .free }
  | binds {i : Nat} : s.daemons[i]? = some ⟨.binding, false⟩ → s.entry = .free →
      Move s a { s.setDaemon i .opening false with entry := .socket (some i) }
  | listens {i : Nat} : s.daemons[i]? = some ⟨.opening, false⟩ →
      Move s a (s.setDaemon i .restricting true)
  | drops {i : Nat} {d : Daemon} (d' : Daemon) : s.daemons[i]? = some d → d.serves = true →
      d'.owns = false → Move s a (s.setDaemon i d'.pc d'.listening)

/-- A step that ends in a state where the daemon neither listens nor is in flight. -/
theorem Move.ends (here : s.daemons[i]? = some d) {pc : Pc}
    (idle : Daemon.inFlight ⟨pc, false⟩ = false) : Move s a (s.setDaemon i pc false) := by
  have unowned : Daemon.owns ⟨pc, false⟩ = false := by
    cases pc <;> first | rfl | cases idle
  exact .quiet ⟨pc, false⟩ here (by simp [unowned]) (by simp [Daemon.serves]) (by simp [idle])

/-- A daemon that is shutting down and lets go of its listener, or has done so. -/
theorem Move.lets_go (here : s.daemons[i]? = some ⟨.draining, listening⟩) :
    Move s a (s.setDaemon i .cleaning false) := by
  cases listening with
  | true => exact .drops ⟨.cleaning, false⟩ here rfl rfl
  | false => exact .quiet ⟨.cleaning, false⟩ here id id fun _ => rfl

theorem accepting_of_reports {result : Probe} (reported : s.reports result = true)
    (nobody : result = .notFound ∨ result = .connectionRefused) : s.accepting = false := by
  rcases nobody with rfl | rfl
  · unfold reports at reported
    unfold accepting
    cases entry : s.entry <;> simp_all
  · simp only [reports, Bool.and_eq_true, Bool.not_eq_true'] at reported
    exact reported.1

theorem removeOwn_move (here : s.daemons[i]? = some ⟨.cleaning, listening⟩) (removed : Bool) :
    Move s a (s.removeOwn i listening removed) := by
  unfold removeOwn
  cases listening with
  | true =>
    cases removed with
    | true => exact .frees ⟨.dropping, true⟩ here rfl rfl
    | false => exact .drops ⟨.dropping, true⟩ here rfl rfl
  | false =>
    cases removed with
    | true => exact .frees ⟨.ended, false⟩ here rfl rfl
    | false => exact .ends here rfl

theorem step_move (stepped : s.step a = some t) : Move s a t := by
  cases a with
  | start =>
    obtain rfl := Option.some.inj stepped
    exact .start
  | connect i result =>
    obtain ⟨⟨here, reported⟩, rfl⟩ :=
      Option.ite_none_right_eq_some.mp stepped |>.imp_right Option.some.inj
    cases result with
    | connected | inconclusive => exact .ends here rfl
    | notFound => exact .enters rfl (accepting_of_reports reported (.inl rfl)) rfl
    | connectionRefused => exact .enters rfl (accepting_of_reports reported (.inr rfl)) rfl
  | check i error =>
    obtain ⟨here, rfl⟩ := Option.ite_none_right_eq_some.mp stepped |>.imp_right Option.some.inj
    unfold check
    split
    · exact .ends here rfl
    · exact .ends here rfl
    · exact .quiet ⟨.removing, false⟩ here (by decide) id fun _ => rfl
    · exact .ends here rfl
  | remove i error =>
    obtain ⟨here, rfl⟩ := Option.ite_none_right_eq_some.mp stepped |>.imp_right Option.some.inj
    unfold remove
    split
    · exact .quiet ⟨.binding, false⟩ here (by decide) id fun _ => rfl
    · exact .frees ⟨.binding, false⟩ here rfl rfl
    · exact .ends here rfl
  | bind i error =>
    obtain ⟨here, rfl⟩ := Option.ite_none_right_eq_some.mp stepped |>.imp_right Option.some.inj
    unfold bind
    split
    · exact .ends here rfl
    · split
      case isTrue free => exact .binds here free
      case isFalse => exact .ends here rfl
  | listen i error =>
    obtain ⟨here, rfl⟩ := Option.ite_none_right_eq_some.mp stepped |>.imp_right Option.some.inj
    unfold listen
    split
    · exact .ends here rfl
    · exact .listens here
  | restrict i error =>
    obtain ⟨here, stepped⟩ := Option.ite_none_right_eq_some.mp stepped
    split at stepped
    case h_1 =>
      split at stepped
      case isTrue => cases stepped
      case isFalse =>
        obtain rfl := Option.some.inj stepped
        exact .quiet ⟨.bound, true⟩ here id id (by simp [Daemon.inFlight])
    case h_2 kind =>
      obtain rfl := Option.some.inj stepped
      exact .ends here rfl
  | serve i | close i | shutdown i =>
    obtain ⟨here, rfl⟩ := Option.ite_none_right_eq_some.mp stepped |>.imp_right Option.some.inj
    exact .quiet ⟨_, true⟩ here id id (by simp [Daemon.inFlight])
  | dropListener i =>
    obtain ⟨here, rfl⟩ := Option.ite_none_right_eq_some.mp stepped |>.imp_right Option.some.inj
    exact .drops ⟨.draining, false⟩ here rfl rfl
  | served i =>
    simp only [step] at stepped
    split at stepped
    case h_1 here =>
      obtain rfl := Option.some.inj stepped
      exact .drops ⟨.cleaning, false⟩ here rfl rfl
    case h_2 listening here =>
      obtain rfl := Option.some.inj stepped
      exact .lets_go here
    case h_3 => cases stepped
  | removeOwn i removed =>
    simp only [step] at stepped
    split at stepped
    case h_1 listening here =>
      obtain rfl := Option.some.inj stepped
      exact removeOwn_move here removed
    case h_2 => cases stepped
  | dropOwn i =>
    obtain ⟨here, rfl⟩ := Option.ite_none_right_eq_some.mp stepped |>.imp_right Option.some.inj
    exact .ends here rfl
  | crash i =>
    simp only [step] at stepped
    split at stepped
    case h_5 d _ _ _ here =>
      obtain rfl := Option.some.inj stepped
      exact .ends here rfl
    all_goals cases stepped

end Steps

/-! ## One listener -/

/-- Nobody else is in flight when a daemon probes. -/
def Apart (s : State) : Action → Prop
  | .connect i _ => ∀ (j : Nat) (d : Daemon), j ≠ i → s.daemons[j]? = some d → d.inFlight = false
  | _ => True

structure Held (s : State) : Prop where
  /-- The file of a daemon that listens, or is about to, is at the path. -/
  owns : ∀ i, s.Has Daemon.owns i → s.entry = .socket (some i)
  single : ∀ i j, s.InFlight i → s.InFlight j → i = j
  alone : ∀ i j, s.InFlight i → ¬ s.Serves j

section Invariant

variable {s t : State} {a : Action} {i j : Nat} {pc : Pc} {listening : Bool} {d d' : Daemon}

theorem Has.owns (serves : s.Serves i) : s.Has Daemon.owns i := by
  obtain ⟨d, here, holds⟩ := serves
  exact ⟨d, here, by rw [Daemon.owns, holds, Bool.true_or]⟩

theorem owns_cases (owns : s.Has Daemon.owns i) : s.Serves i ∨ s.InFlight i := by
  obtain ⟨d, here, holds⟩ := owns
  rcases Bool.or_eq_true_iff.mp holds with serves | opening
  · exact .inl ⟨d, here, serves⟩
  · refine .inr ⟨d, here, ?_⟩
    rw [Daemon.inFlight, eq_of_beq opening]

theorem accepting_of_serves (held : s.Held) (serves : s.Serves j) : s.accepting = true := by
  obtain ⟨d, here, holds⟩ := serves
  rw [accepting, held.owns j (Has.owns ⟨d, here, holds⟩)]
  simpa only [here, Option.any_some] using (Bool.and_eq_true_iff.mp holds).1

theorem has_append {p : Daemon → Bool} (idle : p ⟨.starting, false⟩ = false)
    (later : ({ s with daemons := s.daemons ++ [⟨.starting, false⟩] } : State).Has p j) :
    s.Has p j := by
  obtain ⟨d, entry, holds⟩ := later
  rcases get_append entry with old | ⟨_, rfl⟩
  · exact ⟨d, old, holds⟩
  · rw [idle] at holds
    cases holds

/-- A daemon in flight or listening, and the only one that has a file at the path. -/
theorem Held.sole (held : s.Held) (here : s.daemons[i]? = some d)
    (was : (d.inFlight || d.serves) = true) :
    (∀ j, s.Has Daemon.owns j → j = i) ∧ ∀ j, s.InFlight j → j = i := by
  rcases Bool.or_eq_true_iff.mp was with flying | serving
  · have mine : s.InFlight i := ⟨d, here, flying⟩
    refine ⟨fun j owns => ?_, fun j other => held.single j i other mine⟩
    exact (owns_cases owns).elim (fun serves => absurd serves (held.alone i j mine)) fun other =>
      held.single j i other mine
  · have mine : s.Serves i := ⟨d, here, serving⟩
    refine ⟨fun j owns => ?_, fun j other => absurd mine (held.alone j i other)⟩
    have own := held.owns i mine.owns
    rw [held.owns j owns] at own
    exact Option.some.inj (Entry.socket.inj own)

/-- Only one daemon is in flight, and none has its file at the path or listens. -/
theorem held_of_only (unowned : ∀ j, ¬ t.Has Daemon.owns j) (only : ∀ j, t.InFlight j → j = i) :
    t.Held where
  owns j owns := absurd owns (unowned j)
  single j k first second := (only j first).trans (only k second).symm
  alone _ k _ serves := unowned k serves.owns

theorem Move.held (move : Move s a t) (apart : Apart s a) (held : s.Held) : t.Held := by
  cases move with
  | start =>
    refine ⟨fun j later => ?_, fun j k first second => ?_, fun j k first second => ?_⟩
    · exact held.owns j (has_append rfl later)
    · exact held.single j k (has_append rfl first) (has_append rfl second)
    · exact held.alone j k (has_append rfl first) (has_append rfl second)
  | @quiet i d d' here owns serves inFlight =>
    have before {p : Daemon → Bool} {j : Nat} (kept : p d' = true → p d = true)
        (later : (s.setDaemon i d'.pc d'.listening).Has p j) : s.Has p j := by
      rcases has_set later with ⟨rfl, holds⟩ | ⟨_, old⟩
      · exact ⟨d, here, kept holds⟩
      · exact old
    refine ⟨fun j later => ?_, fun j k first second => ?_, fun j k first second => ?_⟩
    · exact held.owns j (before owns later)
    · exact held.single j k (before inFlight first) (before inFlight second)
    · exact held.alone j k (before inFlight first) (before serves second)
  | @enters i pc result probe unheard unowned =>
    subst probe
    have flying (j : Nat) (d : Daemon) (different : j ≠ i) (here : s.daemons[j]? = some d) :
        d.inFlight ≠ true := by
      rw [apart j d different here]
      simp
    refine @held_of_only _ i (fun j later => ?_) (fun j later => ?_)
    · rcases has_set later with ⟨_, holds⟩ | ⟨different, old⟩
      · rw [unowned] at holds
        cases holds
      · rcases owns_cases old with serves | ⟨d, here, other⟩
        · rw [accepting_of_serves held serves] at unheard
          cases unheard
        · exact flying j d different here other
    · rcases has_set later with ⟨same, _⟩ | ⟨different, d, here, other⟩
      · exact same
      · exact absurd other (flying j d different here)
  | @frees i d d' here was unowned =>
    -- whoever removes the file at the path is the only one to have one there
    obtain ⟨owner, flying⟩ := held.sole here was
    refine @held_of_only _ i (fun j later => ?_) (fun j later => ?_)
    · rcases has_set later with ⟨_, holds⟩ | ⟨different, old⟩
      · rw [unowned] at holds
        cases holds
      · exact different (owner j old)
    · exact (has_set later).elim And.left fun old => flying j old.2
  | @binds i here free =>
    obtain ⟨owner, flying⟩ := held.sole here rfl
    -- the file is there before anybody listens on it
    have unheard : ∀ j, ¬ (s.setDaemon i .opening false).Serves j := fun j later => by
      rcases has_set later with ⟨_, holds⟩ | ⟨different, old⟩
      · cases holds
      · exact different (owner j old.owns)
    have only : ∀ j, (s.setDaemon i .opening false).InFlight j → j = i := fun j later =>
      (has_set later).elim And.left fun old => flying j old.2
    refine ⟨fun j later => ?_, fun j k first second => ?_, fun j k _ => unheard k⟩
    · rcases has_set later with ⟨rfl, _⟩ | ⟨different, old⟩
      · rfl
      · exact absurd (owner j old) different
    · exact (only j first).trans (only k second).symm
  | @listens i here =>
    obtain ⟨owner, flying⟩ := held.sole here rfl
    have own := held.owns i ⟨_, here, rfl⟩
    -- The one daemon in flight has become the listener.
    have landed : ∀ j, ¬ (s.setDaemon i .restricting true).InFlight j := fun j later => by
      rcases has_set later with ⟨_, holds⟩ | ⟨different, old⟩
      · cases holds
      · exact different (flying j old)
    refine ⟨fun j later => ?_, fun j k first => absurd first (landed j), fun j k first =>
      absurd first (landed j)⟩
    rcases has_set later with ⟨rfl, _⟩ | ⟨different, old⟩
    · exact own
    · exact absurd (owner j old) different
  | @drops i d d' here serving unowned =>
    obtain ⟨owner, flying⟩ := held.sole here (by rw [serving, Bool.or_true])
    refine @held_of_only _ i (fun j later => ?_) (fun j later => ?_)
    · rcases has_set later with ⟨_, holds⟩ | ⟨different, old⟩
      · rw [unowned] at holds
        cases holds
      · exact different (owner j old)
    · exact (has_set later).elim And.left fun old => flying j old.2

theorem held_run {entry : Entry} (run : Run step Apart (initial entry) s) : s.Held := by
  refine run.invariant ⟨?_, ?_, ?_⟩ fun _ _ _ _ held apart stepped =>
    (step_move stepped).held apart held
  · rintro i ⟨d, here, _⟩
    simp [initial] at here
  · rintro i j ⟨d, here, _⟩
    simp [initial] at here
  · rintro i j ⟨d, here, _⟩
    simp [initial] at here

end Invariant

/-! ## What is not a socket -/

/-- A daemon in front of something that is not a socket. -/
def Barred (d : Daemon) : Prop :=
  d.listening = false ∧
    (d.pc = .starting ∨ d.pc = .checking ∨ d.pc = .binding ∨ (∃ kind, d.pc = .failed kind) ∨
      d.pc = .crashed)

section Other

variable {s t : State} {a : Action} {i : Nat} {d : Daemon} {entry : Entry}

theorem Barred.absurd {pc : Pc} {listening : Bool} (barred : ∀ d ∈ s.daemons, Barred d)
    (here : s.daemons[i]? = some ⟨pc, listening⟩)
    (past : pc = .removing ∨ pc = .opening ∨ pc = .restricting ∨ pc = .bound ∨ pc = .serving ∨
      pc = .draining ∨ pc = .cleaning ∨ pc = .dropping) : False := by
  obtain ⟨_, place⟩ := barred _ (List.mem_of_getElem? here)
  rcases past with rfl | rfl | rfl | rfl | rfl | rfl | rfl | rfl <;> simp at place

theorem barred_set (barred : ∀ d ∈ s.daemons, Barred d) {pc : Pc} (new : Barred ⟨pc, false⟩) :
    ∀ d ∈ (s.setDaemon i pc false).daemons, Barred d := fun d member =>
  (List.mem_or_eq_of_mem_set member).elim (barred d) fun same => same ▸ new

theorem barred_step (other : s.entry = .other) (barred : ∀ d ∈ s.daemons, Barred d)
    (stepped : s.step a = some t) : t.entry = .other ∧ ∀ d ∈ t.daemons, Barred d := by
  cases a with
  | start =>
    obtain rfl := Option.some.inj stepped
    refine ⟨other, fun d member => ?_⟩
    rcases List.mem_append.mp member with old | new
    · exact barred d old
    · rw [List.mem_singleton.mp new]
      exact ⟨rfl, .inl rfl⟩
  | connect i result =>
    obtain ⟨_, rfl⟩ := Option.ite_none_right_eq_some.mp stepped |>.imp_right Option.some.inj
    cases result with
    | connected => exact ⟨other, barred_set barred ⟨rfl, by simp⟩⟩
    | notFound => exact ⟨other, barred_set barred ⟨rfl, by simp⟩⟩
    | connectionRefused => exact ⟨other, barred_set barred ⟨rfl, by simp⟩⟩
    | inconclusive => exact ⟨other, barred_set barred ⟨rfl, by simp⟩⟩
  | check i error =>
    obtain ⟨_, rfl⟩ := Option.ite_none_right_eq_some.mp stepped |>.imp_right Option.some.inj
    cases error <;> simp only [check, other] <;>
      exact ⟨other, barred_set barred ⟨rfl, by simp⟩⟩
  | bind i error =>
    obtain ⟨_, rfl⟩ := Option.ite_none_right_eq_some.mp stepped |>.imp_right Option.some.inj
    cases error with
    | some kind => exact ⟨other, barred_set barred ⟨rfl, by simp⟩⟩
    | none =>
      simp only [State.bind]
      rw [other, if_neg (by simp)]
      exact ⟨other, barred_set barred ⟨rfl, by simp⟩⟩
  | remove i | listen i | restrict i | serve i | close i | shutdown i | dropListener i | dropOwn i =>
    -- No daemon has come this far.
    obtain ⟨here, _⟩ := Option.ite_none_right_eq_some.mp stepped
    exact (Barred.absurd barred here (by simp)).elim
  | served i =>
    simp only [step] at stepped
    split at stepped
    case h_3 => cases stepped
    all_goals exact (Barred.absurd barred ‹_› (by simp)).elim
  | removeOwn i removed =>
    simp only [step] at stepped
    split at stepped
    case h_1 here => exact (Barred.absurd barred here (by simp)).elim
    case h_2 => cases stepped
  | crash i =>
    simp only [step] at stepped
    split at stepped
    case h_5 =>
      obtain rfl := Option.some.inj stepped
      exact ⟨other, barred_set barred ⟨rfl, by simp⟩⟩
    all_goals cases stepped

/-- No step puts something else than a socket at the path. -/
theorem Move.other (move : Move s a t) : t.entry = s.entry ∨ t.entry ≠ .other := by
  cases move with
  | start | quiet | enters | listens | drops => exact .inl rfl
  | frees | binds => exact .inr (by simp)

end Other

section Results

variable {s : State} {entry : Entry}

/-- What is at the path and is not a socket stays there, whatever is started and
however the daemons' calls interleave, and no daemon gets a listener. -/
theorem non_socket_kept {ok : State → Action → Prop} (run : Run step ok (initial entry) s) :
    (s.entry = .other ↔ entry = .other) ∧ (entry = .other → ∀ i, ¬ s.Listens i) := by
  -- the daemons put only sockets there, and never get far enough to remove something else
  have foreign : entry ≠ .other → s.entry ≠ .other := by
    intro different
    refine run.invariant (I := fun s => s.entry ≠ .other) different fun _ _ _ _ kept _ stepped => ?_
    rcases (step_move stepped).other with same | new
    · rwa [same]
    · exact new
  have own : entry = .other → s.entry = .other ∧ ∀ d ∈ s.daemons, Barred d := by
    intro other
    refine run.invariant (I := fun s => s.entry = .other ∧ ∀ d ∈ s.daemons, Barred d)
      ⟨other, by simp [initial]⟩ fun _ _ _ _ kept _ stepped => barred_step kept.1 kept.2 stepped
  refine ⟨⟨fun here => by_contra fun different => foreign different here,
    fun other => (own other).1⟩, fun other i listens => ?_⟩
  obtain ⟨d, here, heard⟩ := listens
  rw [((own other).2 d (List.mem_of_getElem? here)).1] at heard
  cases heard

theorem non_socket_kept_file : ∃ s : State, s.daemons = [⟨.failed .alreadyExists, false⟩] ∧
    s.entry = .other := by
  have replayed : (exec step (fun _ _ => true) (initial .other)
      [.start, .connect 0 .connectionRefused, .check 0 none]).map
      (fun s => decide (s.daemons = [⟨.failed .alreadyExists, false⟩])) = some true := by
    decide +kernel
  obtain ⟨s, run, found⟩ := exists_run_of_exec replayed
  exact ⟨s, of_decide_eq_true found, (non_socket_kept run).1.mpr rfl⟩

/-- While nobody probes as another daemon is in flight, there is one listener at most, and
until its daemon has removed its file it is the one clients reach, and a probe then finds it. -/
theorem listener_is_reached (run : Run step Apart (initial entry) s) :
    (∀ i, s.Serves i → s.entry = .socket (some i) ∧ s.accepting = true ∧
      s.reports .connectionRefused = false ∧ s.reports .notFound = false) ∧
      ∀ i j, s.Listens i → s.Listens j → i = j := by
  have held := held_run run
  constructor
  · intro i serves
    have own := held.owns i serves.owns
    have heard := accepting_of_serves held serves
    exact ⟨own, heard, by simp [reports, heard], by simp [reports, own]⟩
  · intro i j ⟨d, here, heard⟩ ⟨d', here', heard'⟩
    -- a daemon that listens after it has removed its file is in flight
    have known (d : Daemon) (heard : d.listening = true) : (d.inFlight || d.serves) = true := by
      by_cases dropping : d.pc = .dropping
      · simp [Daemon.inFlight, dropping, heard]
      · simp [Daemon.serves, dropping, heard]
    obtain ⟨owner, flying⟩ := held.sole here' (known d' heard')
    rcases Bool.or_eq_true_iff.mp (known d heard) with inFlight | serves
    · exact flying i ⟨d, here, inFlight⟩
    · exact owner i (Has.owns ⟨d, here, serves⟩)

/-- A crashed daemon's file is replaced, the next daemon is turned away. -/
theorem listener_is_reached_crash : ∃ s : State, s.daemons.length = 3 ∧
    s.entry = .socket (some 1) ∧ s.accepting = true := by
  have replayed : (exec step (fun s a => match a with
        | .connect i _ => (List.range s.daemons.length).all fun j =>
            j == i || !s.daemons[j]?.any Daemon.inFlight
        | _ => true) (initial .free)
      [.start, .connect 0 .notFound, .bind 0 none, .listen 0 none, .restrict 0 none, .serve 0,
        .crash 0, .start, .connect 1 .connectionRefused, .check 1 none, .remove 1 none,
        .bind 1 none, .listen 1 none, .start, .connect 2 .connected]).map
      (fun s => s.daemons.length = 3 && decide (s.daemons[1]? = some ⟨.restricting, true⟩)) =
        some true := by
    decide +kernel
  obtain ⟨s, run, found⟩ := exists_run_of_exec replayed
  obtain ⟨three, listening⟩ := Bool.and_eq_true_iff.mp found
  have apart : Run step Apart (initial .free) s := run.mono fun s a allowed => by
    cases a with
    | connect i result =>
      intro j d different here
      have inside : j < s.daemons.length := (List.getElem?_eq_some_iff.mp here).1
      have free := List.all_eq_true.mp allowed j (List.mem_range.mpr inside)
      simpa [different, here] using free
    | _ => trivial
  -- the third daemon has probed while the second one listens already
  have own := (listener_is_reached apart).1 1 ⟨_, of_decide_eq_true listening, rfl⟩
  exact ⟨s, of_decide_eq_true three, own.1, own.2.1⟩

/-- Two daemons that start side by side over a stale file both get a listener: the
second removes the file of the first. -/
theorem overlapping_starts : ¬ ∀ s, Run step (fun _ _ => True) (initial (.socket none)) s →
    ∀ i j, s.Listens i → s.Listens j → i = j := by
  intro claim
  have replayed : (exec step (fun _ _ => true) (initial (.socket none))
      [.start, .start, .connect 0 .connectionRefused, .connect 1 .connectionRefused,
        .check 0 none, .check 1 none, .remove 0 none, .bind 0 none, .listen 0 none,
        .remove 1 none, .bind 1 none, .listen 1 none]).map
      (fun s => decide (s.daemons = [⟨.restricting, true⟩, ⟨.restricting, true⟩])) =
        some true := by
    decide +kernel
  obtain ⟨s, run, found⟩ := exists_run_of_exec replayed
  -- the second has removed the file that the first listens on
  have both := of_decide_eq_true found
  have same := claim s (run.mono fun _ _ _ => trivial) 0 1 ⟨_, by rw [both]; rfl, rfl⟩
    ⟨_, by rw [both]; rfl, rfl⟩
  cases same

end Results

/-! ## After a crash -/

/-- The steps of a start of daemon `i` that nothing disturbs. -/
def undisturbed (i : Nat) : Action → Bool
  | .connect _ (.inconclusive _) => false
  | .connect j _ | .serve j => j == i
  | .check j error | .remove j error | .bind j error | .listen j error | .restrict j error =>
    j == i && error == none
  | _ => false

def stepsLeft : Pc → Nat
  | .starting => 7
  | .checking => 6
  | .removing => 5
  | .binding => 4
  | .opening => 3
  | .restricting => 2
  | .bound => 1
  | _ => 0

/-- How far the start of daemon `i` is, with that at the path. -/
def Stage (i : Nat) (entry : Entry) (d : Daemon) : Prop :=
  match d.pc with
  | .starting | .removing => d.listening = false
  | .checking => d.listening = false ∧ entry ≠ .free
  | .binding => d.listening = false ∧ entry = .free
  | .opening => d.listening = false ∧ entry = .socket (some i)
  | .restricting | .bound | .serving => d.listening = true ∧ entry = .socket (some i)
  | _ => False

/-- Daemon `i` is on its way to a listener, and nobody else has one. -/
structure Rising (i : Nat) (s : State) : Prop where
  entry : s.entry ≠ .other
  others : ∀ j, j ≠ i → ¬ s.Listens j
  stage : ∃ d, s.daemons[i]? = some d ∧ Stage i s.entry d

section Restart

variable {s t : State} {a : Action} {i : Nat} {d : Daemon} {pc : Pc} {listening : Bool}
  {entry : Entry}

theorem Rising.stage_of (rising : Rising i s) (here : s.daemons[i]? = some d) :
    Stage i s.entry d := by
  obtain ⟨d', here', stage⟩ := rising.stage
  rw [here] at here'
  exact Option.some.inj here' ▸ stage

theorem Rising.set (rising : Rising i s) (socket : entry ≠ .other)
    (stage : Stage i entry ⟨pc, listening⟩) :
    Rising i { s.setDaemon i pc listening with entry } := by
  obtain ⟨d, here, _⟩ := rising.stage
  refine ⟨socket, fun j different later => ?_, _, get_set_self here _, stage⟩
  exact (has_set later).elim (fun same => different same.1) fun old =>
    rising.others j different old.2

theorem Rising.unheard (rising : Rising i s) (here : s.daemons[i]? = some ⟨pc, false⟩) :
    s.accepting = false := by
  unfold accepting
  split
  case h_1 owner _ =>
    cases found : s.daemons[owner]? with
    | none => rfl
    | some d =>
      by_cases same : owner = i
      · rw [same, here] at found
        obtain rfl := Option.some.inj found
        rfl
      · cases heard : d.listening with
        | false => exact heard
        | true => exact absurd ⟨d, found, heard⟩ (rising.others owner same)
  case h_2 => rfl

/-- What an undisturbed step of the start leads to. -/
theorem Rising.step (rising : Rising i s) (own : undisturbed i a = true)
    (stepped : s.step a = some t) :
    ∃ (pc pc' : Pc) (listening listening' : Bool) (entry : Entry),
      s.daemons[i]? = some ⟨pc, listening⟩ ∧ t = { s.setDaemon i pc' listening' with entry } ∧
        entry ≠ .other ∧ Stage i entry ⟨pc', listening'⟩ ∧ stepsLeft pc' < stepsLeft pc := by
  cases a with
  | connect j result =>
    obtain ⟨⟨here, reported⟩, rfl⟩ :=
      Option.ite_none_right_eq_some.mp stepped |>.imp_right Option.some.inj
    cases result with
    | connected =>
      obtain rfl : j = i := by simpa [undisturbed] using own
      rw [reports, rising.unheard here] at reported
      exact absurd (by simpa using reported) rising.entry
    | notFound =>
      obtain rfl : j = i := by simpa [undisturbed] using own
      have free : s.entry = .free := by simpa [reports, rising.entry] using reported
      exact ⟨_, .binding, _, false, s.entry, here, rfl, rising.entry, ⟨rfl, free⟩, by decide⟩
    | connectionRefused =>
      obtain rfl : j = i := by simpa [undisturbed] using own
      have taken : s.entry ≠ .free := by
        simp only [reports, Bool.and_eq_true, bne_iff_ne] at reported
        exact reported.2
      exact ⟨_, .checking, _, false, s.entry, here, rfl, rising.entry, ⟨rfl, taken⟩, by decide⟩
    | inconclusive => cases own
  | check j error =>
    -- what is at the path is a socket, and nothing has replaced it
    obtain ⟨rfl, rfl⟩ : j = i ∧ error = none := by simpa [undisturbed] using own
    obtain ⟨here, rfl⟩ := Option.ite_none_right_eq_some.mp stepped |>.imp_right Option.some.inj
    obtain ⟨_, taken⟩ := rising.stage_of here
    refine ⟨_, .removing, _, false, s.entry, here, ?_, rising.entry, rfl, by decide⟩
    cases entry : s.entry with
    | free => exact absurd entry taken
    | socket owner => simp only [State.check, entry, setDaemon]
    | other => exact absurd entry rising.entry
  | remove j error =>
    -- the stale socket is unlinked
    obtain ⟨rfl, rfl⟩ : j = i ∧ error = none := by simpa [undisturbed] using own
    obtain ⟨here, rfl⟩ := Option.ite_none_right_eq_some.mp stepped |>.imp_right Option.some.inj
    refine ⟨_, .binding, _, false, .free, here, ?_, by simp, ⟨rfl, rfl⟩, by decide⟩
    unfold State.remove
    split
    case h_1 free => rw [← free]; rfl
    case h_2 => rfl
    case h_3 failed _ => cases failed
  | bind j error =>
    obtain ⟨rfl, rfl⟩ : j = i ∧ error = none := by simpa [undisturbed] using own
    obtain ⟨here, rfl⟩ := Option.ite_none_right_eq_some.mp stepped |>.imp_right Option.some.inj
    obtain ⟨_, free⟩ := rising.stage_of here
    simp only [State.bind]
    rw [if_pos free]
    exact ⟨_, .opening, _, false, _, here, rfl, by simp, ⟨rfl, rfl⟩, by decide⟩
  | listen j error =>
    -- the file is the socket of this daemon since it was bound
    obtain ⟨rfl, rfl⟩ : j = i ∧ error = none := by simpa [undisturbed] using own
    obtain ⟨here, rfl⟩ := Option.ite_none_right_eq_some.mp stepped |>.imp_right Option.some.inj
    obtain ⟨_, mine⟩ := rising.stage_of here
    exact ⟨_, .restricting, _, true, s.entry, here, rfl, rising.entry, ⟨rfl, mine⟩, by decide⟩
  | restrict j error =>
    obtain ⟨rfl, rfl⟩ : j = i ∧ error = none := by simpa [undisturbed] using own
    obtain ⟨here, stepped⟩ := Option.ite_none_right_eq_some.mp stepped
    obtain ⟨_, rfl⟩ := Option.ite_none_left_eq_some.mp stepped |>.imp_right Option.some.inj
    have stage := rising.stage_of here
    exact ⟨_, .bound, _, true, s.entry, here, rfl, rising.entry, stage, by decide⟩
  | serve j =>
    obtain rfl : j = i := by simpa [undisturbed] using own
    obtain ⟨here, rfl⟩ := Option.ite_none_right_eq_some.mp stepped |>.imp_right Option.some.inj
    have stage := rising.stage_of here
    exact ⟨_, .serving, _, true, s.entry, here, rfl, rising.entry, stage, by decide⟩
  | _ => cases own

def Served (i : Nat) (s : State) : Prop :=
  s.daemons[i]? = some ⟨.serving, true⟩ ∧ s.entry = .socket (some i)

theorem Rising.enabled (rising : Rising i s) (unfinished : ¬ Served i s) :
    ∃ a t, undisturbed i a = true ∧ s.step a = some t := by
  obtain ⟨⟨pc, listening⟩, here, stage⟩ := rising.stage
  cases pc with
  | starting =>
    obtain rfl : listening = false := stage
    have unheard := rising.unheard here
    by_cases free : s.entry = .free
    · exact ⟨.connect i .notFound, _, by simp [undisturbed], if_pos ⟨here, by simp [reports, free]⟩⟩
    · exact ⟨.connect i .connectionRefused, _, by simp [undisturbed],
        if_pos ⟨here, by simp [reports, unheard, free]⟩⟩
  | checking =>
    obtain ⟨rfl, _⟩ : listening = false ∧ _ := stage
    exact ⟨.check i none, _, by simp [undisturbed], if_pos here⟩
  | removing =>
    obtain rfl : listening = false := stage
    exact ⟨.remove i none, _, by simp [undisturbed], if_pos here⟩
  | binding =>
    obtain ⟨rfl, _⟩ : listening = false ∧ _ := stage
    exact ⟨.bind i none, _, by simp [undisturbed], if_pos here⟩
  | opening =>
    obtain ⟨rfl, _⟩ : listening = false ∧ _ := stage
    exact ⟨.listen i none, _, by simp [undisturbed], if_pos here⟩
  | restricting =>
    obtain ⟨rfl, own⟩ : listening = true ∧ _ := stage
    exact ⟨.restrict i none, _, by simp [undisturbed],
      (if_pos here).trans (if_neg (by simp [own]))⟩
  | bound =>
    obtain ⟨rfl, _⟩ : listening = true ∧ _ := stage
    exact ⟨.serve i, _, by simp [undisturbed], if_pos here⟩
  | serving =>
    obtain ⟨rfl, own⟩ : listening = true ∧ _ := stage
    exact absurd ⟨here, own⟩ unfinished
  | draining | cleaning | dropping | ended | failed | crashed => cases stage

theorem start_drains : Drains State.step (fun _ => undisturbed i) (Rising i)
    (fun s => (s.daemons[i]?.map fun d => stepsLeft d.pc).getD 0) (Served i) where
  kept s a t rising own stepped := by
    obtain ⟨_, _, _, _, _, _, rfl, socket, stage, _⟩ := rising.step own stepped
    exact rising.set socket stage
  lowers s a t rising own stepped := by
    obtain ⟨_, _, _, _, _, here, rfl, _, _, lower⟩ := rising.step own stepped
    simp only [setDaemon, get_set_self here, here, Option.map_some, Option.getD_some]
    exact lower
  enabled _ rising unfinished := rising.enabled unfinished

/-- With no listener left, whatever crashed and whatever file it left behind, a start
that nothing disturbs ends in at most seven steps, serving at the path. -/
theorem restart_serves {ok : State → Action → Prop} (run : Run State.step ok (initial entry) s)
    (socket : entry ≠ .other) (nobody : ∀ j, ¬ s.Listens j)
    (here : s.daemons[i]? = some ⟨.starting, false⟩) :
    ∀ as t, exec State.step (fun _ => undisturbed i) s as = some t →
      as.length ≤ 7 ∧
        ((∀ a, undisturbed i a = true → t.step a = none) →
          t.daemons[i]? = some ⟨.serving, true⟩ ∧ t.entry = .socket (some i)) := by
  intro as t replayed
  have start : Rising i s := ⟨fun other => socket ((non_socket_kept run).1.mp other),
    fun j _ => nobody j, _, here, rfl⟩
  -- every step of the start lowers the steps that are left, and one is enabled until it serves
  have bound := start_drains.length_le start replayed
  rw [here] at bound
  exact ⟨bound, start_drains.final_of_stuck start replayed⟩

theorem restart_serves_stale : ∃ s t : State, s.entry = .socket (some 0) ∧
    exec State.step (fun _ => undisturbed 1) s [.connect 1 .connectionRefused, .check 1 none,
      .remove 1 none, .bind 1 none, .listen 1 none, .restrict 1 none, .serve 1] = some t ∧
    t.entry = .socket (some 1) := by
  have replayed : (exec State.step (fun _ _ => true) (initial .free)
      [.start, .connect 0 .notFound, .bind 0 none, .listen 0 none, .restrict 0 none, .serve 0,
        .crash 0, .start]).map
      (fun s => decide (s = ⟨.socket (some 0), [⟨.crashed, false⟩, ⟨.starting, false⟩]⟩)) =
        some true := by
    decide +kernel
  obtain ⟨s, run, found⟩ := exists_run_of_exec replayed
  obtain rfl := of_decide_eq_true found
  have nobody : ∀ j, ¬ Listens ⟨.socket (some 0), [⟨.crashed, false⟩, ⟨.starting, false⟩]⟩ j := by
    rintro j ⟨d, here, heard⟩
    have member := List.mem_of_getElem? here
    simp only [List.mem_cons, List.not_mem_nil, or_false] at member
    rcases member with rfl | rfl <;> cases heard
  have ended : exec State.step (fun _ => undisturbed 1)
      ⟨.socket (some 0), [⟨.crashed, false⟩, ⟨.starting, false⟩]⟩ [.connect 1 .connectionRefused,
        .check 1 none, .remove 1 none, .bind 1 none, .listen 1 none, .restrict 1 none, .serve 1] =
      some ⟨.socket (some 1), [⟨.crashed, false⟩, ⟨.serving, true⟩]⟩ := by
    decide +kernel
  have stuck : ∀ a, undisturbed 1 a = true →
      State.step ⟨.socket (some 1), [⟨.crashed, false⟩, ⟨.serving, true⟩]⟩ a = none := by
    intro a own
    cases a with
    | connect j result => cases result <;> simp_all [undisturbed, State.step]
    | _ => simp_all [undisturbed, State.step]
  exact ⟨_, _, rfl, ended, ((restart_serves run (by simp) nobody rfl _ _ ended).2 stuck).2⟩

end Restart

end State

end Rsbtd.Listener
