import Mathlib.Data.List.Basic
import Rsbtd.WebUi.Connection

/-!
# Superseded requests and sockets

A step of a request or socket issued under an older epoch should leave the
connection alone.  The callbacks and the continuations check the epoch they
captured, and a superseded `connect` probe is aborted.  The 401 handler checks
nothing: a classification probe or any other request of an older epoch that is
answered with 401 ends the current connection.
-/

namespace Rsbtd.WebUi

open Transition (Run exec exists_run_of_exec)

namespace Controller

variable {c d : Controller}

/-- The epoch under which the request or socket of a step was issued. -/
def issued (c : Controller) : Action → Option Nat
  | .respond id _ | .resume id => c.requests[id]?.map Request.epoch
  | .wsConnected client | .wsClosed client => c.sockets[client]?
  | _ => none

def Superseded (c : Controller) (a : Action) : Prop :=
  ∃ epoch, c.issued a = some epoch ∧ epoch ≠ c.epoch

/-- The connection state, the generation and the current socket are as before. -/
structure Isolated (c d : Controller) : Prop where
  state : d.snap.state = c.snap.state
  generation : d.snap.generation = c.snap.generation
  ws : d.ws = c.ws
  disposed : d.disposed = c.disposed

/-- A request other than the `connect` probe is answered with 401 while the UI is
not on the login page. -/
def rejects (c : Controller) (a : Action) : Prop :=
  ∃ id r, a = .respond id .unauthorized ∧ c.requests[id]? = some r ∧ r.kind ≠ .probe ∧
    c.snap.state ≠ .authRequired

/-! ## Superseded probes are aborted -/

/-- A `connect` probe that can still be answered. -/
def Racing (r : Request) : Prop :=
  r.kind = .probe ∧ r.aborted = false ∧ r.phase = .pending

/-- The only probe that can still be answered is the one of this epoch, and its
abort controller is kept. -/
def ProbesAborted (c : Controller) : Prop :=
  ∀ (id : Nat) (r : Request), c.requests[id]? = some r → Racing r →
    c.probeAbort = some id ∧ r.epoch = c.epoch

def NoProbe (c : Controller) : Prop :=
  ∀ (id : Nat) (r : Request), c.requests[id]? = some r → ¬ Racing r

theorem NoProbe.aborted (none : NoProbe c) : ProbesAborted c :=
  fun id r found racing => absurd racing (none id r found)

/-- A step that starts no probe and keeps the epoch. -/
theorem ProbesAborted.keep (aborted : ProbesAborted c)
    (requests : ∀ (id : Nat) (r : Request), d.requests[id]? = some r → Racing r →
      c.requests[id]? = some r)
    (probeAbort : d.probeAbort = c.probeAbort) (epoch : d.epoch = c.epoch) : ProbesAborted d := by
  intro id r found racing
  rw [probeAbort, epoch]
  exact aborted id r (requests id r found racing) racing

theorem abortProbe_requests (c : Controller) (id : Nat) (r : Request)
    (found : c.abortProbe.requests[id]? = some r) (racing : Racing r) :
    c.requests[id]? = some r ∧ c.probeAbort ≠ some id := by
  unfold abortProbe at found
  cases current : c.probeAbort with
  | none => exact ⟨by simpa [current] using found, by simp⟩
  | some own =>
    rw [current] at found
    by_cases mine : own = id
    · subst mine
      obtain ⟨old, _, rfl⟩ : ∃ old, c.requests[own]? = some old ∧
          { old with aborted := true } = r := by
        simpa using found
      cases racing.2.1
    · exact ⟨by simpa [mine] using found, fun same => mine (Option.some.inj same)⟩

/-- Once the probe of the epoch is aborted, none can be answered. -/
theorem ProbesAborted.abort (aborted : ProbesAborted c) (requests : d.requests = c.requests)
    (probeAbort : d.probeAbort = c.probeAbort) : NoProbe d.abortProbe := by
  intro id r found racing
  obtain ⟨before, other⟩ := abortProbe_requests d id r found racing
  rw [requests] at before
  rw [probeAbort] at other
  exact other (aborted id r before racing).1

theorem ProbesAborted.teardown (aborted : ProbesAborted c) : NoProbe c.teardown := by
  have none : NoProbe ({ c with epoch := c.epoch + 1 }.clearRetry.abortProbe) :=
    aborted.abort rfl rfl
  exact none

theorem getElem?_concat {α : Type} {l : List α} {new a : α} {i : Nat}
    (found : (l ++ [new])[i]? = some a) : l[i]? = some a ∨ i = l.length ∧ a = new := by
  rw [List.getElem?_append] at found
  split at found
  case isTrue => exact .inl found
  case isFalse later =>
    rw [List.getElem?_singleton] at found
    obtain ⟨zero, same⟩ := Option.ite_none_right_eq_some.mp found
    exact .inr ⟨by omega, (Option.some.inj same).symm⟩

theorem ProbesAborted.connect (aborted : ProbesAborted c) : ProbesAborted c.connect := by
  have none : NoProbe ({ c.clearRetry with epoch := c.epoch + 1 }.abortProbe) :=
    aborted.abort rfl rfl
  intro id r found racing
  rcases getElem?_concat found with old | ⟨rfl, rfl⟩
  · exact absurd racing (none id r old)
  · exact ⟨rfl, rfl⟩

/-- A new request that is not a probe. -/
theorem ProbesAborted.push (aborted : ProbesAborted c) {new : Request} (other : new.kind ≠ .probe)
    (requests : d.requests = c.requests ++ [new]) (probeAbort : d.probeAbort = c.probeAbort)
    (epoch : d.epoch = c.epoch) : ProbesAborted d := by
  apply aborted.keep ?_ probeAbort epoch
  intro id r found racing
  rw [requests] at found
  rcases getElem?_concat found with old | ⟨-, rfl⟩
  · exact old
  · exact absurd racing.1 other

theorem ProbesAborted.setPhase (aborted : ProbesAborted c) (id : Nat) {phase : Phase}
    (settled : phase ≠ .pending) : ProbesAborted (c.setPhase id phase) := by
  refine aborted.keep ?_ rfl rfl
  intro other r found racing
  by_cases same : id = other
  · subst same
    obtain ⟨old, _, rfl⟩ : ∃ old, c.requests[id]? = some old ∧ { old with phase } = r := by
      simpa [Controller.setPhase] using found
    exact absurd racing.2.2 settled
  · simpa [Controller.setPhase, same] using found

theorem ProbesAborted.authLost (aborted : ProbesAborted c) : ProbesAborted c.authLost := by
  unfold Controller.authLost
  split
  · exact aborted
  · exact aborted.teardown.aborted

theorem ProbesAborted.toDown (aborted : ProbesAborted c) (message : String) :
    ProbesAborted (c.toDown message) :=
  aborted.teardown.aborted

theorem ProbesAborted.reconnect (aborted : ProbesAborted c) : ProbesAborted c.reconnect := by
  have before : ProbesAborted { c with pendingIdentityBump := true } := aborted
  exact before.teardown.aborted.connect

theorem ProbesAborted.probed (aborted : ProbesAborted c) (epoch : Nat) (response : Response) :
    ProbesAborted (c.probed epoch response) := by
  unfold Controller.probed
  split
  · exact aborted
  · cases response with
    | ok => exact aborted
    | unauthorized => exact aborted
    | failed message => exact aborted.toDown message

theorem ProbesAborted.classifying (aborted : ProbesAborted c) :
    ProbesAborted { c with classifying := false } :=
  aborted

theorem ProbesAborted.classified (aborted : ProbesAborted c) (epoch : Nat) (client : Client)
    (response : Response) : ProbesAborted (c.classified epoch client response) := by
  unfold Controller.classified
  apply ProbesAborted.classifying
  split
  case isTrue => exact aborted
  case isFalse =>
    split
    · split
      · exact aborted
      · split
        · exact aborted
        · exact aborted
    · exact aborted.teardown.aborted
    · exact aborted.toDown _

theorem ProbesAborted.onClosed (aborted : ProbesAborted c) (epoch : Nat) (client : Client) :
    ProbesAborted (c.onClosed epoch client) := by
  unfold Controller.onClosed
  split
  · exact aborted
  · split
    · exact aborted
    · split
      · exact aborted
      · split
        · exact aborted
        · exact aborted.push (by simp) rfl rfl rfl

theorem ProbesAborted.step (aborted : ProbesAborted c) {a : Action}
    (stepped : c.step a = some d) : ProbesAborted d := by
  cases a with
  | start =>
    obtain ⟨⟩ := stepped
    split
    · exact aborted
    · have started : ProbesAborted { c with started := true } := aborted
      exact started.connect
  | reconnect =>
    obtain ⟨⟩ := stepped
    exact aborted.reconnect
  | logout =>
    obtain ⟨⟩ := stepped
    exact aborted.teardown.aborted
  | authLost =>
    obtain ⟨⟩ := stepped
    exact aborted.authLost
  | storage watched =>
    obtain ⟨⟩ := stepped
    split
    · exact aborted.reconnect
    · exact aborted
  | retry =>
    obtain ⟨-, ⟨⟩⟩ := Option.ite_none_right_eq_some.mp stepped
    exact aborted.connect
  | wsConnected client =>
    obtain ⟨epoch, -, rfl⟩ := Option.map_eq_some_iff.mp stepped
    unfold Controller.onConnected
    split
    · exact aborted
    · exact aborted
  | wsClosed client =>
    obtain ⟨epoch, -, rfl⟩ := Option.map_eq_some_iff.mp stepped
    exact aborted.onClosed epoch client
  | request =>
    obtain ⟨⟩ := stepped
    exact aborted.push (by simp) rfl rfl rfl
  | respond id response =>
    obtain ⟨r, -, allowed⟩ := Option.bind_eq_some_iff.mp stepped
    obtain ⟨-, ⟨⟩⟩ := Option.ite_none_right_eq_some.mp allowed
    have settled := aborted.setPhase id (by simp : Phase.settled response ≠ .pending)
    unfold Controller.respond
    split
    · exact settled.authLost
    · exact settled
  | resume id =>
    obtain ⟨r, -, resumed⟩ := Option.bind_eq_some_iff.mp stepped
    have finished := aborted.setPhase id (by simp : Phase.finished ≠ .pending)
    cases phase : r.phase with
    | settled response =>
      obtain ⟨⟩ : c.resume id r response = d := by simpa [phase] using resumed
      unfold Controller.resume
      cases r.kind with
      | probe => exact finished.probed r.epoch response
      | classify client => exact finished.classified r.epoch client response
      | other => exact finished
    | _ => simp [phase] at resumed
  | setToken | setSessionError =>
    obtain ⟨⟩ := stepped
    exact aborted

theorem probesAborted_run (run : Run step (fun _ _ => True) init c) : ProbesAborted c := by
  refine Run.invariant (I := fun c => ProbesAborted c) ?_ ?_ run
  · intro id r found
    simp [init] at found
  · intro b a d _ aborted _ stepped
    exact aborted.step stepped

/-! ## Isolation -/

theorem isolated_refl (c : Controller) : Isolated c c := ⟨rfl, rfl, rfl, rfl⟩

/-- A continuation that finds its epoch superseded changes no connection. -/
theorem isolated_resume {id : Nat} {r : Request} (response : Response)
    (older : r.epoch ≠ c.epoch) : Isolated c (c.resume id r response) := by
  unfold Controller.resume
  cases r.kind with
  | probe =>
    have same : (c.setPhase id .finished).probed r.epoch response = c.setPhase id .finished :=
      if_pos older
    simp only [same]
    exact ⟨rfl, rfl, rfl, rfl⟩
  | classify client =>
    have guarded : r.epoch ≠ (c.setPhase id .finished).epoch ∨
        (c.setPhase id .finished).ws ≠ some client := .inl older
    simp only [Controller.classified, if_pos guarded]
    exact ⟨rfl, rfl, rfl, rfl⟩
  | other => exact ⟨rfl, rfl, rfl, rfl⟩

/-- The handler of a 401 leaves the connection alone only on the login page. -/
theorem isolated_unauthorized (c : Controller) (id : Nat) :
    Isolated c (c.respond id .unauthorized) ↔ c.snap.state = .authRequired := by
  simp only [Controller.respond, if_true, Controller.authLost]
  constructor
  · intro isolated
    by_contra elsewhere
    rw [if_neg (show (c.setPhase id (.settled .unauthorized)).snap.state ≠ _ from elsewhere)]
      at isolated
    exact elsewhere isolated.state.symm
  · intro login
    rw [if_pos (show (c.setPhase id (.settled .unauthorized)).snap.state = _ from login)]
    exact ⟨rfl, rfl, rfl, rfl⟩

/-- In every reachable state, a step of a superseded request or socket leaves the
connection alone exactly if it is not the 401 of another request than a probe,
seen while the UI is not on the login page. -/
theorem superseded_isolated (run : Run step (fun _ _ => True) init c) {a : Action}
    (stepped : c.step a = some d) (superseded : c.Superseded a) :
    Isolated c d ↔ ¬ c.rejects a := by
  have aborted := probesAborted_run run
  obtain ⟨epoch, issued, older⟩ := superseded
  cases a with
  | wsConnected client =>
    obtain ⟨own, found, rfl⟩ := Option.map_eq_some_iff.mp stepped
    obtain rfl : own = epoch := Option.some.inj (found.symm.trans issued)
    have same : c.onConnected own client = c := if_pos (.inl older)
    rw [same]
    exact ⟨fun _ => (by simp [rejects]), fun _ => isolated_refl c⟩
  | wsClosed client =>
    obtain ⟨own, found, rfl⟩ := Option.map_eq_some_iff.mp stepped
    obtain rfl : own = epoch := Option.some.inj (found.symm.trans issued)
    have same : c.onClosed own client = c := if_pos (.inl older)
    rw [same]
    exact ⟨fun _ => (by simp [rejects]), fun _ => isolated_refl c⟩
  | resume id =>
    obtain ⟨r, found, resumed⟩ := Option.bind_eq_some_iff.mp stepped
    obtain rfl : r.epoch = epoch := by simpa [Controller.issued, found] using issued
    cases phase : r.phase with
    | settled response =>
      obtain ⟨⟩ : c.resume id r response = d := by simpa [phase] using resumed
      exact ⟨fun _ => (by simp [rejects]), fun _ => isolated_resume response older⟩
    | _ => simp [phase] at resumed
  | respond id response =>
    obtain ⟨r, found, allowed⟩ := Option.bind_eq_some_iff.mp stepped
    obtain ⟨⟨pending, failing⟩, ⟨⟩⟩ := Option.ite_none_right_eq_some.mp allowed
    obtain rfl : r.epoch = epoch := by simpa [Controller.issued, found] using issued
    cases response with
    | ok | failed =>
      refine ⟨fun _ => (by simp [rejects]), fun _ => ?_⟩
      exact ⟨rfl, rfl, rfl, rfl⟩
    | unauthorized =>
      rw [isolated_unauthorized]
      -- a superseded probe was aborted and cannot be answered with 401
      have other : r.kind ≠ .probe := by
        intro probe
        cases live : r.aborted with
        | true => cases failing live
        | false => exact older (aborted id r found ⟨probe, live, pending⟩).2
      constructor
      · rintro login ⟨_, _, _, _, _, elsewhere⟩
        exact elsewhere login
      · intro accepted
        by_contra elsewhere
        exact accepted ⟨id, r, rfl, found, other, elsewhere⟩
  | _ => cases issued

/-- A socket is opened, the user reconnects, and the old socket reports its close. -/
def closedLate : List Action :=
  [.start, .respond 0 .ok, .resume 0, .wsConnected 0, .reconnect]

theorem superseded_isolated_closed :
    ∃ c d, c.step (.wsClosed 0) = some d ∧ c.Superseded (.wsClosed 0) ∧ Isolated c d := by
  have replayed : (exec step (fun _ _ => true) init closedLate).map (fun c =>
      decide (c.epoch = 3 ∧ c.sockets = [1])) = some true := by
    decide +kernel
  obtain ⟨c, run, reached⟩ := exists_run_of_exec replayed
  obtain ⟨now, sockets⟩ := of_decide_eq_true reached
  have superseded : c.Superseded (.wsClosed 0) :=
    ⟨1, by simp [Controller.issued, sockets], by simp [now]⟩
  have stepped : c.step (.wsClosed 0) = some (c.onClosed 1 0) := by
    simp [Controller.step, sockets]
  exact ⟨c, _, stepped, superseded,
    (superseded_isolated (run.mono (by simp)) stepped superseded).mpr (by simp [rejects])⟩

/-- A request of the old connection is answered with 401 after the user has
reconnected with other credentials. -/
def rejectedLate : List Action :=
  [.start, .respond 0 .ok, .resume 0, .wsConnected 0, .request, .setToken (some "new"),
   .reconnect]

/-- The new connection attempt is torn down and the login page is shown. -/
theorem superseded_rejects :
    ¬ ∀ c d a, Run step (fun _ _ => True) init c → c.step a = some d → c.Superseded a →
      Isolated c d := by
  intro claim
  have replayed : (exec step (fun _ _ => true) init rejectedLate).map (fun c =>
      decide (c.epoch = 3 ∧ c.snap.state = .probing ∧
        c.requests[1]? = some ⟨.other, 1, false, .pending⟩)) = some true := by
    decide +kernel
  obtain ⟨c, run, reached⟩ := exists_run_of_exec replayed
  obtain ⟨now, probing, asked⟩ := of_decide_eq_true reached
  have stepped : c.step (.respond 1 .unauthorized) = some (c.respond 1 .unauthorized) := by
    simp [Controller.step, asked]
  have superseded : c.Superseded (.respond 1 .unauthorized) :=
    ⟨1, by simp [Controller.issued, asked], by simp [now]⟩
  have isolated := claim c _ _ (run.mono (by simp)) stepped superseded
  rw [isolated_unauthorized, probing] at isolated
  cases isolated

end Controller

end Rsbtd.WebUi
