import Rsbtd.Verified.ConnectionCoherence

/-!
# A classification that ends after the socket was acked

The probe of a socket that closed before its ack may end when the socket has
reconnected.  A success leaves an acked socket alone; any other error takes it down.

`Watched.live` says that a socket was acked and has not closed since.  It is false when
the probe of the socket begins, so a socket that is live when its probe ends was acked
in between.  The runs are those of any actions, also with a late `start`.
-/

namespace Rsbtd.WebUi

open Transition (Run exec exists_run_of_exec)

namespace Controller

variable {c d : Controller} {live : Client → Bool}

/-- The socket is the controller's, and its callbacks are of this epoch. -/
def Current (c : Controller) (client : Client) : Prop :=
  c.ws = some client ∧ c.sockets[client]? = some c.epoch

instance (c : Controller) (client : Client) : Decidable (Current c client) :=
  inferInstanceAs (Decidable (_ ∧ _))

/-- A classification is of its socket's epoch, the probe of an epoch ends before it has a socket, and
a live socket of this epoch is up. -/
structure Seated (c : Controller) (live : Client → Bool) : Prop where
  requests : ∀ (id : Nat) (r : Request), c.requests[id]? = some r → r.epoch ≤ c.epoch
  sockets : ∀ epoch ∈ c.sockets, epoch ≤ c.epoch
  classify : ∀ (id : Nat) (r : Request) (client : Client), c.requests[id]? = some r →
    r.kind = .classify client → c.sockets[client]? = some r.epoch
  probe : ∀ (id : Nat) (r : Request), c.requests[id]? = some r → r.kind = .probe →
    r.epoch = c.epoch → r.phase ≠ .finished → c.probeAbort = some id ∧ c.epoch ∉ c.sockets
  opened : ∀ client, live client = true → client < c.sockets.length
  up : ∀ client, Current c client → live client = true → c.snap.state = .up

theorem Seated.teardown (seated : Seated c live) : Seated c.teardown live := by
  have now : c.teardown.epoch = c.epoch + 1 := by simp [Controller.teardown, clearRetry]
  have kept : c.teardown.sockets = c.sockets := by simp [Controller.teardown, clearRetry]
  have before : ∀ {id : Nat} {r : Request}, c.teardown.requests[id]? = some r →
      ∃ old, c.requests[id]? = some old ∧ r.kind = old.kind ∧ r.epoch = old.epoch := by
    intro id r found
    obtain ⟨old, held, kind, epoch, -⟩ := abortProbe_found found
    exact ⟨old, held, kind, epoch⟩
  refine ⟨?_, ?_, ?_, ?_, kept ▸ seated.opened, ?_⟩
  · intro id r found
    obtain ⟨old, held, -, epoch⟩ := before found
    have earlier := seated.requests id old held
    omega
  · intro epoch listed
    have earlier := seated.sockets epoch (kept ▸ listed)
    omega
  · intro id r client found kind
    obtain ⟨old, held, same, epoch⟩ := before found
    rw [kept, epoch]
    exact seated.classify id old client held (same ▸ kind)
  · intro id r found _ current
    obtain ⟨old, held, -, epoch⟩ := before found
    have earlier := seated.requests id old held
    omega
  · rintro client ⟨ws, -⟩
    cases ws

theorem Seated.connect (seated : Seated c live) : Seated c.connect live := by
  have now : c.connect.epoch = c.epoch + 1 := by simp [Controller.connect, clearRetry]
  have kept : c.connect.sockets = c.sockets := by simp [Controller.connect, clearRetry]
  have later : c.connect.epoch ∉ c.connect.sockets := by
    intro listed
    have earlier := seated.sockets _ (kept ▸ listed)
    omega
  have before : ∀ {id : Nat} {r : Request}, c.connect.requests[id]? = some r →
      (∃ old, c.requests[id]? = some old ∧ r.kind = old.kind ∧ r.epoch = old.epoch) ∨
        c.connect.probeAbort = some id ∧ r = ⟨.probe, c.connect.epoch, false, .pending⟩ := by
    intro id r found
    rcases getElem?_concat found with older | ⟨rfl, rfl⟩
    · obtain ⟨old, held, kind, epoch, -⟩ := abortProbe_found older
      exact .inl ⟨old, held, kind, epoch⟩
    · exact .inr ⟨rfl, rfl⟩
  refine ⟨?_, ?_, ?_, ?_, kept ▸ seated.opened, ?_⟩
  · intro id r found
    rcases before found with ⟨old, held, -, epoch⟩ | ⟨-, rfl⟩
    · have earlier := seated.requests id old held
      omega
    · exact Nat.le_refl _
  · intro epoch listed
    have earlier := seated.sockets epoch (kept ▸ listed)
    omega
  · intro id r client found kind
    rcases before found with ⟨old, held, same, epoch⟩ | ⟨-, rfl⟩
    · rw [kept, epoch]
      exact seated.classify id old client held (same ▸ kind)
    · cases kind
  · intro id r found _ current _
    rcases before found with ⟨old, held, -, epoch⟩ | ⟨own, -⟩
    · have earlier := seated.requests id old held
      omega
    · exact ⟨own, later⟩
  · rintro client ⟨-, socket⟩
    exact absurd (List.mem_of_getElem? socket) later

theorem Seated.reconnect (seated : Seated c live) : Seated c.reconnect live := by
  have renewed : Seated { c with pendingIdentityBump := true } live :=
    ⟨seated.requests, seated.sockets, seated.classify, seated.probe, seated.opened, seated.up⟩
  exact renewed.teardown.connect

/-- A teardown, whatever is shown after it. -/
theorem Seated.closed (seated : Seated c live) (f : ConnectionSnapshot → ConnectionSnapshot) :
    Seated (c.teardown.setSnap f) live := by
  obtain ⟨requests, sockets, classify, probe, opened, -⟩ := seated.teardown
  refine ⟨requests, sockets, classify, probe, opened, ?_⟩
  rintro client ⟨ws, -⟩
  cases ws

theorem Seated.toDown (seated : Seated c live) (message : String) :
    Seated (c.toDown message) live := by
  obtain ⟨requests, sockets, classify, probe, opened, up⟩ :=
    seated.closed fun snap => { snap with state := .down, error := some message }
  exact ⟨requests, sockets, classify, probe, opened, up⟩

theorem Seated.authLost (seated : Seated c live) : Seated c.authLost live := by
  unfold Controller.authLost
  split
  · exact seated
  · exact seated.closed _

theorem Seated.setPhase (seated : Seated c live) {id : Nat} {r : Request} {phase : Phase}
    (held : c.requests[id]? = some r) (unfinished : r.phase ≠ .finished) :
    Seated (c.setPhase id phase) live := by
  refine ⟨?_, seated.sockets, ?_, ?_, seated.opened, seated.up⟩
  · intro other r' found
    obtain ⟨before, held', -, epoch, -⟩ := setPhase_found found
    rw [epoch]
    exact seated.requests other before held'
  · intro other r' client found kind
    obtain ⟨before, held', same, epoch, -⟩ := setPhase_found found
    rw [epoch]
    exact seated.classify other before client held' (same ▸ kind)
  · intro other r' found kind current later
    obtain ⟨before, held', sameKind, epoch, same⟩ := setPhase_found found
    apply seated.probe other before held' (sameKind ▸ kind) (epoch ▸ current)
    by_cases own : id = other
    · subst own
      rw [held] at held'
      obtain rfl := Option.some.inj held'
      exact unfinished
    · rw [if_neg own] at same
      rwa [same] at later

/-- A request that is no probe, issued under this epoch. -/
theorem Seated.push (seated : Seated c live) {kind : RequestKind} (other : kind ≠ .probe)
    (own : ∀ client, kind = .classify client → c.sockets[client]? = some c.epoch)
    (classifying : Bool) :
    Seated { c with
      requests := c.requests ++ [⟨kind, c.epoch, false, .pending⟩]
      classifying } live := by
  refine ⟨?_, seated.sockets, ?_, ?_, seated.opened, seated.up⟩
  · intro id r found
    rcases getElem?_concat found with old | ⟨-, rfl⟩
    · exact seated.requests id r old
    · exact Nat.le_refl c.epoch
  · intro id r client found same
    rcases getElem?_concat found with old | ⟨-, rfl⟩
    · exact seated.classify id r client old same
    · exact own client same
  · intro id r found probe
    rcases getElem?_concat found with old | ⟨-, rfl⟩
    · exact seated.probe id r old probe
    · exact absurd probe other

/-- The probe of this epoch ends and opens its first socket. -/
theorem Seated.probed (seated : Seated c live) {id : Nat} {r : Request} {response : Response}
    (held : c.requests[id]? = some r) (probe : r.kind = .probe) (phase : r.phase = .settled response) :
    Seated ((c.setPhase id .finished).probed r.epoch response) live := by
  have unfinished : r.phase ≠ .finished := by simp [phase]
  have after : Seated (c.setPhase id .finished) live := seated.setPhase held unfinished
  unfold Controller.probed
  split
  case isTrue => exact after
  case isFalse current =>
    have current : r.epoch = c.epoch := not_not.mp current
    obtain ⟨own, unopened⟩ := seated.probe id r held probe current unfinished
    cases response with
    | unauthorized =>
      refine ⟨after.requests, after.sockets, after.classify, after.probe, after.opened, ?_⟩
      rintro client ⟨-, socket⟩
      exact absurd (List.mem_of_getElem? socket) unopened
    | failed message => exact after.toDown message
    | ok =>
      refine ⟨after.requests, ?_, ?_, ?_, ?_, ?_⟩
      · intro epoch listed
        rcases List.mem_append.mp listed with before | new
        · exact seated.sockets epoch before
        · exact Nat.le_of_eq ((List.mem_singleton.mp new).trans current)
      · intro other r' client found kind
        have before := after.classify other r' client found kind
        have opened : client < c.sockets.length := (List.getElem?_eq_some_iff.mp before).1
        change (c.sockets ++ [r.epoch])[client]? = _
        rwa [List.getElem?_append_left opened]
      · -- the only probe of this epoch is the one that ended
        intro other r' found kind now later
        have again := (after.probe other r' found kind now later).1
        obtain ⟨_, -, -, -, same⟩ := setPhase_found found
        have mine : id = other := Option.some.inj (own.symm.trans again)
        rw [if_pos mine] at same
        exact absurd same later
      · intro client isLive
        change client < (c.sockets ++ [r.epoch]).length
        rw [List.length_append]
        exact Nat.lt_add_right _ (seated.opened client isLive)
      · rintro client ⟨ws, -⟩ isLive
        obtain rfl := Option.some.inj ws
        exact absurd (seated.opened _ isLive) (Nat.lt_irrefl _)

/-- A classification that finds the socket live ends well, or it takes the socket down. -/
theorem Seated.classified (seated : Seated c live) {id : Nat} {r : Request} {client : Client}
    {response : Response} (held : c.requests[id]? = some r) (phase : r.phase = .settled response) :
    Seated ((c.setPhase id .finished).classified r.epoch client response) live := by
  have after : Seated (c.setPhase id .finished) live := seated.setPhase held (by simp [phase])
  have idle : ∀ {e : Controller}, Seated e live → Seated { e with classifying := false } live :=
    fun seated => ⟨seated.requests, seated.sockets, seated.classify, seated.probe, seated.opened,
      seated.up⟩
  unfold Controller.classified
  apply idle
  split
  case isTrue => exact after
  case isFalse =>
    cases response with
    | unauthorized => exact after.closed _
    | failed message => exact after.toDown message
    | ok =>
      change Seated (if (c.setPhase id .finished).snap.state = .up then _ else _) live
      split
      case isTrue => exact after
      case isFalse elsewhere =>
        -- the socket is of this epoch, so it is not live
        have silent : ∀ other, Current c other → live other = true → False := by
          intro other seat isLive
          exact elsewhere (seated.up other seat isLive)
        split
        · exact ⟨after.requests, after.sockets, after.classify, after.probe, after.opened,
            fun other seat isLive => (silent other seat isLive).elim⟩
        · exact ⟨after.requests, after.sockets, after.classify, after.probe, after.opened,
            fun other seat isLive => (silent other seat isLive).elim⟩

theorem Seated.onConnected (seated : Seated c live) {client : Client} {epoch : Nat}
    (opened : c.sockets[client]? = some epoch) :
    Seated (c.onConnected epoch client) (Watched.observe live (.wsConnected client)) := by
  have among : client < c.sockets.length := (List.getElem?_eq_some_iff.mp opened).1
  have still : ∀ other, Watched.observe live (.wsConnected client) other = true →
      other < c.sockets.length := by
    intro other isLive
    by_cases same : other = client
    · exact same ▸ among
    · exact seated.opened other (by simpa [Watched.observe, same] using isLive)
  unfold Controller.onConnected
  split
  case isTrue foreign =>
    refine ⟨seated.requests, seated.sockets, seated.classify, seated.probe, still, ?_⟩
    rintro other ⟨ws, socket⟩ isLive
    by_cases same : other = client
    · subst same
      have now : epoch = c.epoch := Option.some.inj (opened.symm.trans socket)
      rcases foreign with older | elsewhere
      · exact absurd now older
      · exact absurd ws elsewhere
    · exact seated.up other ⟨ws, socket⟩ (by simpa [Watched.observe, same] using isLive)
  case isFalse =>
    exact ⟨seated.requests, seated.sockets, seated.classify, seated.probe, still, fun _ _ _ => rfl⟩

theorem Seated.onClosed (seated : Seated c live) {client : Client} {epoch : Nat}
    (opened : c.sockets[client]? = some epoch) :
    Seated (c.onClosed epoch client) (Watched.observe live (.wsClosed client)) := by
  have fewer : ∀ other, Watched.observe live (.wsClosed client) other = true →
      other ≠ client ∧ live other = true := by
    intro other isLive
    by_cases same : other = client
    · simp [Watched.observe, same] at isLive
    · exact ⟨same, by simpa [Watched.observe, same] using isLive⟩
  have silent : Seated c (Watched.observe live (.wsClosed client)) :=
    ⟨seated.requests, seated.sockets, seated.classify, seated.probe,
      fun other isLive => seated.opened other (fewer other isLive).2,
      fun other seat isLive => seated.up other seat (fewer other isLive).2⟩
  unfold Controller.onClosed
  split
  case isTrue => exact silent
  case isFalse current =>
    obtain ⟨rfl, ws⟩ : epoch = c.epoch ∧ c.ws = some client := by
      simpa [not_or] using current
    split
    case isTrue => exact silent
    case isFalse =>
      split
      case isTrue =>
        refine ⟨silent.requests, silent.sockets, silent.classify, silent.probe, silent.opened, ?_⟩
        rintro other ⟨same, -⟩ isLive
        obtain rfl := Option.some.inj (ws.symm.trans same)
        exact absurd rfl (fewer _ isLive).1
      case isFalse =>
        split
        · exact silent
        · apply silent.push (by simp)
          intro other same
          obtain rfl := RequestKind.classify.inj same
          exact opened

theorem Seated.step (seated : Seated c live) {a : Action} (stepped : c.step a = some d) :
    Seated d (Watched.observe live a) := by
  cases a with
  | start =>
    obtain rfl := Option.some.inj stepped
    split
    · exact seated
    · have started : Seated { c with started := true } live :=
        ⟨seated.requests, seated.sockets, seated.classify, seated.probe, seated.opened, seated.up⟩
      exact started.connect
  | reconnect =>
    obtain rfl := Option.some.inj stepped
    exact seated.reconnect
  | logout =>
    obtain rfl := Option.some.inj stepped
    exact seated.closed _
  | authLost =>
    obtain rfl := Option.some.inj stepped
    exact seated.authLost
  | storage watched =>
    obtain rfl := Option.some.inj stepped
    split
    · exact seated.reconnect
    · exact seated
  | retry =>
    obtain ⟨-, same⟩ := Option.ite_none_right_eq_some.mp stepped
    obtain rfl := Option.some.inj same
    exact seated.connect
  | wsConnected client =>
    obtain ⟨epoch, opened, rfl⟩ := Option.map_eq_some_iff.mp stepped
    exact seated.onConnected opened
  | wsClosed client =>
    obtain ⟨epoch, opened, rfl⟩ := Option.map_eq_some_iff.mp stepped
    exact seated.onClosed opened
  | request =>
    obtain rfl := Option.some.inj stepped
    exact seated.push (by simp) (by simp) c.classifying
  | respond id response =>
    obtain ⟨r, held, allowed⟩ := Option.bind_eq_some_iff.mp stepped
    obtain ⟨⟨pending, -⟩, same⟩ := Option.ite_none_right_eq_some.mp allowed
    obtain rfl := Option.some.inj same
    have settled : Seated (c.setPhase id (.settled response)) live :=
      seated.setPhase held (by simp [pending])
    unfold Controller.respond
    split
    · exact settled.authLost
    · exact settled
  | resume id =>
    obtain ⟨r, held, resumed⟩ := Option.bind_eq_some_iff.mp stepped
    cases phase : r.phase with
    | settled response =>
      obtain rfl : c.resume id r response = d := by simpa [phase] using resumed
      unfold Controller.resume
      cases kind : r.kind with
      | probe => exact seated.probed held kind phase
      | classify client => exact seated.classified held phase
      | other => exact seated.setPhase held (by simp [phase])
    | _ => simp [phase] at resumed
  | setToken token =>
    obtain rfl := Option.some.inj stepped
    exact ⟨seated.requests, seated.sockets, seated.classify, seated.probe, seated.opened, seated.up⟩
  | setSessionError message =>
    obtain rfl := Option.some.inj stepped
    exact ⟨seated.requests, seated.sockets, seated.classify, seated.probe, seated.opened, seated.up⟩

end Controller

namespace Watched

variable {w v : Watched}

theorem seated_run (run : Run step (fun _ _ => True) init w) : w.controller.Seated w.live := by
  refine Run.invariant (I := fun w => w.controller.Seated w.live) ?_ ?_ run
  · refine ⟨?_, ?_, ?_, ?_, ?_, ?_⟩
    all_goals simp [init, Controller.init, Controller.Current]
  · intro w a v _ seated _ stepped
    obtain ⟨c, moved, rfl⟩ := Option.map_eq_some_iff.mp stepped
    exact seated.step moved

/-- A classification of a live socket ends otherwise than with a 401: the state, the generation and the
socket stay if it succeeded or the socket is not the controller's any more, and else they do not. -/
theorem late_probe_spares (run : Run step (fun _ _ => True) init w) {id : Nat} {r : Request}
    {client : Client} {response : Response} (held : w.controller.requests[id]? = some r)
    (kind : r.kind = .classify client) (phase : r.phase = .settled response)
    (authorized : response ≠ .unauthorized) (isLive : w.live client = true) :
    (w.controller.Current client → w.controller.snap.state = .up) ∧
    ∃ v, w.step (.resume id) = some v ∧
      ((v.controller.snap.state = w.controller.snap.state ∧
        v.controller.snap.generation = w.controller.snap.generation ∧
        v.controller.ws = w.controller.ws) ↔
        response = .ok ∨ ¬w.controller.Current client) := by
  have seated := seated_run run
  have socket := seated.classify id r client held kind
  have up := fun current => seated.up client current isLive
  refine ⟨up, _, by simp [step, Controller.step, held, phase]; rfl, ?_⟩
  simp only [Controller.resume, kind, Controller.classified]
  split
  case isTrue stale =>
    have foreign : ¬w.controller.Current client := by
      rintro ⟨ws, same⟩
      rcases stale with older | elsewhere
      · exact older (Option.some.inj (socket.symm.trans same))
      · exact elsewhere ws
    exact ⟨fun _ => .inr foreign, fun _ => ⟨rfl, rfl, rfl⟩⟩
  case isFalse seat =>
    have current : w.controller.Current client := by
      rw [not_or, not_not, not_not] at seat
      exact ⟨seat.2, socket.trans (congrArg some seat.1)⟩
    cases response with
    | ok =>
      have same : (w.controller.setPhase id .finished).snap.state = .up := up current
      simp only [if_pos same]
      exact ⟨fun _ => .inl trivial, fun _ => ⟨rfl, rfl, rfl⟩⟩
    | unauthorized => exact absurd rfl authorized
    | failed message =>
      constructor
      · rintro ⟨-, -, ws⟩
        cases ws.trans current.1
      · rintro (success | foreign)
        · cases success
        · exact absurd current foreign

/-- A socket closes before its ack, reconnects and is acked while the classification is under way. -/
def ackedMeanwhile (response : Response) : List Action :=
  [.start, .respond 0 .ok, .resume 0, .wsClosed 0, .wsConnected 0, .respond 1 response]

theorem late_probe_spares_succeeded : ∃ w v : Watched, w.live 0 = true ∧ w.step (.resume 1) = some v ∧
    v.controller.snap.state = .up ∧ v.controller.snap.generation = 1 ∧
    v.controller.ws = some 0 := by
  have replayed : (exec step (fun _ _ => true) init (ackedMeanwhile .ok)).map (fun w =>
      decide (w.controller.requests[1]? = some ⟨.classify 0, 1, false, .settled .ok⟩ ∧
        w.live 0 = true ∧ w.controller.Current 0 ∧ w.controller.snap.generation = 1)) =
          some true := by
    decide +kernel
  obtain ⟨w, run, reached⟩ := exists_run_of_exec replayed
  obtain ⟨held, isLive, current, generation⟩ := of_decide_eq_true reached
  obtain ⟨up, v, stepped, spares⟩ :=
    late_probe_spares (run.mono (by simp)) held rfl rfl (by simp) isLive
  obtain ⟨state, same, ws⟩ := spares.mpr (.inl rfl)
  exact ⟨w, v, isLive, stepped, state.trans (up current), same.trans generation,
    ws.trans current.1⟩

/-- The classification times out, and the acked socket is taken down. -/
theorem late_probe_takes_down : ¬ ∀ (w v : Watched) (id : Nat) (r : Request) (client : Client)
    (response : Response), Run step (fun _ _ => True) init w →
    w.controller.requests[id]? = some r → r.kind = .classify client →
    r.phase = .settled response → response ≠ .unauthorized → w.live client = true →
    w.controller.ws = some client → w.step (.resume id) = some v →
    v.controller.snap.state = .up ∧
      v.controller.snap.generation = w.controller.snap.generation ∧
      v.controller.ws = w.controller.ws := by
  intro claimed
  have replayed : (exec step (fun _ _ => true) init (ackedMeanwhile (.failed "timeout"))).map
      (fun w => decide (w.controller.requests[1]? =
          some ⟨.classify 0, 1, false, .settled (.failed "timeout")⟩ ∧
        w.live 0 = true ∧ w.controller.ws = some 0 ∧
        (w.step (.resume 1)).map (fun v => v.controller.snap.state) = some .down)) =
          some true := by
    decide +kernel
  obtain ⟨w, run, reached⟩ := exists_run_of_exec replayed
  obtain ⟨held, isLive, ws, after⟩ := of_decide_eq_true reached
  obtain ⟨v, stepped, down⟩ := Option.map_eq_some_iff.mp after
  have up := (claimed w v 1 _ 0 _ (run.mono (by simp)) held rfl rfl (by simp) isLive ws stepped).1
  rw [down] at up
  cases up

end Watched

end Rsbtd.WebUi
