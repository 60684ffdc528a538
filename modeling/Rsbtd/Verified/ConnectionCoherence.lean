import Rsbtd.Verified.EpochIsolation

/-!
# Coherence of the connection controller

`Watched` runs the controller next to what an observer of its sockets and calls
sees: which sockets were acked and not closed since, and whether a `reconnect` was
followed by neither an ack of the current socket nor a degraded classification.
The connection state, the socket, the retry timer and the generation agree with
what is seen, provided `start` finds no socket: it connects without the teardown
that `reconnect` begins with.
-/

namespace Rsbtd.WebUi

open Transition (Run exec exists_run_of_exec)

namespace Controller

/-- An ack of the current socket. -/
def acks (c : Controller) : Action → Bool
  | .wsConnected client => c.ws = some client
  | _ => false

/-- A classification of the current socket finds HTTP usable while the socket is not up. -/
def degrades (c : Controller) : Action → Bool
  | .resume id =>
    match c.requests[id]? with
    | some ⟨.classify client, _, _, .settled .ok⟩ => c.ws = some client ∧ c.snap.state ≠ .up
    | _ => false
  | _ => false

def reconnects (c : Controller) : Action → Bool
  | .reconnect => true
  | .storage watched => c.started && watched
  | _ => false

end Controller

structure Watched where
  controller : Controller
  /-- The sockets that were acked and have not closed since. -/
  live : Client → Bool
  /-- A `reconnect` was called, and no socket acked or degraded since. -/
  renewed : Bool

namespace Watched

def init : Watched := ⟨.init, fun _ => false, false⟩

def observe (live : Client → Bool) : Action → Client → Bool
  | .wsConnected client, other => if other = client then true else live other
  | .wsClosed client, other => if other = client then false else live other
  | _, other => live other

def step (w : Watched) (a : Action) : Option Watched :=
  (w.controller.step a).map fun c => {
    controller := c
    live := observe w.live a
    renewed := if w.controller.reconnects a then true
      else if w.controller.acks a || w.controller.degrades a then false
      else w.renewed }

/-- The steps that begin a new generation. -/
def advances (w : Watched) (a : Action) : Bool :=
  w.controller.acks a || (w.controller.degrades a && w.renewed)

/-- `start` is called with no socket open. -/
def Orderly (w : Watched) (a : Action) : Prop :=
  a = .start → w.controller.started = true ∨ w.controller.ws = none

structure Coherent (w : Watched) : Prop where
  up_iff : w.controller.snap.state = .up ↔
    ∃ client, w.controller.ws = some client ∧ w.live client = true
  undisposed : ∀ first second, first < w.controller.sockets.length →
    second < w.controller.sockets.length → first ∉ w.controller.disposed →
    second ∉ w.controller.disposed → first = second
  timer_iff : w.controller.snap.state = .down ↔ w.controller.retryTimer = true
  down : w.controller.snap.state = .down → w.controller.ws = none
  authRequired : w.controller.snap.state = .authRequired →
    w.controller.ws = none ∧ w.controller.retryTimer = false

end Watched

namespace Controller

variable {c d : Controller} {live : Client → Bool}

/-! ## What the operations leave alone -/

section Frame

@[simp] theorem abortProbe_snap (c : Controller) : c.abortProbe.snap = c.snap := by
  unfold abortProbe
  split <;> rfl

@[simp] theorem abortProbe_ws (c : Controller) : c.abortProbe.ws = c.ws := by
  unfold abortProbe
  split <;> rfl

@[simp] theorem abortProbe_acked (c : Controller) : c.abortProbe.acked = c.acked := by
  unfold abortProbe
  split <;> rfl

@[simp] theorem abortProbe_epoch (c : Controller) : c.abortProbe.epoch = c.epoch := by
  unfold abortProbe
  split <;> rfl

@[simp] theorem abortProbe_retryTimer (c : Controller) :
    c.abortProbe.retryTimer = c.retryTimer := by
  unfold abortProbe
  split <;> rfl

@[simp] theorem abortProbe_sockets (c : Controller) : c.abortProbe.sockets = c.sockets := by
  unfold abortProbe
  split <;> rfl

@[simp] theorem abortProbe_disposed (c : Controller) : c.abortProbe.disposed = c.disposed := by
  unfold abortProbe
  split <;> rfl

@[simp] theorem abortProbe_pending (c : Controller) :
    c.abortProbe.pendingIdentityBump = c.pendingIdentityBump := by
  unfold abortProbe
  split <;> rfl

/-- Aborting a probe changes no request but for the abort. -/
theorem abortProbe_found {id : Nat} {r : Request} (found : c.abortProbe.requests[id]? = some r) :
    ∃ before, c.requests[id]? = some before ∧ r.kind = before.kind ∧ r.epoch = before.epoch ∧
      r.phase = before.phase := by
  unfold abortProbe at found
  cases current : c.probeAbort with
  | none =>
    rw [current] at found
    exact ⟨r, found, rfl, rfl, rfl⟩
  | some own =>
    rw [current] at found
    by_cases mine : own = id
    · subst mine
      obtain ⟨old, held, rfl⟩ : ∃ old, c.requests[own]? = some old ∧
          { old with aborted := true } = r := by
        simpa using found
      exact ⟨old, held, rfl, rfl, rfl⟩
    · exact ⟨r, by simpa [mine] using found, rfl, rfl, rfl⟩

theorem setPhase_found {id other : Nat} {phase : Phase} {r : Request}
    (found : (c.setPhase id phase).requests[other]? = some r) :
    ∃ before, c.requests[other]? = some before ∧ r.kind = before.kind ∧ r.epoch = before.epoch ∧
      r.phase = if id = other then phase else before.phase := by
  by_cases same : id = other
  · subst same
    obtain ⟨old, held, rfl⟩ : ∃ old, c.requests[id]? = some old ∧ { old with phase } = r := by
      simpa [setPhase] using found
    exact ⟨old, held, rfl, rfl, by simp⟩
  · exact ⟨r, by simpa [setPhase, same] using found, rfl, rfl, by simp [same]⟩

end Frame

/-! ## The invariant -/

/-- No request was issued under a later epoch, a classification under the epoch of its socket; a
`connect` of this epoch whose probe is under way has neither socket nor timer. -/
structure Issued (c : Controller) : Prop where
  epoch : ∀ (id : Nat) (r : Request), c.requests[id]? = some r → r.epoch ≤ c.epoch
  classify : ∀ (id : Nat) (r : Request) (client : Client), c.requests[id]? = some r →
    r.kind = .classify client → c.sockets[client]? = some r.epoch
  probe : ∀ (id : Nat) (r : Request), c.requests[id]? = some r → r.kind = .probe →
    r.epoch = c.epoch → r.phase ≠ .finished →
    c.probeAbort = some id ∧ c.ws = none ∧ c.retryTimer = false

/-- The current socket belongs to this epoch, `acked` says whether it is live, and every other socket
was disposed. -/
structure Sockets (c : Controller) (live : Client → Bool) : Prop where
  current : ∀ client, c.ws = some client → c.sockets[client]? = some c.epoch
  acked : c.acked = true ↔ ∃ client, c.ws = some client ∧ live client = true
  undisposed : ∀ client < c.sockets.length, client ∉ c.disposed → c.ws = some client
  opened : ∀ client, live client = true → client < c.sockets.length

/-- The connection state says what the socket and the timer are. -/
structure Shown (c : Controller) : Prop where
  up : c.snap.state = .up ↔ c.acked = true
  timer : c.snap.state = .down ↔ c.retryTimer = true
  offline : c.snap.state = .down ∨ c.snap.state = .authRequired → c.ws = none

structure Sound (c : Controller) (live : Client → Bool) : Prop where
  issued : Issued c
  sockets : Sockets c live
  shown : Shown c

/-- Without a socket, without a timer, and with no probe of this epoch under way. -/
structure Idle (c : Controller) : Prop where
  ws : c.ws = none
  acked : c.acked = false
  retryTimer : c.retryTimer = false

theorem Idle.shown (idle : Idle c) (up : c.snap.state ≠ .up) (down : c.snap.state ≠ .down) :
    Shown c where
  up := by simp [up, idle.acked]
  timer := by simp [down, idle.retryTimer]
  offline _ := idle.ws

theorem teardown_idle (c : Controller) : Idle c.teardown :=
  ⟨rfl, rfl, by simp [teardown, clearRetry]⟩

theorem Issued.teardown (issued : Issued c) : Issued c.teardown where
  epoch id r found := by
    obtain ⟨before, held, -, epoch, -⟩ := abortProbe_found found
    have earlier : before.epoch ≤ c.epoch := issued.epoch id before held
    have now : c.teardown.epoch = c.epoch + 1 := by simp [Controller.teardown, clearRetry]
    omega
  classify id r client found kind := by
    obtain ⟨before, held, sameKind, epoch, -⟩ := abortProbe_found found
    rw [epoch]
    have kept : c.teardown.sockets = c.sockets := by simp [Controller.teardown, clearRetry]
    rw [kept]
    exact issued.classify id before client held (sameKind ▸ kind)
  probe id r found _ current := by
    -- every request is of an earlier epoch now
    obtain ⟨before, held, -, epoch, -⟩ := abortProbe_found found
    have earlier : before.epoch ≤ c.epoch := issued.epoch id before held
    have now : c.teardown.epoch = c.epoch + 1 := by simp [Controller.teardown, clearRetry]
    omega

theorem Sockets.teardown (sockets : Sockets c live) : Sockets c.teardown live where
  current client held := by cases held
  acked := by simp [Controller.teardown]
  undisposed client opened disposed := by
    have opened : client < c.sockets.length := by simpa [Controller.teardown, clearRetry] using opened
    have parts : client ∉ c.disposed ∧ c.ws ≠ some client := by
      simpa [Controller.teardown, clearRetry] using disposed
    exact absurd (sockets.undisposed client opened parts.1) parts.2
  opened client isLive := by
    have kept : c.teardown.sockets = c.sockets := by simp [Controller.teardown, clearRetry]
    rw [kept]
    exact sockets.opened client isLive

theorem Issued.setSnap (issued : Issued c) (f : ConnectionSnapshot → ConnectionSnapshot) :
    Issued (c.setSnap f) :=
  ⟨issued.epoch, issued.classify, issued.probe⟩

theorem Sockets.setSnap (sockets : Sockets c live)
    (f : ConnectionSnapshot → ConnectionSnapshot) : Sockets (c.setSnap f) live :=
  ⟨sockets.current, sockets.acked, sockets.undisposed, sockets.opened⟩

/-- A teardown that shows a state without a socket or a timer. -/
theorem Sound.closed (sound : Sound c live) {f : ConnectionSnapshot → ConnectionSnapshot}
    (up : (f c.snap).state ≠ .up) (down : (f c.snap).state ≠ .down) :
    Sound (c.teardown.setSnap f) live where
  issued := sound.issued.teardown.setSnap f
  sockets := sound.sockets.teardown.setSnap f
  shown := by
    have kept : c.teardown.snap = c.snap := by simp [Controller.teardown, clearRetry]
    obtain ⟨ws, acked, retryTimer⟩ := teardown_idle c
    have idle : Idle (c.teardown.setSnap f) := ⟨ws, acked, retryTimer⟩
    apply idle.shown
    · simpa [Controller.setSnap, kept] using up
    · simpa [Controller.setSnap, kept] using down

theorem Sound.toDown (sound : Sound c live) (message : String) :
    Sound (c.toDown message) live where
  issued := by
    have torn := sound.issued.teardown
    refine ⟨torn.epoch, torn.classify, ?_⟩
    intro id r found _ current
    obtain ⟨before, held, -, epoch, -⟩ := abortProbe_found found
    have earlier : before.epoch ≤ c.epoch := sound.issued.epoch id before held
    have now : (c.toDown message).epoch = c.epoch + 1 := by
      simp [Controller.toDown, Controller.setSnap, Controller.teardown, clearRetry]
    omega
  sockets :=
    let torn := sound.sockets.teardown
    ⟨torn.current, torn.acked, torn.undisposed, torn.opened⟩
  shown := {
    up := by simp [Controller.toDown, Controller.setSnap, Controller.teardown]
    timer := by simp [Controller.toDown, Controller.setSnap]
    offline := fun _ => rfl }

/-- `connect`, called without a socket. -/
theorem Sound.connect (issued : Issued c) (sockets : Sockets c live) (socketless : c.ws = none) :
    Sound c.connect live where
  issued := {
    epoch := by
      intro id r found
      have now : c.connect.epoch = c.epoch + 1 := by simp [Controller.connect, clearRetry]
      rcases getElem?_concat found with old | ⟨-, rfl⟩
      · obtain ⟨before, held, -, epoch, -⟩ := abortProbe_found old
        have earlier : before.epoch ≤ c.epoch := issued.epoch id before held
        omega
      · simp [Controller.connect]
    classify := by
      intro id r client found kind
      have kept : c.connect.sockets = c.sockets := by simp [Controller.connect, clearRetry]
      rcases getElem?_concat found with old | ⟨-, rfl⟩
      · obtain ⟨before, held, sameKind, epoch, -⟩ := abortProbe_found old
        rw [epoch, kept]
        exact issued.classify id before client held (sameKind ▸ kind)
      · cases kind
    probe := by
      intro id r found kind current unfinished
      have now : c.connect.epoch = c.epoch + 1 := by simp [Controller.connect, clearRetry]
      rcases getElem?_concat found with old | ⟨rfl, -⟩
      · obtain ⟨before, held, -, epoch, -⟩ := abortProbe_found old
        have earlier : before.epoch ≤ c.epoch := issued.epoch id before held
        omega
      · refine ⟨rfl, ?_, ?_⟩
        · simpa [Controller.connect, clearRetry] using socketless
        · simp [Controller.connect, clearRetry] }
  sockets := by
    have ws : c.connect.ws = c.ws := by simp [Controller.connect, clearRetry]
    have acked : c.connect.acked = c.acked := by simp [Controller.connect, clearRetry]
    have opened : c.connect.sockets = c.sockets := by simp [Controller.connect, clearRetry]
    have disposed : c.connect.disposed = c.disposed := by simp [Controller.connect, clearRetry]
    constructor
    · intro client held
      rw [ws, socketless] at held
      cases held
    · rw [ws, acked]
      exact sockets.acked
    · rw [ws, opened, disposed]
      exact sockets.undisposed
    · rw [opened]
      exact sockets.opened
  shown := by
    have quiet : c.acked = false := by
      rw [Bool.eq_false_iff, ne_eq, sockets.acked]
      simp [socketless]
    have idle : Idle c.connect := by
      refine ⟨?_, ?_, ?_⟩
      · simpa [Controller.connect, clearRetry] using socketless
      · simpa [Controller.connect, clearRetry] using quiet
      · simp [Controller.connect, clearRetry]
    apply idle.shown
    · simp [Controller.connect]
    · simp [Controller.connect]

theorem Sound.reconnect (sound : Sound c live) : Sound c.reconnect live := by
  have renewed : Sound { c with pendingIdentityBump := true } live :=
    ⟨⟨sound.issued.epoch, sound.issued.classify, sound.issued.probe⟩,
      ⟨sound.sockets.current, sound.sockets.acked, sound.sockets.undisposed, sound.sockets.opened⟩,
      ⟨sound.shown.up, sound.shown.timer, sound.shown.offline⟩⟩
  exact .connect renewed.issued.teardown renewed.sockets.teardown rfl

theorem Sound.authLost (sound : Sound c live) : Sound c.authLost live := by
  unfold Controller.authLost
  split
  · exact sound
  · exact sound.closed (by simp) (by simp)

theorem Issued.setPhase (issued : Issued c) {id : Nat} {r : Request} {phase : Phase}
    (held : c.requests[id]? = some r) (unfinished : r.phase ≠ .finished) :
    Issued (c.setPhase id phase) where
  epoch other r' found := by
    obtain ⟨before, held', -, epoch, -⟩ := setPhase_found found
    rw [epoch]
    exact issued.epoch other before held'
  classify other r' client found kind := by
    obtain ⟨before, held', sameKind, epoch, -⟩ := setPhase_found found
    rw [epoch]
    exact issued.classify other before client held' (sameKind ▸ kind)
  probe other r' found kind current later := by
    obtain ⟨before, held', sameKind, epoch, same⟩ := setPhase_found found
    apply issued.probe other before held' (sameKind ▸ kind) (epoch ▸ current)
    by_cases own : id = other
    · subst own
      rw [held] at held'
      obtain rfl := Option.some.inj held'
      exact unfinished
    · rw [if_neg own] at same
      rwa [same] at later

/-- Settling or finishing a request shows nothing. -/
theorem Sound.setPhase (sound : Sound c live) {id : Nat} {r : Request} {phase : Phase}
    (held : c.requests[id]? = some r) (unfinished : r.phase ≠ .finished) :
    Sound (c.setPhase id phase) live :=
  ⟨sound.issued.setPhase held unfinished,
    ⟨sound.sockets.current, sound.sockets.acked, sound.sockets.undisposed, sound.sockets.opened⟩,
    ⟨sound.shown.up, sound.shown.timer, sound.shown.offline⟩⟩

/-- A request that is no probe, issued under this epoch. -/
theorem Sound.push (sound : Sound c live) {kind : RequestKind} (other : kind ≠ .probe)
    (own : ∀ client, kind = .classify client → c.sockets[client]? = some c.epoch)
    (classifying : Bool) :
    Sound { c with
      requests := c.requests ++ [⟨kind, c.epoch, false, .pending⟩]
      classifying } live where
  issued := {
    epoch := by
      intro id r found
      rcases getElem?_concat found with old | ⟨-, rfl⟩
      · exact sound.issued.epoch id r old
      · exact Nat.le_refl c.epoch
    classify := by
      intro id r client found sameKind
      rcases getElem?_concat found with old | ⟨-, rfl⟩
      · exact sound.issued.classify id r client old sameKind
      · exact own client sameKind
    probe := by
      intro id r found probe
      rcases getElem?_concat found with old | ⟨-, rfl⟩
      · exact sound.issued.probe id r old probe
      · exact absurd probe other }
  sockets :=
    ⟨sound.sockets.current, sound.sockets.acked, sound.sockets.undisposed, sound.sockets.opened⟩
  shown := ⟨sound.shown.up, sound.shown.timer, sound.shown.offline⟩

/-! ## The steps -/

/-- The probe of this epoch ends: it had neither socket nor timer, and no other is under way. -/
theorem Sound.probed (sound : Sound c live) {id : Nat} {r : Request} {response : Response}
    (held : c.requests[id]? = some r) (probe : r.kind = .probe) (phase : r.phase = .settled response) :
    Sound ((c.setPhase id .finished).probed r.epoch response) live := by
  have unfinished : r.phase ≠ .finished := by simp [phase]
  have after : Sound (c.setPhase id .finished) live := sound.setPhase held unfinished
  unfold Controller.probed
  split
  case isTrue => exact after
  case isFalse current =>
    have current : r.epoch = c.epoch := not_not.mp current
    obtain ⟨own, ws, retryTimer⟩ := sound.issued.probe id r held probe current unfinished
    have acked : c.acked = false := by
      rw [Bool.eq_false_iff, ne_eq, sound.sockets.acked]
      simp [ws]
    cases response with
    | unauthorized =>
      have idle : Idle ((c.setPhase id .finished).setSnap fun snap =>
          { snap with state := .authRequired, authFailed := c.token.isSome }) :=
        ⟨ws, acked, retryTimer⟩
      exact ⟨after.issued.setSnap _, after.sockets.setSnap _,
        idle.shown (by simp [Controller.setSnap]) (by simp [Controller.setSnap])⟩
    | failed message => exact after.toDown message
    | ok =>
      refine ⟨⟨after.issued.epoch, ?_, ?_⟩, ⟨?_, ?_, ?_, ?_⟩, ⟨?_, ?_, ?_⟩⟩
      · intro other r' client found kind
        have before := after.issued.classify other r' client found kind
        have opened : client < c.sockets.length := (List.getElem?_eq_some_iff.mp before).1
        change (c.sockets ++ [r.epoch])[client]? = _
        rwa [List.getElem?_append_left opened]
      · -- the only probe of this epoch is the one that ended
        intro other r' found kind now later
        have again := (after.issued.probe other r' found kind now later).1
        obtain ⟨_, -, -, -, same⟩ := setPhase_found found
        have mine : id = other := Option.some.inj (own.symm.trans again)
        rw [if_pos mine] at same
        exact absurd same later
      · intro client held
        obtain rfl := Option.some.inj held
        change (c.sockets ++ [r.epoch])[c.sockets.length]? = some c.epoch
        simp [current]
      · have fresh : live c.sockets.length = false := by
          rw [Bool.eq_false_iff]
          intro opened
          exact Nat.lt_irrefl _ (sound.sockets.opened _ opened)
        change false = true ↔ ∃ client, some c.sockets.length = some client ∧ _
        simp [fresh]
      · intro client opened disposed
        change client < (c.sockets ++ [r.epoch]).length at opened
        rw [List.length_append, List.length_singleton] at opened
        rcases Nat.lt_succ_iff_lt_or_eq.mp opened with before | rfl
        · have current := sound.sockets.undisposed client before disposed
          rw [ws] at current
          cases current
        · rfl
      · intro client isLive
        change client < (c.sockets ++ [r.epoch]).length
        rw [List.length_append]
        exact Nat.lt_add_right _ (sound.sockets.opened client isLive)
      · simp [Controller.openWs, Controller.setSnap]
      · change ConnectionState.connecting = .down ↔ c.retryTimer = true
        simp [retryTimer]
      · simp [Controller.openWs, Controller.setSnap]

theorem Sound.classifying (sound : Sound c live) (classifying : Bool) :
    Sound { c with classifying } live :=
  ⟨⟨sound.issued.epoch, sound.issued.classify, sound.issued.probe⟩,
    ⟨sound.sockets.current, sound.sockets.acked, sound.sockets.undisposed, sound.sockets.opened⟩,
    ⟨sound.shown.up, sound.shown.timer, sound.shown.offline⟩⟩

/-- The socket stays and the state is not up any more, or was not. -/
theorem Sound.degraded (sound : Sound c live) {client : Client} (ws : c.ws = some client)
    (elsewhere : c.snap.state ≠ .up) (pending : Bool)
    {f : ConnectionSnapshot → ConnectionSnapshot} (state : (f c.snap).state = .degraded) :
    Sound ({ c with pendingIdentityBump := pending }.setSnap f) live := by
  have quiet : c.acked = false := by
    rw [Bool.eq_false_iff, ne_eq, ← sound.shown.up]
    exact elsewhere
  have timer : c.retryTimer = false := by
    rw [Bool.eq_false_iff, ne_eq, ← sound.shown.timer]
    intro down
    rw [sound.shown.offline (.inl down)] at ws
    cases ws
  refine ⟨⟨sound.issued.epoch, sound.issued.classify, sound.issued.probe⟩,
    ⟨sound.sockets.current, sound.sockets.acked, sound.sockets.undisposed, sound.sockets.opened⟩,
    ⟨?_, ?_, ?_⟩⟩
  · simp [Controller.setSnap, state, quiet]
  · simp [Controller.setSnap, state, timer]
  · simp [Controller.setSnap, state]

theorem Sound.classified (sound : Sound c live) (epoch : Nat) (client : Client)
    (response : Response) : Sound (c.classified epoch client response) live := by
  unfold Controller.classified
  apply Sound.classifying
  split
  case isTrue => exact sound
  case isFalse current =>
    have ws : c.ws = some client := by
      by_contra other
      exact current (.inr other)
    cases response with
    | unauthorized => exact sound.closed (by simp) (by simp)
    | failed message => exact sound.toDown message
    | ok =>
      change Sound (if c.snap.state = .up then c else _) live
      split
      case isTrue => exact sound
      case isFalse elsewhere =>
        split
        · exact sound.degraded ws elsewhere false rfl
        · exact sound.degraded ws elsewhere c.pendingIdentityBump rfl

/-- A callback that the epoch and socket checks reject is not the current socket's. -/
theorem Sound.foreign (sound : Sound c live) {client : Client} {epoch : Nat}
    (opened : c.sockets[client]? = some epoch) (rejected : epoch ≠ c.epoch ∨ c.ws ≠ some client)
    {after : Client → Bool} (same : ∀ other, other ≠ client → after other = live other)
    (still : ∀ other, after other = true → other < c.sockets.length) : Sound c after := by
  have unseen : c.ws ≠ some client := by
    intro ws
    rcases rejected with older | other
    · have now := sound.sockets.current client ws
      rw [opened] at now
      exact older (Option.some.inj now)
    · exact other ws
  refine ⟨sound.issued, ⟨sound.sockets.current, ?_, sound.sockets.undisposed, still⟩, sound.shown⟩
  rw [sound.sockets.acked]
  apply exists_congr
  intro current
  apply and_congr_right
  intro ws
  rw [same current fun this => unseen (this ▸ ws)]

/-- An ack is the current socket's, or shows nothing. -/
theorem Sound.onConnected (sound : Sound c live) {client : Client} {epoch : Nat}
    (opened : c.sockets[client]? = some epoch) :
    Sound (c.onConnected epoch client) (Watched.observe live (.wsConnected client)) := by
  have among : client < c.sockets.length := (List.getElem?_eq_some_iff.mp opened).1
  have still : ∀ other, Watched.observe live (.wsConnected client) other = true →
      other < c.sockets.length := by
    intro other isLive
    by_cases same : other = client
    · exact same ▸ among
    · exact sound.sockets.opened other (by simpa [Watched.observe, same] using isLive)
  unfold Controller.onConnected
  split
  case isTrue foreign =>
    apply sound.foreign opened foreign ?_ still
    intro other distinct
    simp [Watched.observe, distinct]
  case isFalse mine =>
    have ws : c.ws = some client := by
      by_contra other
      exact mine (.inr other)
    have timer : c.retryTimer = false := by
      rw [Bool.eq_false_iff, ne_eq, ← sound.shown.timer]
      intro down
      rw [sound.shown.offline (.inl down)] at ws
      cases ws
    refine ⟨⟨sound.issued.epoch, sound.issued.classify, sound.issued.probe⟩,
      ⟨sound.sockets.current, ?_, sound.sockets.undisposed, still⟩, ⟨?_, ?_, ?_⟩⟩
    · exact ⟨fun _ => ⟨client, ws, by simp [Watched.observe]⟩, fun _ => rfl⟩
    · simp [Controller.setSnap]
    · simp [Controller.setSnap, timer]
    · simp [Controller.setSnap]

/-- A close is the current socket's, or shows nothing. -/
theorem Sound.onClosed (sound : Sound c live) {client : Client} {epoch : Nat}
    (opened : c.sockets[client]? = some epoch) :
    Sound (c.onClosed epoch client) (Watched.observe live (.wsClosed client)) := by
  have still : ∀ other, Watched.observe live (.wsClosed client) other = true →
      other < c.sockets.length := by
    intro other isLive
    by_cases same : other = client
    · simp [Watched.observe, same] at isLive
    · exact sound.sockets.opened other (by simpa [Watched.observe, same] using isLive)
  unfold Controller.onClosed
  split
  case isTrue foreign =>
    apply sound.foreign opened foreign ?_ still
    intro other distinct
    simp [Watched.observe, distinct]
  case isFalse mine =>
    have ws : c.ws = some client := by
      by_contra other
      exact mine (.inr other)
    -- the socket is not live afterwards, and no other is the current one
    have closed : ¬ ∃ current, c.ws = some current ∧
        Watched.observe live (.wsClosed client) current = true := by
      rintro ⟨current, now, isLive⟩
      obtain rfl := Option.some.inj (ws.symm.trans now)
      simp [Watched.observe] at isLive
    have online : ¬ (c.snap.state = .authRequired ∨ c.snap.state = .down) := by
      intro offline
      rw [sound.shown.offline offline.symm] at ws
      cases ws
    rw [if_neg online]
    split
    case isTrue acked =>
      have timer : c.retryTimer = false := by
        rw [Bool.eq_false_iff, ne_eq, ← sound.shown.timer]
        exact fun down => online (.inr down)
      refine ⟨⟨sound.issued.epoch, sound.issued.classify, sound.issued.probe⟩,
        ⟨sound.sockets.current, ?_, sound.sockets.undisposed, still⟩, ⟨?_, ?_, ?_⟩⟩
      · exact ⟨fun held => (by cases held), fun isLive => absurd isLive closed⟩
      · simp [Controller.setSnap]
      · simp [Controller.setSnap, timer]
      · simp [Controller.setSnap]
    case isFalse quiet =>
      have silent : Sound c (Watched.observe live (.wsClosed client)) := by
        refine ⟨sound.issued, ⟨sound.sockets.current, ?_, sound.sockets.undisposed, still⟩,
          sound.shown⟩
        exact ⟨fun acked => absurd acked quiet, fun isLive => absurd isLive closed⟩
      split
      case isTrue => exact silent
      case isFalse =>
        have current := sound.sockets.current client ws
        obtain rfl : epoch = c.epoch := Option.some.inj (opened.symm.trans current)
        apply silent.push (by simp)
        intro other same
        obtain rfl := RequestKind.classify.inj same
        exact current

theorem Sound.step (sound : Sound c live) {a : Action}
    (orderly : a = .start → c.started = true ∨ c.ws = none) (stepped : c.step a = some d) :
    Sound d (Watched.observe live a) := by
  cases a with
  | start =>
    obtain rfl := Option.some.inj stepped
    split
    · exact sound
    case isFalse fresh =>
      have ws : c.ws = none := (orderly rfl).resolve_left (by simpa using fresh)
      have started : Sound { c with started := true } live :=
        ⟨⟨sound.issued.epoch, sound.issued.classify, sound.issued.probe⟩,
          ⟨sound.sockets.current, sound.sockets.acked, sound.sockets.undisposed,
            sound.sockets.opened⟩,
          ⟨sound.shown.up, sound.shown.timer, sound.shown.offline⟩⟩
      exact .connect started.issued started.sockets ws
  | reconnect =>
    obtain rfl := Option.some.inj stepped
    exact sound.reconnect
  | logout =>
    obtain rfl := Option.some.inj stepped
    exact sound.closed (by simp) (by simp)
  | authLost =>
    obtain rfl := Option.some.inj stepped
    exact sound.authLost
  | storage watched =>
    obtain rfl := Option.some.inj stepped
    split
    · exact sound.reconnect
    · exact sound
  | retry =>
    obtain ⟨armed, same⟩ := Option.ite_none_right_eq_some.mp stepped
    obtain rfl := Option.some.inj same
    have ws := sound.shown.offline (.inl (sound.shown.timer.mpr armed))
    exact .connect sound.issued sound.sockets ws
  | wsConnected client =>
    obtain ⟨epoch, opened, rfl⟩ := Option.map_eq_some_iff.mp stepped
    exact sound.onConnected opened
  | wsClosed client =>
    obtain ⟨epoch, opened, rfl⟩ := Option.map_eq_some_iff.mp stepped
    exact sound.onClosed opened
  | request =>
    obtain rfl := Option.some.inj stepped
    exact sound.push (by simp) (by simp) c.classifying
  | respond id response =>
    obtain ⟨r, held, allowed⟩ := Option.bind_eq_some_iff.mp stepped
    obtain ⟨⟨pending, -⟩, same⟩ := Option.ite_none_right_eq_some.mp allowed
    obtain rfl := Option.some.inj same
    have settled : Sound (c.setPhase id (.settled response)) live :=
      sound.setPhase held (by simp [pending])
    unfold Controller.respond
    split
    · exact settled.authLost
    · exact settled
  | resume id =>
    obtain ⟨r, held, resumed⟩ := Option.bind_eq_some_iff.mp stepped
    cases phase : r.phase with
    | settled response =>
      obtain rfl : c.resume id r response = d := by simpa [phase] using resumed
      have finished : Sound (c.setPhase id .finished) live := sound.setPhase held (by simp [phase])
      unfold Controller.resume
      cases kind : r.kind with
      | probe => exact sound.probed held kind phase
      | classify client => exact finished.classified r.epoch client response
      | other => exact finished
    | _ => simp [phase] at resumed
  | setToken token =>
    obtain rfl := Option.some.inj stepped
    exact ⟨⟨sound.issued.epoch, sound.issued.classify, sound.issued.probe⟩,
      ⟨sound.sockets.current, sound.sockets.acked, sound.sockets.undisposed, sound.sockets.opened⟩,
      ⟨sound.shown.up, sound.shown.timer, sound.shown.offline⟩⟩
  | setSessionError message =>
    obtain rfl := Option.some.inj stepped
    exact ⟨sound.issued.setSnap _, sound.sockets.setSnap _,
      ⟨sound.shown.up, sound.shown.timer, sound.shown.offline⟩⟩

/-! ## The generation -/

@[simp] theorem teardown_snap (c : Controller) : c.teardown.snap = c.snap := by
  simp [Controller.teardown, clearRetry]

@[simp] theorem teardown_pending (c : Controller) :
    c.teardown.pendingIdentityBump = c.pendingIdentityBump := by
  simp [Controller.teardown, clearRetry]

@[simp] theorem connect_generation (c : Controller) :
    c.connect.snap.generation = c.snap.generation := by
  simp [Controller.connect, clearRetry]

@[simp] theorem connect_pending (c : Controller) :
    c.connect.pendingIdentityBump = c.pendingIdentityBump := by
  simp [Controller.connect, clearRetry]

@[simp] theorem setSnap_pending (c : Controller) (f : ConnectionSnapshot → ConnectionSnapshot) :
    (c.setSnap f).pendingIdentityBump = c.pendingIdentityBump := rfl

@[simp] theorem setSnap_snap (c : Controller) (f : ConnectionSnapshot → ConnectionSnapshot) :
    (c.setSnap f).snap = f c.snap := rfl

@[simp] theorem reconnect_generation (c : Controller) :
    c.reconnect.snap.generation = c.snap.generation := by
  simp [Controller.reconnect]

@[simp] theorem reconnect_pending (c : Controller) : c.reconnect.pendingIdentityBump = true := by
  simp [Controller.reconnect]

/-- Neither the generation nor the pending bump change. -/
def Steady (c d : Controller) : Prop :=
  d.snap.generation = c.snap.generation ∧ d.pendingIdentityBump = c.pendingIdentityBump

theorem steady_authLost (c : Controller) : Steady c c.authLost := by
  unfold Controller.authLost
  split
  · exact ⟨rfl, rfl⟩
  · simp [Steady]

theorem steady_toDown (c : Controller) (message : String) : Steady c (c.toDown message) := by
  simp [Steady, Controller.toDown]

theorem steady_probed (c : Controller) (epoch : Nat) (response : Response) :
    Steady c (c.probed epoch response) := by
  unfold Controller.probed
  split
  · exact ⟨rfl, rfl⟩
  · cases response with
    | ok => exact ⟨rfl, rfl⟩
    | unauthorized => exact ⟨rfl, rfl⟩
    | failed message => exact steady_toDown c message

theorem steady_onClosed (c : Controller) (epoch : Nat) (client : Client) :
    Steady c (c.onClosed epoch client) := by
  unfold Controller.onClosed
  split
  · exact ⟨rfl, rfl⟩
  · split
    · exact ⟨rfl, rfl⟩
    · split
      · exact ⟨rfl, rfl⟩
      · split
        · exact ⟨rfl, rfl⟩
        · exact ⟨rfl, rfl⟩

/-- What a step makes of the generation and of the pending bump. -/
def Advanced (c : Controller) (a : Action) (d : Controller) : Prop :=
  d.snap.generation =
      c.snap.generation +
        (if c.acks a || (c.degrades a && c.pendingIdentityBump) then 1 else 0) ∧
    d.pendingIdentityBump =
      if c.reconnects a then true else if c.acks a || c.degrades a then false
      else c.pendingIdentityBump

theorem Steady.advanced {a : Action} (steady : Steady c d) (acks : c.acks a = false)
    (degrades : c.degrades a = false) (reconnects : c.reconnects a = false) :
    Advanced c a d := by
  simpa [Advanced, Steady, acks, degrades, reconnects] using steady

theorem degrades_other {id : Nat} {r : Request} (held : c.requests[id]? = some r)
    (other : ∀ client, r.kind ≠ .classify client) : c.degrades (.resume id) = false := by
  obtain ⟨kind, epoch, aborted, phase⟩ := r
  cases kind with
  | classify client => exact absurd rfl (other client)
  | _ => simp [degrades, held]

theorem advanced_onConnected (sound : Sound c live) {client : Client} {epoch : Nat}
    (opened : c.sockets[client]? = some epoch) :
    Advanced c (.wsConnected client) (c.onConnected epoch client) := by
  by_cases ws : c.ws = some client
  · have current := sound.sockets.current client ws
    obtain rfl : epoch = c.epoch := Option.some.inj (opened.symm.trans current)
    simp [Advanced, acks, degrades, reconnects, Controller.onConnected, ws]
  · simp [Advanced, acks, degrades, reconnects, Controller.onConnected, ws]

theorem advanced_classified (sound : Sound c live) {id : Nat} {r : Request} {client : Client}
    {response : Response} (held : c.requests[id]? = some r) (kind : r.kind = .classify client)
    (phase : r.phase = .settled response) :
    Advanced c (.resume id) ((c.setPhase id .finished).classified r.epoch client response) := by
  have opened := sound.issued.classify id r client held kind
  obtain ⟨_, epoch, aborted, _⟩ := r
  simp only at kind phase opened
  subst kind phase
  by_cases ws : c.ws = some client
  · have current := sound.sockets.current client ws
    obtain rfl : epoch = c.epoch := Option.some.inj (opened.symm.trans current)
    cases response with
    | ok =>
      by_cases up : c.snap.state = .up
      · simp [Advanced, acks, degrades, reconnects, held, ws, Controller.classified, setPhase, up]
      · cases pending : c.pendingIdentityBump with
        | true =>
          simp [Advanced, acks, degrades, reconnects, held, ws, Controller.classified, setPhase, up,
            pending]
        | false =>
          simp [Advanced, acks, degrades, reconnects, held, ws, Controller.classified, setPhase, up,
            pending]
    | unauthorized =>
      simp [Advanced, acks, degrades, reconnects, held, ws, Controller.classified, setPhase]
    | failed message =>
      simp [Advanced, acks, degrades, reconnects, held, ws, Controller.classified, setPhase,
        Controller.toDown]
  · have guard : epoch ≠ (c.setPhase id .finished).epoch ∨
        (c.setPhase id .finished).ws ≠ some client := .inr ws
    have quiet : c.degrades (.resume id) = false := by
      cases response <;> simp [degrades, held, ws]
    apply Steady.advanced ?_ rfl quiet rfl
    simp only [Controller.classified, if_pos guard]
    exact ⟨rfl, rfl⟩

theorem Sound.advanced (sound : Sound c live) {a : Action} (stepped : c.step a = some d) :
    Advanced c a d := by
  cases a with
  | start =>
    obtain rfl := Option.some.inj stepped
    refine Steady.advanced ?_ rfl rfl rfl
    split
    · exact ⟨rfl, rfl⟩
    · simp [Steady]
  | reconnect =>
    obtain rfl := Option.some.inj stepped
    simp [Advanced, acks, degrades, reconnects]
  | logout =>
    obtain rfl := Option.some.inj stepped
    apply Steady.advanced ?_ rfl rfl rfl
    simp [Steady, Controller.logout]
  | authLost =>
    obtain rfl := Option.some.inj stepped
    exact (steady_authLost c).advanced rfl rfl rfl
  | storage watched =>
    obtain rfl := Option.some.inj stepped
    cases started : c.started with
    | true => cases watched <;> simp [Advanced, acks, degrades, reconnects, started]
    | false => simp [Advanced, acks, degrades, reconnects, started]
  | retry =>
    obtain ⟨-, same⟩ := Option.ite_none_right_eq_some.mp stepped
    obtain rfl := Option.some.inj same
    apply Steady.advanced ?_ rfl rfl rfl
    simp [Steady]
  | wsConnected client =>
    obtain ⟨epoch, opened, rfl⟩ := Option.map_eq_some_iff.mp stepped
    exact advanced_onConnected sound opened
  | wsClosed client =>
    obtain ⟨epoch, opened, rfl⟩ := Option.map_eq_some_iff.mp stepped
    exact (steady_onClosed c epoch client).advanced rfl rfl rfl
  | request =>
    obtain rfl := Option.some.inj stepped
    exact Steady.advanced ⟨rfl, rfl⟩ rfl rfl rfl
  | respond id response =>
    obtain ⟨r, held, allowed⟩ := Option.bind_eq_some_iff.mp stepped
    obtain ⟨-, same⟩ := Option.ite_none_right_eq_some.mp allowed
    obtain rfl := Option.some.inj same
    apply Steady.advanced ?_ rfl rfl rfl
    unfold Controller.respond
    split
    · exact steady_authLost (c.setPhase id (.settled response))
    · exact ⟨rfl, rfl⟩
  | resume id =>
    obtain ⟨r, held, resumed⟩ := Option.bind_eq_some_iff.mp stepped
    cases phase : r.phase with
    | settled response =>
      obtain rfl : c.resume id r response = d := by simpa [phase] using resumed
      unfold Controller.resume
      cases kind : r.kind with
      | probe =>
        have quiet := degrades_other held (by simp [kind])
        exact Steady.advanced (steady_probed (c.setPhase id .finished) r.epoch response) rfl quiet
          rfl
      | classify client => exact advanced_classified sound held kind phase
      | other =>
        have quiet := degrades_other held (by simp [kind])
        exact Steady.advanced ⟨rfl, rfl⟩ rfl quiet rfl
    | _ => simp [phase] at resumed
  | setToken token =>
    obtain rfl := Option.some.inj stepped
    exact Steady.advanced ⟨rfl, rfl⟩ rfl rfl rfl
  | setSessionError message =>
    obtain rfl := Option.some.inj stepped
    exact Steady.advanced ⟨rfl, rfl⟩ rfl rfl rfl

end Controller

namespace Watched

variable {w v : Watched}

/-- The invariant of the watched runs. -/
def Tracked (w : Watched) : Prop :=
  w.controller.Sound w.live ∧ w.renewed = w.controller.pendingIdentityBump

theorem tracked_init : Tracked init := by
  refine ⟨⟨⟨?_, ?_, ?_⟩, ⟨?_, ?_, ?_, ?_⟩, ⟨?_, ?_, ?_⟩⟩, rfl⟩
  all_goals simp [init, Controller.init]

theorem Tracked.step {a : Action} (tracked : Tracked w) (orderly : Orderly w a)
    (stepped : w.step a = some v) : Tracked v := by
  obtain ⟨sound, renewed⟩ := tracked
  obtain ⟨c, moved, rfl⟩ := Option.map_eq_some_iff.mp stepped
  refine ⟨sound.step orderly moved, ?_⟩
  have pending := (sound.advanced moved).2
  simp only [renewed]
  exact pending.symm

theorem Tracked.coherent (tracked : Tracked w) : Coherent w := by
  obtain ⟨⟨-, sockets, shown⟩, -⟩ := tracked
  refine ⟨shown.up.trans sockets.acked, ?_, shown.timer, fun down => shown.offline (.inl down), ?_⟩
  · intro first second opened opened' kept kept'
    have current := sockets.undisposed first opened kept
    rw [sockets.undisposed second opened' kept'] at current
    exact (Option.some.inj current).symm
  · intro login
    refine ⟨shown.offline (.inr login), ?_⟩
    rw [Bool.eq_false_iff, ne_eq, ← shown.timer, login]
    simp

/-- In every state reached by runs in which `start` finds no socket, the connection state, the
sockets and the timer agree, and a step adds one to the generation on an ack of the current socket and
on the first degraded classification after a `reconnect` with no ack in between, and else nothing. -/
theorem connection_coherent (run : Run step Orderly init w) :
    Coherent w ∧ ∀ a v, Orderly w a → w.step a = some v →
      v.controller.snap.generation =
        w.controller.snap.generation + if w.advances a then 1 else 0 := by
  have tracked : Tracked w := by
    refine Run.invariant (I := fun w => Tracked w) tracked_init ?_ run
    intro w a v _ tracked orderly stepped
    exact tracked.step orderly stepped
  refine ⟨tracked.coherent, ?_⟩
  intro a v _ stepped
  obtain ⟨sound, renewed⟩ := tracked
  obtain ⟨c, moved, rfl⟩ := Option.map_eq_some_iff.mp stepped
  rw [advances, renewed]
  exact (sound.advanced moved).1

/-- A socket is acked, closes and is acked again. -/
def ackedTwice : List Action :=
  [.start, .respond 0 .ok, .resume 0, .wsConnected 0, .wsClosed 0]

/-- The second ack makes the connection up again and begins the second generation. -/
theorem connection_coherent_again :
    ∃ w v, w.step (.wsConnected 0) = some v ∧ Coherent w ∧ Coherent v ∧
      v.controller.snap.generation = w.controller.snap.generation + 1 := by
  have replayed : (exec step (fun w a => a != .start || w.controller.ws.isNone) init
      (ackedTwice)).map (fun w => decide (w.controller.ws = some 0 ∧
        w.controller.sockets = [1])) = some true := by
    decide +kernel
  obtain ⟨w, run, reached⟩ := exists_run_of_exec replayed
  obtain ⟨ws, sockets⟩ := of_decide_eq_true reached
  have run : Run step Orderly init w := by
    apply run.mono
    intro w a allowed isStart
    right
    simpa [isStart] using allowed
  have acked : w.step (.wsConnected 0) = some
      ⟨w.controller.onConnected 1 0, observe w.live (.wsConnected 0), false⟩ := by
    simp [step, Controller.step, sockets, Controller.reconnects, Controller.acks, ws]
  obtain ⟨coherent, generations⟩ := connection_coherent run
  have orderly : Orderly w (.wsConnected 0) := by simp [Orderly]
  refine ⟨w, _, acked, coherent, (connection_coherent (run.tail orderly acked)).1, ?_⟩
  rw [generations _ _ orderly acked]
  simp [advances, Controller.acks, ws]

/-- The user reconnects, the socket is acked, and `start` is called only then. -/
def startedLate : List Action :=
  [.reconnect, .respond 0 .ok, .resume 0, .wsConnected 0, .start, .respond 1 .ok, .resume 1]

/-- Both sockets are left open. -/
theorem connection_started_late :
    ¬ ∀ w, Run step (fun _ _ => True) init w → Coherent w := by
  intro claimed
  have replayed : (exec step (fun _ _ => true) init startedLate).map (fun w =>
      decide (w.controller.sockets.length = 2 ∧ w.controller.disposed = [])) = some true := by
    decide +kernel
  obtain ⟨w, run, reached⟩ := exists_run_of_exec replayed
  obtain ⟨sockets, disposed⟩ := of_decide_eq_true reached
  have one := (claimed w (run.mono (by simp))).undisposed 0 1
  simp [sockets, disposed] at one

end Watched

end Rsbtd.WebUi
