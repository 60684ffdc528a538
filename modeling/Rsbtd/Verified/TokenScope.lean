import Mathlib.Data.List.Basic
import Rsbtd.WebUi.Credentials

/-!
# Where tokens are sent

A token is looked up under the endpoint of that moment, and sent over a connection
whose endpoint was read at another one.  As long as the endpoint still has the
identity of the other read, every token goes to an identity it was stored under.
A socket that opens after another tab has rewritten the endpoint sends the token of
the new endpoint to the old one.
-/

namespace Rsbtd.WebUi

open Transition (Run exec exists_run_of_exec)

namespace Tab

variable {p : Platform} {t u : Tab}

/-- The endpoint still has the identity of the other read of the same transmission: of the URL the
socket was opened with, or of the key the request's token was looked up under. -/
def unmoved (p : Platform) (t : Tab) : TabAction → Bool
  | .run available =>
    match t.frame with
    | .getToken (.socket id) =>
      match t.sockets[id]? with
      | some socket => t.identity p available = socket.identity
      | none => true
    | .fetch key (some _) => t.identity p available = key
    | _ => true
  | _ => true

/-- What the running task has looked up. -/
def LookedUp (t : Tab) : Frame → Prop
  | .getSession (.socket id) key | .getLocal (.socket id) key =>
    ∀ socket, t.sockets[id]? = some socket → key = socket.identity
  | .fetch key (some token) => (key, token) ∈ t.stored
  | _ => True

/-- Every token is kept, looked up and sent under an identity it was stored under. -/
structure Owned (t : Tab) : Prop where
  localTokens : ∀ key token, t.localTokens key = some token → (key, token) ∈ t.stored
  sessionTokens : ∀ key token, t.sessionTokens key = some token → (key, token) ∈ t.stored
  memoryToken : ∀ key token, t.memoryToken = some (key, token) → (key, token) ∈ t.stored
  frame : LookedUp t t.frame
  sent : ∀ sent ∈ t.sent, sent ∈ t.stored

theorem Fresh.owned (fresh : Fresh t) : Owned t where
  localTokens := fresh.localTokens
  sessionTokens := fresh.sessionTokens
  memoryToken := by simp [fresh.memoryToken]
  frame := by simp [fresh.frame, LookedUp]
  sent := by simp [fresh.sent]

theorem update_eq_some {tokens : Identity → Option Token} {key other : Identity}
    {value : Option Token} {token : Token} (held : update tokens key value other = some token) :
    (other = key ∧ value = some token) ∨ tokens other = some token := by
  by_cases same : other = key
  · subst same
    exact .inl ⟨rfl, by simpa [update] using held⟩
  · exact .inr (by simpa [update, same] using held)

section Storage

variable {tokens : Identity → Option Token} {stored : List (Identity × Token)} {key : Identity}

/-- A removal adds no token. -/
theorem stored_removed
    (owned : ∀ other token, tokens other = some token → (other, token) ∈ stored) :
    ∀ other token, update tokens key none other = some token → (other, token) ∈ stored := by
  intro other token held
  rcases update_eq_some held with ⟨-, gone⟩ | kept
  · cases gone
  · exact owned other token kept

/-- A write adds the token that is stored with it. -/
theorem stored_written {written : Token}
    (owned : ∀ other token, tokens other = some token → (other, token) ∈ stored) :
    ∀ other token, update tokens key (some written) other = some token →
      (other, token) ∈ stored ++ [(key, written)] := by
  intro other token held
  rcases update_eq_some held with ⟨rfl, same⟩ | before
  · obtain rfl := Option.some.inj same
    simp
  · exact List.mem_append_left _ (owned other token before)

end Storage

theorem Owned.fallback (owned : Owned t) {key : Identity} {token : Token}
    (found : t.fallback key = some token) : (key, token) ∈ t.stored := by
  unfold Tab.fallback at found
  cases memory : t.memoryToken with
  | none => simp [memory] at found
  | some own =>
    obtain ⟨own, held⟩ := own
    rw [memory] at found
    obtain ⟨rfl, same⟩ := Option.ite_none_right_eq_some.mp found
    obtain rfl := Option.some.inj same
    exact owned.memoryToken _ _ memory

/-- The frame changes, and nothing else. -/
theorem Owned.framed (owned : Owned t) {frame : Frame} (lookedUp : LookedUp t frame) :
    Owned { t with frame } where
  localTokens := owned.localTokens
  sessionTokens := owned.sessionTokens
  memoryToken := owned.memoryToken
  frame := by
    cases frame with
    | getSession use key => cases use <;> exact lookedUp
    | getLocal use key => cases use <;> exact lookedUp
    | fetch key token => cases token <;> exact lookedUp
    | _ => trivial
  sent := owned.sent

theorem Owned.transmit (owned : Owned t) {target : Identity} {token : Option Token}
    (held : ∀ found, token = some found → (target, found) ∈ t.stored) :
    Owned { t.transmit target token with frame := .idle } where
  localTokens := owned.localTokens
  sessionTokens := owned.sessionTokens
  memoryToken := owned.memoryToken
  frame := trivial
  sent := by
    intro sent listed
    rcases List.mem_append.mp listed with before | now
    · exact owned.sent sent before
    · cases token with
      | none => simp at now
      | some found =>
        obtain rfl : sent = (target, found) := by simpa using now
        exact held found rfl

/-- The token found under a key is stored under it, and the key is the socket's. -/
theorem Owned.gotToken (owned : Owned t) {use : Use} {key : Identity} {token : Option Token}
    (own : ∀ id, use = .socket id → ∀ socket, t.sockets[id]? = some socket → key = socket.identity)
    (held : ∀ found, token = some found → (key, found) ∈ t.stored) :
    Owned (t.gotToken use key token) := by
  unfold Tab.gotToken
  cases use with
  | http =>
    apply owned.framed
    cases token with
    | none => trivial
    | some found => exact held found rfl
  | socket id =>
    change Owned (match t.sockets[id]? with
      | some socket => { t.transmit socket.identity token with frame := .idle }
      | none => { t with frame := .idle })
    cases opened : t.sockets[id]? with
    | none => exact owned.framed trivial
    | some socket =>
      obtain rfl := own id rfl socket opened
      exact owned.transmit held

theorem fetchIdentity_eq {setting : Option String} {target : Identity}
    (reached : (p.parse (p.httpEndpoint setting)).bind Url.fetchIdentity = some target) :
    p.endpointIdentity setting = target := by
  obtain ⟨url, parsed, reached⟩ := Option.bind_eq_some_iff.mp reached
  obtain ⟨-, same⟩ := Option.ite_none_right_eq_some.mp reached
  simp only [Platform.endpointIdentity, parsed]
  exact Option.some.inj same

theorem lookedUp_after {next : Option (Token × Bool)} : LookedUp t (after next) := by
  cases next <;> trivial

theorem Owned.run (owned : Owned t) {available : Bool}
    (unmoved : unmoved p t (.run available) = true) (ran : t.run p available = some u) :
    Owned u := by
  have lookedUp := owned.frame
  unfold Tab.run at ran
  unfold Tab.unmoved at unmoved
  cases frame : t.frame with
  | idle => simp [frame] at ran
  | getToken use =>
    simp only [frame, Option.some.injEq] at ran unmoved
    subst ran
    apply owned.framed
    cases use with
    | http => trivial
    | socket id =>
      -- the key is looked up again, and is that of the URL the socket was opened with
      intro socket held
      simp only [held] at unmoved
      exact of_decide_eq_true unmoved
  | getSession use key =>
    simp only [frame] at ran lookedUp
    have own : ∀ id, use = .socket id → ∀ socket, t.sockets[id]? = some socket →
        key = socket.identity := by
      rintro id rfl
      exact lookedUp
    split at ran
    · split at ran
      case h_1 token held =>
        obtain rfl := Option.some.inj ran
        apply owned.gotToken own
        rintro found same
        obtain rfl := Option.some.inj same
        exact owned.sessionTokens key _ held
      case h_2 =>
        obtain rfl := Option.some.inj ran
        apply owned.framed
        cases use with
        | http => trivial
        | socket id => exact lookedUp
    · obtain rfl := Option.some.inj ran
      exact owned.gotToken own fun _ => owned.fallback
  | getLocal use key =>
    simp only [frame] at ran lookedUp
    have own : ∀ id, use = .socket id → ∀ socket, t.sockets[id]? = some socket →
        key = socket.identity := by
      rintro id rfl
      exact lookedUp
    split at ran
    · split at ran
      case h_1 token held =>
        obtain rfl := Option.some.inj ran
        apply owned.gotToken own
        rintro found same
        obtain rfl := Option.some.inj same
        exact owned.localTokens key _ held
      case h_2 =>
        obtain rfl := Option.some.inj ran
        exact owned.gotToken own fun _ => owned.fallback
    · obtain rfl := Option.some.inj ran
      exact owned.gotToken own fun _ => owned.fallback
  | fetch key token =>
    simp only [frame] at ran lookedUp unmoved
    split at ran
    case h_1 target reached =>
      obtain rfl := Option.some.inj ran
      apply owned.transmit
      rintro found rfl
      -- the request goes to the endpoint of now, which still has the key's identity
      rw [← fetchIdentity_eq reached]
      have same : t.identity p available = key := of_decide_eq_true unmoved
      rw [Tab.identity] at same
      rw [same]
      exact lookedUp
    case h_2 =>
      obtain rfl := Option.some.inj ran
      exact owned.framed trivial
  | clearToken next =>
    simp only [frame] at ran
    obtain rfl := Option.some.inj ran
    exact ⟨owned.localTokens, owned.sessionTokens, by simp, trivial, owned.sent⟩
  | removeSession key next =>
    simp only [frame] at ran
    split at ran
    · obtain rfl := Option.some.inj ran
      exact ⟨owned.localTokens, stored_removed owned.sessionTokens, owned.memoryToken, trivial,
        owned.sent⟩
    · obtain rfl := Option.some.inj ran
      exact owned.framed lookedUp_after
  | removeLocal key next =>
    simp only [frame] at ran
    split at ran
    · obtain rfl := Option.some.inj ran
      exact ⟨stored_removed owned.localTokens, owned.sessionTokens, owned.memoryToken,
        lookedUp_after, owned.sent⟩
    · obtain rfl := Option.some.inj ran
      exact owned.framed lookedUp_after
  | setMemory token remember =>
    simp only [frame] at ran
    obtain rfl := Option.some.inj ran
    refine ⟨?_, ?_, ?_, trivial, ?_⟩
    · exact fun other held found => List.mem_append_left _ (owned.localTokens other held found)
    · exact fun other held found => List.mem_append_left _ (owned.sessionTokens other held found)
    · intro other held same
      obtain ⟨rfl, rfl⟩ := Prod.mk.inj (Option.some.inj same)
      simp
    · exact fun sent listed => List.mem_append_left _ (owned.sent sent listed)
  | setKey token remember =>
    simp only [frame] at ran
    obtain rfl := Option.some.inj ran
    exact owned.framed trivial
  | setItem key token remember =>
    simp only [frame] at ran
    have kept : ∀ {entry}, entry ∈ t.stored → entry ∈ t.stored ++ [(key, token)] :=
      fun listed => List.mem_append_left _ listed
    split at ran
    · split at ran
      · obtain rfl := Option.some.inj ran
        exact ⟨stored_written owned.localTokens,
          fun _ _ found => kept (owned.sessionTokens _ _ found),
          fun _ _ found => kept (owned.memoryToken _ _ found), trivial,
          fun _ listed => kept (owned.sent _ listed)⟩
      · obtain rfl := Option.some.inj ran
        exact ⟨fun _ _ found => kept (owned.localTokens _ _ found),
          stored_written owned.sessionTokens,
          fun _ _ found => kept (owned.memoryToken _ _ found), trivial,
          fun _ listed => kept (owned.sent _ listed)⟩
    · obtain rfl := Option.some.inj ran
      exact owned.framed trivial

theorem LookedUp.mono {frame : Frame} (lookedUp : LookedUp t frame)
    (sockets : u.sockets = t.sockets) (stored : ∀ entry ∈ t.stored, entry ∈ u.stored) :
    LookedUp u frame := by
  cases frame with
  | getSession use key =>
    cases use with
    | http => trivial
    | socket id =>
      intro socket held
      exact lookedUp socket (sockets ▸ held)
  | getLocal use key =>
    cases use with
    | http => trivial
    | socket id =>
      intro socket held
      exact lookedUp socket (sockets ▸ held)
  | fetch key token =>
    cases token with
    | none => trivial
    | some found => exact stored _ lookedUp
  | _ => trivial

/-- Another tab writes: this tab's own tokens, task and transmissions stay. -/
theorem Owned.elsewhere (owned : Owned t) (sessionTokens : u.sessionTokens = t.sessionTokens)
    (memoryToken : u.memoryToken = t.memoryToken)
    (frame : u.frame = t.frame ∧ u.sockets = t.sockets) (sent : u.sent = t.sent)
    (localTokens : ∀ key token, u.localTokens key = some token → (key, token) ∈ u.stored)
    (stored : ∀ entry ∈ t.stored, entry ∈ u.stored) : Owned u where
  localTokens := localTokens
  sessionTokens key token held := stored _ (owned.sessionTokens key token (sessionTokens ▸ held))
  memoryToken key token held := stored _ (owned.memoryToken key token (memoryToken ▸ held))
  frame := by
    rw [frame.1]
    exact owned.frame.mono frame.2 stored
  sent entry listed := stored _ (owned.sent entry (sent ▸ listed))

theorem Owned.start (owned : Owned t) {frame : Frame} (started : t.start frame = some u)
    (lookedUp : LookedUp t frame) : Owned u := by
  obtain ⟨-, same⟩ := Option.ite_none_right_eq_some.mp started
  obtain rfl := Option.some.inj same
  exact owned.framed lookedUp

theorem Owned.step (owned : Owned t) {a : TabAction} (unmoved : unmoved p t a = true)
    (stepped : t.step p a = some u) : Owned u := by
  cases a with
  | run available => exact owned.run unmoved stepped
  | request => exact owned.start stepped trivial
  | openSocket available =>
    obtain ⟨idle, opened⟩ := Option.ite_none_right_eq_some.mp stepped
    split at opened
    · obtain rfl := Option.some.inj opened
      refine ⟨owned.localTokens, owned.sessionTokens, owned.memoryToken, ?_, owned.sent⟩
      change LookedUp _ t.frame
      rw [idle]
      trivial
    · obtain rfl := Option.some.inj opened
      exact owned
  | opened id =>
    simp only [Tab.step] at stepped
    split at stepped
    · split at stepped
      · cases stepped
      · obtain ⟨idle, same⟩ := Option.ite_none_right_eq_some.mp stepped
        obtain rfl := Option.some.inj same
        exact ⟨owned.localTokens, owned.sessionTokens, owned.memoryToken, trivial, owned.sent⟩
    · cases stepped
  | setEndpointSetting value available =>
    obtain ⟨idle, same⟩ := Option.ite_none_right_eq_some.mp stepped
    obtain rfl := Option.some.inj same
    have written : ∀ endpoint, Owned { t with endpoint } := by
      intro endpoint
      have frame : LookedUp { t with endpoint } t.frame := by
        rw [idle]
        trivial
      exact ⟨owned.localTokens, owned.sessionTokens, owned.memoryToken, frame, owned.sent⟩
    cases available with
    | false => exact owned
    | true =>
      change Owned (t.setEndpointSetting p value)
      unfold Tab.setEndpointSetting
      split
      · split
        · exact written _
        · exact written _
      · exact written _
  | setToken token remember => exact owned.start stepped trivial
  | clearToken => exact owned.start stepped trivial
  | storage key available =>
    simp only [Tab.step] at stepped
    split at stepped
    · exact owned.start stepped trivial
    · obtain rfl := Option.some.inj stepped
      exact owned
  | foreignEndpoint value =>
    obtain rfl := Option.some.inj stepped
    exact owned.elsewhere rfl rfl ⟨rfl, rfl⟩ rfl owned.localTokens fun _ listed => listed
  | foreignToken key token =>
    obtain rfl := Option.some.inj stepped
    exact owned.elsewhere rfl rfl ⟨rfl, rfl⟩ rfl (stored_written owned.localTokens)
      fun _ listed => List.mem_append_left _ listed
  | foreignRemove key =>
    obtain rfl := Option.some.inj stepped
    exact owned.elsewhere rfl rfl ⟨rfl, rfl⟩ rfl (stored_removed owned.localTokens)
      fun _ listed => listed

/-- From a page load on, as long as the endpoint does not move between the reads of one
transmission, every token that was sent went to an identity under which it was stored. -/
theorem sent_stored {t₀ : Tab} (fresh : Fresh t₀)
    (run : Run (step p) (fun t a => unmoved p t a = true) t₀ t) :
    ∀ sent ∈ t.sent, sent ∈ t.stored := by
  have owned : Owned t := by
    refine Run.invariant (I := fun t => Owned t) fresh.owned ?_ run
    intro t a u _ owned unmoved stepped
    exact owned.step unmoved stepped
  exact owned.sent

/-- A browser that parses the endpoints of two daemons. -/
def browser : Platform where
  DEFAULT_ENDPOINT := "/graphql"
  trim value := value
  parse endpoint :=
    if endpoint = "/graphql" then some ⟨"https:", "first", "/graphql"⟩
    else if endpoint = "https://second/graphql" then some ⟨"https:", "second", "/graphql"⟩
    else none

/-- A page loaded with nothing stored. -/
def loaded : Tab := ⟨none, fun _ => none, fun _ => none, none, .idle, [], [], []⟩

theorem loaded_fresh : Fresh loaded := ⟨by simp [loaded], by simp [loaded], rfl, rfl, rfl, rfl⟩

/-- A token is entered, a socket opened, and the token sent over it. -/
def signedIn : List TabAction :=
  [.setToken "secret" true, .run true, .run true, .run true, .run true, .run true, .run true,
   .openSocket true, .opened 0, .run true, .run true, .run true]

theorem sent_stored_signedIn :
    ∃ t : Tab, ("https://first/graphql", "secret") ∈ t.sent ∧ ∀ sent ∈ t.sent, sent ∈ t.stored := by
  have replayed : (exec (step browser) (unmoved browser) loaded signedIn).map (fun t =>
      decide (t.sent = [("https://first/graphql", "secret")])) = some true := by
    decide +kernel
  obtain ⟨t, run, reached⟩ := exists_run_of_exec replayed
  have sent := of_decide_eq_true reached
  exact ⟨t, by simp [sent], sent_stored loaded_fresh run⟩

/-- A socket is opened, another tab moves to a second daemon and stores its token, and the socket
has opened only then. -/
def movedBetween : List TabAction :=
  [.openSocket true, .foreignEndpoint (some "https://second/graphql"),
   .foreignToken "https://second/graphql" "secret", .opened 0, .run true, .run true, .run true]

/-- The second daemon's token is sent to the first. -/
theorem sent_elsewhere :
    ¬ ∀ t, Run (step browser) (fun _ _ => True) loaded t → ∀ sent ∈ t.sent, sent ∈ t.stored := by
  intro claimed
  have replayed : (exec (step browser) (fun _ _ => true) loaded movedBetween).map (fun t =>
      decide (t.sent = [("https://first/graphql", "secret")] ∧
        t.stored = [("https://second/graphql", "secret")])) = some true := by
    decide +kernel
  obtain ⟨t, run, reached⟩ := exists_run_of_exec replayed
  obtain ⟨sent, stored⟩ := of_decide_eq_true reached
  have owned := claimed t (run.mono (by simp)) _ (by rw [sent]; exact List.mem_singleton.mpr rfl)
  simp [stored] at owned

end Tab

end Rsbtd.WebUi
