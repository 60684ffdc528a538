import Rsbtd.Bindings.Requests

/-!
# The life of an add's token

The pending future, the client data and the handle of an add are kept under its
token.  `AddView` is what the state holds under one token and `AddMove` what a
step can do to it, so that every property here is one of a small automaton.

`Tracks` is what every run without lost alerts keeps: the alerts on their way are
those the add's fate calls for, and the future is resolved at most once, with the
outcome of the token.  `Kept` says which tokens have data and a handle.  It fails
when a torrent is destroyed before its own `add_torrent` alert is processed: the
expired handle reads as another token, and the data goes before the
`torrent_removed` alert is processed.
-/

namespace Rsbtd.Requests

open Transition (Run exec exists_run_of_exec)

variable {δ : Type}

namespace Fate

/-- The torrent attached under the add's token. -/
def joined : Fate → Bool
  | attached | removed | expired => true
  | _ => false

/-- The handle of the torrent is not expired. -/
def alive : Fate → Bool
  | attached | removed => true
  | _ => false

/-- The post is on its way or was accepted. -/
def called : Fate → Bool
  | unused | refused => false
  | _ => true

/-- The `add_torrent` alert libtorrent posted for the token. -/
def addAlert (u : Token) : Fate → Option Alert
  | failed error | failedRemoved error => some (.addTorrent u error none)
  | duplicate existing => some (.addTorrent u none (some existing))
  | attached | removed | expired => some (.addTorrent u none (some u))
  | unused | posting | refused | posted => none

/-- The `torrent_removed` alert libtorrent posted for the token. -/
def removedAlert (u : Token) : Fate → Option Alert
  | failedRemoved _ | removed | expired => some (.torrentRemoved u)
  | _ => none

/-- What libtorrent decided for the add. -/
def outcome (u : Token) : Fate → Option (Except Error Handle)
  | failed error | failedRemoved error => some (State.addResult error none)
  | duplicate existing => some (.ok existing)
  | attached | removed | expired => some (.ok u)
  | unused | posting | refused | posted => none

end Fate

/-- The alerts that carry a token. -/
def Alert.carries (u : Token) : Alert → Bool
  | .addTorrent token _ _ | .torrentRemoved token => token == u
  | .sessionStats _ _ | .alertsDropped _ => false

/-- What the state holds under one token. -/
structure AddView (δ : Type) where
  fate : Fate
  answered : Bool
  swept : Bool
  data : Option δ
  handle : Option Handle
  sender : Option Sender
  channel : Channel (Except Error Handle)
  pending : List Alert

def State.addView (s : State δ) (u : Token) : AddView δ where
  fate := s.torrents u
  answered := s.answered u
  swept := s.swept u
  data := s.registry.clientData.lookup u
  handle := s.registry.handles.lookup u
  sender := s.registry.addTorrent.lookup u
  channel := s.adds u
  pending := s.stream.filter (Alert.carries u)

namespace AddView

def post (v : AddView δ) (alert : Alert) : AddView δ := { v with pending := v.pending ++ [alert] }

/-- The future under the token, after its sender was used or dropped. -/
def release (v : AddView δ) (r : Except Error Handle) : Channel (Except Error Handle) :=
  if v.sender.isSome then v.channel.send r else v.channel

end AddView

/-- What a step does under the token `u`.  `P` is what is known when the token's
`add_torrent` alert is processed. -/
inductive AddMove (P : AddView δ → Prop) (u : Token) (v : AddView δ) : AddView δ → Prop where
  | idle : AddMove P u v v
  | minted (data : δ) : v.fate = .unused → u ≠ 0 →
      AddMove P u v { v with fate := .posting, data := some data, sender := some u }
  | accepted : v.fate = .posting → AddMove P u v { v with fate := .posted }
  | refused : v.fate = .posting →
      AddMove P u v { v with fate := .refused, data := none, sender := none }
  | dropped : v.fate.called = true → v.fate ≠ .posting →
      AddMove P u v { v with sender := none, channel := { v.channel with receiver := false } }
  | replaced {old : δ} (data : δ) : v.data = some old →
      AddMove P u v { v with data := some data }
  | closed : AddMove P u v { v with sender := none, channel := v.release (.error closedError) }
  | attached : v.fate = .posted →
      AddMove P u v ({ v with fate := .attached }.post (.addTorrent u none (some u)))
  | failed (error : Option Error) : v.fate = .posted →
      AddMove P u v ({ v with fate := .failed error }.post (.addTorrent u error none))
  | duplicate (existing : Token) : v.fate = .posted → existing ≠ u →
      AddMove P u v
        ({ v with fate := .duplicate existing }.post (.addTorrent u none (some existing)))
  | removed : v.fate = .attached →
      AddMove P u v ({ v with fate := .removed }.post (.torrentRemoved u))
  | failedRemoved {error : Option Error} : v.fate = .failed error →
      AddMove P u v ({ v with fate := .failedRemoved error }.post (.torrentRemoved u))
  | expired : v.fate = .removed → AddMove P u v { v with fate := .expired }
  | answered {error : Option Error} {handle : Option Handle} {rest : List Alert}
      (stored : Option Handle) : v.pending = .addTorrent u error handle :: rest → P v →
      (∀ h, stored = some h → State.addResult error handle = .ok h ∧
        (u ≠ 0 → h = u ∧ v.fate.alive = true)) →
      (stored = none → State.addResult error handle = .ok u → v.fate.alive = false) →
      AddMove P u v { v with
        answered := true, pending := rest, sender := none
        data := if stored.isSome then v.data else none
        handle := if stored.isSome then stored else v.handle
        channel := v.release (State.addResult error handle) }
  | swept {rest : List Alert} : v.pending = .torrentRemoved u :: rest →
      AddMove P u v { v with
        swept := true, pending := rest
        data := if u = 0 then v.data else none
        handle := if u = 0 then v.handle else none }

theorem AddMove.to {P : AddView δ → Prop} {u : Token} {v w x : AddView δ} (moved : AddMove P u v w)
    (same : x = w) : AddMove P u v x :=
  same ▸ moved

/-! ## Tokens and senders -/

/-- No overflow alert names `add_torrent`. -/
def Action.lossless (a : Action δ) : Prop :=
  ∀ dropped, a = .overflow dropped →
    Registry.bit dropped Registry.ALERT_TYPE_ADD_TORRENT = false

structure Keyed (s : State δ) : Prop where
  zero : s.torrents 0 = .unused
  unused : ∀ u, s.nextId < u → s.torrents u = .unused
  sender : ∀ u c, s.registry.addTorrent.lookup u = some c → c = u
  lossless : ∀ dropped, .alertsDropped dropped ∈ s.stream →
    Registry.bit dropped Registry.ALERT_TYPE_ADD_TORRENT = false

theorem lookup_erase_some {m : AList fun _ : Token => Sender} {token u : Token} {c : Sender}
    (found : (m.erase token).lookup u = some c) : m.lookup u = some c := by
  by_cases own : u = token
  · rw [own, AList.lookup_erase] at found
    cases found
  · rwa [AList.lookup_erase_ne own] at found

/-- The senders of a map in which each is kept under its own token. -/
theorem senders_nodup {m : AList fun _ : Token => Sender}
    (own : ∀ u c, m.lookup u = some c → c = u) : (m.entries.map Sigma.snd).Nodup := by
  have same : m.entries.map Sigma.snd = m.entries.map Sigma.fst := by
    apply List.map_congr_left
    intro entry present
    exact own entry.1 entry.2 (AList.mem_lookup_iff.mpr present)
  rw [same]
  exact m.nodupKeys

theorem mem_senders {m : AList fun _ : Token => Sender}
    (own : ∀ u c, m.lookup u = some c → c = u) (u : Token) :
    u ∈ m.entries.map Sigma.snd ↔ (m.lookup u).isSome = true := by
  constructor
  · intro present
    obtain ⟨entry, stored, rfl⟩ := List.mem_map.mp present
    have found := AList.mem_lookup_iff.mpr stored
    have key : entry.2 = entry.1 := own entry.1 entry.2 found
    rw [key, Option.mem_def.mp found]
    rfl
  · intro present
    obtain ⟨c, found⟩ := Option.isSome_iff_exists.mp present
    obtain rfl := own u c found
    exact List.mem_map.mpr ⟨⟨c, c⟩, AList.mem_lookup_iff.mp found, rfl⟩

theorem keyed_init : Keyed (State.init (δ := δ)) where
  zero := rfl
  unused := fun _ _ => rfl
  sender := by simp [State.init, Registry.new]
  lossless := by simp [State.init]

namespace Keyed

variable {s t : State δ}

theorem ne_zero (keyed : Keyed s) {u : Token} (known : s.torrents u ≠ .unused) : u ≠ 0 := by
  rintro rfl
  exact known keyed.zero

/-- A step that changes the fate of a minted token, posts an alert and drops senders. -/
theorem progress (keyed : Keyed s) {token : Token} {fate : Fate}
    (known : s.torrents token ≠ .unused) (torrents : t.torrents = Function.update s.torrents token fate)
    (nextId : t.nextId = s.nextId)
    (sender : ∀ u c, t.registry.addTorrent.lookup u = some c →
      s.registry.addTorrent.lookup u = some c)
    (stream : ∀ dropped, .alertsDropped dropped ∈ t.stream → .alertsDropped dropped ∈ s.stream) :
    Keyed t where
  zero := by
    rw [torrents, Function.update_of_ne (keyed.ne_zero known).symm]
    exact keyed.zero
  unused := fun u later => by
    have other : u ≠ token := by
      rintro rfl
      exact known (keyed.unused u (nextId ▸ later))
    rw [torrents, Function.update_of_ne other]
    exact keyed.unused u (nextId ▸ later)
  sender := fun u c found => keyed.sender u c (sender u c found)
  lossless := fun dropped posted => keyed.lossless dropped (stream dropped posted)

/-- A step that changes no fate. -/
theorem settled (keyed : Keyed s) (torrents : t.torrents = s.torrents)
    (nextId : t.nextId = s.nextId)
    (sender : ∀ u c, t.registry.addTorrent.lookup u = some c →
      s.registry.addTorrent.lookup u = some c)
    (stream : ∀ dropped, .alertsDropped dropped ∈ t.stream → .alertsDropped dropped ∈ s.stream) :
    Keyed t where
  zero := by rw [torrents]; exact keyed.zero
  unused := fun u later => by rw [torrents]; exact keyed.unused u (nextId ▸ later)
  sender := fun u c found => keyed.sender u c (sender u c found)
  lossless := fun dropped posted => keyed.lossless dropped (stream dropped posted)

theorem dispatch (keyed : Keyed s) {alert : Alert} {rest : List Alert}
    (queued : s.stream = alert :: rest) :
    Keyed (State.dispatch { s with stream := rest } alert) := by
  have later : ∀ dropped, .alertsDropped dropped ∈ rest → .alertsDropped dropped ∈ s.stream :=
    fun _ posted => queued ▸ List.mem_cons_of_mem _ posted
  cases alert with
  | sessionStats n counters =>
    cases front : s.registry.sessionStats with
    | nil =>
      apply keyed.settled <;>
        simp [State.dispatch, State.resolveSessionStats, Registry.resolveSessionStats, front]
      exact later
    | cons tx others =>
      apply keyed.settled <;>
        simp [State.dispatch, State.resolveSessionStats, Registry.resolveSessionStats, front]
      exact later
  | addTorrent userdata error handle =>
    -- the sender is taken out whatever the result is
    refine keyed.settled rfl rfl (fun u c found => ?_) later
    cases stored : State.surviving { s with stream := rest } userdata
        (State.addResult error handle) <;>
      exact lookup_erase_some (by
        simpa [State.dispatch, State.resolveAddTorrent, Registry.resolveAddTorrent, stored]
          using found)
  | torrentRemoved userdata =>
    refine keyed.settled rfl rfl (fun u c found => ?_) later
    simp only [State.dispatch, Registry.resolveTorrentRemoved] at found
    split at found <;> exact found
  | alertsDropped dropped =>
    -- no alert of an add was dropped, so no sender is failed
    have silent := keyed.lossless dropped (queued ▸ List.mem_cons_self)
    refine keyed.settled rfl rfl (fun u c found => ?_) later
    simpa [State.dispatch, Registry.handleAlertsDropped, silent] using found

theorem step (keyed : Keyed s) {a : Action δ} (lossless : a.lossless)
    (stepped : s.step a = some t) : Keyed t := by
  cases a with
  | sessionStats post =>
    simp only [State.step, Registry.enqueueSessionStats] at stepped
    cases ended : s.registry.closed with
    | true =>
      obtain ⟨⟩ : t = s := by simpa [ended] using stepped.symm
      exact keyed
    | false =>
      cases post with
      | error e =>
        obtain ⟨⟩ : t = s := by simpa [ended, Except.map] using stepped.symm
        exact keyed
      | ok =>
        simp only [ended, Except.map, Bool.false_eq_true, if_false, Option.some.injEq] at stepped
        subst stepped
        exact keyed.settled rfl rfl (fun _ _ found => found) (fun _ posted => posted)
  | dropStats n =>
    obtain ⟨-, ⟨⟩⟩ := Option.ite_none_right_eq_some.mp stepped
    exact keyed.settled rfl rfl (fun _ _ found => found) (fun _ posted => posted)
  | enqueueAdd data =>
    -- the new token is the next one, and those above stay unused
    simp only [State.step, Registry.enqueueAddTorrent] at stepped
    cases ended : s.registry.closed with
    | true =>
      obtain ⟨⟩ : t = s := by simpa [ended] using stepped.symm
      exact keyed
    | false =>
      simp only [ended, Bool.false_eq_true, if_false, Option.some.injEq] at stepped
      subst stepped
      refine ⟨?_, ?_, ?_, keyed.lossless⟩
      · simpa [State.setFate, Function.update_of_ne (Nat.succ_ne_zero s.nextId).symm]
          using keyed.zero
      · intro u later
        have other : u ≠ s.nextId + 1 := Nat.ne_of_gt later
        simpa [State.setFate, other] using keyed.unused u (Nat.lt_of_succ_lt later)
      · intro u c found
        by_cases own : u = s.nextId + 1
        · subst own
          simpa [State.setFate, eq_comm] using found
        · apply keyed.sender u c
          simpa [State.setFate, AList.lookup_insert_ne own] using found
  | accepted token =>
    obtain ⟨known, ⟨⟩⟩ := Option.ite_none_right_eq_some.mp stepped
    exact keyed.progress (by simp [known]) rfl rfl (fun _ _ found => found) (fun _ posted => posted)
  | refused token =>
    obtain ⟨known, ⟨⟩⟩ := Option.ite_none_right_eq_some.mp stepped
    exact keyed.progress (by simp [known]) rfl rfl (fun _ _ found => lookup_erase_some found)
      (fun _ posted => posted)
  | dropAdd token =>
    obtain ⟨-, ⟨⟩⟩ := Option.ite_none_right_eq_some.mp stepped
    exact keyed.settled rfl rfl (fun _ _ found => lookup_erase_some found) (fun _ posted => posted)
  | setClientData token data =>
    simp only [State.step, Registry.setClientData] at stepped
    cases present : s.registry.clientData.lookup token with
    | none =>
      obtain ⟨⟩ : t = s := by simpa [present] using stepped.symm
      exact keyed
    | some old =>
      simp only [present, Option.some.injEq] at stepped
      subst stepped
      exact keyed.settled rfl rfl (fun _ _ found => found) (fun _ posted => posted)
  | close =>
    obtain ⟨⟩ := stepped
    refine keyed.settled rfl rfl (fun u c found => ?_) (fun _ posted => posted)
    simp [State.close, Registry.close] at found
  | process =>
    simp only [State.step] at stepped
    cases queued : s.stream with
    | nil => simp [queued] at stepped
    | cons alert rest =>
      simp only [queued, Option.some.injEq] at stepped
      subst stepped
      exact keyed.dispatch queued
  | answerStats counters delivered =>
    simp only [State.step] at stepped
    cases pending : s.asked with
    | nil => simp [pending] at stepped
    | cons n rest =>
      cases delivered with
      | true =>
        simp only [pending, if_true, Option.some.injEq] at stepped
        subst stepped
        exact keyed.settled rfl rfl (fun _ _ found => found) (by simp [State.post])
      | false =>
        simp only [pending, Bool.false_eq_true, if_false, Option.some.injEq] at stepped
        subst stepped
        exact keyed.settled rfl rfl (fun _ _ found => found) (fun _ posted => posted)
  | overflow dropped =>
    obtain ⟨⟩ := stepped
    refine ⟨keyed.zero, keyed.unused, keyed.sender, fun other posted => ?_⟩
    rcases List.mem_append.mp posted with old | new
    · exact keyed.lossless other old
    · obtain ⟨⟩ := List.mem_singleton.mp new
      exact lossless _ rfl
  | attach token =>
    obtain ⟨known, ⟨⟩⟩ := Option.ite_none_right_eq_some.mp stepped
    exact keyed.progress (by simp [known]) rfl rfl (fun _ _ found => found) (by
      simp [State.post, State.setFate])
  | fail token error =>
    obtain ⟨known, ⟨⟩⟩ := Option.ite_none_right_eq_some.mp stepped
    exact keyed.progress (by simp [known]) rfl rfl (fun _ _ found => found) (by
      simp [State.post, State.setFate])
  | duplicate token existing =>
    obtain ⟨⟨known, -⟩, ⟨⟩⟩ := Option.ite_none_right_eq_some.mp stepped
    exact keyed.progress (by simp [known]) rfl rfl (fun _ _ found => found) (by
      simp [State.post, State.setFate])
  | remove token =>
    simp only [State.step] at stepped
    cases fate : s.torrents token <;> simp only [fate, Option.some.injEq, reduceCtorEq] at stepped
    all_goals
      subst stepped
      exact keyed.progress (by simp [fate]) rfl rfl (fun _ _ found => found) (by
        simp [State.post, State.setFate])
  | expire token =>
    obtain ⟨known, ⟨⟩⟩ := Option.ite_none_right_eq_some.mp stepped
    exact keyed.progress (by simp [known]) rfl rfl (fun _ _ found => found) (fun _ posted => posted)

end Keyed

/-! ## The steps of the system, as moves under a token -/

section Moves

variable {P : AddView δ → Prop} {s t : State δ}

theorem setFate_addView_of_ne {token u : Token} (other : u ≠ token) (fate : Fate) :
    (s.setFate token fate).addView u = s.addView u := by
  simp [State.addView, State.setFate, other]

theorem setFate_addView (token : Token) (fate : Fate) :
    (s.setFate token fate).addView token = { s.addView token with fate := fate } := by
  simp [State.addView, State.setFate]

theorem post_addView_of_not {alert : Alert} {u : Token} (other : alert.carries u = false) :
    (s.post alert).addView u = s.addView u := by
  simp [State.addView, State.post, other]

theorem post_addView {alert : Alert} {u : Token} (own : alert.carries u = true) :
    (s.post alert).addView u = (s.addView u).post alert := by
  simp [State.addView, State.post, AddView.post, own]

/-- A step that changes the fate of `token` and posts the alert that says so. -/
theorem announce {token u : Token} {fate : Fate} {alert : Alert}
    (carries : ∀ u, alert.carries u = (token == u))
    (moved : AddMove P token (s.addView token)
      ({ s.addView token with fate := fate }.post alert)) :
    AddMove P u (s.addView u) (((s.setFate token fate).post alert).addView u) := by
  by_cases own : u = token
  · subst own
    apply moved.to
    rw [post_addView (by simp [carries]), setFate_addView]
  · apply AddMove.idle.to
    rw [post_addView_of_not (by simp [carries, Ne.symm own]), setFate_addView_of_ne own]

theorem surviving_spec (s : State δ) (u : Token) (result : Except Error Handle) :
    (∀ h, s.surviving u result = some h → result = .ok h ∧
      (u ≠ 0 → h = u ∧ (s.torrents u).alive = true)) ∧
    (s.surviving u result = none → result = .ok u → (s.torrents u).alive = false) := by
  constructor
  · intro h stored
    cases result with
    | error e => cases stored
    | ok handle =>
      obtain ⟨attached, ⟨⟩⟩ := Option.ite_none_right_eq_some.mp stored
      refine ⟨rfl, fun minted => ?_⟩
      simp only [State.userdata] at attached
      split at attached
      case h_1 fate => exact ⟨attached, by rw [← attached, fate]; rfl⟩
      case h_2 fate => exact ⟨attached, by rw [← attached, fate]; rfl⟩
      case h_3 => exact absurd attached.symm minted
  · rintro gone rfl
    by_contra living
    have same : s.userdata u = u := by
      unfold State.userdata
      cases fate : s.torrents u <;> simp_all [Fate.alive]
    simp [State.surviving, same] at gone

theorem sendAll_sender (keyed : Keyed s) (token u : Token) (r : Except Error Handle) :
    Channel.sendAll s.adds (s.registry.addTorrent.lookup token).toList r u =
      if u = token then (s.addView u).release r else s.adds u := by
  cases found : s.registry.addTorrent.lookup token with
  | none =>
    by_cases own : u = token
    · subst own
      simp [Channel.sendAll, AddView.release, State.addView, found]
    · simp [Channel.sendAll, own]
  | some c =>
    obtain rfl := keyed.sender token c found
    by_cases own : u = c
    · subst own
      simp [Channel.sendAll, AddView.release, State.addView, found]
    · simp [Channel.sendAll, own]

theorem answered_move (keyed : Keyed s) {token u : Token} {error : Option Error}
    {handle : Option Handle} {rest : List Alert}
    (queued : s.stream = .addTorrent token error handle :: rest)
    (allowed : u = token → P (s.addView u)) :
    AddMove P u (s.addView u)
      ((State.dispatch { s with stream := rest } (.addTorrent token error handle)).addView u) := by
  have sent := sendAll_sender keyed token u (State.addResult error handle)
  by_cases own : u = token
  · subst own
    have spec := surviving_spec { s with stream := rest } u (State.addResult error handle)
    have pending : (s.addView u).pending =
        .addTorrent u error handle :: rest.filter (Alert.carries u) := by
      simp [State.addView, queued, Alert.carries]
    apply (AddMove.answered _ pending (allowed rfl) spec.1 spec.2).to
    rw [if_pos rfl] at sent
    cases stored : State.surviving { s with stream := rest } u (State.addResult error handle) with
    | none =>
      simp [State.dispatch, State.resolveAddTorrent, Registry.resolveAddTorrent, stored,
        State.addView, sent]
    | some h =>
      simp [State.dispatch, State.resolveAddTorrent, Registry.resolveAddTorrent, stored,
        State.addView, sent]
  · rw [if_neg own] at sent
    apply AddMove.idle.to
    cases stored : State.surviving { s with stream := rest } token (State.addResult error handle) with
    | none =>
      simp [State.dispatch, State.resolveAddTorrent, Registry.resolveAddTorrent, stored,
        State.addView, sent, queued, Alert.carries, own, Ne.symm own]
    | some h =>
      simp [State.dispatch, State.resolveAddTorrent, Registry.resolveAddTorrent, stored,
        State.addView, sent, queued, Alert.carries, own, Ne.symm own]

theorem swept_move {token u : Token} {rest : List Alert}
    (queued : s.stream = .torrentRemoved token :: rest) :
    AddMove P u (s.addView u)
      ((State.dispatch { s with stream := rest } (.torrentRemoved token)).addView u) := by
  by_cases own : u = token
  · subst own
    have pending : (s.addView u).pending = .torrentRemoved u :: rest.filter (Alert.carries u) := by
      simp [State.addView, queued, Alert.carries]
    apply (AddMove.swept pending).to
    by_cases zero : u = 0 <;>
      simp [State.dispatch, Registry.resolveTorrentRemoved, zero, State.addView]
  · apply AddMove.idle.to
    by_cases zero : token = 0
    · have nonzero : u ≠ 0 := zero ▸ own
      simp [State.dispatch, Registry.resolveTorrentRemoved, zero, State.addView, queued,
        Alert.carries, nonzero, nonzero.symm]
    · simp [State.dispatch, Registry.resolveTorrentRemoved, zero, State.addView, queued,
        Alert.carries, own, Ne.symm own]

theorem dispatch_add (keyed : Keyed s) {alert : Alert} {rest : List Alert}
    (queued : s.stream = alert :: rest) (u : Token)
    (allowed : ∀ error handle, alert = .addTorrent u error handle → P (s.addView u)) :
    AddMove P u (s.addView u) ((State.dispatch { s with stream := rest } alert).addView u) := by
  cases alert with
  | sessionStats n counters =>
    apply AddMove.idle.to
    cases front : s.registry.sessionStats <;>
      simp [State.dispatch, State.resolveSessionStats, Registry.resolveSessionStats, front,
        State.addView, queued, Alert.carries]
  | addTorrent userdata error handle =>
    apply answered_move keyed queued
    rintro rfl
    exact allowed error handle rfl
  | torrentRemoved userdata => exact swept_move queued
  | alertsDropped dropped =>
    have silent := keyed.lossless dropped (queued ▸ List.mem_cons_self)
    apply AddMove.idle.to
    simp [State.dispatch, Registry.handleAlertsDropped, silent, State.addView, queued,
      Alert.carries, Channel.sendAll]

theorem step_add (keyed : Keyed s) {a : Action δ} (u : Token)
    (allowed : ∀ error handle rest, a = .process → s.stream = .addTorrent u error handle :: rest →
      P (s.addView u))
    (stepped : s.step a = some t) : AddMove P u (s.addView u) (t.addView u) := by
  cases a with
  | sessionStats post =>
    simp only [State.step, Registry.enqueueSessionStats] at stepped
    cases ended : s.registry.closed with
    | true =>
      obtain ⟨⟩ : t = s := by simpa [ended] using stepped.symm
      exact .idle
    | false =>
      cases post with
      | error e =>
        obtain ⟨⟩ : t = s := by simpa [ended, Except.map] using stepped.symm
        exact .idle
      | ok =>
        simp only [ended, Except.map, Bool.false_eq_true, if_false, Option.some.injEq] at stepped
        subst stepped
        exact .idle
  | dropStats n =>
    obtain ⟨-, ⟨⟩⟩ := Option.ite_none_right_eq_some.mp stepped
    exact .idle
  | enqueueAdd data =>
    -- the token is new: nothing is on its way under it
    simp only [State.step, Registry.enqueueAddTorrent] at stepped
    cases ended : s.registry.closed with
    | true =>
      obtain ⟨⟩ : t = s := by simpa [ended] using stepped.symm
      exact .idle
    | false =>
      simp only [ended, Bool.false_eq_true, if_false, Option.some.injEq] at stepped
      subst stepped
      by_cases own : u = s.nextId + 1
      · subst own
        have fresh : (s.addView (s.nextId + 1)).fate = .unused :=
          keyed.unused _ (Nat.lt_succ_self _)
        apply (AddMove.minted data fresh (Nat.succ_ne_zero _)).to
        simp [State.addView, State.setFate]
      · apply AddMove.idle.to
        simp [State.addView, State.setFate, own]
  | accepted token =>
    obtain ⟨posting, ⟨⟩⟩ := Option.ite_none_right_eq_some.mp stepped
    by_cases own : u = token
    · subst own
      exact (AddMove.accepted (v := s.addView u) posting).to (setFate_addView u .posted)
    · exact AddMove.idle.to (setFate_addView_of_ne own .posted)
  | refused token =>
    obtain ⟨posting, ⟨⟩⟩ := Option.ite_none_right_eq_some.mp stepped
    by_cases own : u = token
    · subst own
      apply (AddMove.refused (v := s.addView u) posting).to
      simp [State.addView, State.setFate, Registry.abortAddTorrent]
    · apply AddMove.idle.to
      simp [State.addView, State.setFate, Registry.abortAddTorrent, own]
  | dropAdd token =>
    -- the caller holds a future only after the call that posted has returned
    obtain ⟨returned, ⟨⟩⟩ := Option.ite_none_right_eq_some.mp stepped
    by_cases own : u = token
    · subst own
      obtain ⟨⟨known, settled⟩, posted⟩ : (s.torrents u ≠ .unused ∧ s.torrents u ≠ .posting) ∧
          s.torrents u ≠ .refused := by simpa [State.returned] using returned
      have called : (s.addView u).fate.called = true := by
        change (s.torrents u).called = true
        cases fate : s.torrents u <;> simp_all [Fate.called]
      apply (AddMove.dropped called settled).to
      simp [State.addView, Registry.cancelAddTorrent]
    · apply AddMove.idle.to
      simp [State.addView, Registry.cancelAddTorrent, own]
  | setClientData token data =>
    simp only [State.step, Registry.setClientData] at stepped
    cases present : s.registry.clientData.lookup token with
    | none =>
      obtain ⟨⟩ : t = s := by simpa [present] using stepped.symm
      exact .idle
    | some old =>
      simp only [present, Option.some.injEq] at stepped
      subst stepped
      by_cases own : u = token
      · subst own
        apply (AddMove.replaced (v := s.addView u) data present).to
        simp [State.addView]
      · apply AddMove.idle.to
        simp [State.addView, own]
  | close =>
    -- all senders are failed together; each token sees its own
    obtain ⟨⟩ := stepped
    apply AddMove.closed.to
    have sent := Channel.sendAll_of_nodup _ (senders_nodup keyed.sender) (.error closedError) u s.adds
    by_cases held : (s.registry.addTorrent.lookup u).isSome = true
    · rw [if_pos ((mem_senders keyed.sender u).mpr held)] at sent
      simp [State.close, Registry.close, State.addView, sent, AddView.release, held]
    · rw [if_neg (fun present => held ((mem_senders keyed.sender u).mp present))] at sent
      simp [State.close, Registry.close, State.addView, sent, AddView.release, held]
  | process =>
    simp only [State.step] at stepped
    cases queued : s.stream with
    | nil => simp [queued] at stepped
    | cons alert rest =>
      simp only [queued, Option.some.injEq] at stepped
      subst stepped
      apply dispatch_add keyed queued
      rintro error handle rfl
      exact allowed error handle rest rfl queued
  | answerStats counters delivered =>
    simp only [State.step] at stepped
    cases pending : s.asked with
    | nil => simp [pending] at stepped
    | cons n rest =>
      cases delivered with
      | true =>
        simp only [pending, if_true, Option.some.injEq] at stepped
        subst stepped
        apply AddMove.idle.to
        simp [State.addView, State.post, Alert.carries]
      | false =>
        simp only [pending, Bool.false_eq_true, if_false, Option.some.injEq] at stepped
        subst stepped
        exact .idle
  | overflow dropped =>
    obtain ⟨⟩ := stepped
    exact AddMove.idle.to (post_addView_of_not rfl)
  | attach token =>
    obtain ⟨posted, ⟨⟩⟩ := Option.ite_none_right_eq_some.mp stepped
    exact announce (fun _ => rfl) (.attached posted)
  | fail token error =>
    obtain ⟨posted, ⟨⟩⟩ := Option.ite_none_right_eq_some.mp stepped
    exact announce (fun _ => rfl) (.failed error posted)
  | duplicate token existing =>
    obtain ⟨⟨posted, there⟩, ⟨⟩⟩ := Option.ite_none_right_eq_some.mp stepped
    have different : existing ≠ token := by
      rintro rfl
      rw [posted] at there
      cases there
    exact announce (fun _ => rfl) (.duplicate existing posted different)
  | remove token =>
    simp only [State.step] at stepped
    cases fate : s.torrents token with
    | attached =>
      obtain ⟨⟩ : t = (s.setFate token .removed).post (.torrentRemoved token) := by
        simpa [fate] using stepped.symm
      exact announce (fun _ => rfl) (.removed fate)
    | failed error =>
      obtain ⟨⟩ : t = (s.setFate token (.failedRemoved error)).post (.torrentRemoved token) := by
        simpa [fate] using stepped.symm
      exact announce (fun _ => rfl) (.failedRemoved fate)
    | _ => simp [fate] at stepped
  | expire token =>
    obtain ⟨removed, ⟨⟩⟩ := Option.ite_none_right_eq_some.mp stepped
    by_cases own : u = token
    · subst own
      exact (AddMove.expired (v := s.addView u) removed).to (setFate_addView u .expired)
    · exact AddMove.idle.to (setFate_addView_of_ne own .expired)

end Moves

/-! ## What every run keeps under a token -/

/-- The alerts on their way are those the fate calls for, in their order. -/
structure Announced (u : Token) (v : AddView δ) : Prop where
  token : v.fate ≠ .unused → u ≠ 0
  pending : v.pending = (if v.answered then [] else (v.fate.addAlert u).toList) ++
    (if v.swept then [] else (v.fate.removedAlert u).toList)
  answered : v.answered = true → (v.fate.addAlert u).isSome = true
  swept : v.swept = true → v.answered = true ∧ (v.fate.removedAlert u).isSome = true
  distinct : ∀ existing, v.fate = .duplicate existing → existing ≠ u

namespace Announced

variable {P : AddView δ → Prop} {u : Token} {v w : AddView δ}

theorem not_swept (announced : Announced u v) (silent : v.fate.removedAlert u = none) :
    v.swept = false := by
  by_contra swept
  have posted := (announced.swept (by simpa using swept)).2
  rw [silent] at posted
  cases posted

theorem not_answered (announced : Announced u v) (silent : v.fate.addAlert u = none) :
    v.answered = false := by
  by_contra answered
  have posted := announced.answered (by simpa using answered)
  rw [silent] at posted
  cases posted

/-- A change of fate that posts no alert. -/
theorem quiet (announced : Announced u v) {fate : Fate} (token : u ≠ 0)
    (sameAdd : fate.addAlert u = v.fate.addAlert u)
    (sameRemoved : fate.removedAlert u = v.fate.removedAlert u)
    (distinct : ∀ existing, fate = .duplicate existing → existing ≠ u) :
    Announced u { v with fate } where
  token := fun _ => token
  pending := by
    change v.pending = _
    rw [announced.pending, ← sameAdd, ← sameRemoved]
  answered := fun answered => by
    rw [sameAdd]
    exact announced.answered answered
  swept := fun swept => by
    rw [sameRemoved]
    exact announced.swept swept
  distinct := distinct

/-- A change of fate that posts the `add_torrent` alert. -/
theorem decided (announced : Announced u v) {fate : Fate} {alert : Alert} (posted : v.fate = .posted)
    (added : fate.addAlert u = some alert) (removed : fate.removedAlert u = none)
    (distinct : ∀ existing, fate = .duplicate existing → existing ≠ u) :
    Announced u ({ v with fate }.post alert) := by
  have open_ : v.answered = false := announced.not_answered (by rw [posted]; rfl)
  have unswept : v.swept = false := announced.not_swept (by rw [posted]; rfl)
  have empty : v.pending = [] := by
    rw [announced.pending, open_, unswept, posted]
    rfl
  refine ⟨fun _ => announced.token (by simp [posted]), ?_, ?_, ?_, distinct⟩
  · simp [AddView.post, empty, open_, unswept, added, removed]
  · simp [AddView.post, open_]
  · simp [AddView.post, unswept]

/-- A change of fate that posts the `torrent_removed` alert. -/
theorem detached (announced : Announced u v) {fate : Fate}
    (known : v.fate ≠ .unused) (sameAdd : fate.addAlert u = v.fate.addAlert u)
    (silent : v.fate.removedAlert u = none)
    (removed : fate.removedAlert u = some (.torrentRemoved u))
    (distinct : ∀ existing, fate = .duplicate existing → existing ≠ u) :
    Announced u ({ v with fate }.post (.torrentRemoved u)) := by
  have unswept : v.swept = false := announced.not_swept silent
  have pending := announced.pending
  rw [silent] at pending
  refine ⟨fun _ => announced.token known, ?_, ?_, ?_, distinct⟩
  · simp [AddView.post, pending, unswept, sameAdd, removed]
  · intro answered
    change (fate.addAlert u).isSome = true
    rw [sameAdd]
    exact announced.answered answered
  · intro swept
    change v.swept = true at swept
    rw [unswept] at swept
    cases swept

/-- The `add_torrent` alert of the token is the first of its alerts. -/
theorem answer (announced : Announced u v) {error : Option Error} {handle : Option Handle}
    {rest : List Alert} (first : v.pending = .addTorrent u error handle :: rest) :
    v.answered = false ∧ v.fate.addAlert u = some (.addTorrent u error handle) ∧
      rest = (if v.swept then [] else (v.fate.removedAlert u).toList) := by
  have pending := announced.pending
  rw [first] at pending
  cases answered : v.answered with
  | true =>
    cases swept : v.swept <;> cases fate : v.fate <;>
      simp [answered, swept, fate, Fate.removedAlert] at pending
  | false =>
    cases added : v.fate.addAlert u with
    | none =>
      rw [answered, added] at pending
      cases swept : v.swept <;> cases fate : v.fate <;>
        simp [swept, fate, Fate.removedAlert] at pending
    | some alert =>
      rw [answered, added] at pending
      simp only [Bool.false_eq_true, if_false, Option.toList_some, List.singleton_append,
        List.cons.injEq] at pending
      exact ⟨rfl, congrArg some pending.1.symm, pending.2⟩

/-- When the `torrent_removed` alert is first, the add was answered. -/
theorem sweep (announced : Announced u v) {rest : List Alert}
    (first : v.pending = .torrentRemoved u :: rest) :
    v.answered = true ∧ v.swept = false ∧ rest = [] ∧
      v.fate.removedAlert u = some (.torrentRemoved u) := by
  have pending := announced.pending
  rw [first] at pending
  cases answered : v.answered with
  | true =>
    cases swept : v.swept with
    | true => simp [answered, swept] at pending
    | false =>
      cases fate : v.fate <;> simp_all [Fate.removedAlert]
  | false =>
    cases swept : v.swept <;> cases fate : v.fate <;>
      simp [answered, swept, fate, Fate.addAlert, Fate.removedAlert] at pending

theorem move (announced : Announced u v) (moved : AddMove P u v w) : Announced u w := by
  cases moved with
  | idle => exact announced
  | minted data unused token =>
    have quiet : Announced u { v with fate := .posting } :=
      announced.quiet token (by rw [unused]; rfl) (by rw [unused]; rfl) (by simp)
    exact { quiet with }
  | accepted posting =>
    exact announced.quiet (announced.token (by simp [posting])) (by rw [posting]; rfl)
      (by rw [posting]; rfl) (by simp)
  | refused posting =>
    have quiet : Announced u { v with fate := .refused } :=
      announced.quiet (announced.token (by simp [posting])) (by rw [posting]; rfl)
        (by rw [posting]; rfl) (by simp)
    exact { quiet with }
  | dropped | replaced | closed => exact { announced with }
  | attached posted => exact announced.decided posted rfl rfl (by simp)
  | failed error posted => exact announced.decided posted rfl rfl (by simp)
  | duplicate existing posted different =>
    apply announced.decided posted rfl rfl
    rintro other ⟨⟩
    exact different
  | removed attached =>
    exact announced.detached (by simp [attached]) (by rw [attached]; rfl) (by rw [attached]; rfl)
      rfl (by simp)
  | failedRemoved failed =>
    exact announced.detached (by simp [failed]) (by rw [failed]; rfl) (by rw [failed]; rfl) rfl
      (by simp)
  | expired removed =>
    exact announced.quiet (announced.token (by simp [removed])) (by rw [removed]; rfl)
      (by rw [removed]; rfl) (by simp)
  | answered stored first =>
    obtain ⟨_, added, rest⟩ := announced.answer first
    exact { announced with
      pending := by simpa using rest
      answered := fun _ => by simp [added]
      swept := fun swept => ⟨rfl, (announced.swept swept).2⟩ }
  | swept first =>
    obtain ⟨answered, _, rest, posted⟩ := announced.sweep first
    exact { announced with
      pending := by simp [rest, answered]
      swept := fun _ => ⟨answered, by simp [posted]⟩ }

end Announced

/-- The alert carries what libtorrent decided. -/
theorem Fate.outcome_of_addAlert {fate : Fate} {u : Token} {error : Option Error}
    {handle : Option Handle} (added : fate.addAlert u = some (.addTorrent u error handle)) :
    fate.outcome u = some (State.addResult error handle) := by
  cases fate with
  | unused | posting | refused | posted => cases added
  | failed | failedRemoved | duplicate | attached | removed | expired =>
    simp only [Fate.addAlert, Option.some.injEq, Alert.addTorrent.injEq, true_and] at added
    obtain ⟨rfl, rfl⟩ := added
    rfl

/-- A future is resolved at most once, with the outcome of its token or because
the session was closed. -/
structure Resolved (u : Token) (v : AddView δ) : Prop where
  announced : Announced u v
  waiting : v.sender.isSome = true → v.channel.resolved = [] ∧ v.answered = false
  unused : v.fate = .unused →
    v.channel.resolved = [] ∧ v.sender = none ∧ v.data = none ∧ v.handle = none
  once : v.channel.resolved.length ≤ 1
  own : ∀ r ∈ v.channel.resolved, r = .error closedError ∨ v.fate.outcome u = some r

namespace Resolved

variable {P : AddView δ → Prop} {u : Token} {v w : AddView δ}

theorem released (resolved : Resolved u v) (r : Except Error Handle) :
    (v.release r).resolved = v.channel.resolved ∨ (v.release r).resolved = [r] := by
  unfold AddView.release
  split
  case isTrue held =>
    have empty := (resolved.waiting held).1
    rcases Channel.send_resolved v.channel r with same | sent
    · exact .inl same
    · exact .inr (by rw [sent, empty]; rfl)
  case isFalse => exact .inl rfl

/-- A change of fate that keeps what was decided. -/
theorem fate (resolved : Resolved u v) {fate : Fate} {alerts : List Alert}
    (announced : Announced u { v with fate, pending := alerts }) (used : fate ≠ .unused)
    (outcome : ∀ r, v.fate.outcome u = some r → fate.outcome u = some r) :
    Resolved u { v with fate, pending := alerts } where
  announced := announced
  waiting := resolved.waiting
  unused := fun unused => absurd unused used
  once := resolved.once
  own := fun r member => (resolved.own r member).imp_right (outcome r)

theorem move (resolved : Resolved u v) (moved : AddMove P u v w) : Resolved u w := by
  have announced := resolved.announced.move moved
  cases moved with
  | idle => exact resolved
  | minted data unused token =>
    obtain ⟨empty, -⟩ := resolved.unused unused
    have answered : v.answered = false :=
      resolved.announced.not_answered (by rw [unused]; rfl)
    refine ⟨announced, fun _ => ⟨empty, answered⟩, fun later => (by cases later),
      resolved.once, ?_⟩
    simp [empty]
  | accepted posting => exact resolved.fate announced (by simp) (by simp [posting, Fate.outcome])
  | refused posting =>
    refine ⟨announced, fun held => (by cases held), fun later => (by cases later),
      resolved.once, ?_⟩
    intro r member
    have own := resolved.own r member
    rw [posting] at own
    exact own
  | dropped called =>
    refine ⟨announced, fun held => (by cases held), fun unused => ?_, resolved.once,
      resolved.own⟩
    change v.fate = .unused at unused
    rw [unused] at called
    cases called
  | replaced data old =>
    refine ⟨announced, resolved.waiting, fun unused => ?_, resolved.once, resolved.own⟩
    rw [(resolved.unused unused).2.2.1] at old
    cases old
  | closed =>
    refine ⟨announced, fun held => (by cases held), fun unused => ?_, ?_, ?_⟩
    · obtain ⟨empty, sender, stored⟩ := resolved.unused unused
      have same : v.release (.error closedError) = v.channel := by simp [AddView.release, sender]
      exact ⟨by rw [same, empty], rfl, stored⟩
    · rcases resolved.released (.error closedError) with same | sent
      · exact same ▸ resolved.once
      · simp [sent]
    · intro r member
      rcases resolved.released (.error closedError) with same | sent
      · exact resolved.own r (same ▸ member)
      · exact .inl (by simpa [sent] using member)
  | attached posted =>
    exact resolved.fate announced (by simp) (by simp [posted, Fate.outcome])
  | failed error posted =>
    exact resolved.fate announced (by simp) (by simp [posted, Fate.outcome])
  | duplicate existing posted =>
    exact resolved.fate announced (by simp) (by simp [posted, Fate.outcome])
  | removed attached =>
    exact resolved.fate announced (by simp) (by simp [attached, Fate.outcome])
  | failedRemoved failed =>
    exact resolved.fate announced (by simp) (by simp [failed, Fate.outcome])
  | expired removed =>
    exact resolved.fate announced (by simp) (by simp [removed, Fate.outcome])
  | @answered error handle rest stored first =>
    obtain ⟨open_, added, -⟩ := resolved.announced.answer first
    have decided := Fate.outcome_of_addAlert added
    refine ⟨announced, fun held => (by cases held), fun unused => ?_, ?_, ?_⟩
    · change v.fate = .unused at unused
      rw [unused] at decided
      cases decided
    · rcases resolved.released (State.addResult error handle) with same | sent
      · exact same ▸ resolved.once
      · simp [sent]
    · intro r member
      rcases resolved.released (State.addResult error handle) with same | sent
      · exact resolved.own r (same ▸ member)
      · obtain rfl : r = State.addResult error handle := by simpa [sent] using member
        exact .inr decided
  | swept first =>
    obtain ⟨answered, _, _, posted⟩ := resolved.announced.sweep first
    refine ⟨announced, resolved.waiting, fun unused => ?_, resolved.once, resolved.own⟩
    change v.fate = .unused at unused
    rw [unused] at posted
    cases posted

end Resolved

/-! ## Which tokens have data and a handle -/

/-- The add is posted and its alert is not processed, or its torrent attached and
the removal alert is not processed. -/
def AddView.live (v : AddView δ) : Bool :=
  (v.fate.called && !v.answered) || (v.fate.joined && !v.swept)

structure Kept (u : Token) (v : AddView δ) : Prop where
  resolved : Resolved u v
  data : v.data.isSome = v.live
  handle : v.handle = if v.answered && v.fate.joined && !v.swept then some u else none

namespace Kept

variable {u : Token} {v w : AddView δ}

theorem move (kept : Kept u v) (moved : AddMove (fun v => v.fate ≠ .expired) u v w) :
    Kept u w := by
  have resolved := kept.resolved.move moved
  have announced := kept.resolved.announced
  have data := kept.data
  have handle := kept.handle
  cases moved with
  | idle => exact kept
  | minted data unused token =>
    have open_ : v.answered = false := announced.not_answered (by rw [unused]; rfl)
    refine ⟨resolved, ?_, ?_⟩
    · simp [AddView.live, Fate.called, open_]
    · simp [handle, open_]
  | accepted posting =>
    refine ⟨resolved, ?_, ?_⟩
    · simpa [AddView.live, posting, Fate.called, Fate.joined] using data
    · simpa [posting, Fate.joined] using handle
  | refused posting =>
    refine ⟨resolved, ?_, ?_⟩
    · simp [AddView.live, Fate.called, Fate.joined]
    · simpa [posting, Fate.joined] using handle
  | dropped | closed => exact ⟨resolved, data, handle⟩
  | replaced new old =>
    refine ⟨resolved, ?_, handle⟩
    change true = v.live
    rw [← data, old]
    rfl
  | attached posted | failed _ posted | duplicate _ posted =>
    have open_ : v.answered = false := announced.not_answered (by rw [posted]; rfl)
    refine ⟨resolved, ?_, ?_⟩
    · simpa [AddView.live, AddView.post, posted, Fate.called, Fate.joined, open_] using data
    · simpa [AddView.post, open_] using handle
  | removed same | failedRemoved same =>
    refine ⟨resolved, ?_, ?_⟩
    · simpa [AddView.live, AddView.post, same, Fate.called, Fate.joined] using data
    · simpa [AddView.post, same, Fate.joined] using handle
  | expired removed =>
    refine ⟨resolved, ?_, ?_⟩
    · simpa [AddView.live, removed, Fate.called, Fate.joined] using data
    · simpa [removed, Fate.joined] using handle
  | @answered error handle rest stored first there survived gone =>
    obtain ⟨open_, added, -⟩ := announced.answer first
    have decided := Fate.outcome_of_addAlert added
    have called : v.fate.called = true := by
      cases fate : v.fate <;> simp_all [Fate.called, Fate.addAlert]
    have token : u ≠ 0 := announced.token (by
      intro unused
      rw [unused] at called
      cases called)
    have unswept : v.swept = false := by
      by_contra swept
      have before := (announced.swept (by simpa using swept)).1
      rw [open_] at before
      cases before
    cases kind : stored with
    | some h =>
      -- the torrent attached under the token and is still there
      obtain ⟨-, own⟩ := survived h kind
      obtain ⟨rfl, alive⟩ := own token
      have joined : v.fate.joined = true := by
        cases fate : v.fate <;> simp_all [Fate.alive, Fate.joined]
      refine ⟨kind ▸ resolved, ?_, ?_⟩
      · simpa [AddView.live, called, open_, joined, unswept] using data
      · simp [joined, unswept]
    | none =>
      have apart : v.fate.joined = false := by
        by_contra joined
        have own : State.addResult error handle = .ok u := by
          cases fate : v.fate <;> simp_all [Fate.joined, Fate.outcome]
        have dead := gone kind own
        cases fate : v.fate <;> simp_all [Fate.joined, Fate.alive]
      refine ⟨kind ▸ resolved, ?_, ?_⟩
      · simp [AddView.live, apart]
      · simp [kept.handle, open_, apart]
  | swept first =>
    obtain ⟨answered, -, -, posted⟩ := announced.sweep first
    have token : u ≠ 0 := announced.token (by
      intro unused
      rw [unused] at posted
      cases posted)
    refine ⟨resolved, ?_, ?_⟩
    · simp [AddView.live, token, answered]
    · simp [token]

end Kept

/-- Reclaimed data stays reclaimed. -/
theorem AddMove.reclaimed {P : AddView δ → Prop} {u : Token} {v w : AddView δ}
    (moved : AddMove P u v w) (known : v.fate ≠ .unused) (empty : v.data = none) :
    w.fate ≠ .unused ∧ w.data = none := by
  cases moved with
  | minted _ unused => exact absurd unused known
  | replaced _ present =>
    rw [empty] at present
    cases present
  | refused => exact ⟨by simp, rfl⟩
  | accepted | expired => exact ⟨by simp, empty⟩
  | attached | failed | duplicate | removed | failedRemoved => exact ⟨by simp [AddView.post], empty⟩
  | idle | dropped | closed => exact ⟨known, empty⟩
  | answered stored =>
    refine ⟨known, ?_⟩
    by_cases kept : stored.isSome <;> simp [kept, empty]
  | swept => exact ⟨known, by simp [empty]⟩

/-! ## Runs -/

namespace State

/-- Every add future is resolved at most once, with what libtorrent decided for
its token unless the session was closed. -/
def OwnOutcomes (s : State δ) : Prop :=
  ∀ u, (s.adds u).resolved.length ≤ 1 ∧ ∀ r ∈ (s.adds u).resolved,
    r = .error closedError ∨ (s.torrents u).outcome u = some r

/-- The add under the token is posted and its alert is not processed. -/
def Unanswered (s : State δ) (u : Token) : Prop :=
  (s.torrents u).called = true ∧ s.answered u = false

/-- A torrent attached under the token and its removal alert is not processed. -/
def Present (s : State δ) (u : Token) : Prop :=
  (s.torrents u).joined = true ∧ s.swept u = false

/-- The tokens with client data and with a handle are those they should be. -/
def Exact (s : State δ) : Prop :=
  ∀ u, ((s.registry.clientData.lookup u).isSome = true ↔ s.Unanswered u ∨ s.Present u) ∧
    ((s.registry.handles.lookup u).isSome = true ↔ s.Present u ∧ s.answered u = true) ∧
    ∀ h, s.registry.handles.lookup u = some h → h = u

/-- No alert is lost, and no torrent is destroyed before its own `add_torrent`
alert is processed. -/
def timely (s : State δ) (a : Action δ) : Prop :=
  a.lossless ∧ ∀ u error handle rest, a = .process →
    s.stream = .addTorrent u error handle :: rest → s.torrents u ≠ .expired

end State

/-- The token whose client data and handle a step may change. -/
def Action.key (s : State δ) : Action δ → Option Token
  | .enqueueAdd _ => some (s.nextId + 1)
  | .refused token | .setClientData token _ => some token
  | .process =>
    match s.stream with
    | .addTorrent token _ _ :: _ | .torrentRemoved token :: _ => some token
    | _ => none
  | _ => none

section Frame

variable {s t : State δ}

theorem dispatch_frame {alert : Alert} {rest : List Alert} {u : Token}
    (other : ∀ token, alert.carries token = true → u ≠ token) :
    (State.dispatch { s with stream := rest } alert).registry.clientData.lookup u =
        s.registry.clientData.lookup u ∧
      (State.dispatch { s with stream := rest } alert).registry.handles.lookup u =
        s.registry.handles.lookup u := by
  cases alert with
  | sessionStats n counters =>
    cases front : s.registry.sessionStats <;>
      simp [State.dispatch, State.resolveSessionStats, Registry.resolveSessionStats, front]
  | addTorrent token error handle =>
    have apart : u ≠ token := other token (by simp [Alert.carries])
    cases stored : State.surviving { s with stream := rest } token (State.addResult error handle) <;>
      simp [State.dispatch, State.resolveAddTorrent, Registry.resolveAddTorrent, stored, apart]
  | torrentRemoved token =>
    have apart : u ≠ token := other token (by simp [Alert.carries])
    by_cases zero : token = 0 <;>
      simp_all [State.dispatch, Registry.resolveTorrentRemoved]
  | alertsDropped dropped => exact ⟨rfl, rfl⟩

/-- A step leaves the client data and the handles of all other tokens alone. -/
theorem step_frame {a : Action δ} (stepped : s.step a = some t) {u : Token}
    (other : a.key s ≠ some u) :
    t.registry.clientData.lookup u = s.registry.clientData.lookup u ∧
      t.registry.handles.lookup u = s.registry.handles.lookup u := by
  cases a with
  | sessionStats post =>
    simp only [State.step, Registry.enqueueSessionStats] at stepped
    cases ended : s.registry.closed <;> cases post <;>
      simp only [ended, Except.map, Bool.false_eq_true, if_true, if_false, Option.some.injEq]
        at stepped <;>
      subst stepped <;> exact ⟨rfl, rfl⟩
  | enqueueAdd data =>
    have apart : u ≠ s.nextId + 1 := fun own => other (congrArg some own.symm)
    simp only [State.step, Registry.enqueueAddTorrent] at stepped
    cases ended : s.registry.closed with
    | true =>
      obtain ⟨⟩ : t = s := by simpa [ended] using stepped.symm
      exact ⟨rfl, rfl⟩
    | false =>
      simp only [ended, Bool.false_eq_true, if_false, Option.some.injEq] at stepped
      subst stepped
      simp [apart]
  | refused token =>
    have apart : u ≠ token := fun own => other (congrArg some own.symm)
    obtain ⟨-, ⟨⟩⟩ := Option.ite_none_right_eq_some.mp stepped
    simp [Registry.abortAddTorrent, apart]
  | setClientData token data =>
    have apart : u ≠ token := fun own => other (congrArg some own.symm)
    simp only [State.step, Registry.setClientData] at stepped
    cases present : s.registry.clientData.lookup token with
    | none =>
      obtain ⟨⟩ : t = s := by simpa [present] using stepped.symm
      exact ⟨rfl, rfl⟩
    | some old =>
      simp only [present, Option.some.injEq] at stepped
      subst stepped
      simp [apart]
  | dropStats | accepted | dropAdd | attach | fail | duplicate | expire =>
    obtain ⟨-, ⟨⟩⟩ := Option.ite_none_right_eq_some.mp stepped
    exact ⟨rfl, rfl⟩
  | close | overflow =>
    obtain ⟨⟩ := stepped
    exact ⟨rfl, rfl⟩
  | process =>
    simp only [State.step] at stepped
    cases queued : s.stream with
    | nil => simp [queued] at stepped
    | cons alert rest =>
      simp only [queued, Option.some.injEq] at stepped
      subst stepped
      apply dispatch_frame
      rintro token carried rfl
      apply other
      cases alert <;> simp_all [Action.key, Alert.carries]
  | answerStats counters delivered =>
    simp only [State.step] at stepped
    cases pending : s.asked <;> cases delivered <;> simp [pending] at stepped <;>
      subst stepped <;> exact ⟨rfl, rfl⟩
  | remove token =>
    simp only [State.step] at stepped
    cases fate : s.torrents token <;> simp only [fate, Option.some.injEq, reduceCtorEq] at stepped
    all_goals
      subst stepped
      exact ⟨rfl, rfl⟩

end Frame

theorem keyed_run {s : State δ} (run : Run State.step (fun _ a => a.lossless) .init s) :
    Keyed s := by
  refine Run.invariant (I := fun s => Keyed s) keyed_init ?_ run
  intro t a u _ keyed lossless stepped
  exact keyed.step lossless stepped

theorem resolved_init (u : Token) : Resolved u ((State.init (δ := δ)).addView u) where
  announced :=
    { token := fun used => absurd rfl used
      pending := by simp [State.addView, State.init, Fate.addAlert, Fate.removedAlert]
      answered := by simp [State.addView, State.init]
      swept := by simp [State.addView, State.init]
      distinct := by simp [State.addView, State.init] }
  waiting := by simp [State.addView, State.init, Registry.new]
  unused := by simp [State.addView, State.init, Registry.new, Channel.new]
  once := by simp [State.addView, State.init, Channel.new]
  own := by simp [State.addView, State.init, Channel.new]

theorem resolved_run {s : State δ} (run : Run State.step (fun _ a => a.lossless) .init s)
    (u : Token) : Resolved u (s.addView u) := by
  refine Run.invariant (I := fun s => Resolved u (s.addView u)) (resolved_init u) ?_ run
  intro t a w reached resolved _ stepped
  exact resolved.move (step_add (P := fun _ => True) (keyed_run reached) u
    (fun _ _ _ _ _ => trivial) stepped)

theorem kept_run {s : State δ} (run : Run State.step State.timely .init s) (u : Token) :
    Kept u (s.addView u) := by
  refine Run.invariant (I := fun s => Kept u (s.addView u)) ?_ ?_ run
  · exact ⟨resolved_init u, by simp [State.addView, State.init, Registry.new, AddView.live,
      Fate.called, Fate.joined], by simp [State.addView, State.init, Registry.new]⟩
  · intro t a w reached kept timely stepped
    have keyed := keyed_run (reached.mono fun _ _ timely => timely.1)
    exact kept.move (step_add keyed u (timely.2 u) stepped)

/-- Data reclaimed from a minted token is not there after any further run. -/
theorem reclaimed_run {s t : State δ} (reached : Run State.step (fun _ a => a.lossless) .init s)
    (run : Run State.step (fun _ a => a.lossless) s t) {u : Token}
    (known : s.torrents u ≠ .unused) (gone : s.registry.clientData.lookup u = none) :
    t.torrents u ≠ .unused ∧ t.registry.clientData.lookup u = none := by
  refine Run.invariant (I := fun t => t.torrents u ≠ .unused ∧
    t.registry.clientData.lookup u = none) ⟨known, gone⟩ ?_ run
  intro w a x further kept _ stepped
  have moved := step_add (P := fun _ => True) (keyed_run (reached.trans further)) u
    (fun _ _ _ _ _ => trivial) stepped
  exact moved.reclaimed kept.1 kept.2

theorem Kept.exact {s : State δ} (kept : ∀ u, Kept u (s.addView u)) : s.Exact := by
  intro u
  have data := (kept u).data
  have handle := (kept u).handle
  have announced := (kept u).resolved.announced
  simp only [State.addView, AddView.live] at data handle
  refine ⟨?_, ?_, fun h found => ?_⟩
  · rw [data]
    simp [State.Unanswered, State.Present]
  · rw [handle]
    simp only [State.Present]
    by_cases answered : s.answered u <;> by_cases joined : (s.torrents u).joined <;>
      by_cases swept : s.swept u <;> simp [answered, joined, swept]
  · rw [handle] at found
    exact (Option.some.inj (Option.ite_none_right_eq_some.mp found).2).symm

/-- The life of an add when no alert is lost.  The last part needs that no torrent
is destroyed before its own `add_torrent` alert is processed. -/
theorem add_torrent_lifecycle {s : State δ}
    (run : Run State.step (fun _ a => a.lossless) .init s) :
    s.OwnOutcomes ∧
      (∀ a t, s.step a = some t → ∀ u, a.key s ≠ some u →
        t.registry.clientData.lookup u = s.registry.clientData.lookup u ∧
          t.registry.handles.lookup u = s.registry.handles.lookup u) ∧
      (∀ token existing, s.torrents token = .duplicate existing → existing ≠ token) ∧
      (∀ u t, s.torrents u ≠ .unused → s.registry.clientData.lookup u = none →
        Run State.step (fun _ a => a.lossless) s t → t.registry.clientData.lookup u = none) ∧
      (Run State.step State.timely .init s → s.Exact) := by
  refine ⟨?_, ?_, ?_, ?_, ?_⟩
  · intro u
    exact ⟨(resolved_run run u).once, (resolved_run run u).own⟩
  · intro a t stepped u other
    exact step_frame stepped other
  · intro token existing duplicate
    exact (resolved_run run token).announced.distinct existing duplicate
  · intro u t known gone further
    exact (reclaimed_run run further known gone).2
  · intro timely
    exact Kept.exact (kept_run timely)

/-! ## Concrete runs -/

def Action.overflows : Action δ → Bool
  | .overflow _ => true
  | _ => false

theorem Action.lossless_of_not {a : Action δ} (none : a.overflows = false) : a.lossless := by
  rintro dropped rfl
  cases none

/-- A decidable condition under which a step is timely. -/
def State.calm (s : State δ) (a : Action δ) : Bool :=
  !a.overflows && s.stream.head?.all fun
    | .addTorrent u _ _ => decide (s.torrents u ≠ .expired)
    | _ => true

theorem State.timely_of_calm {s : State δ} {a : Action δ} (calm : s.calm a = true) :
    s.timely a := by
  obtain ⟨quiet, first⟩ : a.overflows = false ∧ _ := by simpa [State.calm] using calm
  refine ⟨Action.lossless_of_not quiet, ?_⟩
  rintro u error handle rest rfl queued
  simpa [queued] using first

/-- Five adds: one attaches, one is a duplicate of it, one fails, with a removal alert, one is
refused, and one attaches and is removed and destroyed. -/
def fiveAdds : List (Action Unit) :=
  [.enqueueAdd (), .accepted 1, .enqueueAdd (), .accepted 2, .attach 1, .duplicate 2 1,
    .enqueueAdd (), .accepted 3, .enqueueAdd (), .refused 4, .fail 3 none, .remove 3,
    .enqueueAdd (), .accepted 5, .process, .attach 5, .remove 5, .process, .process, .process,
    .process, .process, .expire 5]

theorem add_torrent_lifecycle_fiveAdds :
    ∃ s : State Unit, [1, 2, 3, 4, 5].map (fun u => (s.adds u).resolved) =
        [[.ok 1], [.ok 1], [.error nullHandleError], [], [.ok 5]] ∧
      [1, 2, 3, 4, 5].map (fun u => (s.registry.clientData.lookup u).isSome) =
        [true, false, false, false, false] ∧ s.OwnOutcomes ∧ s.Exact := by
  have replayed : (exec State.step State.calm .init fiveAdds).map (fun s =>
      decide ([1, 2, 3, 4, 5].map (fun u => (s.adds u).resolved) =
        [[.ok 1], [.ok 1], [.error nullHandleError], [], [.ok 5]] ∧
          [1, 2, 3, 4, 5].map (fun u => (s.registry.clientData.lookup u).isSome) =
            [true, false, false, false, false])) = some true := by
    decide +kernel
  obtain ⟨s, run, found⟩ := exists_run_of_exec replayed
  obtain ⟨resolved, reclaimed⟩ := of_decide_eq_true found
  have timely : Run State.step State.timely .init s :=
    run.mono fun _ _ calm => State.timely_of_calm calm
  obtain ⟨outcomes, -, -, -, exactly⟩ :=
    add_torrent_lifecycle (timely.mono fun _ _ timely => timely.1)
  exact ⟨s, resolved, reclaimed, outcomes, exactly timely⟩

/-- The torrent is removed and destroyed before its alerts are processed. -/
def destroyedAdd : List (Action Unit) :=
  [.enqueueAdd (), .accepted 1, .attach 1, .remove 1, .expire 1, .process]

/-- The client data goes with the `add_torrent` alert, before the removal alert. -/
theorem add_torrent_reclaimed_early :
    ¬ ∀ s : State Unit, Run State.step (fun _ a => a.lossless) .init s → s.Exact := by
  intro claim
  have replayed : (exec State.step (fun _ a => !a.overflows) .init destroyedAdd).map (fun s =>
      decide ((s.torrents 1).joined = true ∧ s.swept 1 = false ∧
        s.registry.clientData.lookup 1 = none)) = some true := by
    decide +kernel
  obtain ⟨s, run, early⟩ := exists_run_of_exec replayed
  obtain ⟨joined, unswept, gone⟩ := of_decide_eq_true early
  have lossless : Run State.step (fun _ a => a.lossless) .init s := by
    apply run.mono
    intro t a quiet
    exact Action.lossless_of_not (by simpa using quiet)
  have there := (claim s lossless 1).1.mpr (.inr ⟨joined, unswept⟩)
  rw [gone] at there
  cases there

end Rsbtd.Requests
