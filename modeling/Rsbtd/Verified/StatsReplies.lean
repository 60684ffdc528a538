import Rsbtd.Bindings.Requests

/-!
# Correlation of `session_stats`

Responses carry no request key: each is sent to the future at the front of the
queue.  `StatsView` is the part of the state this concerns and `StatsMove` what a
step can do to it.

`Positioned` is what every run keeps, and gives that a future is resolved at most
once.  `Aligned` says that the queue and the responses still to come name the
same requests.  An overflow alert breaks it when it is processed while responses
to the requests it fails are on their way: the comment in
`handle_alerts_dropped` expects them to find an empty queue, but a request posted
in between is waiting there.  A lost response breaks it when a later one is
processed before the overflow alert.
-/

namespace Rsbtd.Requests

open Transition (Run exec exists_run_of_exec)

variable {δ : Type}

def Alert.reply : Alert → Option (Sender × List Int)
  | .sessionStats n counters => some (n, counters.getD [])
  | _ => none

structure StatsView where
  closed : Bool
  /-- `session_stats`, the futures waiting. -/
  waiting : List Sender
  calls : Nat
  channel : Sender → Channel (Except Error (List Int))
  asked : List Sender
  replies : List (Sender × List Int)
  responses : Sender → Option (List Int)
  lost : List Sender
  failed : List Sender

def State.statsView (s : State δ) : StatsView where
  closed := s.registry.closed
  waiting := s.registry.sessionStats
  calls := s.statsCalls
  channel := s.stats
  asked := s.asked
  replies := s.stream.filterMap Alert.reply
  responses := s.responses
  lost := s.lost
  failed := s.failed

namespace StatsView

/-- The requests whose response is still to be processed. -/
def due (v : StatsView) : List Sender := v.replies.map Prod.fst ++ v.asked

end StatsView

/-- What a step does to the stats half.  `P` is what is known when a response is
processed. -/
inductive StatsMove (P : StatsView → Prop) (v : StatsView) : StatsView → Prop where
  | idle : StatsMove P v v
  | asked : v.closed = false →
      StatsMove P v { v with
        waiting := v.waiting ++ [v.calls], asked := v.asked ++ [v.calls], calls := v.calls + 1 }
  | dropped (n : Sender) : n < v.calls →
      StatsMove P v { v with
        channel := Function.update v.channel n { v.channel n with receiver := false } }
  | closed :
      StatsMove P v { v with
        closed := true, waiting := []
        channel := Channel.sendAll v.channel v.waiting (.error closedError) }
  | answered {n : Sender} {rest : List Sender} (response : List Int) : v.asked = n :: rest →
      StatsMove P v { v with
        asked := rest, responses := Function.update v.responses n (some response)
        replies := v.replies ++ [(n, response)] }
  | lost {n : Sender} {rest : List Sender} (response : List Int) : v.asked = n :: rest →
      StatsMove P v { v with
        asked := rest, responses := Function.update v.responses n (some response)
        lost := v.lost ++ [n] }
  | overflowed :
      StatsMove P v { v with
        waiting := [], failed := v.failed ++ v.waiting
        channel := Channel.sendAll v.channel v.waiting (.error droppedError) }
  | unclaimed {n : Sender} {response : List Int} {rest : List (Sender × List Int)} :
      v.replies = (n, response) :: rest → P v → v.waiting = [] →
      StatsMove P v { v with replies := rest }
  | resolved {n tx : Sender} {response : List Int} {rest : List (Sender × List Int)}
      {others : List Sender} :
      v.replies = (n, response) :: rest → P v → v.waiting = tx :: others →
      StatsMove P v { v with
        replies := rest, waiting := others
        channel := Function.update v.channel tx ((v.channel tx).send (.ok response)) }

theorem StatsMove.to {P : StatsView → Prop} {v w u : StatsView} (moved : StatsMove P v w)
    (same : u = w) : StatsMove P v u :=
  same ▸ moved

@[simp] theorem resolveAddTorrent_sessionStats (r : Registry δ) (token : Token)
    (stored : Option Handle) :
    (r.resolveAddTorrent token stored).1.sessionStats = r.sessionStats := by
  cases stored <;> rfl

@[simp] theorem resolveAddTorrent_closed (r : Registry δ) (token : Token)
    (stored : Option Handle) : (r.resolveAddTorrent token stored).1.closed = r.closed := by
  cases stored <;> rfl

@[simp] theorem resolveTorrentRemoved_sessionStats (r : Registry δ) (token : Token) :
    (r.resolveTorrentRemoved token).sessionStats = r.sessionStats := by
  unfold Registry.resolveTorrentRemoved
  split <;> rfl

@[simp] theorem resolveTorrentRemoved_closed (r : Registry δ) (token : Token) :
    (r.resolveTorrentRemoved token).closed = r.closed := by
  unfold Registry.resolveTorrentRemoved
  split <;> rfl

theorem post_statsView (s : State δ) {alert : Alert} (other : alert.reply = none) :
    (s.post alert).statsView = s.statsView := by
  simp [State.statsView, State.post, other]

@[simp] theorem setFate_statsView (s : State δ) (token : Token) (fate : Fate) :
    (s.setFate token fate).statsView = s.statsView :=
  rfl

/-- One processed alert, as a move of the stats half. -/
theorem dispatch_stats {P : StatsView → Prop} {s : State δ} {alert : Alert} {rest : List Alert}
    (queued : s.stream = alert :: rest)
    (allowed : ∀ n counters, alert = .sessionStats n counters → P s.statsView) :
    StatsMove P s.statsView (State.dispatch { s with stream := rest } alert).statsView := by
  cases alert with
  | sessionStats n counters =>
    have here : P s.statsView := allowed n counters rfl
    have replies : s.statsView.replies = (n, counters.getD []) :: rest.filterMap Alert.reply := by
      simp [State.statsView, queued, Alert.reply]
    cases front : s.registry.sessionStats with
    | nil =>
      apply (StatsMove.unclaimed replies here front).to
      simp [State.dispatch, State.resolveSessionStats, Registry.resolveSessionStats, front,
        State.statsView]
    | cons tx others =>
      apply (StatsMove.resolved replies here front).to
      simp [State.dispatch, State.resolveSessionStats, Registry.resolveSessionStats, front,
        State.statsView]
  | addTorrent userdata error handle =>
    apply StatsMove.idle.to
    simp [State.dispatch, State.resolveAddTorrent, State.statsView, queued, Alert.reply,
      List.filterMap_cons]
  | torrentRemoved userdata =>
    apply StatsMove.idle.to
    simp [State.dispatch, State.statsView, queued, Alert.reply,
      List.filterMap_cons]
  | alertsDropped dropped =>
    by_cases named : Registry.bit dropped Registry.ALERT_TYPE_SESSION_STATS
    · apply StatsMove.overflowed.to
      simp [State.dispatch, Registry.handleAlertsDropped, named, State.statsView, queued,
        Alert.reply, List.filterMap_cons]
    · apply StatsMove.idle.to
      simp [State.dispatch, Registry.handleAlertsDropped, named, State.statsView, queued,
        Alert.reply, List.filterMap_cons, Channel.sendAll]

/-- The steps of the system, as moves of its stats half. -/
theorem step_stats {P : StatsView → Prop} {s t : State δ} {a : Action δ}
    (allowed : ∀ n counters rest, a = .process → s.stream = .sessionStats n counters :: rest →
      P s.statsView)
    (stepped : s.step a = some t) : StatsMove P s.statsView t.statsView := by
  cases a with
  | sessionStats post =>
    simp only [State.step, Registry.enqueueSessionStats] at stepped
    cases ended : s.registry.closed with
    | true =>
      obtain ⟨⟩ : t = s := by simpa [ended] using stepped.symm
      exact .idle
    | false =>
      cases post with
      | error e =>
        obtain ⟨⟩ : t = s := by simpa [ended, Except.map] using stepped.symm
        exact .idle
      | ok =>
        simp only [ended, Except.map, Bool.false_eq_true, if_false, Option.some.injEq] at stepped
        subst stepped
        apply (StatsMove.asked (v := s.statsView) ended).to
        simp [State.statsView, ended]
  | dropStats n =>
    obtain ⟨created, ⟨⟩⟩ := Option.ite_none_right_eq_some.mp stepped
    exact .dropped n created
  | enqueueAdd data =>
    simp only [State.step, Registry.enqueueAddTorrent] at stepped
    cases ended : s.registry.closed with
    | true =>
      obtain ⟨⟩ : t = s := by simpa [ended] using stepped.symm
      exact .idle
    | false =>
      simp only [ended, Bool.false_eq_true, if_false, Option.some.injEq] at stepped
      subst stepped
      apply StatsMove.idle.to
      simp [State.statsView, State.setFate, ended]
  | accepted token | refused token | dropAdd token | expire token =>
    obtain ⟨-, ⟨⟩⟩ := Option.ite_none_right_eq_some.mp stepped
    exact .idle
  | setClientData token data =>
    simp only [State.step, Registry.setClientData] at stepped
    cases present : s.registry.clientData.lookup token with
    | none =>
      obtain ⟨⟩ : t = s := by simpa [present] using stepped.symm
      exact .idle
    | some old =>
      simp only [present, Option.some.injEq] at stepped
      subst stepped
      exact .idle
  | close =>
    obtain ⟨⟩ := stepped
    exact .closed
  | process =>
    simp only [State.step] at stepped
    cases queued : s.stream with
    | nil => simp [queued] at stepped
    | cons alert rest =>
      simp only [queued, Option.some.injEq] at stepped
      subst stepped
      apply dispatch_stats queued
      rintro n counters rfl
      exact allowed n counters rest rfl queued
  | answerStats counters delivered =>
    simp only [State.step] at stepped
    cases pending : s.asked with
    | nil => simp [pending] at stepped
    | cons n rest =>
      cases delivered with
      | true =>
        simp only [pending, if_true, Option.some.injEq] at stepped
        subst stepped
        apply (StatsMove.answered (v := s.statsView) (counters.getD []) pending).to
        simp [State.statsView, State.post, Alert.reply]
      | false =>
        simp only [pending, Bool.false_eq_true, if_false, Option.some.injEq] at stepped
        subst stepped
        exact .lost (counters.getD []) pending
  | overflow dropped =>
    obtain ⟨⟩ := stepped
    apply StatsMove.idle.to
    exact post_statsView s rfl
  | attach token | fail token error | duplicate token existing =>
    obtain ⟨-, ⟨⟩⟩ := Option.ite_none_right_eq_some.mp stepped
    apply StatsMove.idle.to
    exact post_statsView _ rfl
  | remove token =>
    simp only [State.step] at stepped
    cases fate : s.torrents token <;> simp only [fate, Option.some.injEq, reduceCtorEq] at stepped
    all_goals
      subst stepped
      apply StatsMove.idle.to
      exact post_statsView _ rfl

/-! ## What every run keeps -/

/-- The futures and the responses are each in the order of their requests, and a
waiting future is not resolved. -/
structure Positioned (v : StatsView) : Prop where
  waiting : v.waiting.Pairwise (· < ·)
  waiting_lt : ∀ n ∈ v.waiting, n < v.calls
  closed : v.closed = true → v.waiting = []
  pending : ∀ n ∈ v.waiting, (v.channel n).resolved = []
  unused : ∀ n, v.calls ≤ n → (v.channel n).resolved = []
  once : ∀ n, (v.channel n).resolved.length ≤ 1
  due : v.due.Pairwise (· < ·)
  due_lt : ∀ n ∈ v.due, n < v.calls
  recorded : ∀ reply ∈ v.replies, v.responses reply.1 = some reply.2

theorem positioned_init : Positioned (State.init (δ := δ)).statsView where
  waiting := .nil
  waiting_lt := by simp [State.statsView, State.init, Registry.new]
  closed := by simp [State.statsView, State.init, Registry.new]
  pending := by simp [State.statsView, State.init, Registry.new]
  unused := by simp [State.statsView, State.init, Channel.new]
  once := by simp [State.statsView, State.init, Channel.new]
  due := .nil
  due_lt := by simp [State.statsView, State.init, StatsView.due]
  recorded := by simp [State.statsView, State.init]

namespace Positioned

variable {P : StatsView → Prop} {v w : StatsView}

theorem nodup (positioned : Positioned v) : v.waiting.Nodup :=
  positioned.waiting.imp Nat.ne_of_lt

/-- Sending one result to every waiting future. -/
theorem sent (positioned : Positioned v) (r : Except Error (List Int)) (n : Sender) :
    Channel.sendAll v.channel v.waiting r n =
      if n ∈ v.waiting then (v.channel n).send r else v.channel n :=
  Channel.sendAll_of_nodup v.waiting positioned.nodup r n v.channel

theorem send_once {c : Channel (Except Error (List Int))} (pending : c.resolved = [])
    (r : Except Error (List Int)) : (c.send r).resolved.length ≤ 1 := by
  rcases Channel.send_resolved c r with same | sent
  · simp [same, pending]
  · simp [sent, pending]

/-- Failing every waiting future. -/
theorem drained (positioned : Positioned v) (r : Except Error (List Int)) (n : Sender) :
    (Channel.sendAll v.channel v.waiting r n).resolved.length ≤ 1 ∧
      (v.calls ≤ n → (Channel.sendAll v.channel v.waiting r n).resolved = []) := by
  rw [positioned.sent]
  split
  case isTrue waits =>
    refine ⟨send_once (positioned.pending n waits) r, fun late => ?_⟩
    exact absurd (positioned.waiting_lt n waits) (Nat.not_lt.mpr late)
  case isFalse => exact ⟨positioned.once n, positioned.unused n⟩

theorem move (positioned : Positioned v) (moved : StatsMove P v w) : Positioned w := by
  cases moved with
  | idle => exact positioned
  | asked opened =>
    -- the number of the new request is above all others, so it ends both lists
    have fresh : (v.channel v.calls).resolved = [] := positioned.unused _ le_rfl
    refine { positioned with
      waiting := ?_, waiting_lt := ?_, closed := ?_, pending := ?_, unused := ?_, due := ?_,
      due_lt := ?_ }
    · apply List.pairwise_append.mpr
      refine ⟨positioned.waiting, List.pairwise_singleton _ _, fun n waits m last => ?_⟩
      rw [List.mem_singleton.mp last]
      exact positioned.waiting_lt n waits
    · intro n waits
      rcases List.mem_append.mp waits with old | new
      · exact Nat.lt_succ_of_lt (positioned.waiting_lt n old)
      · rw [List.mem_singleton.mp new]
        exact Nat.lt_succ_self _
    · intro ended
      rw [opened] at ended
      cases ended
    · intro n waits
      rcases List.mem_append.mp waits with old | new
      · exact positioned.pending n old
      · rw [List.mem_singleton.mp new]
        exact fresh
    · intro n late
      exact positioned.unused n (Nat.le_of_succ_le late)
    · rw [StatsView.due, ← List.append_assoc]
      apply List.pairwise_append.mpr
      refine ⟨positioned.due, List.pairwise_singleton _ _, fun n due m last => ?_⟩
      rw [List.mem_singleton.mp last]
      exact positioned.due_lt n due
    · intro n due
      rw [StatsView.due, ← List.append_assoc] at due
      rcases List.mem_append.mp due with old | new
      · exact Nat.lt_succ_of_lt (positioned.due_lt n old)
      · rw [List.mem_singleton.mp new]
        exact Nat.lt_succ_self _
  | dropped n created =>
    -- a future that is dropped takes nothing back
    have same (m : Sender) :
        (Function.update v.channel n { v.channel n with receiver := false } m).resolved =
          (v.channel m).resolved := by
      by_cases own : m = n
      · subst own
        simp
      · simp [own]
    refine { positioned with pending := ?_, unused := ?_, once := ?_ }
    · intro m waits
      rw [same, positioned.pending m waits]
    · intro m late
      rw [same, positioned.unused m late]
    · intro m
      rw [same]
      exact positioned.once m
  | closed =>
    -- every waiting future is failed at once, and none waits again
    exact { positioned with
      waiting := .nil
      waiting_lt := by simp
      closed := fun _ => rfl
      pending := by simp
      unused := fun n late => (positioned.drained _ n).2 late
      once := fun n => (positioned.drained _ n).1 }
  | overflowed =>
    -- the futures fail, but their requests stay due
    exact { positioned with
      waiting := .nil
      waiting_lt := by simp
      closed := fun _ => rfl
      pending := by simp
      unused := fun n late => (positioned.drained _ n).2 late
      once := fun n => (positioned.drained _ n).1 }
  | @answered n rest response pending =>
    have split : v.due = v.replies.map Prod.fst ++ n :: rest := by rw [StatsView.due, pending]
    have whole : (v.replies.map Prod.fst ++ n :: rest).Pairwise (· < ·) := split ▸ positioned.due
    have same : StatsView.due { v with
        asked := rest, responses := Function.update v.responses n (some response)
        replies := v.replies ++ [(n, response)] } = v.due := by
      simp [StatsView.due, pending]
    refine { positioned with due := same ▸ positioned.due, due_lt := same ▸ positioned.due_lt,
                             recorded := ?_ }
    intro reply later
    rcases List.mem_append.mp later with old | new
    · -- an older response is to another request
      have before : reply.1 < n := by
        apply (List.pairwise_append.mp whole).2.2 reply.1 (List.mem_map_of_mem old) n
        exact List.mem_cons_self
      change Function.update v.responses n (some response) reply.1 = some reply.2
      rw [Function.update_of_ne (Nat.ne_of_lt before)]
      exact positioned.recorded reply old
    · rw [List.mem_singleton.mp new]
      exact Function.update_self ..
  | @lost n rest response pending =>
    -- the place of the lost response is gone from the due ones
    have split : v.due = v.replies.map Prod.fst ++ n :: rest := by rw [StatsView.due, pending]
    have whole : (v.replies.map Prod.fst ++ n :: rest).Pairwise (· < ·) := split ▸ positioned.due
    have shorter : (v.replies.map Prod.fst ++ rest).Sublist v.due := by
      rw [split]
      exact (List.Sublist.refl _).append (List.sublist_cons_self n rest)
    refine { positioned with
      due := positioned.due.sublist shorter
      due_lt := fun m due => positioned.due_lt m (shorter.subset due)
      recorded := ?_ }
    intro reply old
    have before : reply.1 < n := by
      apply (List.pairwise_append.mp whole).2.2 reply.1 (List.mem_map_of_mem old) n
      exact List.mem_cons_self
    change Function.update v.responses n (some response) reply.1 = some reply.2
    rw [Function.update_of_ne (Nat.ne_of_lt before)]
    exact positioned.recorded reply old
  | @unclaimed n response rest front _ _ =>
    have split : v.due = n :: (rest.map Prod.fst ++ v.asked) := by simp [StatsView.due, front]
    have shorter : (rest.map Prod.fst ++ v.asked).Sublist v.due :=
      split ▸ List.sublist_cons_self _ _
    exact { positioned with
      due := positioned.due.sublist shorter
      due_lt := fun m due => positioned.due_lt m (shorter.subset due)
      recorded := fun reply later =>
        positioned.recorded reply (front ▸ List.mem_cons_of_mem _ later) }
  | @resolved n tx response rest others front _ first =>
    -- the first future gets the response, whichever request it answers
    have split : v.due = n :: (rest.map Prod.fst ++ v.asked) := by simp [StatsView.due, front]
    have shorter : (rest.map Prod.fst ++ v.asked).Sublist v.due :=
      split ▸ List.sublist_cons_self _ _
    have waiting : (tx :: others).Pairwise (· < ·) := first ▸ positioned.waiting
    have others_waiting : ∀ m ∈ others, m ∈ v.waiting :=
      fun m waits => first ▸ List.mem_cons_of_mem _ waits
    have own : tx ∈ v.waiting := first ▸ List.mem_cons_self
    have early := positioned.waiting_lt tx own
    refine { positioned with
      waiting := (List.pairwise_cons.mp waiting).2
      waiting_lt := fun m waits => positioned.waiting_lt m (others_waiting m waits)
      closed := ?_, pending := ?_, unused := ?_, once := ?_
      due := positioned.due.sublist shorter
      due_lt := fun m due => positioned.due_lt m (shorter.subset due)
      recorded := fun reply later =>
        positioned.recorded reply (front ▸ List.mem_cons_of_mem _ later) }
    · intro ended
      rw [positioned.closed ended] at first
      cases first
    · intro m waits
      have after : tx < m := (List.pairwise_cons.mp waiting).1 m waits
      change (Function.update v.channel tx _ m).resolved = []
      rw [Function.update_of_ne (Nat.ne_of_gt after)]
      exact positioned.pending m (others_waiting m waits)
    · intro m late
      have different : m ≠ tx := Nat.ne_of_gt (Nat.lt_of_lt_of_le early late)
      change (Function.update v.channel tx _ m).resolved = []
      rw [Function.update_of_ne different]
      exact positioned.unused m late
    · intro m
      change (Function.update v.channel tx _ m).resolved.length ≤ 1
      by_cases self : m = tx
      · subst self
        rw [Function.update_self]
        exact send_once (positioned.pending m own) _
      · rw [Function.update_of_ne self]
        exact positioned.once m

end Positioned

/-! ## Runs in which responses keep their place -/

/-- No older request is waiting for a response that was lost, and if the
response's own request was failed by an overflow then no request is waiting. -/
def StatsView.Settled (v : StatsView) : Prop :=
  ∀ n response rest, v.replies = (n, response) :: rest →
    (∀ m ∈ v.waiting, m < n → m ∉ v.lost) ∧ (n ∈ v.failed → v.waiting = [])

/-- The condition under which a step cannot hand a response to a foreign future. -/
def State.settles (s : State δ) (a : Action δ) : Prop :=
  ∀ n counters rest, a = .process → s.stream = .sessionStats n counters :: rest →
    (∀ m ∈ s.registry.sessionStats, m < n → m ∉ s.lost) ∧
      (n ∈ s.failed → s.registry.sessionStats = [])

theorem State.settles.view {s : State δ} {a : Action δ} (settles : s.settles a)
    (n : Sender) (counters : Option (List Int)) (rest : List Alert) (process : a = .process)
    (queued : s.stream = .sessionStats n counters :: rest) : s.statsView.Settled := by
  intro m response later front
  have first : s.statsView.replies = (n, counters.getD []) :: rest.filterMap Alert.reply := by
    simp [State.statsView, queued, Alert.reply]
  obtain ⟨⟨rfl, -⟩, -⟩ : (n = m ∧ counters.getD [] = response) ∧ _ := by
    simpa [first] using front
  exact settles n counters rest process queued

/-- The waiting futures and the responses to come name the same requests, up to
lost responses and failed futures. -/
structure Aligned (v : StatsView) : Prop where
  positioned : Positioned v
  due_waits : ∀ n ∈ v.due, n ∈ v.waiting ∨ n ∈ v.failed ∨ v.closed = true
  waits_due : ∀ n ∈ v.waiting, n ∈ v.due ∨ n ∈ v.lost
  own : ∀ n counters, .ok counters ∈ (v.channel n).resolved →
    n < v.calls ∧ n ∉ v.due ∧ v.responses n = some counters

namespace Aligned

variable {v w : StatsView}

/-- Failing futures resolves none of them with counters. -/
theorem drained (aligned : Aligned v) (e : Error) {n : Sender} {counters : List Int}
    (result : .ok counters ∈ (Channel.sendAll v.channel v.waiting (.error e) n).resolved) :
    .ok counters ∈ (v.channel n).resolved := by
  rw [aligned.positioned.sent] at result
  split at result
  case isTrue =>
    rcases Channel.send_resolved (v.channel n) (.error e) with same | sent
    · rwa [same] at result
    · simpa [sent] using result
  case isFalse => exact result

/-- The response at the front belongs to the future at the front. -/
theorem front (aligned : Aligned v) {n tx : Sender} {response : List Int}
    {rest : List (Sender × List Int)} {others : List Sender}
    (replies : v.replies = (n, response) :: rest) (settled : v.Settled)
    (first : v.waiting = tx :: others) : tx = n := by
  obtain ⟨kept, expected⟩ := settled n response rest replies
  have due : v.due = n :: (rest.map Prod.fst ++ v.asked) := by simp [StatsView.due, replies]
  have sorted : (n :: (rest.map Prod.fst ++ v.asked)).Pairwise (· < ·) :=
    due ▸ aligned.positioned.due
  have waiting : (tx :: others).Pairwise (· < ·) := first ▸ aligned.positioned.waiting
  have waits : tx ∈ v.waiting := first ▸ List.mem_cons_self
  rcases Nat.lt_trichotomy tx n with older | same | younger
  · -- an older future waits only when its response was lost
    rcases aligned.waits_due tx waits with later | lost
    · rw [due] at later
      rcases List.mem_cons.mp later with same | after
      · exact same
      · have behind := (List.pairwise_cons.mp sorted).1 tx after
        exact absurd behind (Nat.lt_asymm older)
    · exact absurd lost (kept tx waits older)
  · exact same
  · -- a younger future is at the front only when the request's own was failed
    have here : n ∈ v.due := due ▸ List.mem_cons_self
    rcases aligned.due_waits n here with own | failed | ended
    · rw [first] at own
      rcases List.mem_cons.mp own with same | behind
      · exact same.symm
      · have after := (List.pairwise_cons.mp waiting).1 n behind
        exact absurd after (Nat.lt_asymm younger)
    · rw [expected failed] at first
      cases first
    · rw [aligned.positioned.closed ended] at first
      cases first

theorem move (aligned : Aligned v) (moved : StatsMove StatsView.Settled v w) : Aligned w := by
  have positioned := aligned.positioned.move moved
  cases moved with
  | idle => exact aligned
  | asked opened =>
    have due : StatsView.due { v with
        waiting := v.waiting ++ [v.calls], asked := v.asked ++ [v.calls]
        calls := v.calls + 1 } = v.due ++ [v.calls] := by
      simp [StatsView.due]
    refine ⟨positioned, ?_, ?_, ?_⟩
    · intro n later
      rw [due] at later
      rcases List.mem_append.mp later with old | new
      · rcases aligned.due_waits n old with waits | failed | ended
        · exact .inl (List.mem_append_left _ waits)
        · exact .inr (.inl failed)
        · exact .inr (.inr ended)
      · exact .inl (List.mem_append_right _ new)
    · intro n waits
      rw [due]
      rcases List.mem_append.mp waits with old | new
      · exact (aligned.waits_due n old).imp_left (List.mem_append_left _)
      · exact .inl (List.mem_append_right _ new)
    · intro n counters result
      obtain ⟨early, gone, response⟩ := aligned.own n counters result
      rw [due]
      refine ⟨Nat.lt_succ_of_lt early, fun later => ?_, response⟩
      rcases List.mem_append.mp later with old | new
      · exact gone old
      · exact absurd (List.mem_singleton.mp new) (Nat.ne_of_lt early)
  | dropped n created =>
    refine ⟨positioned, aligned.due_waits, aligned.waits_due, ?_⟩
    intro m counters result
    apply aligned.own m counters
    by_cases self : m = n
    · subst self
      simpa using result
    · simpa [self] using result
  | closed =>
    refine ⟨positioned, fun n due => .inr (.inr rfl), by simp, ?_⟩
    exact fun n counters result => aligned.own n counters (aligned.drained _ result)
  | overflowed =>
    -- a request whose future has failed stays due: its response finds it among `failed`
    refine ⟨positioned, ?_, by simp, ?_⟩
    · intro n due
      rcases aligned.due_waits n due with waits | failed | ended
      · exact .inr (.inl (List.mem_append_right _ waits))
      · exact .inr (.inl (List.mem_append_left _ failed))
      · exact .inr (.inr ended)
    · exact fun n counters result => aligned.own n counters (aligned.drained _ result)
  | @answered n rest response pending =>
    have same : StatsView.due { v with
        asked := rest, responses := Function.update v.responses n (some response)
        replies := v.replies ++ [(n, response)] } = v.due := by
      simp [StatsView.due, pending]
    have here : n ∈ v.due := by simp [StatsView.due, pending]
    refine ⟨positioned, same ▸ aligned.due_waits, same ▸ aligned.waits_due, ?_⟩
    intro m counters result
    obtain ⟨early, gone, recorded⟩ := aligned.own m counters result
    have different : m ≠ n := fun equal => gone (equal ▸ here)
    rw [same]
    exact ⟨early, gone, by simpa [different] using recorded⟩
  | @lost n rest response pending =>
    -- a future may wait for a response that was lost
    have split : v.due = v.replies.map Prod.fst ++ n :: rest := by rw [StatsView.due, pending]
    have here : n ∈ v.due := by simp [split]
    refine ⟨positioned, ?_, ?_, ?_⟩
    · intro m due
      apply aligned.due_waits m
      rw [split]
      rcases List.mem_append.mp due with replied | asked
      · exact List.mem_append_left _ replied
      · exact List.mem_append_right _ (List.mem_cons_of_mem _ asked)
    · intro m waits
      rcases aligned.waits_due m waits with due | gone
      · rw [split] at due
        rcases List.mem_append.mp due with replied | asked
        · exact .inl (List.mem_append_left _ replied)
        · rcases List.mem_cons.mp asked with rfl | behind
          · exact .inr (List.mem_append_right _ List.mem_cons_self)
          · exact .inl (List.mem_append_right _ behind)
      · exact .inr (List.mem_append_left _ gone)
    · intro m counters result
      obtain ⟨early, gone, recorded⟩ := aligned.own m counters result
      have different : m ≠ n := fun equal => gone (equal ▸ here)
      refine ⟨early, fun due => gone ?_, by simpa [different] using recorded⟩
      rw [split]
      rcases List.mem_append.mp due with replied | asked
      · exact List.mem_append_left _ replied
      · exact List.mem_append_right _ (List.mem_cons_of_mem _ asked)
  | @unclaimed n response rest front _ nobody =>
    have split : v.due = n :: (rest.map Prod.fst ++ v.asked) := by simp [StatsView.due, front]
    refine ⟨positioned, fun m due => aligned.due_waits m (split ▸ List.mem_cons_of_mem _ due),
      by simp [nobody], ?_⟩
    intro m counters result
    obtain ⟨early, gone, recorded⟩ := aligned.own m counters result
    exact ⟨early, fun due => gone (split ▸ List.mem_cons_of_mem _ due), recorded⟩
  | @resolved n tx response rest others replies settled first =>
    -- alignment makes the first future the one of the request answered
    obtain rfl : tx = n := aligned.front replies settled first
    have split : v.due = tx :: (rest.map Prod.fst ++ v.asked) := by
      simp [StatsView.due, replies]
    have sorted : (tx :: (rest.map Prod.fst ++ v.asked)).Pairwise (· < ·) :=
      split ▸ aligned.positioned.due
    have waiting : (tx :: others).Pairwise (· < ·) := first ▸ aligned.positioned.waiting
    refine ⟨positioned, ?_, ?_, ?_⟩
    · intro m due
      have behind : tx < m := (List.pairwise_cons.mp sorted).1 m due
      rcases aligned.due_waits m (split ▸ List.mem_cons_of_mem _ due) with waits | others
      · rw [first] at waits
        rcases List.mem_cons.mp waits with same | waits
        · exact absurd same.symm (Nat.ne_of_lt behind)
        · exact .inl waits
      · exact .inr others
    · intro m waits
      have behind : tx < m := (List.pairwise_cons.mp waiting).1 m waits
      rcases aligned.waits_due m (first ▸ List.mem_cons_of_mem _ waits) with due | gone
      · rw [split] at due
        rcases List.mem_cons.mp due with same | due
        · exact absurd same.symm (Nat.ne_of_lt behind)
        · exact .inl due
      · exact .inr gone
    · intro m counters result
      by_cases self : m = tx
      · subst self
        have own : m ∈ v.waiting := first ▸ List.mem_cons_self
        have empty := aligned.positioned.pending m own
        have counted : counters = response := by
          change .ok counters ∈ (Function.update v.channel m _ m).resolved at result
          rw [Function.update_self] at result
          rcases Channel.send_resolved (v.channel m) (.ok response) with same | sent
          · simp [same, empty] at result
          · simpa [sent, empty] using result
        have recorded : v.responses m = some response :=
          aligned.positioned.recorded (m, response) (replies ▸ List.mem_cons_self)
        refine ⟨aligned.positioned.waiting_lt m own, fun due => ?_, counted ▸ recorded⟩
        exact Nat.lt_irrefl m ((List.pairwise_cons.mp sorted).1 m due)
      · have before : .ok counters ∈ (v.channel m).resolved := by
          simpa [self] using result
        obtain ⟨early, gone, recorded⟩ := aligned.own m counters before
        exact ⟨early, fun due => gone (split ▸ List.mem_cons_of_mem _ due), recorded⟩

end Aligned

theorem aligned_init : Aligned (State.init (δ := δ)).statsView where
  positioned := positioned_init
  due_waits := by simp [State.statsView, State.init, StatsView.due]
  waits_due := by simp [State.statsView, State.init, Registry.new]
  own := by simp [State.statsView, State.init, Channel.new]

theorem positioned_run {ok : State δ → Action δ → Prop} {s : State δ}
    (run : Run State.step ok .init s) : Positioned s.statsView := by
  refine Run.invariant (I := fun s => Positioned s.statsView) positioned_init ?_ run
  intro t a u _ positioned _ stepped
  exact positioned.move (step_stats (P := fun _ => True) (fun _ _ _ _ _ => trivial) stepped)

theorem aligned_run {s : State δ} (run : Run State.step State.settles .init s) :
    Aligned s.statsView := by
  refine Run.invariant (I := fun s => Aligned s.statsView) aligned_init ?_ run
  intro t a u _ aligned settles stepped
  exact aligned.move (step_stats settles.view stepped)

/-- A `session_stats` future is resolved at most once.  In a run whose steps all
settle, one that is resolved with counters has those of its own response. -/
theorem session_stats_correlated {s : State δ} (run : Run State.step (fun _ _ => True) .init s) :
    (∀ n, (s.stats n).resolved.length ≤ 1) ∧
      (Run State.step State.settles .init s →
        ∀ n counters, .ok counters ∈ (s.stats n).resolved → s.responses n = some counters) := by
  refine ⟨(positioned_run run).once, fun settled n counters result => ?_⟩
  exact ((aligned_run settled).own n counters result).2.2

/-- A request, its response and the processing of the response. -/
def answeredRequest : List (Action Unit) :=
  [.sessionStats (.ok ()), .answerStats (some [7]) true, .process]

theorem session_stats_correlated_answered :
    ∃ s : State Unit, (s.stats 0).resolved = [.ok [7]] ∧ s.responses 0 = some [7] := by
  have replayed : (exec State.step (fun s _ => s.lost == [] && s.failed == []) .init
      answeredRequest).map (fun s => decide ((s.stats 0).resolved = [.ok [7]])) = some true := by
    decide +kernel
  obtain ⟨s, run, resolved⟩ := exists_run_of_exec replayed
  have result : (s.stats 0).resolved = [.ok [7]] := of_decide_eq_true resolved
  have settled : Run State.step State.settles .init s := by
    apply run.mono
    intro t a quiet n counters rest _ _
    obtain ⟨lost, failed⟩ : t.lost = [] ∧ t.failed = [] := by simpa using quiet
    simp [lost, failed]
  have own := (session_stats_correlated (run.mono (by simp))).2 settled
  exact ⟨s, result, own 0 [7] (by simp [result])⟩

/-- The response to the first request is lost.  The second is posted before the
overflow alert is processed and failed with it, the third before the response to
the second is processed. -/
def overtakenOverflow : List (Action Unit) :=
  [.sessionStats (.ok ()), .answerStats (some [1]) false, .overflow (1#128 <<< 70),
   .sessionStats (.ok ()), .process, .answerStats (some [2]) true,
   .sessionStats (.ok ()), .process]

/-- The third future gets the counters of the second request. -/
theorem session_stats_misaligned :
    ¬ ∀ s : State Unit, Run State.step (fun _ _ => True) .init s →
      ∀ n counters, .ok counters ∈ (s.stats n).resolved → s.responses n = some counters := by
  intro claim
  have replayed : (exec State.step (fun _ _ => true) .init overtakenOverflow).map (fun s =>
      decide ((s.stats 2).resolved = [.ok [2]] ∧ s.responses 2 = none)) = some true := by
    decide +kernel
  obtain ⟨s, run, misled⟩ := exists_run_of_exec replayed
  obtain ⟨result, unanswered⟩ := of_decide_eq_true misled
  have own := claim s (run.mono (by simp)) 2 [2] (by simp [result])
  rw [unanswered] at own
  cases own

end Rsbtd.Requests
