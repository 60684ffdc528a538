import Rsbtd.Verified.ConnectionCoherence
import Rsbtd.WebUi.Live

/-!
# The ordering barrier of snapshots

Every update handed to `applyLive` is in exactly one of three places: in the log, in
the queue of the resync in flight, or abandoned to a resync of a newer generation.  A
new generation always comes with a resync of its own, since the connection is up then
or has just become degraded, so the resync in flight is of the current generation.
-/

namespace Rsbtd.WebUi

open Transition (Run)

/-! ## New generations of the connection -/

namespace Controller

variable {c d : Controller}

/-- A bump is pending only before the connection is used. -/
def Renewable (c : Controller) : Prop :=
  c.pendingIdentityBump = true → c.snap.state ≠ .degraded ∧ c.acked = false

/-- A new generation begins when the connection is up or has just become degraded. -/
structure Advances (c d : Controller) : Prop where
  renewable : Renewable d
  generation : d.snap.generation = c.snap.generation ∨
    d.snap.generation = c.snap.generation + 1 ∧
      (d.snap.state = .up ∨ d.snap.state = .degraded ∧ c.snap.state ≠ .degraded)

theorem Advances.refl (renewable : Renewable c) : Advances c c := ⟨renewable, .inl rfl⟩

/-- Only the snapshot before counts. -/
theorem Advances.of_snap {c' : Controller} (advances : Advances c' d) (same : c'.snap = c.snap) :
    Advances c d :=
  ⟨advances.renewable, same ▸ advances.generation⟩

theorem advances_teardown {f : ConnectionSnapshot → ConnectionSnapshot}
    (state : (f c.snap).state ≠ .degraded) (generation : (f c.snap).generation = c.snap.generation) :
    Advances c (c.teardown.setSnap f) := by
  have kept : c.teardown.snap = c.snap := by simp [teardown, clearRetry]
  refine ⟨?_, .inl ?_⟩
  · intro _
    exact ⟨by simpa [setSnap, kept] using state, rfl⟩
  · simpa [setSnap, kept] using generation

theorem advances_toDown (message : String) : Advances c (c.toDown message) := by
  obtain ⟨renewable, generation⟩ :=
    advances_teardown (c := c) (f := fun snap => { snap with state := .down, error := some message })
      (by simp) rfl
  exact ⟨renewable, generation⟩

theorem advances_connect (renewable : Renewable c) : Advances c c.connect := by
  refine ⟨?_, .inl ?_⟩
  · intro pending
    have before : c.pendingIdentityBump = true := by simpa [connect, clearRetry] using pending
    refine ⟨by simp [connect], ?_⟩
    simpa [connect, clearRetry] using (renewable before).2
  · simp [connect, clearRetry]

theorem advances_reconnect : Advances c c.reconnect := by
  refine ⟨?_, .inl ?_⟩
  · intro _
    exact ⟨by simp [reconnect, connect], by simp [reconnect, connect, teardown, clearRetry]⟩
  · simp [reconnect, connect, teardown, clearRetry]

theorem advances_authLost (renewable : Renewable c) : Advances c c.authLost := by
  unfold authLost
  split
  · exact .refl renewable
  · exact advances_teardown (by simp) rfl

theorem advances_probed (renewable : Renewable c) (epoch : Nat) (response : Response) :
    Advances c (c.probed epoch response) := by
  unfold probed
  split
  · exact .refl renewable
  · cases response with
    | unauthorized =>
      refine ⟨?_, .inl rfl⟩
      intro pending
      exact ⟨by simp [setSnap], (renewable pending).2⟩
    | failed message => exact advances_toDown message
    | ok =>
      refine ⟨?_, .inl rfl⟩
      intro _
      exact ⟨by simp [openWs, setSnap], rfl⟩

theorem advances_classified (renewable : Renewable c) (epoch : Nat) (client : Client)
    (response : Response) : Advances c (c.classified epoch client response) := by
  unfold classified
  by_cases stale : epoch ≠ c.epoch ∨ c.ws ≠ some client
  · simp only [if_pos stale]
    exact ⟨renewable, .inl rfl⟩
  · simp only [if_neg stale]
    cases response with
    | ok =>
      by_cases up : c.snap.state = .up
      · simp only [if_pos up]
        exact ⟨renewable, .inl rfl⟩
      · by_cases pending : c.pendingIdentityBump = true
        · simp only [if_neg up, if_pos pending]
          refine ⟨fun still => ?_, .inr ⟨rfl, .inr ⟨rfl, (renewable pending).1⟩⟩⟩
          cases still
        · simp only [if_neg up, if_neg pending]
          exact ⟨fun still => absurd still pending, .inl rfl⟩
    | unauthorized =>
      obtain ⟨kept, generation⟩ := advances_teardown (c := c) (f := fun snap =>
        { snap with state := .authRequired, error := none, authFailed := c.token.isSome })
        (by simp) rfl
      exact ⟨kept, generation⟩
    | failed message =>
      obtain ⟨kept, generation⟩ := advances_toDown (c := c) message
      exact ⟨kept, generation⟩

theorem advances_onConnected (renewable : Renewable c) (epoch : Nat) (client : Client) :
    Advances c (c.onConnected epoch client) := by
  unfold onConnected
  split
  · exact .refl renewable
  · refine ⟨fun pending => ?_, .inr ⟨rfl, .inl rfl⟩⟩
    cases pending

theorem advances_onClosed (renewable : Renewable c) (epoch : Nat) (client : Client) :
    Advances c (c.onClosed epoch client) := by
  unfold onClosed
  split
  · exact .refl renewable
  · split
    · exact .refl renewable
    · split
      case isTrue acked =>
        refine ⟨fun pending => ?_, .inl rfl⟩
        rw [(renewable pending).2] at acked
        cases acked
      case isFalse =>
        split
        · exact .refl renewable
        · exact ⟨renewable, .inl rfl⟩

theorem step_advances {a : Action} (renewable : Renewable c) (stepped : c.step a = some d) :
    Advances c d := by
  cases a with
  | start =>
    obtain rfl := Option.some.inj stepped
    split
    · exact .refl renewable
    · exact (advances_connect (c := { c with started := true }) renewable).of_snap rfl
  | reconnect =>
    obtain rfl := Option.some.inj stepped
    exact advances_reconnect
  | logout =>
    obtain rfl := Option.some.inj stepped
    exact advances_teardown (by simp) rfl
  | authLost =>
    obtain rfl := Option.some.inj stepped
    exact advances_authLost renewable
  | storage watched =>
    obtain rfl := Option.some.inj stepped
    split
    · exact advances_reconnect
    · exact .refl renewable
  | retry =>
    obtain ⟨-, same⟩ := Option.ite_none_right_eq_some.mp stepped
    obtain rfl := Option.some.inj same
    exact advances_connect renewable
  | wsConnected client =>
    obtain ⟨epoch, -, rfl⟩ := Option.map_eq_some_iff.mp stepped
    exact advances_onConnected renewable epoch client
  | wsClosed client =>
    obtain ⟨epoch, -, rfl⟩ := Option.map_eq_some_iff.mp stepped
    exact advances_onClosed renewable epoch client
  | request =>
    obtain rfl := Option.some.inj stepped
    exact ⟨renewable, .inl rfl⟩
  | respond id response =>
    obtain ⟨r, -, settled⟩ := Option.bind_eq_some_iff.mp stepped
    obtain ⟨-, same⟩ := Option.ite_none_right_eq_some.mp settled
    obtain rfl := Option.some.inj same
    unfold respond
    split
    · exact (advances_authLost (c := c.setPhase id (.settled response)) renewable).of_snap rfl
    · exact ⟨renewable, .inl rfl⟩
  | resume id =>
    obtain ⟨r, -, resumed⟩ := Option.bind_eq_some_iff.mp stepped
    split at resumed
    case h_2 => cases resumed
    case h_1 response _ =>
      obtain rfl := Option.some.inj resumed
      unfold resume
      cases r.kind with
      | probe =>
        exact (advances_probed (c := c.setPhase id .finished) renewable r.epoch response).of_snap rfl
      | classify client =>
        exact (advances_classified (c := c.setPhase id .finished) renewable r.epoch client
          response).of_snap rfl
      | other => exact ⟨renewable, .inl rfl⟩
  | setToken token =>
    obtain rfl := Option.some.inj stepped
    exact ⟨renewable, .inl rfl⟩
  | setSessionError message =>
    obtain rfl := Option.some.inj stepped
    exact ⟨renewable, .inl rfl⟩

end Controller

/-! ## Where updates are -/

section Changes

variable {υ ρ : Type}

/-- The number of an update. -/
def Change.number : Change υ ρ → Option Nat
  | .snapshot _ _ => none
  | .update number _ _ => some number

/-- The resync whose settling made the change. -/
def Change.resync : Change υ ρ → Option InflightResync
  | .snapshot resync _ => some resync
  | .update _ _ drained => drained

/-- `last` is the resync itself or a later one of its generation. -/
def Succeeds (first last : InflightResync) : Prop :=
  first.id ≤ last.id ∧ first.generation = last.generation

/-- An update waits for the resync in flight or one that took over from it, and for nothing
otherwise. -/
inductive Drains : Option InflightResync → Option InflightResync → Prop where
  | direct : Drains none none
  | drained {first last : InflightResync} (succeeds : Succeeds first last) :
      Drains (some first) (some last)

end Changes

namespace Live

variable {υ ρ : Type} {l m : Live υ ρ}

/-- The updates that were applied, in order. -/
def applied (l : Live υ ρ) : List Nat := l.log.filterMap Change.number

/-- Every update handed over is in one place, with what put it there. -/
structure Placed (l : Live υ ρ) : Prop where
  inflight : ∀ current, l.inflight = some current → current ∈ l.pending ∧
    current.generation ≤ l.generation ∧ current.id + 1 = l.calls ∧
      current.queue < l.queues.length
  called : ∀ current ∈ l.pending, current.id < l.calls
  distinct : l.pending.Nodup
  settled : ∀ change ∈ l.log, ∀ resync, change.resync = some resync →
    resync.id < l.calls ∧ resync ∉ l.pending
  partition : (l.applied ++ l.abandoned.map Prod.fst ++ l.queued.map Prod.fst).Perm
    (List.range l.handed.length)
  order : (l.applied ++ l.queued.map Prod.fst).Pairwise (· < ·)
  updates : ∀ number update drained, Change.update number update drained ∈ l.log →
    ∃ during, l.handed[number]? = some ⟨update, during⟩ ∧ Drains during drained
  waiting : ∀ q ∈ l.queued, ∃ first last, l.handed[q.1]? = some ⟨q.2, some first⟩ ∧
    l.inflight = some last ∧ Succeeds first last
  abandoned : ∀ a ∈ l.abandoned, ∃ update first, l.handed[a.1]? = some ⟨update, some first⟩ ∧
    first.id < a.2.id ∧ first.generation < a.2.generation
  direct : ∀ number update, l.handed[number]? = some ⟨update, none⟩ →
    Change.update number update none ∈ l.log
  barrier : l.log.Pairwise fun earlier later => ∀ resync rows,
    earlier.resync = some resync → earlier.number.isSome → later ≠ .snapshot resync rows

/-- What else changes does not matter. -/
theorem Placed.keep (placed : Placed l) (inflight : m.inflight = l.inflight)
    (pending : m.pending = l.pending) (calls : m.calls = l.calls) (queues : m.queues = l.queues)
    (log : m.log = l.log) (handed : m.handed = l.handed) (abandoned : m.abandoned = l.abandoned)
    (generation : l.generation ≤ m.generation) : Placed m := by
  have queued : m.queued = l.queued := by simp only [queued, inflight, queues]
  have applied : m.applied = l.applied := by simp only [applied, log]
  constructor
  · intro current found
    rw [inflight] at found
    obtain ⟨inPending, older, last, bound⟩ := placed.inflight current found
    rw [pending, calls, queues]
    exact ⟨inPending, Nat.le_trans older generation, last, bound⟩
  · rw [pending, calls]
    exact placed.called
  · rw [pending]
    exact placed.distinct
  · rw [log, calls, pending]
    exact placed.settled
  · rw [applied, abandoned, queued, handed]
    exact placed.partition
  · rw [applied, queued]
    exact placed.order
  · rw [log, handed]
    exact placed.updates
  · rw [queued, handed, inflight]
    exact placed.waiting
  · rw [abandoned, handed]
    exact placed.abandoned
  · rw [handed, log]
    exact placed.direct
  · rw [log]
    exact placed.barrier

theorem Placed.applied_lt (placed : Placed l) {number : Nat} (listed : number ∈ l.applied) :
    number < l.handed.length := by
  apply List.mem_range.mp
  apply placed.partition.mem_iff.mp
  simp [listed]

theorem Placed.queued_lt (placed : Placed l) {number : Nat}
    (listed : number ∈ l.queued.map Prod.fst) : number < l.handed.length := by
  apply List.mem_range.mp
  apply placed.partition.mem_iff.mp
  rw [List.mem_append]
  exact .inr listed

theorem queued_none (idle : l.inflight = none) : l.queued = [] := by
  rw [queued, idle]

/-! ### Handing over -/

theorem handed_append {handed : List (HandOver υ)} {new h : HandOver υ} {number : Nat}
    (found : handed[number]? = some h) : (handed ++ [new])[number]? = some h := by
  obtain ⟨bound, -⟩ := List.getElem?_eq_some_iff.mp found
  rw [List.getElem?_append_left bound, found]

theorem applyLive_idle (update : υ) (idle : l.inflight = none) : l.applyLive update = { l with
    handed := l.handed ++ [⟨update, none⟩]
    log := l.log ++ [.update l.handed.length update none] } := by
  simp [applyLive, idle]

theorem applyLive_busy (update : υ) {current : InflightResync} (busy : l.inflight = some current) :
    l.applyLive update = { l with
      handed := l.handed ++ [⟨update, some current⟩]
      queues := l.queues.modify current.queue (· ++ [(l.handed.length, update)]) } := by
  simp [applyLive, busy]

theorem Placed.applyLive_queued (placed : Placed l) (update : υ) {current : InflightResync}
    (busy : l.inflight = some current) :
    (l.applyLive update).queued = l.queued ++ [(l.handed.length, update)] := by
  have bound := (placed.inflight current busy).2.2.2
  simp [applyLive_busy update busy, Live.queued, busy, bound]

theorem Placed.applyLive_idle (placed : Placed l) (update : υ) (idle : l.inflight = none) :
    Placed (l.applyLive update) := by
  have after := Live.applyLive_idle update idle
  have nothing : l.queued = [] := queued_none idle
  have still : (l.applyLive update).queued = [] := by
    rw [after]
    exact queued_none idle
  have applied : (l.applyLive update).applied = l.applied ++ [l.handed.length] := by
    simp [after, Live.applied, Change.number]
  have partition := placed.partition
  have order := placed.order
  rw [nothing, List.map_nil, List.append_nil] at partition order
  constructor
  · rw [after]
    exact placed.inflight
  · rw [after]
    exact placed.called
  · rw [after]
    exact placed.distinct
  · rw [after]
    intro change listed resync settled
    rcases List.mem_append.mp listed with before | new
    · exact placed.settled change before resync settled
    · obtain rfl := List.mem_singleton.mp new
      cases settled
  · rw [applied, still, after]
    -- the update is the last handed over and the last applied
    simp only [List.map_nil, List.append_nil, List.length_append, List.length_singleton,
      List.range_succ]
    have moved : (l.applied ++ [l.handed.length] ++ l.abandoned.map Prod.fst).Perm
        (l.applied ++ l.abandoned.map Prod.fst ++ [l.handed.length]) := by
      rw [List.append_assoc, List.append_assoc]
      exact List.perm_append_comm.append_left _
    exact moved.trans (partition.append_right _)
  · rw [applied, still, List.map_nil, List.append_nil, List.pairwise_append]
    refine ⟨order, List.pairwise_singleton _ _, ?_⟩
    intro number listed last new
    obtain rfl := List.mem_singleton.mp new
    exact placed.applied_lt listed
  · rw [after]
    intro number update' drained listed
    rcases List.mem_append.mp listed with before | new
    · obtain ⟨during, found, drains⟩ := placed.updates number update' drained before
      exact ⟨during, handed_append found, drains⟩
    · obtain ⟨rfl, rfl, rfl⟩ := Change.update.inj (List.mem_singleton.mp new)
      exact ⟨none, by simp, .direct⟩
  · rw [still]
    exact List.forall_mem_nil _
  · rw [after]
    intro a listed
    obtain ⟨update', first, found, newer⟩ := placed.abandoned a listed
    exact ⟨update', first, handed_append found, newer⟩
  · rw [after]
    intro number update' found
    rcases Controller.getElem?_concat found with before | ⟨rfl, same⟩
    · exact List.mem_append_left _ (placed.direct number update' before)
    · obtain ⟨rfl, -⟩ := HandOver.mk.inj same
      exact List.mem_append_right _ (List.mem_singleton.mpr rfl)
  · rw [after]
    simp only [List.pairwise_append]
    refine ⟨placed.barrier, List.pairwise_singleton _ _, ?_⟩
    intro earlier _ later new resync rows _ _
    obtain rfl := List.mem_singleton.mp new
    simp

theorem Placed.applyLive_queue (placed : Placed l) (update : υ) {current : InflightResync}
    (busy : l.inflight = some current) : Placed (l.applyLive update) := by
  have after := applyLive_busy update busy
  have queued := placed.applyLive_queued update busy
  have applied : (l.applyLive update).applied = l.applied := by
    rw [after]
    rfl
  constructor
  · rw [after]
    simp only [List.length_modify]
    exact placed.inflight
  · rw [after]
    exact placed.called
  · rw [after]
    exact placed.distinct
  · rw [after]
    exact placed.settled
  · rw [applied, queued, after]
    simp only [List.map_append, List.map_singleton, List.length_append, List.length_singleton,
      List.range_succ]
    rw [← List.append_assoc]
    exact placed.partition.append_right _
  · rw [applied, queued, List.map_append, List.map_singleton, ← List.append_assoc,
      List.pairwise_append]
    refine ⟨placed.order, List.pairwise_singleton _ _, ?_⟩
    intro number listed last new
    obtain rfl := List.mem_singleton.mp new
    rcases List.mem_append.mp listed with isApplied | isQueued
    · exact placed.applied_lt isApplied
    · exact placed.queued_lt isQueued
  · rw [after]
    intro number update' drained listed
    obtain ⟨during, found, drains⟩ := placed.updates number update' drained listed
    exact ⟨during, handed_append found, drains⟩
  · rw [queued, after]
    intro q listed
    rcases List.mem_append.mp listed with before | new
    · obtain ⟨first, last, found, inflight, succeeds⟩ := placed.waiting q before
      exact ⟨first, last, handed_append found, inflight, succeeds⟩
    · obtain rfl := List.mem_singleton.mp new
      -- the resync under way is the one the update waits for
      exact ⟨current, current, by simp, busy, Nat.le_refl _, rfl⟩
  · rw [after]
    intro a listed
    obtain ⟨update', first, found, newer⟩ := placed.abandoned a listed
    exact ⟨update', first, handed_append found, newer⟩
  · rw [after]
    intro number update' found
    rcases Controller.getElem?_concat found with before | ⟨-, same⟩
    · exact placed.direct number update' before
    · obtain ⟨-, duringSome⟩ := HandOver.mk.inj same
      cases duringSome
  · rw [after]
    exact placed.barrier

theorem Placed.applyLive (placed : Placed l) (update : υ) : Placed (l.applyLive update) := by
  cases busy : l.inflight with
  | none => exact placed.applyLive_idle update busy
  | some current => exact placed.applyLive_queue update busy

/-! ### Resyncs -/

/-- The call that a resync makes. -/
def call (l : Live υ ρ) (queue : Nat) : InflightResync := ⟨l.calls, l.generation, queue⟩

theorem call_fresh (placed : Placed l) (queue : Nat) : l.call queue ∉ l.pending := by
  intro listed
  exact absurd (placed.called _ listed) (Nat.lt_irrefl _)

/-- Superseding a resync of the same generation takes its queue over. -/
theorem resync_shared {superseded : InflightResync} (busy : l.inflight = some superseded)
    (same : superseded.generation = l.generation) : l.resync = { l with
      calls := l.calls + 1
      inflight := some (l.call superseded.queue)
      pending := l.pending ++ [l.call superseded.queue] } := by
  simp [Live.resync, busy, same, call, Option.filter]

/-- Otherwise the queue is new, and what waited in the old one is abandoned. -/
theorem resync_new (other : ∀ superseded, l.inflight = some superseded →
      superseded.generation ≠ l.generation) : l.resync = { l with
      calls := l.calls + 1
      inflight := some (l.call l.queues.length)
      pending := l.pending ++ [l.call l.queues.length]
      queues := l.queues ++ [[]]
      abandoned := l.abandoned ++ l.queued.map fun q => (q.1, l.call l.queues.length) } := by
  cases busy : l.inflight with
  | none => simp [Live.resync, busy, call]
  | some superseded => simp [Live.resync, busy, other superseded busy, call, Option.filter]

/-- The fields of a new call. -/
theorem Placed.called_append (placed : Placed l) (queue : Nat) :
    (∀ current ∈ l.pending ++ [l.call queue], current.id < l.calls + 1) ∧
      (l.pending ++ [l.call queue]).Nodup ∧
      ∀ change ∈ l.log, ∀ resync, change.resync = some resync →
        resync.id < l.calls + 1 ∧ resync ∉ l.pending ++ [l.call queue] := by
  refine ⟨?_, ?_, ?_⟩
  · intro current listed
    rcases List.mem_append.mp listed with before | new
    · exact Nat.lt_succ_of_lt (placed.called current before)
    · obtain rfl := List.mem_singleton.mp new
      exact Nat.lt_succ_self _
  · rw [List.nodup_append]
    refine ⟨placed.distinct, List.pairwise_singleton _ _, ?_⟩
    rintro current listed _ new rfl
    obtain rfl := List.mem_singleton.mp new
    exact call_fresh placed queue listed
  · intro change listed resync settled
    obtain ⟨called, gone⟩ := placed.settled change listed resync settled
    refine ⟨Nat.lt_succ_of_lt called, ?_⟩
    rw [List.mem_append, List.mem_singleton]
    rintro (pending | rfl)
    · exact gone pending
    · exact absurd called (Nat.lt_irrefl _)

theorem Placed.resync_shared (placed : Placed l) {superseded : InflightResync}
    (busy : l.inflight = some superseded) (same : superseded.generation = l.generation) :
    Placed l.resync := by
  obtain ⟨called, distinct, settled⟩ := placed.called_append superseded.queue
  obtain ⟨-, -, last, bound⟩ := placed.inflight superseded busy
  have queued : l.resync.queued = l.queued := by
    rw [Live.resync_shared busy same]
    simp [Live.queued, busy, call]
  have applied : l.resync.applied = l.applied := by
    rw [Live.resync_shared busy same]
    rfl
  have after := Live.resync_shared busy same
  constructor
  · rw [after]
    intro current found
    obtain rfl := Option.some.inj found
    exact ⟨by simp, Nat.le_refl _, rfl, bound⟩
  · rw [after]
    exact called
  · rw [after]
    exact distinct
  · rw [after]
    exact settled
  · rw [applied, queued, after]
    exact placed.partition
  · rw [applied, queued]
    exact placed.order
  · rw [after]
    exact placed.updates
  · rw [queued, after]
    intro q listed
    obtain ⟨first, before, found, inflight, older, generation⟩ := placed.waiting q listed
    obtain rfl := Option.some.inj (busy.symm.trans inflight)
    refine ⟨first, _, found, rfl, ?_, generation.trans same⟩
    simp only [call]
    omega
  · rw [after]
    exact placed.abandoned
  · rw [after]
    exact placed.direct
  · rw [after]
    exact placed.barrier

theorem Placed.resync_new (placed : Placed l) (other : ∀ superseded, l.inflight = some superseded →
    superseded.generation ≠ l.generation) : Placed l.resync := by
  obtain ⟨called, distinct, settled⟩ := placed.called_append l.queues.length
  have after := Live.resync_new other
  have queued : l.resync.queued = [] := by
    rw [after]
    simp [Live.queued, call]
  have applied : l.resync.applied = l.applied := by
    rw [after]
    rfl
  have order := placed.order
  rw [List.pairwise_append] at order
  constructor
  · rw [after]
    intro current found
    obtain rfl := Option.some.inj found
    exact ⟨by simp, Nat.le_refl _, rfl, by simp [call]⟩
  · rw [after]
    exact called
  · rw [after]
    exact distinct
  · rw [after]
    exact settled
  · rw [applied, queued, after]
    simpa [Function.comp_def] using placed.partition
  · rw [applied, queued, List.map_nil, List.append_nil]
    exact order.1
  · rw [after]
    exact placed.updates
  · rw [queued]
    exact List.forall_mem_nil _
  · rw [after]
    intro a listed
    rcases List.mem_append.mp listed with before | new
    · exact placed.abandoned a before
    · obtain ⟨q, waiting, rfl⟩ := List.mem_map.mp new
      obtain ⟨first, last, found, inflight, older, generation⟩ := placed.waiting q waiting
      obtain ⟨-, atMost, lastCall, -⟩ := placed.inflight last inflight
      have different := other last inflight
      refine ⟨q.2, first, found, ?_, ?_⟩
      · simp only [call]
        omega
      · simp only [call]
        omega
  · rw [after]
    exact placed.direct
  · rw [after]
    exact placed.barrier

theorem Placed.resync (placed : Placed l) : Placed l.resync := by
  by_cases shared : ∃ superseded, l.inflight = some superseded ∧
      superseded.generation = l.generation
  · obtain ⟨superseded, busy, same⟩ := shared
    exact placed.resync_shared busy same
  · apply placed.resync_new
    intro superseded busy same
    exact shared ⟨superseded, busy, same⟩

/-! ### Settling -/

/-- A superseded resync changes nothing. -/
theorem settle_superseded {current : InflightResync} (outcome : Option ρ)
    (superseded : l.inflight ≠ some current) :
    l.settle current outcome = { l with pending := l.pending.erase current } := by
  cases outcome with
  | none => simp [settle, failed, finish, superseded]
  | some rows => simp [settle, landed, finish, superseded]

theorem finish_inflight {current : InflightResync} (inflight : l.inflight = some current) :
    l.finish current = { l with
      inflight := none
      log := l.log ++ l.queued.map fun q => .update q.1 q.2 (some current) } :=
  if_pos inflight

/-- The resync in flight applies its snapshot, if it has one of this generation, and then what
waited. -/
theorem settle_inflight {current : InflightResync} (outcome : Option ρ)
    (inflight : l.inflight = some current) : ∃ synced retries landed,
      l.settle current outcome = { l with
        pending := l.pending.erase current
        synced := synced
        retries := retries
        inflight := none
        log := l.log ++ (landed ++ l.queued.map fun q => .update q.1 q.2 (some current)) } ∧
      ∀ change ∈ landed, ∃ rows, outcome = some rows ∧ change = .snapshot current rows ∧
        current.generation = l.generation := by
  let asked : Live υ ρ := { l with pending := l.pending.erase current }
  have busy : asked.inflight = some current := inflight
  cases outcome with
  | none =>
    change ∃ synced retries landed, (asked.failed current).finish current = _ ∧ _
    by_cases same : l.generation = current.generation
    · refine ⟨l.synced, l.retries ++ [current.generation], [], ?_, List.forall_mem_nil _⟩
      rw [failed, if_pos ⟨busy, same⟩, finish_inflight]
      · rfl
      · exact busy
    · refine ⟨l.synced, l.retries, [], ?_, List.forall_mem_nil _⟩
      rw [failed, if_neg fun both => same both.2, finish_inflight busy]
      rfl
  | some rows =>
    change ∃ synced retries landed, (asked.landed current rows).finish current = _ ∧ _
    by_cases same : l.generation = current.generation
    · have kept : ¬(asked.inflight ≠ some current ∨ asked.generation ≠ current.generation) := by
        rintro (other | other)
        · exact other busy
        · exact other same
      refine ⟨true, l.retries, [.snapshot current rows], ?_, ?_⟩
      · rw [landed, if_neg kept, finish_inflight, ← List.append_assoc]
        · rfl
        · exact busy
      · intro change listed
        exact ⟨rows, rfl, List.mem_singleton.mp listed, same.symm⟩
    · refine ⟨l.synced, l.retries, [], ?_, List.forall_mem_nil _⟩
      rw [landed, if_pos (.inr same), finish_inflight busy]
      rfl

theorem Placed.settle_superseded (placed : Placed l) {current : InflightResync} (outcome : Option ρ)
    (superseded : l.inflight ≠ some current) : Placed (l.settle current outcome) := by
  rw [Live.settle_superseded outcome superseded]
  refine { placed with
    inflight := ?_
    called := fun other listed => placed.called other (List.mem_of_mem_erase listed)
    distinct := placed.distinct.erase _
    settled := ?_ }
  · intro other found
    obtain ⟨listed, bounds⟩ := placed.inflight other found
    refine ⟨(List.mem_erase_of_ne ?_).mpr listed, bounds⟩
    rintro rfl
    exact superseded found
  · intro change listed resync settled
    obtain ⟨called, gone⟩ := placed.settled change listed resync settled
    exact ⟨called, fun still => gone (List.mem_of_mem_erase still)⟩

theorem Placed.settle_inflight (placed : Placed l) {current : InflightResync} (outcome : Option ρ)
    (inflight : l.inflight = some current) : Placed (l.settle current outcome) := by
  obtain ⟨synced, retries, landed, after, snapshots⟩ := Live.settle_inflight outcome inflight
  obtain ⟨listed, -⟩ := placed.inflight current inflight
  have queued : (l.settle current outcome).queued = [] := by
    rw [after]
    rfl
  have unnumbered : landed.filterMap Change.number = [] := by
    apply List.filterMap_eq_nil_iff.mpr
    intro change member
    obtain ⟨rows, -, rfl, -⟩ := snapshots change member
    rfl
  have applied : (l.settle current outcome).applied = l.applied ++ l.queued.map Prod.fst := by
    rw [after]
    simp only [Live.applied, List.filterMap_append, unnumbered, List.nil_append,
      List.filterMap_map]
    congr 1
    exact List.filterMap_eq_map_iff_forall_eq_some.mpr fun q _ => rfl
  constructor
  · rw [after]
    intro other found
    cases found
  · rw [after]
    intro other member
    exact placed.called other (List.mem_of_mem_erase member)
  · rw [after]
    exact placed.distinct.erase _
  · rw [after]
    intro change member resync settled
    rcases List.mem_append.mp member with before | new
    · obtain ⟨called, gone⟩ := placed.settled change before resync settled
      exact ⟨called, fun still => gone (List.mem_of_mem_erase still)⟩
    · have own : resync = current := by
        rcases List.mem_append.mp new with snapshot | drained
        · obtain ⟨rows, -, rfl, -⟩ := snapshots change snapshot
          exact (Option.some.inj settled).symm
        · obtain ⟨q, -, rfl⟩ := List.mem_map.mp drained
          exact (Option.some.inj settled).symm
      subst own
      exact ⟨placed.called _ listed, placed.distinct.not_mem_erase⟩
  -- what was waiting is applied, in its order, behind the snapshot
  · rw [applied, queued, after, List.map_nil, List.append_nil, List.append_assoc]
    refine List.Perm.trans ?_ placed.partition
    rw [List.append_assoc]
    exact List.perm_append_comm.append_left _
  · rw [applied, queued, List.map_nil, List.append_nil]
    exact placed.order
  · rw [after]
    intro number update drained member
    rcases List.mem_append.mp member with before | new
    · exact placed.updates number update drained before
    · rcases List.mem_append.mp new with snapshot | drain
      · obtain ⟨rows, -, same, -⟩ := snapshots _ snapshot
        cases same
      · obtain ⟨q, waiting, same⟩ := List.mem_map.mp drain
        obtain ⟨rfl, rfl, rfl⟩ := Change.update.inj same
        obtain ⟨first, last, found, busy, succeeds⟩ := placed.waiting q waiting
        obtain rfl := Option.some.inj (inflight.symm.trans busy)
        exact ⟨some first, found, .drained succeeds⟩
  · rw [queued]
    exact List.forall_mem_nil _
  · rw [after]
    exact placed.abandoned
  · rw [after]
    intro number update found
    exact List.mem_append_left _ (placed.direct number update found)
  · rw [after]
    simp only [List.pairwise_append]
    refine ⟨placed.barrier, ⟨?_, ?_, ?_⟩, ?_⟩
    · apply List.pairwise_of_forall_mem_list
      intro earlier member later _ resync rows _ numbered
      obtain ⟨rows', -, rfl, -⟩ := snapshots earlier member
      cases numbered
    · rw [List.pairwise_map]
      apply List.pairwise_of_forall
      intro q q' resync rows _ _ same
      cases same
    · intro earlier _ later member resync rows _ _ same
      obtain ⟨q, -, drained⟩ := List.mem_map.mp member
      rw [same] at drained
      cases drained
    · intro earlier member later new resync rows settled _ same
      -- nothing logged before says that this resync has settled
      subst same
      have own : resync = current := by
        rcases List.mem_append.mp new with snapshot | drained
        · obtain ⟨rows', -, same, -⟩ := snapshots _ snapshot
          exact (Change.snapshot.inj same).1
        · obtain ⟨q, -, same⟩ := List.mem_map.mp drained
          cases same
      subst own
      exact (placed.settled earlier member _ settled).2 listed

theorem Placed.settle (placed : Placed l) (current : InflightResync) (outcome : Option ρ) :
    Placed (l.settle current outcome) := by
  by_cases inflight : l.inflight = some current
  · exact placed.settle_inflight outcome inflight
  · exact placed.settle_superseded outcome inflight

/-! ## Polling -/

/-- One poll at most is set or under way in the current chain, and none is set in another. -/
structure Chained (l : Live υ ρ) : Prop where
  idle : l.polling = false → l.timers = []
  timers : ∀ timer ∈ l.timers, timer.chain = l.pollChain ∧ l.pollTimer = some timer.id
  chains : ∀ tick ∈ l.ticks, tick.chain ≤ l.pollChain
  one : l.timers.length + (l.ticks.filter (·.chain = l.pollChain)).length ≤ 1

theorem Chained.keep (chained : Chained l) (polling : m.polling = l.polling)
    (timers : m.timers = l.timers) (pollTimer : m.pollTimer = l.pollTimer) (ticks : m.ticks = l.ticks)
    (pollChain : m.pollChain = l.pollChain) : Chained m := by
  constructor
  · rw [polling, timers]
    exact chained.idle
  · rw [timers, pollChain, pollTimer]
    exact chained.timers
  · rw [ticks, pollChain]
    exact chained.chains
  · rw [timers, ticks, pollChain]
    exact chained.one

theorem tick_eq (l : Live υ ρ) (chain : Nat) : ∃ current, l.resync.inflight = some current ∧
    l.tick chain = { l.resync with ticks := l.ticks ++ [⟨chain, current⟩] } :=
  ⟨_, rfl, rfl⟩

/-- A poll of the current chain, when none is set or under way. -/
theorem Chained.tick (chained : Chained l) (unset : l.timers = [])
    (none : l.ticks.filter (·.chain = l.pollChain) = []) : Chained (l.tick l.pollChain) := by
  obtain ⟨current, -, after⟩ := tick_eq l l.pollChain
  rw [after]
  constructor
  · exact fun _ => unset
  · rw [show l.resync.timers = l.timers from rfl, unset]
    exact List.forall_mem_nil _
  · intro tick listed
    rcases List.mem_append.mp listed with before | new
    · exact chained.chains tick before
    · obtain rfl := List.mem_singleton.mp new
      exact Nat.le_refl _
  · change l.timers.length +
      ((l.ticks ++ [(⟨l.pollChain, current⟩ : Tick)]).filter (·.chain = l.pollChain)).length ≤ 1
    rw [unset, List.filter_append, none]
    simp

theorem Chained.startPolling (chained : Chained l) : Chained l.startPolling := by
  unfold Live.startPolling
  split
  · exact chained
  case isFalse stopped =>
    have unset := chained.idle (by simpa using stopped)
    have none : l.ticks.filter (·.chain = l.pollChain + 1) = [] := by
      apply List.filter_eq_nil_iff.mpr
      intro tick listed
      have older := chained.chains tick listed
      simp only [decide_eq_true_eq]
      omega
    refine Chained.tick (l := { l with polling := true, pollChain := l.pollChain + 1 }) ?_ unset none
    refine ⟨fun _ => unset, ?_, ?_, ?_⟩
    · rw [unset]
      exact List.forall_mem_nil _
    · intro tick listed
      exact Nat.le_succ_of_le (chained.chains tick listed)
    · change l.timers.length + (l.ticks.filter (·.chain = l.pollChain + 1)).length ≤ 1
      rw [unset, none]
      simp

theorem Chained.stopPolling (chained : Chained l) : Chained l.stopPolling := by
  have cleared : l.stopPolling.timers = [] := by
    unfold Live.stopPolling
    cases set : l.pollTimer with
    | none =>
      apply List.eq_nil_iff_forall_not_mem.mpr
      intro timer listed
      have mine := (chained.timers timer listed).2
      rw [set] at mine
      cases mine
    | some id =>
      apply List.filter_eq_nil_iff.mpr
      intro timer listed
      have mine := (chained.timers timer listed).2
      rw [set] at mine
      simp [Option.some.inj mine]
  have ticks : l.stopPolling.ticks = l.ticks ∧ l.stopPolling.pollChain = l.pollChain := by
    unfold Live.stopPolling
    cases l.pollTimer <;> exact ⟨rfl, rfl⟩
  have one := chained.one
  refine ⟨fun _ => cleared, ?_, ?_, ?_⟩
  · rw [cleared]
    exact List.forall_mem_nil _
  · rw [ticks.1, ticks.2]
    exact chained.chains
  · rw [cleared, ticks.1, ticks.2, List.length_nil]
    omega

theorem Chained.poll (chained : Chained l) {timer : PollTimer} (listed : timer ∈ l.timers) :
    Chained ({ l with timers := l.timers.erase timer }.tick timer.chain) := by
  have one := chained.one
  obtain ⟨chain, -⟩ := chained.timers timer listed
  have length := List.length_erase_of_mem listed
  have some : 0 < l.timers.length := List.length_pos_of_mem listed
  have unset : l.timers.erase timer = [] := List.eq_nil_of_length_eq_zero (by omega)
  have none : l.ticks.filter (·.chain = l.pollChain) = [] :=
    List.eq_nil_of_length_eq_zero (by omega)
  rw [chain]
  refine Chained.tick (l := { l with timers := l.timers.erase timer }) ?_ unset none
  refine ⟨fun _ => unset, ?_, chained.chains, ?_⟩
  · intro other still
    exact chained.timers other (List.mem_of_mem_erase still)
  · change (l.timers.erase timer).length + _ ≤ 1
    rw [unset, none]
    simp

theorem Chained.resumeTick (chained : Chained l) {tick : Tick} (listed : tick ∈ l.ticks) :
    Chained (l.resumeTick tick) := by
  have one := chained.one
  have fewer : ((l.ticks.erase tick).filter (·.chain = l.pollChain)).length ≤
      (l.ticks.filter (·.chain = l.pollChain)).length :=
    ((List.erase_sublist).filter _).length_le
  unfold Live.resumeTick
  by_cases stale : l.polling = false ∨ tick.chain ≠ l.pollChain
  · simp only [if_pos stale]
    refine ⟨chained.idle, chained.timers, ?_, ?_⟩
    · intro other still
      exact chained.chains other (List.mem_of_mem_erase still)
    · change l.timers.length + ((l.ticks.erase tick).filter (·.chain = l.pollChain)).length ≤ 1
      omega
  · simp only [if_neg stale]
    rw [not_or, not_not] at stale
    obtain ⟨polling, chain⟩ := stale
    have counted : tick ∈ l.ticks.filter (·.chain = l.pollChain) :=
      List.mem_filter.mpr ⟨listed, by simpa using chain⟩
    have positive := List.length_pos_of_mem counted
    have unset : l.timers = [] := List.eq_nil_of_length_eq_zero (by omega)
    have removed : ((l.ticks.erase tick).filter (·.chain = l.pollChain)).length + 1 =
        (l.ticks.filter (·.chain = l.pollChain)).length := by
      rw [← List.erase_filter, List.length_erase_of_mem counted]
      omega
    refine ⟨fun stopped => absurd stopped polling, ?_, ?_, ?_⟩
    · intro timer member
      rw [unset] at member
      obtain rfl := List.mem_singleton.mp member
      exact ⟨chain, rfl⟩
    · intro other still
      exact chained.chains other (List.mem_of_mem_erase still)
    · change (l.timers ++ [_]).length +
        ((l.ticks.erase tick).filter (·.chain = l.pollChain)).length ≤ 1
      rw [unset, List.nil_append, List.length_singleton]
      omega

/-! ## Every step -/

/-- The resync in flight is of this generation. -/
def Current (l : Live υ ρ) : Prop :=
  ∀ current, l.inflight = some current → current.generation = l.generation

structure Barred (l : Live υ ρ) : Prop where
  placed : Placed l
  chained : Chained l
  renewable : l.connection.Renewable
  current : Current l
  polling : l.polling = true ↔ l.connection.snap.state = .degraded

theorem resync_current (l : Live υ ρ) : Current l.resync := by
  intro current found
  obtain rfl := Option.some.inj found
  rfl

theorem Placed.tick (placed : Placed l) (chain : Nat) : Placed (l.tick chain) := by
  obtain ⟨current, -, after⟩ := tick_eq l chain
  rw [after]
  exact placed.resync.keep rfl rfl rfl rfl rfl rfl rfl (Nat.le_refl _)

theorem tick_current (l : Live υ ρ) (chain : Nat) : Current (l.tick chain) := by
  obtain ⟨current, -, after⟩ := tick_eq l chain
  rw [after]
  exact resync_current l

section React

variable {prev : ConnectionSnapshot}

theorem Placed.startPolling (placed : Placed l) : Placed l.startPolling := by
  unfold Live.startPolling
  split
  · exact placed
  · have started : Placed { l with polling := true, pollChain := l.pollChain + 1 } :=
      placed.keep rfl rfl rfl rfl rfl rfl rfl (Nat.le_refl _)
    exact started.tick _

theorem Placed.stopPolling (placed : Placed l) : Placed l.stopPolling := by
  unfold Live.stopPolling
  cases l.pollTimer <;> exact placed.keep rfl rfl rfl rfl rfl rfl rfl (Nat.le_refl _)

theorem startPolling_polling (l : Live υ ρ) : l.startPolling.polling = true := by
  unfold Live.startPolling
  split
  case isTrue polling => exact polling
  case isFalse => rfl

theorem startPolling_connection (l : Live υ ρ) : l.startPolling.connection = l.connection := by
  unfold Live.startPolling
  split <;> rfl

theorem startPolling_current (current : l.polling = true → Current l) : Current l.startPolling := by
  unfold Live.startPolling
  split
  case isTrue polling => exact current polling
  case isFalse => exact tick_current _ _

theorem stopPolling_eq (l : Live υ ρ) : ∃ timers pollTimer, l.stopPolling =
    { l with polling := false, timers := timers, pollTimer := pollTimer } := by
  unfold Live.stopPolling
  cases l.pollTimer with
  | none => exact ⟨_, _, rfl⟩
  | some id => exact ⟨_, _, rfl⟩

theorem Placed.renew (placed : Placed l) : Placed (l.renew prev) := by
  have reset : Placed { l with synced := false } :=
    placed.keep rfl rfl rfl rfl rfl rfl rfl (Nat.le_refl _)
  unfold Live.renew
  split
  · exact reset.resync
  · split
    · exact reset
    · exact placed

theorem renew_same (l : Live υ ρ) (prev : ConnectionSnapshot) :
    (l.renew prev).connection = l.connection ∧ (l.renew prev).polling = l.polling ∧
      (l.renew prev).timers = l.timers ∧ (l.renew prev).pollTimer = l.pollTimer ∧
      (l.renew prev).ticks = l.ticks ∧ (l.renew prev).pollChain = l.pollChain := by
  unfold Live.renew
  split
  · exact ⟨rfl, rfl, rfl, rfl, rfl, rfl⟩
  · split <;> exact ⟨rfl, rfl, rfl, rfl, rfl, rfl⟩

theorem renew_current (up : l.generation ≠ prev.generation → l.connection.snap.state = .up)
    (current : l.generation = prev.generation → Current l) : Current (l.renew prev) := by
  unfold Live.renew
  by_cases same : l.generation = prev.generation
  · rw [if_neg fun both => both.1 same, if_neg fun both => both.1 same]
    exact current same
  · rw [if_pos ⟨same, up same⟩]
    exact resync_current _

/-- The listener after a step of the connection. -/
theorem barred_react {c : Controller} (barred : Barred l) (advances : l.connection.Advances c) :
    Barred ({ l with connection := c }.react l.connection.snap) := by
  have generation := advances.generation
  have later : l.generation ≤ c.snap.generation := by
    rcases generation with same | ⟨next, -⟩
    · exact Nat.le_of_eq same.symm
    · exact Nat.le_of_lt (Nat.lt_of_lt_of_eq (Nat.lt_succ_self _) next.symm)
  let moved : Live υ ρ := { l with connection := c }
  have placed : Placed (moved.renew l.connection.snap) :=
    (barred.placed.keep rfl rfl rfl rfl rfl rfl rfl later : Placed moved).renew
  obtain ⟨connection, polling, timers, pollTimer, ticks, pollChain⟩ :=
    renew_same moved l.connection.snap
  have chained : Chained (moved.renew l.connection.snap) :=
    barred.chained.keep polling timers pollTimer ticks pollChain
  have kept : moved.generation = l.connection.snap.generation → Current moved := by
    intro same found busy
    exact (barred.current found busy).trans same.symm
  change Barred (moved.react l.connection.snap)
  rw [react, show moved.connection = c from rfl]
  by_cases changed : c.snap.state ≠ l.connection.snap.state
  · rw [if_pos changed]
    -- `degraded` is the one state in which the store is polled
    by_cases degraded : c.snap.state = .degraded
    · rw [if_pos degraded]
      have stopped : moved.polling ≠ true := by
        intro running
        exact changed (degraded.trans (barred.polling.mp running).symm)
      refine ⟨placed.startPolling, chained.startPolling, ?_, ?_, ?_⟩
      · rw [startPolling_connection, connection]
        exact advances.renewable
      · apply startPolling_current
        intro running
        exact absurd (polling.symm.trans running) stopped
      · rw [startPolling_connection, connection, startPolling_polling]
        simp [moved, degraded]
    · rw [if_neg degraded]
      -- a new generation starts a resync of its own, and only when the connection is up
      have upToDate : Current (moved.renew l.connection.snap) := by
        apply renew_current
        · intro new
          rcases generation with same | ⟨-, up | ⟨state, -⟩⟩
          · exact absurd same new
          · exact up
          · exact absurd state degraded
        · exact kept
      obtain ⟨timers', pollTimer', stopped⟩ := stopPolling_eq (moved.renew l.connection.snap)
      refine ⟨placed.stopPolling, chained.stopPolling, ?_, ?_, ?_⟩
      · rw [stopped]
        exact connection ▸ advances.renewable
      · rw [stopped]
        exact upToDate
      · rw [stopped]
        simp [connection, moved, degraded]
  · rw [if_neg changed]
    rw [ne_eq, not_not] at changed
    refine ⟨placed, chained, connection ▸ advances.renewable, ?_, ?_⟩
    · apply renew_current
      · intro new
        rcases generation with same | ⟨-, up | ⟨state, before⟩⟩
        · exact absurd same new
        · exact up
        · exact absurd (changed ▸ state) before
      · exact kept
    · rw [connection, polling]
      change l.polling = true ↔ c.snap.state = .degraded
      rw [changed]
      exact barred.polling

end React

theorem Barred.step {a : LiveAction υ ρ} (barred : Barred l) (stepped : l.step a = some m) :
    Barred m := by
  obtain ⟨placed, chained, renewable, current, polling⟩ := barred
  cases a with
  | connection action =>
    obtain ⟨c, moved, rfl⟩ := Option.map_eq_some_iff.mp stepped
    exact barred_react ⟨placed, chained, renewable, current, polling⟩
      (Controller.step_advances renewable moved)
  | onRetry =>
    obtain rfl := Option.some.inj stepped
    exact ⟨placed.resync, chained.keep rfl rfl rfl rfl rfl, renewable, resync_current l, polling⟩
  | handOver update =>
    obtain rfl := Option.some.inj stepped
    have same := placed.applyLive update
    unfold applyLive at same ⊢
    cases busy : l.inflight with
    | none =>
      simp only [busy] at same ⊢
      refine ⟨same, chained.keep rfl rfl rfl rfl rfl, renewable, ?_, polling⟩
      intro found busy'
      cases busy'
    | some inflight =>
      simp only [busy] at same ⊢
      refine ⟨same, chained.keep rfl rfl rfl rfl rfl, renewable, ?_, polling⟩
      intro found busy'
      exact current found (busy.trans busy')
  | settle resync outcome =>
    obtain ⟨listed, same⟩ := Option.ite_none_right_eq_some.mp stepped
    obtain rfl := Option.some.inj same
    -- a resync that was superseded settles without a trace
    by_cases inflight : l.inflight = some resync
    · obtain ⟨synced, retries, landed, after, -⟩ := Live.settle_inflight outcome inflight
      have settled := placed.settle resync outcome
      rw [after] at settled ⊢
      refine ⟨settled, chained.keep rfl rfl rfl rfl rfl, renewable, ?_, polling⟩
      intro found busy
      cases busy
    · have settled := placed.settle resync outcome
      rw [Live.settle_superseded outcome inflight] at settled ⊢
      exact ⟨settled, chained.keep rfl rfl rfl rfl rfl, renewable, current, polling⟩
  | retry generation =>
    obtain ⟨-, same⟩ := Option.ite_none_right_eq_some.mp stepped
    obtain rfl := Option.some.inj same
    have fired : Placed { l with retries := l.retries.erase generation } :=
      placed.keep rfl rfl rfl rfl rfl rfl rfl (Nat.le_refl _)
    dsimp only
    split
    · exact ⟨fired.resync, chained.keep rfl rfl rfl rfl rfl, renewable, resync_current _, polling⟩
    · exact ⟨fired, chained.keep rfl rfl rfl rfl rfl, renewable, current, polling⟩
  | poll timer =>
    obtain ⟨listed, same⟩ := Option.ite_none_right_eq_some.mp stepped
    obtain rfl := Option.some.inj same
    have fired : Placed { l with timers := l.timers.erase timer } :=
      placed.keep rfl rfl rfl rfl rfl rfl rfl (Nat.le_refl _)
    exact ⟨fired.tick _, chained.poll listed, renewable, tick_current _ _, polling⟩
  | resume tick =>
    obtain ⟨⟨listed, -⟩, same⟩ := Option.ite_none_right_eq_some.mp stepped
    obtain rfl := Option.some.inj same
    have resumed := chained.resumeTick listed
    unfold resumeTick at resumed ⊢
    split at resumed
    case isTrue stale =>
      simp only [if_pos stale]
      exact ⟨placed.keep rfl rfl rfl rfl rfl rfl rfl (Nat.le_refl _), resumed, renewable, current,
        polling⟩
    case isFalse fresh =>
      simp only [if_neg fresh]
      exact ⟨placed.keep rfl rfl rfl rfl rfl rfl rfl (Nat.le_refl _), resumed, renewable, current,
        polling⟩

theorem barred_init : Barred (init : Live υ ρ) := by
  refine ⟨?_, ?_, ?_, ?_, ?_⟩
  · constructor <;> simp [init, applied, queued]
  · constructor <;> simp [init]
  · intro pending
    cases pending
  · intro current found
    cases found
  · simp [init, Controller.init]

section Superseded

end Superseded

end Live

end Rsbtd.WebUi
