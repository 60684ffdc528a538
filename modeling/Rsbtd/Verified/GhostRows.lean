import Rsbtd.Verified.RowMaps
import Rsbtd.Verified.SnapshotBarrier

/-!
# Rows of removed torrents

A removal event takes a row out of the store once.  A snapshot requested later has no
such row, and what waits in the queue is applied in the order it was handed over, so
the row stays away unless a batch or a fetched row that still has it is handed over
after the removal.
-/

namespace Rsbtd.WebUi

open Transition (Run exec exists_run_of_exec)

variable {φ : Type}

/-! ## The store -/

section Store

variable [DecidableEq φ] {s : TorrentsState φ} {rows : List (TorrentRow φ)} {uuid : TorrentUuid}

theorem applyRow_lacks {map : RowMap φ} {row : TorrentRow φ} (lacks : Lacks map uuid)
    (other : row.uuid ≠ uuid) : Lacks (applyRow map row).1 uuid := by
  unfold applyRow
  split
  · exact lacks
  · exact RowMap.lacks_set lacks other

namespace TorrentsState

theorem patch_lacks (lacks : Lacks s.byUuid uuid) (clean : Lacks rows uuid) :
    Lacks (s.patch rows).byUuid uuid := by
  have folded : ∀ (rest : List (TorrentRow φ)) (next : RowMap φ × Bool), Lacks next.1 uuid →
      Lacks rest uuid → Lacks (rest.foldl (fun next row =>
        ((applyRow next.1 row).1, (applyRow next.1 row).2 || next.2)) next).1 uuid := by
    intro rest
    induction rest with
    | nil => exact fun next lacks _ => lacks
    | cons row rest ih =>
      intro next lacks clean
      obtain ⟨first, others⟩ := List.forall_mem_cons.mp clean
      exact ih _ (applyRow_lacks lacks first) others
  unfold patch
  dsimp only
  split
  · exact folded rows _ lacks clean
  · exact lacks

omit [DecidableEq φ] in
theorem remove_lacks_self (s : TorrentsState φ) (uuid : TorrentUuid) :
    Lacks (s.remove uuid).byUuid uuid := by
  unfold remove
  split
  · exact RowMap.lacks_delete_self _ _
  case isFalse absent => exact RowMap.has_eq_false.mp (by simpa using absent)

omit [DecidableEq φ] in
theorem remove_lacks (lacks : Lacks s.byUuid uuid) (removed : TorrentUuid) :
    Lacks (s.remove removed).byUuid uuid := by
  unfold remove
  split
  · exact RowMap.lacks_delete lacks removed
  · exact lacks

/-- A snapshot leaves no rows but its own. -/
theorem replaceAll_lacks (s : TorrentsState φ) (clean : Lacks rows uuid) :
    Lacks (s.replaceAll rows).byUuid uuid := by
  have next : Lacks (rows.foldl RowMap.set []) uuid :=
    RowMap.lacks_foldl_set (List.forall_mem_nil _) clean
  unfold replaceAll
  dsimp only
  split
  · exact next
  case isFalse unchanged =>
    rw [not_or, not_or, not_not, not_not] at unchanged
    exact RowMap.lacks_of_keys next unchanged.2.2

end TorrentsState

end Store

/-! ## What the log does to the store -/

/-- The rows an update brings. -/
def LiveUpdate.rows : LiveUpdate φ → List (TorrentRow φ)
  | .patch rows => rows
  | .upsert row => [row]
  | .event _ => []

/-- The rows a change brings. -/
def Change.rows : Change (LiveUpdate φ) (List (TorrentRow φ)) → List (TorrentRow φ)
  | .snapshot _ rows => rows
  | .update _ up _ => up.rows

namespace Ui

variable [DecidableEq φ] {s t : Ui φ} {uuid : TorrentUuid} {g : Nat}
  {change : Change (LiveUpdate φ) (List (TorrentRow φ))}
  {changes : List (Change (LiveUpdate φ) (List (TorrentRow φ)))}

/-- Applying the log touches the store, the removals and the fetches alone. -/
structure Frame (s t : Ui φ) : Prop where
  live : t.live = s.live
  torrents : t.torrents = s.torrents
  minted : t.minted = s.minted
  events : t.events = s.events
  loaded : t.loaded = s.loaded
  handedRemovals : t.handedRemovals = s.handedRemovals

theorem frame_applyChange (s : Ui φ) (change : Change (LiveUpdate φ) (List (TorrentRow φ))) :
    Frame s (s.applyChange change) := by
  rcases change with ⟨resync, rows⟩ | ⟨number, rows | event | row, drained⟩
  · exact ⟨rfl, rfl, rfl, rfl, rfl, rfl⟩
  · exact ⟨rfl, rfl, rfl, rfl, rfl, rfl⟩
  · cases event <;> exact ⟨rfl, rfl, rfl, rfl, rfl, rfl⟩
  · exact ⟨rfl, rfl, rfl, rfl, rfl, rfl⟩

omit [DecidableEq φ] in
theorem Frame.trans {u : Ui φ} (first : Frame s t) (second : Frame t u) : Frame s u where
  live := second.live.trans first.live
  torrents := second.torrents.trans first.torrents
  minted := second.minted.trans first.minted
  events := second.events.trans first.events
  loaded := second.loaded.trans first.loaded
  handedRemovals := second.handedRemovals.trans first.handedRemovals

theorem frame_foldl (s : Ui φ) (changes : List (Change (LiveUpdate φ) (List (TorrentRow φ)))) :
    Frame s (changes.foldl applyChange s) := by
  induction changes generalizing s with
  | nil => exact ⟨rfl, rfl, rfl, rfl, rfl, rfl⟩
  | cons change changes ih => exact (frame_applyChange s change).trans (ih _)

theorem applyChange_lacks (lacks : Lacks s.store.byUuid uuid) (clean : Lacks change.rows uuid) :
    Lacks (s.applyChange change).store.byUuid uuid := by
  rcases change with ⟨resync, rows⟩ | ⟨number, rows | event | row, drained⟩
  · exact TorrentsState.replaceAll_lacks _ clean
  · exact TorrentsState.patch_lacks lacks clean
  · cases event with
    | torrentRemoved removed => exact TorrentsState.remove_lacks lacks removed
    | torrentAdded | metadataReceived | torrentError | hint => exact lacks
  · exact TorrentsState.patch_lacks lacks clean

theorem foldl_lacks (lacks : Lacks s.store.byUuid uuid)
    (clean : ∀ change ∈ changes, Lacks change.rows uuid) :
    Lacks (changes.foldl applyChange s).store.byUuid uuid := by
  induction changes generalizing s with
  | nil => exact lacks
  | cons change changes ih =>
    obtain ⟨first, others⟩ := List.forall_mem_cons.mp clean
    exact ih (applyChange_lacks lacks first) others

/-- The update is the removal event of the torrent. -/
def Removes (update : LiveUpdate φ) (uuid : TorrentUuid) : Prop :=
  update = .event (.torrentRemoved uuid)

/-- The change is the removal event of the torrent. -/
def ChangeRemoves (uuid : TorrentUuid) : Change (LiveUpdate φ) (List (TorrentRow φ)) → Prop
  | .snapshot _ _ => False
  | .update _ up _ => Removes up uuid

/-- No rows of a torrent come after its removal. -/
def Ordered (changes : List (Change (LiveUpdate φ) (List (TorrentRow φ)))) : Prop :=
  changes.Pairwise fun earlier later => ∀ uuid, ChangeRemoves uuid earlier → Lacks later.rows uuid

theorem applyChange_removes (removes : ChangeRemoves uuid change) :
    Lacks (s.applyChange change).store.byUuid uuid := by
  rcases change with ⟨resync, rows⟩ | ⟨number, update, drained⟩
  · cases removes
  · obtain rfl : update = .event (.torrentRemoved uuid) := removes
    exact TorrentsState.remove_lacks_self _ _

theorem foldl_removes (ordered : Ordered changes) (listed : change ∈ changes)
    (removes : ChangeRemoves uuid change) :
    Lacks (changes.foldl applyChange s).store.byUuid uuid := by
  induction changes generalizing s with
  | nil => cases listed
  | cons first changes ih =>
    obtain ⟨clean, ordered⟩ := List.pairwise_cons.mp ordered
    rcases List.mem_cons.mp listed with rfl | later
    · apply foldl_lacks (applyChange_removes removes)
      intro other member
      exact clean other member uuid removes
    · exact ih ordered later

/-- The removals recorded are those of the changes, in the generation of the time. -/
theorem applyChange_removals (listed : (g, uuid) ∈ (s.applyChange change).removals) :
    (g, uuid) ∈ s.removals ∨ g = s.live.generation ∧ ChangeRemoves uuid change := by
  rcases change with ⟨resync, rows⟩ | ⟨number, rows | event | row, drained⟩
  · exact .inl listed
  · exact .inl listed
  · cases event with
    | torrentRemoved removed =>
      rcases List.mem_append.mp listed with before | new
      · exact .inl before
      · obtain ⟨rfl, rfl⟩ := Prod.mk.inj (List.mem_singleton.mp new)
        exact .inr ⟨rfl, rfl⟩
    | torrentAdded | metadataReceived | torrentError | hint => exact .inl listed
  · exact .inl listed

theorem foldl_removals (listed : (g, uuid) ∈ (changes.foldl applyChange s).removals) :
    (g, uuid) ∈ s.removals ∨ g = s.live.generation ∧ ∃ change ∈ changes, ChangeRemoves uuid change := by
  induction changes generalizing s with
  | nil => exact .inl listed
  | cons first changes ih =>
    rcases ih listed with before | ⟨now, change, member, removes⟩
    · rcases applyChange_removals before with before | ⟨now, removes⟩
      · exact .inl before
      · exact .inr ⟨now, first, List.mem_cons_self, removes⟩
    · rw [(frame_applyChange s first).live] at now
      exact .inr ⟨now, change, List.mem_cons_of_mem _ member, removes⟩

end Ui

/-! ## Steps of the live data that hand nothing over -/

namespace Live

variable {υ ρ : Type} {l m : Live υ ρ}

/-- Nothing is applied and nothing leaves the queue; a resync in flight afterwards is the one before
or a new one. -/
structure Quiet (l m : Live υ ρ) : Prop where
  log : m.log = l.log
  generation : m.generation = l.generation
  queued : m.queued = l.queued
  inflight : m.inflight = l.inflight ∨ ∃ current, m.inflight = some current ∧ l.calls ≤ current.id
  calls : l.calls ≤ m.calls

/-- A new generation begins with an empty queue. -/
structure Renewed (l m : Live υ ρ) : Prop where
  log : m.log = l.log
  queued : m.queued = []
  calls : l.calls ≤ m.calls

theorem queued_same (inflight : m.inflight = l.inflight) (queues : m.queues = l.queues) :
    m.queued = l.queued := by
  simp only [queued, inflight, queues]

theorem Quiet.same (log : m.log = l.log) (generation : m.generation = l.generation)
    (inflight : m.inflight = l.inflight) (queues : m.queues = l.queues) (calls : m.calls = l.calls) :
    Quiet l m :=
  ⟨log, generation, queued_same inflight queues, .inl inflight, Nat.le_of_eq calls.symm⟩

theorem renewed_resync (other : ∀ superseded, l.inflight = some superseded →
    superseded.generation ≠ l.generation) : Renewed l l.resync := by
  rw [resync_new other]
  refine ⟨rfl, ?_, Nat.le_succ _⟩
  simp [queued, call]

theorem quiet_resync (current : Current l) : Quiet l l.resync := by
  cases busy : l.inflight with
  | none =>
    have other : ∀ superseded, l.inflight = some superseded →
        superseded.generation ≠ l.generation := by
      intro superseded found
      rw [busy] at found
      cases found
    have renewed := renewed_resync other
    refine ⟨renewed.log, rfl, ?_, .inr ⟨_, rfl, Nat.le_refl _⟩, renewed.calls⟩
    rw [renewed.queued, queued_none busy]
  | some superseded =>
    rw [resync_shared busy (current superseded busy)]
    refine ⟨rfl, rfl, ?_, .inr ⟨_, rfl, Nat.le_refl _⟩, Nat.le_succ _⟩
    simp [queued, busy, call]

theorem quiet_tick (current : Current l) (chain : Nat) : Quiet l (l.tick chain) := by
  have quiet := quiet_resync current
  exact ⟨quiet.log, quiet.generation, quiet.queued, quiet.inflight, quiet.calls⟩

theorem renewed_tick (chain : Nat) (other : ∀ superseded, l.inflight = some superseded →
    superseded.generation ≠ l.generation) : Renewed l (l.tick chain) := by
  have renewed := renewed_resync other
  exact ⟨renewed.log, renewed.queued, renewed.calls⟩

theorem quiet_startPolling (current : Current l) : Quiet l l.startPolling := by
  unfold startPolling
  split
  · exact .same rfl rfl rfl rfl rfl
  · have started : Current { l with polling := true, pollChain := l.pollChain + 1 } := current
    obtain ⟨log, generation, queued, inflight, calls⟩ := quiet_tick started (l.pollChain + 1)
    exact ⟨log, generation, queued, inflight, calls⟩

theorem quiet_stopPolling (l : Live υ ρ) : Quiet l l.stopPolling := by
  obtain ⟨timers, pollTimer, stopped⟩ := stopPolling_eq l
  rw [stopped]
  exact .same rfl rfl rfl rfl rfl

theorem Renewed.stopPolling (renewed : Renewed l m) : Renewed l m.stopPolling := by
  have quiet := quiet_stopPolling m
  exact ⟨quiet.log.trans renewed.log, quiet.queued.trans renewed.queued,
    Nat.le_trans renewed.calls quiet.calls⟩

section Connection

variable {c : Controller}

/-- A step of the connection in the same generation. -/
theorem quiet_react (barred : Barred l) (same : c.snap.generation = l.generation) :
    Quiet l ({ l with connection := c }.react l.connection.snap) := by
  have current : Current { l with connection := c } := by
    intro found busy
    exact (barred.current found busy).trans same.symm
  have kept : ({ l with connection := c } : Live υ ρ).renew l.connection.snap =
      { l with connection := c } := by
    unfold renew
    rw [if_neg fun both => both.1 same, if_neg fun both => both.1 same]
  have moved : Quiet l { l with connection := c } := .same rfl same rfl rfl rfl
  unfold react
  rw [kept]
  split
  · split
    · obtain ⟨log, generation, queued, inflight, calls⟩ := quiet_startPolling current
      exact ⟨log, generation.trans same, queued.trans moved.queued, inflight, calls⟩
    · obtain ⟨log, generation, queued, inflight, calls⟩ :=
        quiet_stopPolling ({ l with connection := c } : Live υ ρ)
      exact ⟨log, generation.trans same, queued.trans moved.queued, inflight, calls⟩
  · exact moved

/-- A step of the connection into a new generation. -/
theorem renewed_react (barred : Barred l) (advances : l.connection.Advances c)
    (new : c.snap.generation ≠ l.generation) :
    Renewed l ({ l with connection := c }.react l.connection.snap) := by
  have other : ∀ superseded, l.inflight = some superseded →
      superseded.generation ≠ c.snap.generation := by
    intro superseded busy same
    exact new (same.symm.trans (barred.current superseded busy))
  rcases advances.generation with same | ⟨-, up | ⟨degraded, before⟩⟩
  · exact absurd same new
  · have renewed : Renewed l (({ l with connection := c } : Live υ ρ).renew l.connection.snap) := by
      unfold renew
      rw [if_pos ⟨new, up⟩]
      obtain ⟨log, queued, calls⟩ :=
        renewed_resync (l := { l with connection := c, synced := false }) other
      exact ⟨log, queued, calls⟩
    unfold react
    split
    · rw [if_neg (by simp [up])]
      exact renewed.stopPolling
    · exact renewed
  · have stopped : l.polling = false := by
      rw [Bool.eq_false_iff, ne_eq, barred.polling]
      exact before
    have kept : ({ l with connection := c } : Live υ ρ).renew l.connection.snap =
        { l with connection := c, synced := false } := by
      unfold renew
      rw [if_neg (by simp [degraded]), if_pos ⟨new, degraded⟩]
    unfold react
    rw [if_pos fun same => before (same.symm.trans degraded), if_pos degraded, kept, startPolling,
      if_neg (by simp [stopped])]
    obtain ⟨log, queued, calls⟩ := renewed_tick (l := { l with
      connection := c, synced := false, polling := true, pollChain := l.pollChain + 1 })
      (l.pollChain + 1) other
    exact ⟨log, queued, calls⟩

theorem react_generation (l : Live υ ρ) (prev : ConnectionSnapshot) :
    (l.react prev).generation = l.generation := by
  have kept : (l.renew prev).generation = l.generation := by
    rw [generation, (renew_same l prev).1, ← generation]
  unfold react
  split
  · split
    · rw [generation, startPolling_connection]
      exact kept
    · rw [(quiet_stopPolling _).generation]
      exact kept
  · exact kept

end Connection

end Live

/-! ## The invariant -/

namespace Ui

variable [DecidableEq φ] {s t : Ui φ} {uuid : TorrentUuid} {m : TorrentsLive φ}

/-- The removal was applied in this generation, and nothing brings the row back. -/
structure Removed (s : Ui φ) (uuid : TorrentUuid) : Prop where
  handed : (s.live.generation, uuid) ∈ s.handedRemovals
  store : Lacks s.store.byUuid uuid
  queue : ∀ q ∈ s.live.queued, Lacks q.2.rows uuid
  snapshot : ∀ current, s.live.inflight = some current → Lacks (s.snapshotOf current) uuid

structure Ghostless (s : Ui φ) : Prop where
  barred : s.live.Barred
  past : ∀ g uuid, (g, uuid) ∈ s.handedRemovals ∨ (g, uuid) ∈ s.removals → g ≤ s.live.generation
  gone : ∀ g uuid, (g, uuid) ∈ s.handedRemovals → uuid ∈ s.minted ∧ Lacks s.torrents uuid
  leaving : ∀ uuid, .torrentRemoved uuid ∈ s.events → uuid ∈ s.minted ∧ Lacks s.torrents uuid
  minted : ∀ row ∈ s.torrents, row.uuid ∈ s.minted
  called : ∀ l ∈ s.loaded, l.1 < s.live.calls
  queue : s.live.queued.Pairwise fun earlier later =>
    ∀ uuid, Removes earlier.2 uuid → Lacks later.2.rows uuid
  waiting : ∀ q ∈ s.live.queued, ∀ uuid, Removes q.2 uuid →
    (s.live.generation, uuid) ∈ s.handedRemovals
  removed : ∀ uuid, (s.live.generation, uuid) ∈ s.removals → Removed s uuid

omit [DecidableEq φ] in
theorem mem_snapshotOf {current : InflightResync} {row : TorrentRow φ} :
    row ∈ s.snapshotOf current ↔ (current.id, row) ∈ s.loaded := by
  rw [snapshotOf, List.mem_map]
  constructor
  · rintro ⟨⟨id, row⟩, listed, rfl⟩
    obtain ⟨member, own⟩ := List.mem_filter.mp listed
    obtain rfl : id = current.id := by simpa using own
    exact member
  · intro listed
    exact ⟨(current.id, row), List.mem_filter.mpr ⟨listed, by simp⟩, rfl⟩

/-! ### The live data -/

theorem absorb_same (log : m.log = s.live.log) : s.absorb m = { s with live := m } := by
  simp [absorb, log]

theorem absorb_append {changes : List (Change (LiveUpdate φ) (List (TorrentRow φ)))}
    (log : m.log = s.live.log ++ changes) :
    s.absorb m = changes.foldl applyChange { s with live := m } := by
  simp [absorb, log]

omit [DecidableEq φ] in
theorem Ghostless.quiet (ghostless : Ghostless s) (quiet : Live.Quiet s.live m) (barred : m.Barred) :
    Ghostless { s with live := m } := by
  obtain ⟨-, past, gone, leaving, minted, called, queue, waiting, removed⟩ := ghostless
  refine ⟨barred, ?_, gone, leaving, minted, ?_, ?_, ?_, ?_⟩
  · rw [quiet.generation]
    exact past
  · intro l listed
    exact Nat.lt_of_lt_of_le (called l listed) quiet.calls
  · rw [quiet.queued]
    exact queue
  · rw [quiet.queued, quiet.generation]
    exact waiting
  · intro uuid listed
    rw [quiet.generation] at listed
    obtain ⟨handed, store, clean, snapshot⟩ := removed uuid listed
    refine ⟨quiet.generation.symm ▸ handed, store, quiet.queued.symm ▸ clean, ?_⟩
    intro current busy
    rcases quiet.inflight with same | ⟨new, busy', late⟩
    · exact snapshot current (same.symm.trans busy)
    · obtain rfl := Option.some.inj (busy.symm.trans busy')
      intro row member
      have early := called _ (mem_snapshotOf.mp member)
      exact absurd early (Nat.not_lt.mpr late)

omit [DecidableEq φ] in
/-- A new generation begins with no removals. -/
theorem Ghostless.renewed (ghostless : Ghostless s) (renewed : Live.Renewed s.live m)
    (barred : m.Barred) (later : s.live.generation < m.generation) :
    Ghostless { s with live := m } := by
  obtain ⟨-, past, gone, leaving, minted, called, -, -, -⟩ := ghostless
  refine ⟨barred, ?_, gone, leaving, minted, ?_, ?_, ?_, ?_⟩
  · intro g uuid listed
    exact Nat.le_trans (past g uuid listed) (Nat.le_of_lt later)
  · intro l listed
    exact Nat.lt_of_lt_of_le (called l listed) renewed.calls
  · rw [renewed.queued]
    exact List.Pairwise.nil
  · rw [renewed.queued]
    exact List.forall_mem_nil _
  · intro uuid listed
    exact absurd (past _ uuid (.inr listed)) (Nat.not_le.mpr later)

omit [DecidableEq φ] in
/-- What the streams hold is not part of the invariant but for the removals on their way. -/
theorem Ghostless.streams (ghostless : Ghostless s) {fetches : List (RowFetch φ)}
    {events : List UiEvent} {batch : List (TorrentRow φ)} {changed : List (List (TorrentRow φ))}
    (leaving : ∀ uuid, .torrentRemoved uuid ∈ events → uuid ∈ s.minted ∧ Lacks s.torrents uuid) :
    Ghostless { s with fetches := fetches, events := events, batch := batch, changed := changed } := by
  refine { ghostless with leaving := leaving, removed := ?_ }
  intro uuid listed
  obtain ⟨handed, store, queue, snapshot⟩ := ghostless.removed uuid listed
  exact ⟨handed, store, queue, snapshot⟩

/-- An update is handed over that brings no row of a removed torrent. -/
theorem Ghostless.hand (ghostless : Ghostless s) {update : LiveUpdate φ}
    (fresh : ∀ uuid, (s.live.generation, uuid) ∈ s.handedRemovals → Lacks update.rows uuid)
    (own : ∀ uuid, Removes update uuid → (s.live.generation, uuid) ∈ s.handedRemovals) :
    Ghostless (s.absorb (s.live.applyLive update)) := by
  have barred : (s.live.applyLive update).Barred :=
    ghostless.barred.step (a := .handOver update) rfl
  cases busy : s.live.inflight with
  | none =>
    -- no snapshot is under way: the store takes the update at once
    have after := Live.applyLive_idle update busy
    have log : (s.live.applyLive update).log =
        s.live.log ++ [.update s.live.handed.length update none] := by rw [after]
    have queued : (s.live.applyLive update).queued = [] := by
      rw [after]
      exact Live.queued_none busy
    rw [absorb_append log, List.foldl_cons, List.foldl_nil]
    obtain ⟨live, torrents, minted, events, loaded, handed⟩ := frame_applyChange
      { s with live := s.live.applyLive update } (.update s.live.handed.length update none)
    have generation : (s.live.applyLive update).generation = s.live.generation := by rw [after]; rfl
    have calls : (s.live.applyLive update).calls = s.live.calls := by rw [after]
    constructor
    · rw [live]
      exact barred
    · rw [live, handed, generation]
      rintro g uuid (listed | listed)
      · exact ghostless.past g uuid (.inl listed)
      · rcases applyChange_removals listed with before | ⟨now, -⟩
        · exact ghostless.past g uuid (.inr before)
        · exact Nat.le_of_eq (now.trans generation)
    · rw [handed, minted, torrents]
      exact ghostless.gone
    · rw [events, minted, torrents]
      exact ghostless.leaving
    · rw [torrents, minted]
      exact ghostless.minted
    · rw [loaded, live, calls]
      exact ghostless.called
    · rw [live, queued]
      exact List.Pairwise.nil
    · rw [live, queued]
      exact List.forall_mem_nil _
    · rw [live, generation]
      intro uuid listed
      have idle : ∀ current, (s.live.applyLive update).inflight ≠ some current := by
        intro current
        rw [after]
        simp [busy]
      rcases applyChange_removals listed with before | ⟨-, removes⟩
      · have removed := ghostless.removed uuid before
        refine ⟨?_, applyChange_lacks removed.store (fresh uuid removed.handed), ?_, ?_⟩
        · rw [live, handed, generation]
          exact removed.handed
        · rw [live, queued]
          exact List.forall_mem_nil _
        · rw [live]
          exact fun current found => absurd found (idle current)
      · refine ⟨?_, applyChange_removes removes, ?_, ?_⟩
        · rw [live, handed, generation]
          exact own uuid removes
        · rw [live, queued]
          exact List.forall_mem_nil _
        · rw [live]
          exact fun current found => absurd found (idle current)
  | some current =>
    -- the update waits for the snapshot under way and changes no row yet
    have after := Live.applyLive_busy update busy
    have queued := ghostless.barred.placed.applyLive_queued update busy
    have generation : (s.live.applyLive update).generation = s.live.generation := by rw [after]; rfl
    rw [absorb_same (by rw [after])]
    refine ⟨barred, ?_, ghostless.gone, ghostless.leaving, ghostless.minted, ?_, ?_, ?_, ?_⟩
    · rw [generation]
      exact ghostless.past
    · rw [show (s.live.applyLive update).calls = s.live.calls by rw [after]]
      exact ghostless.called
    · rw [queued, List.pairwise_append]
      refine ⟨ghostless.queue, List.pairwise_singleton _ _, ?_⟩
      intro earlier listed later new uuid removes
      obtain rfl := List.mem_singleton.mp new
      exact fresh uuid (ghostless.waiting earlier listed uuid removes)
    · rw [queued, generation]
      intro q listed uuid removes
      rcases List.mem_append.mp listed with before | new
      · exact ghostless.waiting q before uuid removes
      · obtain rfl := List.mem_singleton.mp new
        exact own uuid removes
    · rw [generation]
      intro uuid listed
      obtain ⟨handed, store, clean, snapshot⟩ := ghostless.removed uuid listed
      refine ⟨generation.symm ▸ handed, store, ?_, ?_⟩
      · rw [queued]
        intro q member
        rcases List.mem_append.mp member with before | new
        · exact clean q before
        · obtain rfl := List.mem_singleton.mp new
          exact fresh uuid handed
      · intro found busy'
        apply snapshot found
        rw [after] at busy'
        exact busy'

/-- A snapshot settles. -/
theorem Ghostless.settle (ghostless : Ghostless s) {resync : InflightResync}
    (listed : resync ∈ s.live.pending) (ok : Bool) : Ghostless
      (s.absorb (s.live.settle resync (if ok then some (s.snapshotOf resync) else none))) := by
  let outcome := if ok then some (s.snapshotOf resync) else none
  have barred : (s.live.settle resync outcome).Barred :=
    ghostless.barred.step (a := .settle resync outcome) (if_pos listed)
  change Ghostless (s.absorb (s.live.settle resync outcome))
  by_cases inflight : s.live.inflight = some resync
  · obtain ⟨synced, retries, landed, after, snapshots⟩ := Live.settle_inflight outcome inflight
    have generation : (s.live.settle resync outcome).generation = s.live.generation := by
      rw [after]
      rfl
    have queued : (s.live.settle resync outcome).queued = [] := by
      rw [after]
      rfl
    have idle : ∀ current, (s.live.settle resync outcome).inflight ≠ some current := by
      intro current
      rw [after]
      simp
    -- the snapshot removes nothing, and the queue is in order
    have unremoved : ∀ change ∈ landed, ∀ uuid, ¬ChangeRemoves uuid change := by
      intro change member uuid removes
      obtain ⟨rows, -, rfl, -⟩ := snapshots change member
      exact removes
    have ordered :
        Ordered (landed ++ s.live.queued.map fun q => Change.update q.1 q.2 (some resync)) := by
      unfold Ordered
      rw [List.pairwise_append, List.pairwise_map]
      refine ⟨?_, ghostless.queue, ?_⟩
      · apply List.pairwise_of_forall_mem_list
        intro earlier member later _ uuid removes
        exact absurd removes (unremoved earlier member uuid)
      · intro earlier member later _ uuid removes
        exact absurd removes (unremoved earlier member uuid)
    have log : (s.live.settle resync outcome).log = s.live.log ++
        (landed ++ s.live.queued.map fun q => Change.update q.1 q.2 (some resync)) := by rw [after]
    rw [absorb_append log]
    obtain ⟨live, torrents, minted, events, loaded, handed⟩ := frame_foldl
      { s with live := s.live.settle resync outcome }
      (landed ++ s.live.queued.map fun q => Change.update q.1 q.2 (some resync))
    constructor
    · rw [live]
      exact barred
    · rw [live, handed, generation]
      rintro g uuid (member | member)
      · exact ghostless.past g uuid (.inl member)
      · rcases foldl_removals member with before | ⟨now, -⟩
        · exact ghostless.past g uuid (.inr before)
        · exact Nat.le_of_eq (now.trans generation)
    · rw [handed, minted, torrents]
      exact ghostless.gone
    · rw [events, minted, torrents]
      exact ghostless.leaving
    · rw [torrents, minted]
      exact ghostless.minted
    · rw [loaded, live, show (s.live.settle resync outcome).calls = s.live.calls by rw [after]]
      exact ghostless.called
    · rw [live, queued]
      exact List.Pairwise.nil
    · rw [live, queued]
      exact List.forall_mem_nil _
    · rw [live, generation]
      intro uuid member
      have isHanded : (s.live.generation, uuid) ∈ s.handedRemovals ∧ Lacks
          ((landed ++ s.live.queued.map fun (q : Nat × LiveUpdate φ) =>
              Change.update q.1 q.2 (some resync)).foldl applyChange
            { s with live := s.live.settle resync outcome }).store.byUuid uuid := by
        rcases foldl_removals member with before | ⟨-, change, new, removes⟩
        · have removed := ghostless.removed uuid before
          refine ⟨removed.handed, foldl_lacks removed.store ?_⟩
          intro change new
          rcases List.mem_append.mp new with snapshot | drained
          · obtain ⟨rows, same, rfl, -⟩ := snapshots change snapshot
            have given := (Option.ite_none_right_eq_some.mp same).2
            obtain rfl := Option.some.inj given
            exact removed.snapshot resync inflight
          · obtain ⟨q, waits, rfl⟩ := List.mem_map.mp drained
            exact removed.queue q waits
        · refine ⟨?_, foldl_removes ordered new removes⟩
          rcases List.mem_append.mp new with snapshot | drained
          · exact absurd removes (unremoved change snapshot uuid)
          · obtain ⟨q, waits, rfl⟩ := List.mem_map.mp drained
            exact ghostless.waiting q waits uuid removes
      refine ⟨?_, isHanded.2, ?_, ?_⟩
      · rw [live, handed, generation]
        exact isHanded.1
      · rw [live, queued]
        exact List.forall_mem_nil _
      · rw [live]
        exact fun current found => absurd found (idle current)
  · have after := Live.settle_superseded outcome inflight
    rw [absorb_same (by rw [after])]
    apply ghostless.quiet _ barred
    rw [after]
    exact .same rfl rfl rfl rfl rfl

/-! ### The daemon -/

omit [DecidableEq φ] in
theorem lacks_of_get {map : RowMap φ} {row : TorrentRow φ} {asked : TorrentUuid}
    (lacks : Lacks map uuid) (found : map.get asked = some row) : row.uuid ≠ uuid :=
  lacks row (RowMap.mem_of_get found).1

omit [DecidableEq φ] in
/-- The daemon's torrents change, and no uuid that is gone comes back. -/
theorem Ghostless.daemon (ghostless : Ghostless s) {torrents : RowMap φ}
    {minted : List TorrentUuid} {events : List UiEvent}
    (gone : ∀ uuid, uuid ∈ s.minted ∧ Lacks s.torrents uuid → uuid ∈ minted ∧ Lacks torrents uuid)
    (leaving : ∀ uuid, .torrentRemoved uuid ∈ events → uuid ∈ minted ∧ Lacks torrents uuid)
    (known : ∀ row ∈ torrents, row.uuid ∈ minted) :
    Ghostless { s with torrents := torrents, minted := minted, events := events } := by
  refine { ghostless with
    gone := fun g uuid listed => gone uuid (ghostless.gone g uuid listed)
    leaving := leaving
    minted := known
    removed := ?_ }
  intro uuid listed
  obtain ⟨handed, store, queue, snapshot⟩ := ghostless.removed uuid listed
  exact ⟨handed, store, queue, snapshot⟩

omit [DecidableEq φ] in
theorem Ghostless.register (ghostless : Ghostless s) {row : TorrentRow φ}
    (fresh : row.uuid ∉ s.minted) : Ghostless { s with
      torrents := s.torrents ++ [row]
      minted := s.minted ++ [row.uuid]
      events := s.events ++ [.torrentAdded row.uuid] } := by
  have kept : ∀ uuid, uuid ∈ s.minted ∧ Lacks s.torrents uuid →
      uuid ∈ s.minted ++ [row.uuid] ∧ Lacks (s.torrents ++ [row]) uuid := by
    rintro uuid ⟨known, lacks⟩
    refine ⟨List.mem_append_left _ known, ?_⟩
    intro other listed
    rcases List.mem_append.mp listed with before | new
    · exact lacks other before
    · obtain rfl := List.mem_singleton.mp new
      rintro rfl
      exact fresh known
  apply ghostless.daemon kept
  · intro uuid listed
    rcases List.mem_append.mp listed with before | new
    · exact kept uuid (ghostless.leaving uuid before)
    · cases List.mem_singleton.mp new
  · intro other listed
    rcases List.mem_append.mp listed with before | new
    · exact List.mem_append_left _ (ghostless.minted other before)
    · obtain rfl := List.mem_singleton.mp new
      exact List.mem_append_right _ (List.mem_singleton.mpr rfl)

omit [DecidableEq φ] in
theorem Ghostless.change (ghostless : Ghostless s) {row : TorrentRow φ}
    (present : s.torrents.has row.uuid = true) :
    Ghostless { s with torrents := s.torrents.set row } := by
  obtain ⟨existing, member, same⟩ := RowMap.has_eq_true.mp present
  have kept : ∀ uuid, uuid ∈ s.minted ∧ Lacks s.torrents uuid →
      uuid ∈ s.minted ∧ Lacks (s.torrents.set row) uuid := by
    rintro uuid ⟨known, lacks⟩
    exact ⟨known, RowMap.lacks_set lacks (same ▸ lacks existing member)⟩
  have known : ∀ other ∈ s.torrents.set row, other.uuid ∈ s.minted := by
    intro other listed
    rw [RowMap.set, if_pos present] at listed
    obtain ⟨before, held, rfl⟩ := List.mem_map.mp listed
    split
    · exact same ▸ ghostless.minted existing member
    · exact ghostless.minted before held
  exact ghostless.daemon kept (fun uuid listed => kept uuid (ghostless.leaving uuid listed)) known

omit [DecidableEq φ] in
theorem Ghostless.unregister (ghostless : Ghostless s) (present : s.torrents.has uuid = true) :
    Ghostless { s with
      torrents := s.torrents.delete uuid
      events := s.events ++ [.torrentRemoved uuid] } := by
  obtain ⟨existing, member, same⟩ := RowMap.has_eq_true.mp present
  have kept : ∀ other, other ∈ s.minted ∧ Lacks s.torrents other →
      other ∈ s.minted ∧ Lacks (s.torrents.delete uuid) other := by
    rintro other ⟨known, lacks⟩
    exact ⟨known, RowMap.lacks_delete lacks uuid⟩
  apply ghostless.daemon kept
  · intro other listed
    rcases List.mem_append.mp listed with before | new
    · exact kept other (ghostless.leaving other before)
    · obtain rfl := UiEvent.torrentRemoved.inj (List.mem_singleton.mp new)
      exact ⟨same ▸ ghostless.minted existing member, RowMap.lacks_delete_self _ _⟩
  · intro row listed
    exact ghostless.minted row (List.mem_filter.mp listed).1

omit [DecidableEq φ] in
theorem Ghostless.loadSnapshot (ghostless : Ghostless s) {resync : InflightResync}
    (listed : resync ∈ s.live.pending) (asked : TorrentUuid) : Ghostless { s with
      loaded := s.loaded ++ (s.torrents.get asked).toList.map ((resync.id, ·)) } := by
  have new : ∀ id row, (id, row) ∈ (s.torrents.get asked).toList.map ((resync.id, ·)) →
      id = resync.id ∧ s.torrents.get asked = some row := by
    intro id row member
    obtain ⟨found, held, same⟩ := List.mem_map.mp member
    obtain ⟨rfl, rfl⟩ := Prod.mk.inj same
    exact ⟨rfl, by simpa using held⟩
  refine { ghostless with called := ?_, removed := ?_ }
  · rintro ⟨id, row⟩ member
    rcases List.mem_append.mp member with before | last
    · exact ghostless.called _ before
    · obtain ⟨rfl, -⟩ := new id row last
      exact ghostless.barred.placed.called resync listed
  · intro uuid member
    obtain ⟨handed, store, queue, snapshot⟩ := ghostless.removed uuid member
    refine ⟨handed, store, queue, ?_⟩
    intro current busy row held
    rcases List.mem_append.mp (mem_snapshotOf.mp held) with before | last
    · exact snapshot current busy row (mem_snapshotOf.mpr before)
    · exact lacks_of_get (ghostless.gone _ uuid handed).2 (new _ _ last).2

/-! ### Deliveries -/

/-- The event stream delivers its next event. -/
theorem Ghostless.deliverEvent (ghostless : Ghostless s) {event : UiEvent} {rest : List UiEvent}
    (next : s.events = event :: rest) : Ghostless ({ s with events := rest }.handEvent event) := by
  have later : ∀ uuid, .torrentRemoved uuid ∈ rest → uuid ∈ s.minted ∧ Lacks s.torrents uuid := by
    intro uuid listed
    exact ghostless.leaving uuid (next ▸ List.mem_cons_of_mem _ listed)
  unfold handEvent
  apply Ghostless.hand
  · refine { ghostless with leaving := later, past := ?_, gone := ?_, waiting := ?_, removed := ?_ }
    · rintro g uuid (listed | listed)
      · rcases List.mem_append.mp listed with before | new
        · exact ghostless.past g uuid (.inl before)
        · cases event with
          | torrentRemoved =>
            obtain ⟨rfl, -⟩ := Prod.mk.inj (List.mem_singleton.mp new)
            exact Nat.le_refl _
          | torrentAdded | metadataReceived | torrentError | hint => cases new
      · exact ghostless.past g uuid (.inr listed)
    · intro g uuid listed
      rcases List.mem_append.mp listed with before | new
      · exact ghostless.gone g uuid before
      · cases event with
        | torrentRemoved =>
          obtain ⟨-, rfl⟩ := Prod.mk.inj (List.mem_singleton.mp new)
          exact ghostless.leaving uuid (next ▸ List.mem_cons_self)
        | torrentAdded | metadataReceived | torrentError | hint => cases new
    · intro q listed uuid removes
      exact List.mem_append_left _ (ghostless.waiting q listed uuid removes)
    · intro uuid listed
      obtain ⟨handed, store, queue, snapshot⟩ := ghostless.removed uuid listed
      exact ⟨List.mem_append_left _ handed, store, queue, snapshot⟩
  · intro uuid _
    exact List.forall_mem_nil _
  · intro uuid removes
    obtain rfl : event = .torrentRemoved uuid := LiveUpdate.event.inj removes
    exact List.mem_append_right _ (List.mem_singleton.mpr rfl)

/-- The rows a step hands to `applyLive`. -/
def handsRows (s : Ui φ) : UiAction φ → List (TorrentRow φ)
  | .deliverChanged => s.changed.head?.getD []
  | .resumeFetch fetch true =>
    match s.fetches[fetch]? with
    | some ⟨_, generation, some (some row)⟩ => if generation = s.live.generation then [row] else []
    | _ => []
  | _ => []

/-- No step hands over a row whose removal event was handed over in this generation. -/
def Timely (s : Ui φ) (a : UiAction φ) : Prop :=
  ∀ row ∈ s.handsRows a, (s.live.generation, row.uuid) ∉ s.handedRemovals

omit [DecidableEq φ] in
theorem Timely.lacks {a : UiAction φ} (timely : Timely s a)
    (handed : (s.live.generation, uuid) ∈ s.handedRemovals) : Lacks (s.handsRows a) uuid := by
  intro row listed same
  exact timely row listed (same ▸ handed)

omit [DecidableEq φ] in
/-- Without new events on their way, the streams and the fetches may be anything. -/
theorem Ghostless.delivered (ghostless : Ghostless s) (fetches : List (RowFetch φ))
    {events : List UiEvent} (batch : List (TorrentRow φ)) (changed : List (List (TorrentRow φ)))
    (fewer : ∀ event ∈ events, event ∈ s.events) :
    Ghostless { s with fetches := fetches, events := events, batch := batch, changed := changed } :=
  ghostless.streams fun uuid listed => ghostless.leaving uuid (fewer _ listed)

theorem Ghostless.resumeFetch (ghostless : Ghostless s) {fetch : Nat} {ok : Bool} {f : RowFetch φ}
    (listed : s.fetches[fetch]? = some f) (timely : Timely s (.resumeFetch fetch ok))
    (resumed : ({ s with fetches := s.fetches.eraseIdx fetch }).fetched f ok = some t) :
    Ghostless t := by
  have dropped : Ghostless { s with fetches := s.fetches.eraseIdx fetch } :=
    ghostless.delivered _ _ _ fun _ member => member
  rcases f with ⟨asked, generation, _ | _ | row⟩ <;> cases ok
  · obtain rfl := Option.some.inj resumed
    exact dropped
  · cases resumed
  · obtain rfl := Option.some.inj resumed
    exact dropped
  · obtain rfl := Option.some.inj resumed
    exact dropped
  · obtain rfl := Option.some.inj resumed
    exact dropped
  · by_cases same : generation = s.live.generation
    · simp only [fetched, if_true, if_pos same, Option.some.injEq] at resumed
      subst resumed
      have hands : s.handsRows (.resumeFetch fetch true) = [row] := by
        simp only [handsRows, listed, if_pos same]
      apply dropped.hand
      · intro uuid handed
        rw [LiveUpdate.rows, ← hands]
        exact timely.lacks handed
      · intro uuid removes
        cases removes
    · simp only [fetched, if_true, if_neg same, Option.some.injEq] at resumed
      subst resumed
      exact dropped

theorem Ghostless.connection (ghostless : Ghostless s) {action : Action}
    (stepped : s.step (.connection action) = some t) : Ghostless t := by
  obtain ⟨live, moved, rfl⟩ := Option.map_eq_some_iff.mp stepped
  have barred := ghostless.barred.step moved
  obtain ⟨c, advanced, rfl⟩ := Option.map_eq_some_iff.mp moved
  have advances := Controller.step_advances ghostless.barred.renewable advanced
  have generation := Live.react_generation { s.live with connection := c } s.live.connection.snap
  have same : Ghostless { s with
      live := ({ s.live with connection := c } : TorrentsLive φ).react s.live.connection.snap } := by
    -- a new generation starts from a snapshot of its own: no removal counts for it
    by_cases kept : c.snap.generation = s.live.generation
    · exact ghostless.quiet (Live.quiet_react ghostless.barred kept) barred
    · apply ghostless.renewed (Live.renewed_react ghostless.barred advances kept) barred
      rw [generation]
      rcases advances.generation with same | ⟨later, -⟩
      · exact absurd same kept
      · exact Nat.lt_of_lt_of_eq (Nat.lt_succ_self _) later.symm
  split
  · exact same.delivered _ [] [] (List.forall_mem_nil _)
  · exact same

theorem Ghostless.step {a : UiAction φ} (ghostless : Ghostless s) (timely : Timely s a)
    (stepped : s.step a = some t) : Ghostless t := by
  have barred := ghostless.barred
  cases a with
  | connection action => exact ghostless.connection stepped
  | onRetry =>
    obtain rfl := Option.some.inj stepped
    have after := barred.step (a := .onRetry) rfl
    have quiet := Live.quiet_resync barred.current
    rw [absorb_same quiet.log]
    exact ghostless.quiet quiet after
  | resubscribeEvents =>
    obtain rfl := Option.some.inj stepped
    exact ghostless.delivered _ _ _ (List.forall_mem_nil _)
  | resubscribeChanged =>
    obtain rfl := Option.some.inj stepped
    exact ghostless.delivered _ _ _ fun _ member => member
  | retry generation =>
    obtain ⟨live, moved, rfl⟩ := Option.map_eq_some_iff.mp stepped
    have after := barred.step moved
    obtain ⟨-, same⟩ := Option.ite_none_right_eq_some.mp moved
    have fired : Live.Quiet s.live { s.live with retries := s.live.retries.erase generation } :=
      .same rfl rfl rfl rfl rfl
    have quiet : Live.Quiet s.live live := by
      obtain rfl := Option.some.inj same
      dsimp only
      split
      · obtain ⟨log, same, queued, inflight, calls⟩ := Live.quiet_resync
          (l := { s.live with retries := s.live.retries.erase generation }) barred.current
        exact ⟨log, same, queued, inflight, calls⟩
      · exact fired
    rw [absorb_same quiet.log]
    exact ghostless.quiet quiet after
  | poll timer =>
    -- a tick may start a snapshot, but changes no row
    obtain ⟨live, moved, rfl⟩ := Option.map_eq_some_iff.mp stepped
    have after := barred.step moved
    obtain ⟨-, same⟩ := Option.ite_none_right_eq_some.mp moved
    obtain rfl := Option.some.inj same
    have quiet : Live.Quiet s.live
        (({ s.live with timers := s.live.timers.erase timer } : TorrentsLive φ).tick timer.chain) := by
      obtain ⟨log, same, queued, inflight, calls⟩ := Live.quiet_tick
        (l := { s.live with timers := s.live.timers.erase timer }) barred.current timer.chain
      exact ⟨log, same, queued, inflight, calls⟩
    rw [absorb_same quiet.log]
    exact ghostless.quiet quiet after
  | resume tick =>
    obtain ⟨live, moved, rfl⟩ := Option.map_eq_some_iff.mp stepped
    have after := barred.step moved
    obtain ⟨-, same⟩ := Option.ite_none_right_eq_some.mp moved
    have quiet : Live.Quiet s.live live := by
      obtain rfl := Option.some.inj same
      unfold Live.resumeTick
      split
      · exact .same rfl rfl rfl rfl rfl
      · exact .same rfl rfl rfl rfl rfl
    rw [absorb_same quiet.log]
    exact ghostless.quiet quiet after
  | register row =>
    obtain ⟨fresh, same⟩ := Option.ite_none_left_eq_some.mp stepped
    obtain rfl := Option.some.inj same
    exact ghostless.register fresh
  | change row =>
    obtain ⟨present, same⟩ := Option.ite_none_right_eq_some.mp stepped
    obtain rfl := Option.some.inj same
    exact ghostless.change present
  | unregister uuid =>
    obtain ⟨present, same⟩ := Option.ite_none_right_eq_some.mp stepped
    obtain rfl := Option.some.inj same
    exact ghostless.unregister present
  | publish event =>
    have more : ∀ other, event = other → (∀ uuid, other ≠ .torrentRemoved uuid) →
        Ghostless { s with events := s.events ++ [event] } := by
      rintro other rfl plain
      apply ghostless.streams
      intro uuid listed
      rcases List.mem_append.mp listed with before | new
      · exact ghostless.leaving uuid before
      · exact absurd (List.mem_singleton.mp new).symm (plain uuid)
    cases event with
    | torrentAdded => cases stepped
    | torrentRemoved => cases stepped
    | metadataReceived | torrentError | hint =>
      obtain rfl := Option.some.inj stepped
      refine more _ rfl ?_
      intro uuid same
      cases same
  | loadSnapshot resync uuid =>
    obtain ⟨listed, same⟩ := Option.ite_none_right_eq_some.mp stepped
    obtain rfl := Option.some.inj same
    exact ghostless.loadSnapshot listed uuid
  | loadBatch uuid =>
    obtain rfl := Option.some.inj stepped
    exact ghostless.delivered _ _ _ fun _ member => member
  | sendBatch =>
    obtain ⟨-, same⟩ := Option.ite_none_left_eq_some.mp stepped
    obtain rfl := Option.some.inj same
    exact ghostless.delivered _ _ _ fun _ member => member
  | answerFetch fetch =>
    cases listed : s.fetches[fetch]? with
    | none => simp [Ui.step, listed] at stepped
    | some f =>
      rcases f with ⟨uuid, generation, _ | answer⟩
      · simp only [Ui.step, listed, Option.some.injEq] at stepped
        subst stepped
        exact ghostless.delivered _ _ _ fun _ member => member
      · simp [Ui.step, listed] at stepped
  | settle resync ok =>
    obtain ⟨live, moved, rfl⟩ := Option.map_eq_some_iff.mp stepped
    obtain ⟨listed, same⟩ := Option.ite_none_right_eq_some.mp moved
    obtain rfl := Option.some.inj same
    exact ghostless.settle listed ok
  | deliverEvent =>
    cases next : s.events with
    | nil => simp [Ui.step, next] at stepped
    | cons event rest =>
      simp only [Ui.step, next, Option.some.injEq] at stepped
      subst stepped
      exact ghostless.deliverEvent next
  | deliverChanged =>
    -- the rows handed over are the ones `Timely` is about
    cases next : s.changed with
    | nil => simp [Ui.step, next] at stepped
    | cons rows rest =>
      simp only [Ui.step, next, Option.some.injEq] at stepped
      subst stepped
      have hands : s.handsRows .deliverChanged = rows := by simp [handsRows, next]
      have dropped : Ghostless { s with changed := rest } :=
        ghostless.delivered _ _ _ fun _ member => member
      apply dropped.hand
      · intro uuid handed
        rw [LiveUpdate.rows, ← hands]
        exact timely.lacks handed
      · intro uuid removes
        cases removes
  | fetchRow uuid =>
    obtain rfl := Option.some.inj stepped
    exact ghostless.delivered _ _ _ fun _ member => member
  | resumeFetch fetch ok =>
    cases listed : s.fetches[fetch]? with
    | none => simp [Ui.step, listed] at stepped
    | some f =>
      simp only [Ui.step, listed] at stepped
      exact ghostless.resumeFetch listed timely stepped

omit [DecidableEq φ] in
theorem ghostless_init : Ghostless (init : Ui φ) := by
  refine ⟨Live.barred_init, ?_, ?_, ?_, ?_, ?_, ?_, ?_, ?_⟩
  all_goals simp [init, Live.queued, Live.init]

/-- In a run that hands over no row after its removal, no removed torrent is in the store. -/
theorem no_ghost_rows (run : Run step Timely (init : Ui φ) s)
    (removed : (s.live.generation, uuid) ∈ s.removals) : s.store.has uuid = false := by
  have ghostless : Ghostless s := by
    refine Run.invariant (I := Ghostless) ghostless_init ?_ run
    intro s a t _ ghostless timely stepped
    exact ghostless.step timely stepped
  exact RowMap.has_eq_false.mpr (ghostless.removed uuid removed).store

section Removal

/-- The daemon has a torrent, the UI connects and its snapshot lands. -/
def connected : List (UiAction Unit) :=
  [.register ⟨7, ()⟩, .connection .start, .connection (.respond 0 .ok), .connection (.resume 0),
    .connection (.wsConnected 0), .loadSnapshot ⟨0, 1, 0⟩ 7, .settle ⟨0, 1, 0⟩ true]

/-- A batch is loaded and delivered, then the torrent is removed. -/
def removedAfter : List (UiAction Unit) :=
  connected ++ [.loadBatch 7, .sendBatch, .deliverChanged, .unregister 7, .deliverEvent]

/-- The batch is loaded before the removal and delivered after it. -/
def removedBetween : List (UiAction Unit) :=
  connected ++ [.loadBatch 7, .sendBatch, .unregister 7, .deliverEvent, .deliverChanged]

instance (s : Ui φ) (a : UiAction φ) : Decidable (Timely s a) :=
  inferInstanceAs (Decidable (∀ row ∈ s.handsRows a, (s.live.generation, row.uuid) ∉ s.handedRemovals))

theorem no_ghost_rows_removed : ∃ s : Ui Unit, (s.live.generation, 7) ∈ s.removals ∧
    s.store.listVersion = 2 ∧ s.store.has 7 = false := by
  have replayed : (exec step (fun s a => decide (Timely s a)) (init : Ui Unit) removedAfter).map
      (fun s => decide ((s.live.generation, 7) ∈ s.removals ∧ s.store.listVersion = 2)) =
        some true := by decide +kernel
  obtain ⟨s, run, holds⟩ := exists_run_of_exec replayed
  obtain ⟨removed, version⟩ := of_decide_eq_true holds
  exact ⟨s, removed, version, no_ghost_rows (run.mono fun _ _ => of_decide_eq_true) removed⟩

/-- The row is back, and nothing is on its way. -/
theorem ghost_row : ∃ s : Ui Unit, Run step (fun _ _ => True) init s ∧
    (s.live.generation, 7) ∈ s.removals ∧ s.store.has 7 = true ∧ s.live.pending = [] ∧
    s.live.inflight = none ∧ s.fetches = [] ∧ s.events = [] ∧ s.batch = [] ∧ s.changed = [] ∧
    s.torrents = [] := by
  have replayed : (exec step (fun _ _ => true) (init : Ui Unit) removedBetween).map
      (fun s => decide ((s.live.generation, 7) ∈ s.removals ∧ s.store.has 7 = true ∧
        s.live.pending = [] ∧ s.live.inflight = none ∧ s.fetches = [] ∧ s.events = [] ∧
        s.batch = [] ∧ s.changed = [] ∧ s.torrents = [])) = some true := by decide +kernel
  obtain ⟨s, run, holds⟩ := exists_run_of_exec replayed
  exact ⟨s, run.mono (by simp), of_decide_eq_true holds⟩

end Removal

end Ui

end Rsbtd.WebUi
