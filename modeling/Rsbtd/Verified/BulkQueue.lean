import Mathlib.Data.List.Sort
import Rsbtd.WebUi.Queue

/-!
# What a bulk move does to the queue

The sorted selection is the queue's own list of the selected torrents, read from the
top for up and bottom and from the bottom for down and top, and every mutation of
the loop succeeds.  Hence the queue after the loop is a fold of moves over it.
-/

namespace Rsbtd.WebUi

open Sequence

variable {Uuid : Type} [DecidableEq Uuid] {store : QueuedRows Uuid} {uuids : List Uuid}
  {d : DownloadQueue Uuid} {op : QueueOp}

/-- The store's positions are current. -/
def Current (store : QueuedRows Uuid) (queue : List Uuid) : Prop :=
  ∀ uuid ∈ queue, store uuid = some ⟨some (queue.idxOf uuid)⟩

/-- What a bulk move may do to the queue: the selected torrents keep their order and so do the
others, none moves against the operation, up and down move each by at most one place, and top and
bottom gather the selection there. -/
structure BulkMoved (op : QueueOp) (selected : Uuid → Bool) (queue queue' : List Uuid) : Prop where
  perm : queue'.Perm queue
  selection : queue'.filter selected = queue.filter selected
  others : queue'.filter (fun uuid => !selected uuid) = queue.filter fun uuid => !selected uuid
  raised : op = .top ∨ op = .up →
    ∀ uuid ∈ queue, selected uuid = true → queue'.idxOf uuid ≤ queue.idxOf uuid
  lowered : op = .down ∨ op = .bottom →
    ∀ uuid ∈ queue, selected uuid = true → queue.idxOf uuid ≤ queue'.idxOf uuid
  up : op = .up → ∀ uuid ∈ queue, selected uuid = true → queue.idxOf uuid ≤ queue'.idxOf uuid + 1
  down : op = .down →
    ∀ uuid ∈ queue, selected uuid = true → queue'.idxOf uuid ≤ queue.idxOf uuid + 1
  head : op = .top → queue.filter selected <+: queue'
  tail : op = .bottom → queue.filter selected <:+ queue'

/-! ## The order of the moves -/

theorem position_current (current : Current store d.queue) {uuid : Uuid} (queued : uuid ∈ d.queue) :
    torrentCommands.position store uuid = d.queue.idxOf uuid := by
  simp [torrentCommands.position, current uuid queued]

/-- A list with no duplicate is sorted by the places of its elements. -/
theorem idxOf_ascending {queue : List Uuid} (unique : queue.Nodup) :
    queue.Pairwise fun a b => queue.idxOf a < queue.idxOf b := by
  rw [List.pairwise_iff_getElem]
  intro i j hi hj less
  rw [unique.idxOf_getElem, unique.idxOf_getElem]
  exact less

/-- The selection as the queue lists it. -/
theorem selection_perm (unique : uuids.Nodup) (queued : ∀ uuid ∈ uuids, uuid ∈ d.queue) :
    uuids.Perm (d.queue.filter (· ∈ uuids)) := by
  rw [List.perm_ext_iff_of_nodup unique (d.unique.filter _)]
  intro uuid
  constructor
  · intro selected
    simp [selected, queued uuid selected]
  · intro selected
    simpa using (List.mem_filter.mp selected).2

/-- The selection sorted by the positions is the queue's own list, as no place occurs twice. -/
theorem arranged_eq {arranged : List Uuid} (unique : uuids.Nodup)
    (queued : ∀ uuid ∈ uuids, uuid ∈ d.queue) (current : Current store d.queue)
    (perm : arranged.Perm uuids)
    (sorted : arranged.Pairwise fun a b =>
      torrentCommands.position store a ≤ torrentCommands.position store b) :
    arranged = d.queue.filter (· ∈ uuids) := by
  have listed : ∀ uuid ∈ arranged, uuid ∈ d.queue := by
    intro uuid later
    exact queued uuid (perm.mem_iff.mp later)
  have placed : arranged.Pairwise fun a b => d.queue.idxOf a ≤ d.queue.idxOf b := by
    apply sorted.imp_of_mem
    intro a b inFirst inSecond before
    rw [← position_current current (listed a inFirst),
      ← position_current current (listed b inSecond)]
    exact before
  apply List.Perm.eq_of_pairwise _ placed _ (perm.trans (selection_perm unique queued))
  · intro a b inFirst _ less more
    exact (List.idxOf_inj (listed a inFirst)).mp (Nat.le_antisymm less more)
  · exact ((idxOf_ascending d.unique).filter _).imp Nat.le_of_lt

theorem ordered_ascending (ascending : op = .up ∨ op = .bottom) (unique : uuids.Nodup)
    (queued : ∀ uuid ∈ uuids, uuid ∈ d.queue) (current : Current store d.queue) :
    torrentCommands.ordered store uuids op = d.queue.filter (· ∈ uuids) := by
  simp only [torrentCommands.ordered, if_pos ascending]
  apply arranged_eq unique queued current (List.mergeSort_perm _ _)
  have sorted := @List.pairwise_mergeSort Uuid
    (fun a b => torrentCommands.position store a ≤ torrentCommands.position store b)
    (by simpa using fun a b c => Nat.le_trans) (by simpa using fun a b => Nat.le_total _ _) uuids
  exact sorted.imp of_decide_eq_true

theorem ordered_descending (descending : op = .top ∨ op = .down) (unique : uuids.Nodup)
    (queued : ∀ uuid ∈ uuids, uuid ∈ d.queue) (current : Current store d.queue) :
    torrentCommands.ordered store uuids op = (d.queue.filter (· ∈ uuids)).reverse := by
  have notAscending : ¬(op = .up ∨ op = .bottom) := by
    rcases descending with rfl | rfl <;> simp
  simp only [torrentCommands.ordered, if_neg notAscending]
  rw [← List.reverse_eq_iff]
  apply arranged_eq unique queued current
  · exact (List.reverse_perm _).trans (List.mergeSort_perm _ _)
  · have sorted := @List.pairwise_mergeSort Uuid
      (fun a b => torrentCommands.position store b ≤ torrentCommands.position store a)
      (by simpa using fun a b c ba cb => Nat.le_trans cb ba)
      (by simpa using fun a b => Nat.le_total _ _) uuids
    rw [List.pairwise_reverse]
    exact sorted.imp of_decide_eq_true

/-! ## The loop -/

/-- Every mutation of queued torrents succeeds, and leaves them queued. -/
theorem bulk_moves {fn : Uuid → DownloadQueue Uuid → Except String (DownloadQueue Uuid)}
    {move : Uuid → List Uuid → List Uuid} {perm : ∀ uuid queue, (move uuid queue).Perm queue}
    (mutation : fn = fun uuid => DownloadQueue.move (move uuid) (perm uuid) uuid)
    (queued : ∀ uuid ∈ uuids, uuid ∈ d.queue) (result : BulkResult Uuid) :
    (bulk fn uuids result d).1 = { result with ok := result.ok + uuids.length } ∧
      (bulk fn uuids result d).2.queue = uuids.foldl (fun queue uuid => move uuid queue) d.queue := by
  induction uuids generalizing result d with
  | nil => exact ⟨rfl, rfl⟩
  | cons uuid uuids ih =>
    rw [List.forall_mem_cons] at queued
    have known : uuid ∈ d.torrents := d.queued uuid queued.1
    have sent : fn uuid d = .ok ⟨d.torrents, move uuid d.queue,
        (perm uuid d.queue).nodup_iff.mpr d.unique,
        fun other listed => d.queued other ((perm uuid d.queue).mem_iff.mp listed)⟩ := by
      rw [mutation]
      exact if_pos known
    simp only [bulk, sent, List.foldl_cons, List.length_cons]
    have rest := ih (d := ⟨d.torrents, move uuid d.queue,
        (perm uuid d.queue).nodup_iff.mpr d.unique,
        fun other listed => d.queued other ((perm uuid d.queue).mem_iff.mp listed)⟩)
      (fun other later => (perm uuid d.queue).mem_iff.mpr (queued.2 other later))
      { result with ok := result.ok + 1 }
    refine ⟨?_, rest.2⟩
    rw [rest.1]
    simp [Nat.add_comm, Nat.add_left_comm]

/-- The move an operation makes for each torrent. -/
def QueueOp.move : QueueOp → Uuid → List Uuid → List Uuid
  | .top => Sequence.top
  | .up => Sequence.up
  | .down => Sequence.down
  | .bottom => Sequence.bottom

theorem QueueOp.move_perm (op : QueueOp) (uuid : Uuid) (queue : List Uuid) :
    (op.move uuid queue).Perm queue := by
  cases op with
  | top => exact top_perm uuid queue
  | up => exact up_perm uuid queue
  | down => exact down_perm uuid queue
  | bottom => exact bottom_perm uuid queue

/-- With the whole selection queued nothing fails, and the moves are made in the sorted order. -/
theorem queue_moved (queued : ∀ uuid ∈ uuids, uuid ∈ d.queue) :
    (torrentCommands.queue store uuids op d).1 = none ∧
      (torrentCommands.queue store uuids op d).2.queue =
        (torrentCommands.ordered store uuids op).foldl (fun queue uuid => op.move uuid queue)
          d.queue := by
  have mutation : torrentCommands.queueMutation op =
      fun uuid : Uuid => DownloadQueue.move (op.move uuid) (op.move_perm uuid) uuid := by
    cases op <;> rfl
  have listed : ∀ uuid ∈ torrentCommands.ordered store uuids op, uuid ∈ d.queue := by
    intro uuid later
    exact queued uuid ((List.mergeSort_perm uuids _).mem_iff.mp later)
  have loop := bulk_moves mutation listed ⟨0, []⟩
  simp only [torrentCommands.queue, bulkToast, loop.1]
  exact ⟨trivial, loop.2⟩

/-! ## What each operation does -/

section Moves

variable {queue : List Uuid} {selected : Uuid → Bool}

theorem up_moved (unique : queue.Nodup) :
    BulkMoved .up selected queue
        ((queue.filter selected).foldl (fun queue uuid => Sequence.up uuid queue) queue) ↔
      blocked selected queue = false := by
  constructor
  · intro moved
    by_contra jam
    exact foldl_up_blocked unique (eq_true_of_ne_false jam) moved.selection
  · intro free
    have climbed := foldl_up_climbed unique free
    exact {
      perm := climbed.perm
      selection := climbed.selection
      others := climbed.others
      raised := fun _ => climbed.rose
      lowered := by simp
      up := fun _ => climbed.one
      down := by simp
      head := by simp
      tail := by simp }

theorem down_moved (unique : queue.Nodup) :
    BulkMoved .down selected queue
        ((queue.filter selected).reverse.foldl (fun queue uuid => Sequence.down uuid queue) queue) ↔
      blocked selected queue.reverse = false := by
  have backwards : queue.reverse.Nodup := List.nodup_reverse.mpr unique
  rw [foldl_down unique, ← List.filter_reverse]
  constructor
  · intro moved
    by_contra jam
    apply foldl_up_blocked backwards (eq_true_of_ne_false jam)
    have kept := moved.selection
    rw [List.filter_reverse, List.reverse_eq_iff] at kept
    rw [kept, List.filter_reverse]
  · intro free
    have climbed := foldl_up_climbed backwards free
    generalize (queue.reverse.filter selected).foldl (fun queue uuid => Sequence.up uuid queue)
      queue.reverse = risen at climbed ⊢
    have perm : risen.reverse.Perm queue :=
      (List.reverse_perm risen).trans (climbed.perm.trans (List.reverse_perm queue))
    -- a place counted from the bottom
    have place : ∀ uuid ∈ queue, queue.reverse.idxOf uuid + queue.idxOf uuid =
        risen.idxOf uuid + risen.reverse.idxOf uuid := by
      intro uuid queued
      have still : uuid ∈ risen.reverse := perm.mem_iff.mpr queued
      have before := idxOf_reverse unique queued
      have after := idxOf_reverse (perm.nodup_iff.mpr unique) still
      rw [List.reverse_reverse, perm.length_eq] at after
      omega
    exact {
      perm := perm
      selection := by
        rw [List.filter_reverse, climbed.selection, List.filter_reverse, List.reverse_reverse]
      others := by
        rw [List.filter_reverse, climbed.others, List.filter_reverse, List.reverse_reverse]
      raised := by simp
      lowered := by
        intro _ uuid queued chosen
        have rose := climbed.rose uuid (by simpa using queued) chosen
        have := place uuid queued
        omega
      up := by simp
      down := by
        intro _ uuid queued chosen
        have one := climbed.one uuid (by simpa using queued) chosen
        have := place uuid queued
        omega
      head := by simp
      tail := by simp }

theorem top_moved (unique : queue.Nodup) :
    BulkMoved .top selected queue
      ((queue.filter selected).reverse.foldl (fun queue uuid => Sequence.top uuid queue) queue) := by
  have listed : ∀ uuid ∈ queue.filter selected, uuid ∈ queue := by
    intro uuid chosen
    exact (List.mem_filter.mp chosen).1
  have rest : (queue.filter fun uuid => uuid ∉ queue.filter selected) =
      queue.filter fun uuid => !selected uuid := by
    apply List.filter_congr
    intro uuid queued
    simp [queued]
  rw [foldl_top unique (unique.filter _) listed, rest]
  exact {
    perm := List.filter_append_perm selected queue
    selection := by
      rw [List.filter_append, (filter_gathered queue selected).1,
        (filter_gathered queue selected).2, List.append_nil]
    others := by
      have gathered := filter_gathered queue fun uuid => !selected uuid
      simp only [Bool.not_not] at gathered
      rw [List.filter_append, gathered.1, gathered.2, List.nil_append]
    raised := by
      intro _ uuid queued chosen
      have inside : uuid ∈ queue.filter selected := List.mem_filter.mpr ⟨queued, chosen⟩
      rw [List.idxOf_append_of_mem inside]
      exact idxOf_filter_le chosen
    lowered := by simp
    up := by simp
    down := by simp
    head := fun _ => List.prefix_append _ _
    tail := by simp }

theorem bottom_moved (unique : queue.Nodup) :
    BulkMoved .bottom selected queue
      ((queue.filter selected).foldl (fun queue uuid => Sequence.bottom uuid queue) queue) := by
  have listed : ∀ uuid ∈ queue.filter selected, uuid ∈ queue := by
    intro uuid chosen
    exact (List.mem_filter.mp chosen).1
  have rest : (queue.filter fun uuid => uuid ∉ queue.filter selected) =
      queue.filter fun uuid => !selected uuid := by
    apply List.filter_congr
    intro uuid queued
    simp [queued]
  rw [foldl_bottom unique (unique.filter _) listed, rest]
  exact {
    perm := List.perm_append_comm.trans (List.filter_append_perm selected queue)
    selection := by
      rw [List.filter_append, (filter_gathered queue selected).1,
        (filter_gathered queue selected).2, List.nil_append]
    others := by
      have gathered := filter_gathered queue fun uuid => !selected uuid
      simp only [Bool.not_not] at gathered
      rw [List.filter_append, gathered.1, gathered.2, List.append_nil]
    raised := by simp
    lowered := by
      intro _ uuid queued chosen
      have outside : uuid ∉ queue.filter fun uuid => !selected uuid := by simp [chosen]
      rw [List.idxOf_append_of_notMem outside]
      exact idxOf_le_filter
    up := by simp
    down := by simp
    head := by simp
    tail := fun _ => List.suffix_append _ _ }

end Moves

/-- A bulk move does what it is for, except up with both torrents at the head of the queue selected
and down with both at its tail: the first of the two cannot move, and the second passes it. -/
theorem bulk_moved (unique : uuids.Nodup) (queued : ∀ uuid ∈ uuids, uuid ∈ d.queue)
    (current : Current store d.queue) :
    (torrentCommands.queue store uuids op d).1 = none ∧
      (BulkMoved op (· ∈ uuids) d.queue (torrentCommands.queue store uuids op d).2.queue ↔
        (op = .up → blocked (· ∈ uuids) d.queue = false) ∧
          (op = .down → blocked (· ∈ uuids) d.queue.reverse = false)) := by
  obtain ⟨quiet, loop⟩ := @queue_moved Uuid _ store uuids d op queued
  refine ⟨quiet, ?_⟩
  rw [loop]
  cases op with
  | top =>
    rw [ordered_descending (.inl rfl) unique queued current]
    exact ⟨fun _ => by simp, fun _ => top_moved d.unique⟩
  | up =>
    rw [ordered_ascending (.inl rfl) unique queued current]
    exact (up_moved d.unique).trans (by simp)
  | down =>
    rw [ordered_descending (.inr rfl) unique queued current]
    exact (down_moved d.unique).trans (by simp)
  | bottom =>
    rw [ordered_ascending (.inr rfl) unique queued current]
    exact ⟨fun _ => by simp, fun _ => bottom_moved d.unique⟩

/-! ## Three torrents -/

def threeQueued : DownloadQueue Nat where
  torrents := [0, 1, 2]
  queue := [0, 1, 2]
  unique := by decide
  queued := by decide

def threeRows : QueuedRows Nat := fun uuid =>
  if uuid ∈ threeQueued.queue then some ⟨some (threeQueued.queue.idxOf uuid)⟩ else none

theorem threeRows_current : Current threeRows threeQueued.queue := by
  intro uuid queued
  exact if_pos queued

/-- The last two moved up keep their order. -/
theorem bulk_moved_lastTwo :
    BulkMoved .up (· ∈ [2, 1]) threeQueued.queue
      (torrentCommands.queue threeRows [2, 1] .up threeQueued).2.queue :=
  (bulk_moved (by decide) (by decide) threeRows_current).2.mpr (by decide)

/-- The first two moved up change places. -/
theorem bulk_moved_firstTwo :
    (torrentCommands.queue threeRows [0, 1] .up threeQueued).2.queue = [1, 0, 2] ∧
      ¬BulkMoved .up (· ∈ [0, 1]) threeQueued.queue
        (torrentCommands.queue threeRows [0, 1] .up threeQueued).2.queue := by
  have queued : ∀ uuid ∈ [0, 1], uuid ∈ threeQueued.queue := by decide
  have loop := (@queue_moved Nat _ threeRows [0, 1] threeQueued .up queued).2
  rw [ordered_ascending (.inl rfl) (by decide) queued threeRows_current] at loop
  have swapped : (torrentCommands.queue threeRows [0, 1] .up threeQueued).2.queue = [1, 0, 2] := by
    rw [loop]
    decide
  refine ⟨swapped, ?_⟩
  intro moved
  have kept := moved.selection
  rw [swapped] at kept
  exact absurd kept (by decide)

end Rsbtd.WebUi
