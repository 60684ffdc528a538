import Mathlib.Data.Finset.Lattice.Lemmas
import Rsbtd.Sequence.Between
import Rsbtd.Transition.Runs
import Rsbtd.Verified.RowMaps
import Rsbtd.WebUi.Selection

/-!
# Selections of the torrent list

A gesture names only what the selection named before, the row it is on and the rows in view.
The store keeps a row or reports it, and the selection forgets what is reported.
-/

namespace Rsbtd.WebUi

open Sequence Transition

variable {ν : Type} [DecidableEq ν] {heap : Nat → Nested} {uuid u : TorrentUuid}
  {order range : List TorrentUuid}

/-! ## What is named -/

def SelectionState.Names (s : SelectionState) (uuid : TorrentUuid) : Prop :=
  uuid ∈ s.selected ∨ s.anchor = some uuid ∨ s.focus = some uuid

def Gesture.Mentions (uuid : TorrentUuid) : Gesture → Prop
  | .click row _ order => uuid = row ∨ uuid ∈ order
  | .contextSelect row => uuid = row
  | .keyMove row _ order => uuid = row ∨ uuid ∈ order
  | .toggle row => uuid = row
  | .selectAll order => uuid ∈ order
  | .clear => False

/-- Rows and orders of the current store; actions of the store are any. -/
def Drawn (s : TorrentList ν) : ListAction ν → Prop
  | .store _ => True
  | .gesture gesture => ∀ uuid, gesture.Mentions uuid → s.store.byUuid.has uuid = true

theorem foldl_insert (range : List TorrentUuid) (next : Finset TorrentUuid) :
    range.foldl (fun next u => insert u next) next = next ∪ range.toFinset := by
  induction range generalizing next with
  | nil => rw [List.foldl_nil, List.toFinset_nil, Finset.union_empty]
  | cons u range ih =>
    rw [List.foldl_cons, ih, List.toFinset_cons, Finset.insert_union, Finset.union_insert]

namespace SelectionState

variable {s : SelectionState}

theorem names_single (named : (single uuid).Names u) : u = uuid := by
  obtain selected | anchor | focus := named
  · exact Finset.mem_singleton.mp selected
  · exact (Option.some.inj anchor).symm
  · exact (Option.some.inj focus).symm

theorem names_toggle (named : (s.toggle uuid).Names u) : s.Names u ∨ u = uuid := by
  obtain selected | anchor | focus := named
  · rw [toggle] at selected
    dsimp only at selected
    split at selected
    · exact .inl (.inl (Finset.mem_of_mem_erase selected))
    · obtain same | before := Finset.mem_insert.mp selected
      · exact .inr same
      · exact .inl (.inl before)
  · exact .inr (Option.some.inj anchor).symm
  · exact .inr (Option.some.inj focus).symm

/-! ### Ranges -/

theorem getElem?_of_idxOf? {i : Nat} (found : order.idxOf? u = some i) : order[i]? = some u := by
  obtain ⟨inside, same, -⟩ := List.idxOf?_eq_some_iff.mp found
  exact List.getElem?_eq_some_iff.mpr ⟨inside, same⟩

theorem between_clickRange {anchor : TorrentUuid}
    (slice : clickRange order anchor uuid = some range) :
    Between order anchor uuid range := by
  rw [clickRange] at slice
  cases first : order.idxOf? anchor with
  | none =>
    rw [first] at slice
    cases slice
  | some i =>
    cases last : order.idxOf? uuid with
    | none =>
      rw [first, last] at slice
      cases slice
    | some j =>
      rw [first, last] at slice
      obtain rfl := Option.some.inj slice
      split
      case isTrue ordered =>
        exact between_extract ordered (getElem?_of_idxOf? first) (getElem?_of_idxOf? last)
      case isFalse reversed =>
        have ordered : j ≤ i := Nat.le_of_not_le reversed
        exact (between_extract ordered (getElem?_of_idxOf? last) (getElem?_of_idxOf? first)).symm

theorem clickRange_isSome {anchor : TorrentUuid} (first : anchor ∈ order) (last : uuid ∈ order) :
    ∃ range, clickRange order anchor uuid = some range := by
  obtain ⟨i, atFirst⟩ := Option.isSome_iff_exists.mp (List.isSome_idxOf?.mpr first)
  obtain ⟨j, atLast⟩ := Option.isSome_iff_exists.mp (List.isSome_idxOf?.mpr last)
  rw [clickRange, atFirst, atLast]
  exact ⟨_, rfl⟩

theorem click_range {anchor : TorrentUuid} {mods : ClickModifiers} (shift : mods.shift = true)
    (anchored : s.anchor = some anchor) (slice : clickRange order anchor uuid = some range) :
    s.click uuid mods order =
      ⟨(if mods.ctrl then s.selected else ∅) ∪ range.toFinset, s.anchor, some uuid⟩ := by
  have found : ((if mods.shift then s.anchor else none).bind
      fun anchor => clickRange order anchor uuid) = some range := by
    rw [if_pos shift, anchored, Option.bind_some, slice]
  rw [click, found]
  dsimp only
  rw [foldl_insert]

theorem names_click {mods : ClickModifiers} (named : (s.click uuid mods order).Names u) :
    s.Names u ∨ u = uuid ∨ u ∈ order := by
  cases slice : (if mods.shift then s.anchor else none).bind
      fun anchor => clickRange order anchor uuid with
  | none =>
    rw [click, slice] at named
    dsimp only at named
    split at named
    · exact (names_toggle named).imp_right .inl
    · exact .inr (.inl (names_single named))
  | some range =>
    obtain ⟨anchor, anchored, ranged⟩ := Option.bind_eq_some_iff.mp slice
    split at anchored
    case isFalse => cases anchored
    case isTrue shift =>
      rw [click_range shift anchored ranged] at named
      obtain selected | kept | focus := named
      · obtain before | inside := Finset.mem_union.mp selected
        · split at before
          · exact .inl (.inl before)
          · cases before
        · exact .inr (.inr ((between_clickRange ranged).mem (List.mem_toFinset.mp inside)))
      · exact .inl (.inr (.inl kept))
      · exact .inr (.inl (Option.some.inj focus).symm)

theorem names_apply {gesture : Gesture} (named : (s.apply gesture).Names u) :
    s.Names u ∨ gesture.Mentions u := by
  cases gesture with
  | click row mods order => exact names_click named
  | contextSelect row =>
    rw [apply, contextSelect] at named
    split at named
    · exact .inl named
    · exact .inr (names_single named)
  | keyMove row extend order =>
    rw [apply, keyMove] at named
    split at named
    · exact names_click named
    · exact .inr (.inl (names_single named))
  | toggle row => exact names_toggle named
  | selectAll order =>
    obtain selected | others := named
    · exact .inr (List.mem_toFinset.mp selected)
    · exact .inl (.inr others)
  | clear =>
    obtain selected | anchor | focus := named
    · cases selected
    · cases anchor
    · cases focus

theorem names_discard {gone : List TorrentUuid} (named : (s.discard gone).Names u) :
    s.Names u ∧ u ∉ gone := by
  rw [discard] at named
  split at named
  case isTrue =>
    obtain selected | anchor | focus := named
    · obtain ⟨before, kept⟩ := Finset.mem_filter.mp selected
      exact ⟨.inl before, kept⟩
    · obtain ⟨before, kept⟩ := Option.filter_eq_some_iff.mp anchor
      exact ⟨.inr (.inl before), of_decide_eq_true kept⟩
    · obtain ⟨before, kept⟩ := Option.filter_eq_some_iff.mp focus
      exact ⟨.inr (.inr before), of_decide_eq_true kept⟩
  case isFalse untouched =>
    refine ⟨named, fun gone_ => untouched ?_⟩
    exact List.any_eq_true.mpr ⟨u, gone_, decide_eq_true named⟩

end SelectionState

/-! ## What the store keeps -/

omit [DecidableEq ν] in
theorem has_set {map : RowMap (RowObject ν)} (row : StoredRow ν) (has : map.has u = true) :
    (map.set row).has u = true := by
  rw [← RowMap.mem_keys, RowMap.keys_set]
  split
  · exact RowMap.mem_keys.mpr has
  · exact List.mem_append_left _ (RowMap.mem_keys.mpr has)

theorem has_foldl_applyRow {rows : List (StoredRow ν)} {draft : StoreDraft ν}
    (has : draft.next.has u = true) :
    (rows.foldl (StoreDraft.applyRow heap) draft).next.has u = true := by
  induction rows generalizing draft with
  | nil => exact has
  | cons row rows ih =>
    apply ih
    rw [StoreDraft.applyRow]
    split
    · exact has_set row has
    · split
      · exact has
      · exact has_set _ has

theorem has_patch {s : TorrentStore ν} (rows : List (StoredRow ν)) (has : s.byUuid.has u = true) :
    (s.patch heap rows).byUuid.has u = true := by
  rw [TorrentStore.patch]
  split
  · exact has
  · dsimp only
    split
    · exact has_foldl_applyRow has
    · exact has

/-- A row stays or is reported. -/
theorem has_or_reported {s : TorrentStore ν} (action : StoreAction ν)
    (has : s.byUuid.has u = true) :
    (s.apply heap action).1.byUuid.has u = true ∨ u ∈ (s.apply heap action).2 := by
  cases action with
  | patch rows => exact .inl (has_patch rows has)
  | upsert row => exact .inl (has_patch [row] has)
  | remove removed =>
    by_cases same : u = removed
    · exact .inr (List.mem_singleton.mpr same)
    · left
      rw [TorrentStore.apply, TorrentStore.remove]
      dsimp only
      split
      · obtain ⟨row, listed, own⟩ := RowMap.has_eq_true.mp has
        refine RowMap.has_eq_true.mpr ⟨row, List.mem_filter.mpr ⟨listed, ?_⟩, own⟩
        rw [own]
        exact decide_eq_true same
      · exact has
  | replaceAll rows =>
    rw [TorrentStore.apply, TorrentStore.replaceAll]
    split
    · exact .inl has
    · by_cases kept : RowMap.has
          (rows.foldl (StoreDraft.replaceRow heap s.byUuid) ⟨[], s.made, false⟩).next u = true
      · exact .inl kept
      · right
        refine List.mem_filter.mpr ⟨RowMap.mem_keys.mpr has, ?_⟩
        rw [Bool.not_eq_true']
        exact Bool.eq_false_iff.mpr kept

/-! ## Runs -/

/-- What is selected, the anchor and the focus are in the store. -/
def Present (s : TorrentList ν) : Prop :=
  ∀ uuid, s.selection.Names uuid → s.store.byUuid.has uuid = true

theorem names_reconcileRemoved {selection : SelectionState} {gone : List TorrentUuid}
    (named : (TorrentList.reconcileRemoved selection gone).Names u) :
    selection.Names u ∧ u ∉ gone := by
  rw [TorrentList.reconcileRemoved] at named
  split at named
  case isTrue nothing =>
    rw [nothing]
    exact ⟨named, List.not_mem_nil⟩
  case isFalse => exact SelectionState.names_discard named

theorem present_step {s t : TorrentList ν} {action : ListAction ν} (present : Present s)
    (drawn : Drawn s action) (stepped : s.step heap action = some t) : Present t := by
  cases action with
  | store action =>
    obtain rfl := Option.some.inj stepped
    intro uuid named
    obtain ⟨before, kept⟩ := names_reconcileRemoved named
    exact (has_or_reported action (present uuid before)).resolve_right kept
  | gesture gesture =>
    obtain rfl := Option.some.inj stepped
    intro uuid named
    obtain before | mentioned := SelectionState.names_apply named
    · exact present uuid before
    · exact drawn uuid mentioned

/-- Whatever the order of actions and gestures, the selection names rows of the store only; and
a click with shift takes the part of the view from the anchor to the row. -/
theorem selection_present {s : TorrentList ν}
    (run : Run (TorrentList.step heap) Drawn TorrentList.init s) :
    (∀ uuid, uuid ∈ s.selection.selected ∨ s.selection.anchor = some uuid ∨
        s.selection.focus = some uuid → s.store.byUuid.has uuid = true) ∧
      ∀ (uuid anchor : TorrentUuid) (mods : ClickModifiers) (order : List TorrentUuid),
        mods.shift = true → s.selection.anchor = some anchor → anchor ∈ order → uuid ∈ order →
        ∃ range, Between order anchor uuid range ∧
          (s.selection.click uuid mods order).selected =
            (if mods.ctrl then s.selection.selected else ∅) ∪ range.toFinset ∧
          (s.selection.click uuid mods order).anchor = some anchor := by
  constructor
  · have start : Present (TorrentList.init : TorrentList ν) := by
      rintro uuid (selected | anchor | focus)
      · cases selected
      · cases anchor
      · cases focus
    exact Run.invariant start (fun t a u _ present drawn stepped =>
      present_step present drawn stepped) run
  · intro uuid anchor mods order shift anchored first last
    obtain ⟨range, slice⟩ := SelectionState.clickRange_isSome first last
    refine ⟨range, SelectionState.between_clickRange slice, ?_, ?_⟩
    · rw [SelectionState.click_range shift anchored slice]
    · rw [SelectionState.click_range shift anchored slice, anchored]

def bareRow (uuid : TorrentUuid) : StoredRow Int := ⟨uuid, ⟨.received uuid, []⟩⟩

def fourRows : List (StoredRow Int) := [bareRow 1, bareRow 2, bareRow 3, bareRow 4]

def fourTorrents : TorrentStore Int := TorrentStore.init.patch (fun _ => .flags []) fourRows

/-- A row is clicked, and another that is above it with shift. -/
theorem selection_present_range : ∃ range,
    fourTorrents.byUuid.has 4 = true ∧ Between [1, 2, 3, 4] 4 2 range ∧
      ((SelectionState.single 4).click 2 ⟨false, true⟩ [1, 2, 3, 4]).selected = range.toFinset ∧
      ((SelectionState.single 4).click 2 ⟨false, true⟩ [1, 2, 3, 4]).anchor = some 4 := by
  have shown : ∀ uuid ∈ [1, 2, 3, 4], fourTorrents.byUuid.has uuid = true := by decide
  have filled : Run (TorrentList.step fun _ => .flags []) Drawn TorrentList.init
      ⟨fourTorrents, .init⟩ := Run.single (a := .store (.patch fourRows)) trivial rfl
  have clicked : Run (TorrentList.step fun _ => .flags []) Drawn TorrentList.init
      ⟨fourTorrents, .single 4⟩ := by
    refine filled.tail (a := .gesture (.click 4 ⟨false, false⟩ [1, 2, 3, 4])) ?_ rfl
    rintro uuid (rfl | listed)
    · exact shown 4 (by decide)
    · exact shown uuid listed
  obtain ⟨present, ranges⟩ := selection_present clicked
  obtain ⟨range, between, selected, kept⟩ :=
    ranges 2 4 ⟨false, true⟩ [1, 2, 3, 4] rfl rfl (by decide) (by decide)
  rw [if_neg Bool.false_ne_true, Finset.empty_union] at selected
  exact ⟨range, present 4 (.inr (.inl rfl)), between, selected, kept⟩

end Rsbtd.WebUi
