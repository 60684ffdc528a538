import Mathlib.Data.List.Basic
import Rsbtd.WebUi.Trackers

/-!
# Removed trackers

Every list shown, submitted or applied holds all trackers that were not removed, so
none of these is lost.  The list the daemon ends with is the last one submitted;
whether it holds a removed tracker is decided by the click that submitted it, from
the list shown there.  Two clicks before the first is seen to take effect bring the
first tracker back.
-/

namespace Rsbtd.WebUi

open Transition (Run exec exists_run_of_exec)

namespace TrackersTab

variable {i : Installer} {list l : AnnounceList} {t u : TrackersTab} {url : String}

/-- The list shown at a click has no tracker that was removed before, other than the clicked one. -/
def current (t : TrackersTab) : TrackersAction → Bool
  | .removeTracker url => t.trackers.all fun tracker => tracker.url = url ∨ tracker.url ∉ t.removed
  | _ => true

/-- A row as it is submitted. -/
def submitted (entry : AnnounceEntry) : TrackerInput := ⟨entry.url, entry.tier⟩

/-- The announce list `l` has only trackers of the first list, and all those not removed. -/
structure Holds (list : AnnounceList) (removed : List String) (l : AnnounceList) : Prop where
  only : ∀ entry ∈ l.entries, entry ∈ list.entries
  every : ∀ entry ∈ list.entries, entry.url ∉ removed → entry ∈ l.entries

/-- Every list of the system is an announce list that holds the trackers not removed; the one shown
may still be empty. -/
structure Kept (list : AnnounceList) (t : TrackersTab) : Prop where
  daemon : Holds list t.removed t.daemon
  past : ∀ l ∈ t.past, Holds list t.removed l
  shown : t.trackers = [] ∨ ∃ l, Holds list t.removed l ∧ t.trackers = l.entries.map Tracker.from
  pending : ∀ trackers ∈ t.pending, ∃ l, Holds list t.removed l ∧ trackers = l.entries.map submitted

theorem Holds.mono {removed removed' : List String} (holds : Holds list removed l)
    (more : ∀ url ∈ removed, url ∈ removed') : Holds list removed' l where
  only := holds.only
  every entry listed kept := holds.every entry listed fun gone => kept (more _ gone)

theorem Holds.perm {removed : List String} {l' : AnnounceList} (holds : Holds list removed l)
    (perm : l'.entries.Perm l.entries) : Holds list removed l' where
  only entry listed := holds.only entry (perm.mem_iff.mp listed)
  every entry listed kept := perm.mem_iff.mpr (holds.every entry listed kept)

/-- The announce list without one URL. -/
def without (l : AnnounceList) (url : String) : AnnounceList where
  entries := l.entries.filter fun entry => entry.url ≠ url
  unique := l.unique.sublist (List.filter_sublist.map _)
  named entry listed := l.named entry (List.mem_filter.mp listed).1

theorem Holds.without {removed : List String} (holds : Holds list removed l) :
    Holds list (removed ++ [url]) (without l url) where
  only entry listed := holds.only entry (List.mem_filter.mp listed).1
  every entry listed kept := by
    rw [List.mem_append, not_or, List.mem_singleton] at kept
    exact List.mem_filter.mpr ⟨holds.every entry listed kept.1, by simpa using kept.2⟩

/-- Tiers the daemon sent are accepted back. -/
theorem submitted_entry (entry : AnnounceEntry) : (submitted entry).entry = .ok entry := by
  have valid : (0 : Int) ≤ (submitted entry).tier ∧ (submitted entry).tier < 256 := by
    have bound := entry.tier.isLt
    simp only [submitted]
    omega
  rw [TrackerInput.entry, dif_pos valid]
  simp [submitted]

theorem mapM_submitted (entries : List AnnounceEntry) :
    (entries.map submitted).mapM TrackerInput.entry = .ok entries := by
  induction entries with
  | nil => rfl
  | cons entry entries ih =>
    rw [List.map_cons, List.mapM_cons, submitted_entry, ih]
    rfl

theorem replaceTrackers_submitted (i : Installer) (t : TrackersTab) (l : AnnounceList) :
    replaceTrackers i t (l.entries.map submitted) =
      .ok { t with daemon := i.install l.entries, past := t.past ++ [i.install l.entries] } := by
  rw [replaceTrackers, mapM_submitted]
  rfl

theorem removeTracker_pending (shown : t.trackers = l.entries.map Tracker.from) :
    (t.removeTracker url).pending = t.pending ++ [(without l url).entries.map submitted] := by
  simp only [removeTracker, shown, without, List.filter_map, List.map_map]
  rfl

/-- What an enabled step does: a click submits the shown list without the URL, the oldest request
replaces the daemon's list, a snapshot of some past list is shown. -/
theorem step_cases (kept : Kept list t) {a : TrackersAction} (stepped : t.step i a = some u) :
    (∃ url l, a = .removeTracker url ∧ Holds list t.removed l ∧
      t.trackers = l.entries.map Tracker.from ∧ u = { t with
        pending := t.pending ++ [(without l url).entries.map submitted]
        removed := t.removed ++ [url] }) ∨
    (∃ l pending, a = .replaceTrackers ∧ Holds list t.removed l ∧
      t.pending = l.entries.map submitted :: pending ∧ u = { t with
        daemon := i.install l.entries
        past := t.past ++ [i.install l.entries]
        pending }) ∨
    (∃ read l, a = .snapshot read ∧ l ∈ t.past ∧
      u = { t with trackers := l.entries.map Tracker.from }) := by
  cases a with
  | removeTracker url =>
    obtain ⟨listed, same⟩ := Option.ite_none_right_eq_some.mp stepped
    obtain rfl := Option.some.inj same
    rcases kept.shown with empty | ⟨l, holds, shown⟩
    · simp [empty] at listed
    · left
      refine ⟨url, l, rfl, holds, shown, ?_⟩
      rw [← removeTracker_pending shown]
      rfl
  | replaceTrackers =>
    simp only [step] at stepped
    cases waiting : t.pending with
    | nil => simp [waiting] at stepped
    | cons trackers pending =>
      obtain ⟨l, holds, rfl⟩ := kept.pending trackers (by simp [waiting])
      simp only [waiting, replaceTrackers_submitted] at stepped
      obtain rfl := Option.some.inj stepped
      exact .inr (.inl ⟨l, pending, rfl, holds, rfl, rfl⟩)
  | snapshot read =>
    obtain ⟨l, found, rfl⟩ := Option.map_eq_some_iff.mp stepped
    exact .inr (.inr ⟨read, l, rfl, List.mem_of_getElem? found, rfl⟩)

theorem Kept.init : Kept list (init list) := by
  have whole : Holds list [] list := ⟨fun _ listed => listed, fun _ listed _ => listed⟩
  constructor
  · exact whole
  · intro l listed
    obtain rfl := List.mem_singleton.mp listed
    exact whole
  · exact .inl rfl
  · intro trackers waiting
    cases waiting

theorem Kept.step (kept : Kept list t) {a : TrackersAction} (stepped : t.step i a = some u) :
    Kept list u := by
  rcases step_cases kept stepped with ⟨url, l, -, holds, shown, rfl⟩ |
    ⟨l, pending, -, holds, waiting, rfl⟩ | ⟨read, l, -, listed, rfl⟩
  · have more : ∀ gone ∈ t.removed, gone ∈ t.removed ++ [url] :=
      fun _ gone => List.mem_append_left _ gone
    constructor
    · exact kept.daemon.mono more
    · intro old listed
      exact (kept.past old listed).mono more
    · exact .inr ⟨l, holds.mono more, shown⟩
    · intro trackers listed
      rcases List.mem_append.mp listed with before | now
      · obtain ⟨old, oldHolds, same⟩ := kept.pending trackers before
        exact ⟨old, oldHolds.mono more, same⟩
      · obtain rfl := List.mem_singleton.mp now
        exact ⟨without l url, holds.without, rfl⟩
  · have installed : Holds list t.removed (i.install l.entries) := holds.perm (i.keeps l)
    constructor
    · exact installed
    · intro old listed
      rcases List.mem_append.mp listed with before | now
      · exact kept.past old before
      · obtain rfl := List.mem_singleton.mp now
        exact installed
    · exact kept.shown
    · intro trackers listed
      exact kept.pending trackers (by simp [waiting, listed])
  · exact ⟨kept.daemon, kept.past, .inr ⟨l, kept.past l listed, rfl⟩, kept.pending⟩

theorem Kept.run {ok : TrackersTab → TrackersAction → Prop} (run : Run (TrackersTab.step i) ok t u)
    (kept : Kept list t) : Kept list u := by
  refine Run.invariant (I := fun t => Kept list t) kept ?_ run
  intro t a u _ kept _ stepped
  exact kept.step stepped

/-! ## The last list submitted -/

/-- The URLs the daemon ends with. -/
def Ends (t : TrackersTab) (url : String) : Prop :=
  match t.pending.getLast? with
  | some trackers => url ∈ trackers.map (·.url)
  | none => url ∈ t.daemon.entries.map (·.url)

/-- The daemon ends without the removed trackers. -/
def Clean (t : TrackersTab) : Prop := ∀ url, Ends t url → url ∉ t.removed

theorem map_submitted_url (entries : List AnnounceEntry) :
    (entries.map submitted).map (·.url) = entries.map (·.url) := by
  rw [List.map_map]
  rfl

theorem clean_of_applied (applied : t.pending = []) :
    Clean t ↔ ∀ entry ∈ t.daemon.entries, entry.url ∉ t.removed := by
  simp only [Clean, Ends, applied, List.getLast?_nil]
  exact List.forall_mem_map

/-- A click decides anew what the daemon ends with. -/
theorem clean_click (kept : Kept list t) (clicked : t.step i (.removeTracker url) = some u) :
    Clean u ↔ current t (.removeTracker url) = true := by
  rcases step_cases kept clicked with ⟨_, l, same, -, shown, rfl⟩ | ⟨_, _, other, -⟩ | ⟨_, _, other, -⟩
  · obtain rfl := TrackersAction.removeTracker.inj same
    simp only [Clean, Ends, current, shown, List.getLast?_concat, map_submitted_url, without,
      List.forall_mem_map, List.mem_filter, decide_eq_true_eq, List.mem_append,
      List.mem_singleton, not_or, List.all_eq_true, Tracker.from]
    constructor
    · intro clean entry listed
      by_cases same : entry.url = url
      · exact .inl same
      · exact .inr (clean entry ⟨listed, same⟩).1
    · rintro current entry ⟨listed, distinct⟩
      exact ⟨(current entry listed).resolve_left distinct, distinct⟩
  · cases other
  · cases other

/-- The other steps leave what the daemon ends with. -/
theorem clean_other (kept : Kept list t) {a : TrackersAction}
    (other : ∀ url, a ≠ .removeTracker url) (stepped : t.step i a = some u) :
    Clean u ↔ Clean t := by
  rcases step_cases kept stepped with ⟨url, _, same, -⟩ | ⟨l, pending, -, -, waiting, rfl⟩ |
    ⟨_, _, -, -, rfl⟩
  · exact absurd same (other url)
  · cases pending with
    | nil =>
      have installed : ∀ url, url ∈ (i.install l.entries).entries.map (·.url) ↔
          url ∈ l.entries.map (·.url) := fun url => ((i.keeps l).map _).mem_iff
      simp only [Clean, Ends, waiting, List.getLast?_nil, List.getLast?_singleton, installed,
        map_submitted_url]
    | cons next rest =>
      cases last : (next :: rest).getLast? with
      | none => simp at last
      | some trackers => simp only [Clean, Ends, waiting, List.getLast?_cons_cons, last]
  · exact .rfl

theorem Kept.clean (kept : Kept list t) (clean : Clean t) {a : TrackersAction}
    (current : current t a = true) (stepped : t.step i a = some u) : Clean u := by
  cases a with
  | removeTracker url => exact (clean_click kept stepped).mpr current
  | replaceTrackers => exact (clean_other kept (by simp) stepped).mpr clean
  | snapshot read => exact (clean_other kept (by simp) stepped).mpr clean

/-- When every click is on a list that shows no tracker removed before, apart from the clicked one,
and all requests are applied, the daemon has exactly the trackers that were not removed, with their
tiers. -/
theorem removals_kept (run : Run (step i) (fun t a => current t a = true) (init list) t)
    (applied : t.pending = []) (entry : AnnounceEntry) :
    entry ∈ t.daemon.entries ↔ entry ∈ list.entries ∧ entry.url ∉ t.removed := by
  have kept : Kept list t := Kept.run run .init
  have clean : Clean t := by
    have both : Kept list t ∧ Clean t := by
      refine Run.invariant (I := fun t => Kept list t ∧ Clean t) ⟨.init, by simp [Clean, init]⟩ ?_ run
      rintro t a u _ ⟨kept, clean⟩ current stepped
      exact ⟨kept.step stepped, kept.clean clean current stepped⟩
    exact both.2
  constructor
  · intro listed
    exact ⟨kept.daemon.only entry listed, (clean_of_applied applied).mp clean entry listed⟩
  · rintro ⟨listed, remains⟩
    exact kept.daemon.every entry listed remains

/-- In any run, the last click decides: the daemon ends without the removed trackers exactly when the
list shown at that click is as required. -/
theorem last_click_decides {v : TrackersTab}
    (before : Run (step i) (fun _ _ => True) (init list) t)
    (clicked : t.step i (.removeTracker url) = some u)
    (after : Run (step i) (fun _ a => ∀ url, a ≠ .removeTracker url) u v) (applied : v.pending = []) :
    (∀ entry ∈ v.daemon.entries, entry.url ∉ v.removed) ↔ current t (.removeTracker url) = true := by
  have kept : Kept list t := Kept.run before .init
  have same : Kept list v ∧ (Clean v ↔ Clean u) := by
    refine Run.invariant (I := fun v => Kept list v ∧ (Clean v ↔ Clean u))
      ⟨kept.step clicked, .rfl⟩ ?_ after
    rintro v a w _ ⟨kept, same⟩ other stepped
    exact ⟨kept.step stepped, (clean_other kept other stepped).trans same⟩
  rw [← clean_of_applied applied, same.2]
  exact clean_click kept clicked

/-! ## Two clicks -/

/-- Two trackers, of two tiers. -/
def twoTrackers : AnnounceList where
  entries := [⟨"http://a/announce", 0⟩, ⟨"http://b/announce", 1⟩]
  unique := by decide
  named := by decide

/-- Keeps a list that is one already. -/
def keeper : Installer where
  install entries :=
    if wellFormed : (entries.map (·.url)).Nodup ∧ ∀ entry ∈ entries, entry.url ≠ "" then
      ⟨entries, wellFormed.1, wellFormed.2⟩
    else ⟨[], by simp, by simp⟩
  keeps list := by rw [dif_pos ⟨list.unique, list.named⟩]

/-- Both trackers are removed, the second one once the first is seen gone. -/
theorem removals_kept_refetched :
    ∃ t, Run (step keeper) (fun t a => current t a = true) (init twoTrackers) t ∧
      t.pending = [] ∧ t.removed = ["http://a/announce", "http://b/announce"] ∧
      ∀ entry, entry ∈ t.daemon.entries ↔ entry ∈ twoTrackers.entries ∧ entry.url ∉ t.removed := by
  have replayed : (exec (step keeper) current (init twoTrackers)
      [.snapshot 0, .removeTracker "http://a/announce", .replaceTrackers, .snapshot 1,
        .removeTracker "http://b/announce", .replaceTrackers]).map
        (fun t => decide (t.pending = [] ∧ t.removed = ["http://a/announce", "http://b/announce"])) =
      some true := by decide +kernel
  obtain ⟨t, run, holds⟩ := exists_run_of_exec replayed
  obtain ⟨applied, removed⟩ := of_decide_eq_true holds
  exact ⟨t, run, applied, removed, removals_kept run applied⟩

/-- A second click on the same list brings the first tracker back. -/
theorem removal_undone :
    ∃ t, Run (step keeper) (fun _ _ => True) (init twoTrackers) t ∧ t.pending = [] ∧
      "http://a/announce" ∈ t.removed ∧ t.daemon.entries.map (·.url) = ["http://a/announce"] := by
  have replayed : (exec (step keeper) (fun _ _ => true) (init twoTrackers)
      [.snapshot 0, .removeTracker "http://a/announce", .removeTracker "http://b/announce",
        .replaceTrackers, .replaceTrackers]).map
        (fun t => decide (t.pending = [] ∧ "http://a/announce" ∈ t.removed ∧
          t.daemon.entries.map (·.url) = ["http://a/announce"])) = some true := by decide +kernel
  obtain ⟨t, run, holds⟩ := exists_run_of_exec replayed
  exact ⟨t, run.mono (by simp), of_decide_eq_true holds⟩

end TrackersTab

end Rsbtd.WebUi
