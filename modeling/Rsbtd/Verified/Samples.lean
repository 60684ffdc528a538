import Rsbtd.Sequence.Window
import Rsbtd.WebUi.Sampler

/-!
# The charts show what was sampled

`cells` reads a series off the history of ticks: a gauge's value, a counter's rate
since its last sample, a gap where there is none.  The sampler keeps one list per
series, starts it when its name is first seen, and drops the oldest entries of every
list as it goes; `Tracks` says that it still has the last `capacity` cells of each.
-/

namespace Rsbtd.Sampler

open Keyed (Store)
open Sequence (window length_window window_concat window_nil window_of_le window_replicate
  reverse_window)

variable {ν : Type}

/-- What `trim` does to a list that is as long as the axis. -/
def MetricSampler.trimmed {α : Type} (s : MetricSampler ν) (values : List α) : List α :=
  if s.capacity < s.times.length then values.drop (s.times.length - s.capacity) else values

theorem MetricSampler.trim_eq {s : MetricSampler ν} : s.trim = { s with
    times := s.trimmed s.times
    series := fun name => (s.series name).map s.trimmed } := by
  unfold trim trimmed
  split <;> simp

theorem MetricSampler.trimmed_concat {s : MetricSampler ν} {α : Type} {n : Nat} {xs : List α}
    {a : α} (capacity : s.capacity = n)
    (length : s.times.length = (window n xs ++ [a]).length) :
    s.trimmed (window n xs ++ [a]) = window n (xs ++ [a]) := by
  unfold trimmed
  rw [← window_concat, capacity, length]
  split
  case isTrue => rfl
  case isFalse fits => exact (window_of_le (by omega)).symm

inductive Event (ν : Type) where
  | push (timeSec : ν) (samples : List (StatSample ν))
  | breakContinuity
deriving DecidableEq, Repr

/-! ## The history, newest event first -/

variable [LE ν] [LT ν] [DecidableLE ν] [DecidableLT ν] [Sub ν] [Div ν]

def sampleOf (name : Text) (samples : List (StatSample ν)) : Option (StatSample ν) :=
  samples.find? fun sample => sample.name == name

/-- The last sample of a counter since the last break. -/
def lastCounter (name : Text) : List (Event ν) → Option (Raw ν)
  | [] => none
  | .breakContinuity :: _ => none
  | .push timeSec samples :: past =>
    match sampleOf name samples with
    | some ⟨_, .counter, value⟩ => some ⟨value, timeSec⟩
    | _ => lastCounter name past

/-- What a series shows for a tick. -/
def cell (name : Text) (past : List (Event ν)) (timeSec : ν) (samples : List (StatSample ν)) :
    Option ν :=
  match sampleOf name samples with
  | some ⟨_, .gauge, value⟩ => some value
  | some ⟨_, .counter, value⟩ => MetricSampler.rate (lastCounter name past) timeSec value
  | none => none

def cells (name : Text) : List (Event ν) → List (Option ν)
  | [] => []
  | .breakContinuity :: past => cells name past
  | .push timeSec samples :: past => cells name past ++ [cell name past timeSec samples]

def ticks : List (Event ν) → List ν
  | [] => []
  | .breakContinuity :: past => ticks past
  | .push timeSec _ :: past => ticks past ++ [timeSec]

/-- No name twice in a tick. -/
def Distinct (past : List (Event ν)) : Prop :=
  ∀ timeSec samples, .push timeSec samples ∈ past → (samples.map StatSample.name).Nodup

namespace MetricSampler

def apply (s : MetricSampler ν) : Event ν → MetricSampler ν
  | .push timeSec samples => s.push timeSec samples
  | .breakContinuity => s.breakContinuity

/-- The sampler after a history. -/
def after (capacity : Nat) (past : List (Event ν)) : MetricSampler ν :=
  past.foldr (fun event s => s.apply event) (new capacity)

section Push

variable {s : MetricSampler ν} {timeSec : ν} {sample : StatSample ν}
  {samples : List (StatSample ν)} {name : Text} {past : List (Event ν)}

/-- What a sample adds to its series. -/
def shown (s : MetricSampler ν) (timeSec : ν) (sample : StatSample ν) : Option ν :=
  match sample.kind with
  | .gauge => some sample.value
  | .counter => rate (s.prevRaw sample.name) timeSec sample.value

/-- What a series is before a sample is added to it. -/
def base (s : MetricSampler ν) (name : Text) : List (Option ν) :=
  (s.series name).getD (List.replicate (s.times.length - 1) none)

@[simp] theorem pushSample_times : (s.pushSample timeSec sample).times = s.times := by
  unfold pushSample
  cases sample.kind <;> rfl

@[simp] theorem pushSample_capacity :
    (s.pushSample timeSec sample).capacity = s.capacity := by
  unfold pushSample
  cases sample.kind <;> rfl

theorem pushSample_series : (s.pushSample timeSec sample).series =
    s.series.set sample.name (s.base sample.name ++ [s.shown timeSec sample]) := by
  unfold pushSample shown base
  cases sample.kind <;> rfl

theorem pushSample_prevRaw : (s.pushSample timeSec sample).prevRaw =
    match sample.kind with
    | .gauge => s.prevRaw
    | .counter => s.prevRaw.set sample.name ⟨sample.value, timeSec⟩ := by
  unfold pushSample
  cases sample.kind <;> rfl

theorem pushSample_other (timeSec : ν) (other : name ≠ sample.name) :
    (s.pushSample timeSec sample).series name = s.series name ∧
      (s.pushSample timeSec sample).prevRaw name = s.prevRaw name := by
  rw [pushSample_series, pushSample_prevRaw, Store.set_other other]
  refine ⟨rfl, ?_⟩
  cases sample.kind with
  | gauge => rfl
  | counter => exact Store.set_other other

@[simp] theorem foldl_times : (samples.foldl (pushSample timeSec) s).times = s.times := by
  induction samples generalizing s with
  | nil => rfl
  | cons sample rest ih => rw [List.foldl_cons, ih, pushSample_times]

@[simp] theorem foldl_capacity :
    (samples.foldl (pushSample timeSec) s).capacity = s.capacity := by
  induction samples generalizing s with
  | nil => rfl
  | cons sample rest ih => rw [List.foldl_cons, ih, pushSample_capacity]

/-- The samples of other series do not matter to a series. -/
theorem foldl_absent (timeSec : ν) (absent : name ∉ samples.map StatSample.name) :
    (samples.foldl (pushSample timeSec) s).series name = s.series name ∧
      (samples.foldl (pushSample timeSec) s).prevRaw name = s.prevRaw name := by
  induction samples generalizing s with
  | nil => exact ⟨rfl, rfl⟩
  | cons sample rest ih =>
    rw [List.map_cons, List.mem_cons, not_or] at absent
    have here := pushSample_other (s := s) timeSec absent.1
    rw [List.foldl_cons, (ih absent.2).1, (ih absent.2).2]
    exact here

theorem foldl_present (timeSec : ν)
    (distinct : (samples.map StatSample.name).Nodup)
    (found : sampleOf name samples = some sample) :
    (samples.foldl (pushSample timeSec) s).series name =
        some (s.base name ++ [s.shown timeSec sample]) ∧
      (samples.foldl (pushSample timeSec) s).prevRaw name =
        match sample.kind with
        | .gauge => s.prevRaw name
        | .counter => some ⟨sample.value, timeSec⟩ := by
  induction samples generalizing s with
  | nil => cases found
  | cons first rest ih =>
    rw [List.map_cons, List.nodup_cons] at distinct
    rw [sampleOf, List.find?_cons] at found
    rw [List.foldl_cons]
    split at found
    case h_1 same =>
      obtain rfl := Option.some.inj found
      obtain rfl : first.name = name := by simpa using same
      obtain ⟨series, prevRaw⟩ := foldl_absent (s := s.pushSample timeSec first) timeSec distinct.1
      rw [series, prevRaw, pushSample_series, pushSample_prevRaw]
      refine ⟨Store.set_self, ?_⟩
      cases first.kind with
      | gauge => rfl
      | counter => exact Store.set_self
    case h_2 different =>
      have other : name ≠ first.name := by
        rintro rfl
        simp at different
      have same : sample.name = name := by simpa using List.find?_some found
      obtain ⟨series, prevRaw⟩ := pushSample_other (s := s) timeSec other
      obtain ⟨later, last⟩ := ih (s := s.pushSample timeSec first) distinct.2 found
      rw [later, last]
      simp only [base, shown, series, prevRaw, pushSample_times, same]
      exact ⟨trivial, trivial⟩

end Push

/-! ## What the sampler has kept -/

structure Tracks (s : MetricSampler ν) (past : List (Event ν)) : Prop where
  times : s.times = window s.capacity (ticks past)
  prevRaw : ∀ name, s.prevRaw name = lastCounter name past
  /-- A series that is not there has never been seen. -/
  series : ∀ name, s.series name = some (window s.capacity (cells name past)) ∨
    (s.series name = none ∧ ∀ value ∈ cells name past, value = none)

section History

variable {s : MetricSampler ν} {timeSec : ν} {samples : List (StatSample ν)} {name : Text}
  {past : List (Event ν)} {capacity : Nat}

theorem length_cells : (cells name past).length = (ticks past).length := by
  induction past with
  | nil => rfl
  | cons event past ih =>
    cases event with
    | push timeSec samples => simp [cells, ticks, ih]
    | breakContinuity => exact ih

/-- A series that has never been seen is all gaps. -/
theorem replicate_of_unseen (tracks : s.Tracks past)
    (unseen : ∀ value ∈ cells name past, value = none) :
    List.replicate s.times.length none = window s.capacity (cells name past) := by
  rw [List.eq_replicate_of_mem unseen, window_replicate, tracks.times, length_window,
    length_cells]

theorem Tracks.column (tracks : s.Tracks past) :
    s.column name = window s.capacity (cells name past) := by
  unfold MetricSampler.column
  rcases tracks.series name with seen | ⟨fresh, unseen⟩
  · rw [seen, Option.getD_some]
  · rw [fresh, Option.getD_none, replicate_of_unseen tracks unseen]

theorem tracks_new : (new capacity : MetricSampler ν).Tracks [] :=
  ⟨window_nil.symm, fun _ => rfl, fun _ => .inr ⟨rfl, by simp [cells]⟩⟩

theorem Tracks.breakContinuity (tracks : s.Tracks past) :
    s.breakContinuity.Tracks (.breakContinuity :: past) :=
  ⟨tracks.times, fun _ => rfl, tracks.series⟩

/-- A tick, before the oldest entries are dropped. -/
theorem Tracks.grown (tracks : s.Tracks past) (timeSec : ν)
    (distinct : (samples.map StatSample.name).Nodup)
    (name : Text) :
    let grown := (samples.foldl (pushSample timeSec) { s with times := s.times ++ [timeSec] }).pad
      (samples.map StatSample.name)
    grown.prevRaw name = lastCounter name (.push timeSec samples :: past) ∧
      (grown.series name = some (window s.capacity (cells name past) ++
          [cell name past timeSec samples]) ∨
        (grown.series name = none ∧
          ∀ value ∈ cells name (.push timeSec samples :: past), value = none)) := by
  intro grown
  cases found : sampleOf name samples with
  | none =>
    -- The tick has no sample of the series, which is padded if it is there.
    have absent : name ∉ samples.map StatSample.name := by
      intro present
      obtain ⟨sample, member, same⟩ := List.mem_map.mp present
      have none := List.find?_eq_none.mp found sample member
      simp [same] at none
    obtain ⟨series, prevRaw⟩ := foldl_absent timeSec
      (s := { s with times := s.times ++ [timeSec] }) absent
    refine ⟨prevRaw.trans ?_, ?_⟩
    · rw [tracks.prevRaw, lastCounter, found]
    · simp only [grown, pad, series, if_neg absent, cell, found]
      rcases tracks.series name with seen | ⟨fresh, unseen⟩
      · exact .inl (by rw [seen, Option.map_some])
      · refine .inr ⟨by rw [fresh, Option.map_none], fun value member => ?_⟩
        rw [cells, cell, found] at member
        exact (List.mem_append.mp member).elim (unseen value) (by simp)
  | some sample =>
    have present : name ∈ samples.map StatSample.name :=
      List.mem_map.mpr ⟨sample, List.mem_of_find?_eq_some found,
        by simpa using List.find?_some found⟩
    have same : sample.name = name := by simpa using List.find?_some found
    obtain ⟨series, prevRaw⟩ := foldl_present timeSec
      (s := { s with times := s.times ++ [timeSec] }) distinct found
    refine ⟨prevRaw.trans ?_, .inl ?_⟩
    · rw [lastCounter, found, ← tracks.prevRaw]
      cases sample with
      | mk _ kind value => cases kind <;> rfl
    · -- A series that is seen for the first time is filled up with gaps.
      have column : base { s with times := s.times ++ [timeSec] } name =
          window s.capacity (cells name past) := by
        rw [← tracks.column, base, MetricSampler.column, List.length_append, List.length_singleton,
          Nat.add_sub_cancel]
      have value : shown { s with times := s.times ++ [timeSec] } timeSec sample =
          cell name past timeSec samples := by
        unfold shown cell
        rw [found, ← tracks.prevRaw, ← same]
        cases sample with
        | mk _ kind value => cases kind <;> rfl
      simp only [grown, pad, series, Option.map_some, if_pos present, column, value]

theorem Tracks.push (tracks : s.Tracks past) (distinct : (samples.map StatSample.name).Nodup) :
    (s.push timeSec samples).Tracks (.push timeSec samples :: past) := by
  have grown := tracks.grown timeSec distinct
  unfold MetricSampler.push
  generalize state : (samples.foldl (pushSample timeSec)
    { s with times := s.times ++ [timeSec] }).pad (samples.map StatSample.name) = after at grown ⊢
  have capacity : after.capacity = s.capacity := by
    rw [← state, pad, foldl_capacity]
  have times : after.times = window s.capacity (ticks past) ++ [timeSec] := by
    rw [← state, pad, foldl_times, tracks.times]
  rw [trim_eq]
  refine ⟨?_, fun name => (grown name).1, fun name => ?_⟩
  · simp only [times, capacity, ticks]
    exact trimmed_concat capacity (by rw [times])
  · rcases (grown name).2 with seen | ⟨fresh, unseen⟩
    · refine .inl ?_
      simp only [seen, Option.map_some, capacity, cells]
      rw [trimmed_concat capacity (by simp [times, length_cells])]
    · exact .inr ⟨by simp only [fresh, Option.map_none], unseen⟩

theorem tracks_after (capacity : Nat) (distinct : Distinct past) :
    (after capacity past).Tracks past ∧ (after capacity past).capacity = capacity := by
  induction past with
  | nil => exact ⟨tracks_new, rfl⟩
  | cons event past ih =>
    obtain ⟨tracks, kept⟩ := ih fun timeSec samples member =>
      distinct timeSec samples (List.mem_cons_of_mem event member)
    cases event with
    | push timeSec samples =>
      refine ⟨tracks.push (distinct timeSec samples List.mem_cons_self), ?_⟩
      show (MetricSampler.push _ _ _).capacity = capacity
      rw [MetricSampler.push, trim_eq, pad, foldl_capacity]
      exact kept
    | breakContinuity => exact ⟨tracks.breakContinuity, kept⟩

/-- What the charts are given is the history's last `capacity` ticks and, for every
name, its last `capacity` cells; `latest` is the newest value in the last three. -/
theorem samples_aligned (distinct : Distinct past) (names : List Text) :
    (after capacity past).aligned names =
        (window capacity (ticks past), names.map fun name => window capacity (cells name past)) ∧
      ∀ name, (after capacity past).latest name =
        ((cells name past).reverse.take (min 3 capacity)).findSome? id := by
  obtain ⟨tracks, kept⟩ := tracks_after capacity distinct
  constructor
  · rw [aligned, tracks.times, kept]
    refine congrArg _ (List.map_congr_left fun name _ => ?_)
    rw [tracks.column, kept]
  · intro name
    unfold latest
    rcases tracks.series name with seen | ⟨fresh, unseen⟩
    · rw [seen, kept]
      simp only
      rw [reverse_window, List.take_take]
    · rw [fresh]
      refine (List.findSome?_eq_none_iff.mpr fun value member => ?_).symm
      exact unseen value (List.mem_reverse.mp (List.mem_of_mem_take member))

/-- The counter starts again at its third sample, and the first tick is dropped. -/
theorem samples_aligned_reset : ((after 3 [.push 4 [⟨"c".toList, .counter, 200⟩],
      .push 3 [⟨"c".toList, .counter, 100⟩], .push 2 [⟨"c".toList, .counter, 6000⟩],
      .push 1 [⟨"c".toList, .counter, 5000⟩]] : MetricSampler Nat).aligned ["c".toList]) =
    ([2, 3, 4], [[some 1000, none, some 100]]) := by
  have distinct : Distinct [.push 4 [⟨"c".toList, .counter, 200⟩],
      .push 3 [⟨"c".toList, .counter, 100⟩], .push 2 [⟨"c".toList, .counter, 6000⟩],
      .push 1 [⟨"c".toList, .counter, 5000⟩]] := by
    intro timeSec samples member
    simp only [List.mem_cons, Event.push.injEq, List.not_mem_nil, or_false] at member
    rcases member with ⟨_, rfl⟩ | ⟨_, rfl⟩ | ⟨_, rfl⟩ | ⟨_, rfl⟩ <;> simp
  exact (samples_aligned distinct _).1.trans (by decide +kernel)

end History

end MetricSampler

end Rsbtd.Sampler
