import Rsbtd.Keyed.Store
import Rsbtd.Text.Str

/-!
# The sampler of the statistics charts

`MetricSampler`: a time axis and a list of values for each series, all with the same
number of entries and at most `capacity` of them.  The maps are read by key only, so
they are stores.

Numbers are a type with the operations that are used; nothing else is assumed of it.
-/

namespace Rsbtd.Sampler

open Keyed (Store)

inductive Kind where
  | counter
  | gauge
deriving DecidableEq, Repr

structure StatSample (ν : Type) where
  name : Text
  kind : Kind
  value : ν
deriving DecidableEq, Repr

/-- A sample of a counter. -/
structure Raw (ν : Type) where
  value : ν
  time : ν
deriving DecidableEq, Repr

structure MetricSampler (ν : Type) where
  capacity : Nat
  times : List ν
  /-- A gap is `none`. -/
  series : Store Text (List (Option ν))
  prevRaw : Store Text (Raw ν)

namespace MetricSampler

variable {ν : Type} [LE ν] [LT ν] [DecidableLE ν] [DecidableLT ν] [Sub ν] [Div ν]

def new (capacity : Nat) : MetricSampler ν where
  capacity
  times := []
  series := .empty
  prevRaw := .empty

/-- The value of a counter: its rate since `prev`, or a gap. -/
def rate (prev : Option (Raw ν)) (timeSec value : ν) : Option ν :=
  match prev with
  | some prev =>
    if prev.value ≤ value ∧ prev.time < timeSec then
      some ((value - prev.value) / (timeSec - prev.time))
    else none
  | none => none

/-- The body of the loop over the samples; the time is on the axis already. -/
def pushSample (timeSec : ν) (s : MetricSampler ν) (sample : StatSample ν) : MetricSampler ν :=
  let values := (s.series sample.name).getD (List.replicate (s.times.length - 1) none)
  match sample.kind with
  | .gauge => { s with series := s.series.set sample.name (values ++ [some sample.value]) }
  | .counter =>
    { s with
      series := s.series.set sample.name
        (values ++ [rate (s.prevRaw sample.name) timeSec sample.value])
      prevRaw := s.prevRaw.set sample.name ⟨sample.value, timeSec⟩ }

/-- A gap for the series that are absent from a tick. -/
def pad (s : MetricSampler ν) (present : List Text) : MetricSampler ν :=
  { s with series := fun name => (s.series name).map fun values =>
      if name ∈ present then values else values ++ [none] }

def trim (s : MetricSampler ν) : MetricSampler ν :=
  if s.capacity < s.times.length then
    let drop := s.times.length - s.capacity
    { s with
      times := s.times.drop drop
      series := fun name => (s.series name).map (List.drop drop) }
  else s

def push (s : MetricSampler ν) (timeSec : ν) (samples : List (StatSample ν)) :
    MetricSampler ν :=
  ((samples.foldl (pushSample timeSec) { s with times := s.times ++ [timeSec] }).pad
    (samples.map StatSample.name)).trim

def breakContinuity (s : MetricSampler ν) : MetricSampler ν := { s with prevRaw := .empty }

/-- One column of `aligned`. -/
def column (s : MetricSampler ν) (name : Text) : List (Option ν) :=
  (s.series name).getD (List.replicate s.times.length none)

def aligned (s : MetricSampler ν) (names : List Text) : List ν × List (List (Option ν)) :=
  (s.times, names.map s.column)

/-- The newest value among the last three that is not a gap. -/
def latest (s : MetricSampler ν) (name : Text) : Option ν :=
  match s.series name with
  | none => none
  | some values => (values.reverse.take 3).findSome? id

end MetricSampler

end Rsbtd.Sampler
