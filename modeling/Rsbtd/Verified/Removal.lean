import Rsbtd.Verified.Traces

/-!
# Removal

What is left of a torrent once the pump has handled its `TorrentRemoved`.
-/

namespace Rsbtd

open Transition

variable {s s' : Engine}

namespace Engine

/-- The step takes a branch that can bring a removed torrent back. -/
def resurrects (s : Engine) (a : Action) : Bool :=
  s.deletionFails a || s.unwindsWrite a || s.registersRemoved a || s.skipsCompensation a ||
    s.abandonsDeletion a

theorem clean_of_resurrects {a : Action} (kept : s.resurrects a = false) : s.Clean True a := by
  simp only [resurrects, Bool.or_eq_false_iff] at kept
  obtain ⟨⟨⟨⟨deletes, unwinds⟩, late⟩, compensates⟩, sends⟩ := kept
  exact ⟨deletes, unwinds, fun _ => late, fun _ => compensates, sends⟩

theorem Drained.pending (drained : s.Drained) : s.pending = [] := by
  simp [Engine.pending, queued, held, drained.idle, drained.queue, drained.ops, drained.select,
    PersisterPc.executing, PumpPc.holding]

/-- Where nothing is running, no call is going to look after its record. -/
theorem Drained.not_landed (drained : s.Drained) (k : Nat) : ¬ s.Landed k := by
  rintro (⟨waits, _⟩ | ⟨pc, call, looks⟩)
  · cases call : s.adds[k]? with
    | none => simp [waitsForAck, call] at waits
    | some pc =>
      rw [waitsForAck_eq call] at waits
      have := drained.finished call
      cases pc <;> simp [AddPc.waits, AddPc.finished] at waits this
  · have := drained.finished call
    cases pc <;> simp [AddPc.compensating, AddPc.finished] at looks this

/-- A file that exists when all is quiet belongs to a registered torrent, or to
a call that was careless with it. -/
theorem Traces.no_file {careful : Prop} (traces : s.Traces careful) (drained : s.Drained) {k : Nat}
    (absent : s.registry.find k = none) : s.disk k = none ∨ s.Excused careful k := by
  rcases traces.traceless k absent with none | landed | excused
  · left
    simpa [drained.pending] using none
  · exact absurd landed (drained.not_landed k)
  · exact .inr excused

end Engine

/-- A removed torrent is not listed and has no resume file, so a restart does
not bring it back. -/
theorem removed_stays_removed {restored : Nat}
    (run : EngineRun (fun s a => s.resurrects a = false) restored s) (quiescent : s.Quiescent)
    {k : Nat} (handled : .torrentRemoved k ∈ s.pump.handled) :
    s.registry.find k = none ∧ (∀ entry ∈ s.registry.list, entry.uuid ≠ k) ∧ s.disk k = none := by
  have traces : s.Traces True := traces_run (run.mono fun _ _ => Engine.clean_of_resurrects)
  have absent : s.registry.find k = none :=
    (traces.removed k handled).resolve_right fun excused => excused.1 trivial
  refine ⟨absent, fun entry member same => ?_, ?_⟩
  · obtain ⟨uuid, found⟩ := Registry.mem_list.mp member
    obtain rfl := (registered_run run).coherent.find_eq found
    rw [show uuid = k from same, absent] at found
    cases found
  · exact (traces.no_file quiescent.toDrained absent).resolve_right fun excused => excused.1 trivial

/-- The removal overtakes the write of an add: the call finds its torrent
unregistered and deletes the file it has written. -/
theorem removed_stays_removed_overtaken_add :
    ∃ s, EngineRun (fun s a => s.resurrects a = false) 0 s ∧ s.Quiescent ∧
      .torrentRemoved 0 ∈ s.pump.handled ∧ s.deleted = {0} ∧ s.disk 0 = none := by
  have replayed : (exec Engine.step (fun s a => !s.resurrects a) (.start 0)
      [[.startAdd true, .session (.attach 0 true), .pump .batch],
        List.replicate 8 (.pump .next), List.replicate 6 (.add 0 true),
        [.startTask (.removeFind 0), .task 0 .next, .task 0 .next, .task 0 .next,
          .session (.perform 0), .pump .batch], List.replicate 8 (.pump .next),
        [.add 0 true], List.replicate 8 (.persister true), List.replicate 4 (.add 0 true),
        List.replicate 2 (.persister true)].flatten).map
      (fun s => decide s.Quiescent && decide (.torrentRemoved 0 ∈ s.pump.handled) &&
        decide (s.deleted = {0})) = some true := by decide +kernel
  obtain ⟨s, run, reached⟩ := exists_run_of_exec replayed
  simp only [Bool.and_eq_true, decide_eq_true_eq] at reached
  obtain ⟨⟨quiescent, handled⟩, deleted⟩ := reached
  have kept : EngineRun (fun s a => s.resurrects a = false) 0 s := run.mono (by simp)
  exact ⟨s, kept, quiescent, handled, deleted, (removed_stays_removed kept quiescent handled).2.2⟩

/-- The pump registers a torrent and handles its removal before the call that
adds it gets to register it: the call registers the removed torrent again, and
finds it registered when it looks. -/
theorem late_upsert_resurrects :
    ¬ ∀ s k, EngineRun (fun _ _ => True) 0 s → s.Quiescent →
      .torrentRemoved k ∈ s.pump.handled → s.registry.find k = none ∧ s.disk k = none := by
  intro claim
  have replayed : (exec Engine.step (fun _ _ => true) (.start 0)
      [[.startAdd true, .session (.attach 0 true), .pump .batch],
        List.replicate 8 (.pump .next),
        [.add 0 true, .add 0 true, .startTask (.removeFind 0), .task 0 .next, .task 0 .next,
          .task 0 .next, .session (.perform 0), .pump .batch], List.replicate 8 (.pump .next),
        List.replicate 2 (.persister true), List.replicate 5 (.add 0 true),
        List.replicate 6 (.persister true), List.replicate 2 (.add 0 true)].flatten).map
      (fun s => decide s.Quiescent && decide (.torrentRemoved 0 ∈ s.pump.handled) &&
        (s.registry.find 0).isSome && (s.disk 0).isSome) = some true := by decide +kernel
  obtain ⟨s, run, reached⟩ := exists_run_of_exec replayed
  simp only [Bool.and_eq_true, decide_eq_true_eq] at reached
  obtain ⟨⟨⟨quiescent, handled⟩, registered⟩, _⟩ := reached
  have := (claim s 0 (run.mono fun _ _ _ => trivial) quiescent handled).1
  rw [this] at registered
  cases registered

/-- The pump holds the deletion of a handled removal when the shutdown runs out
of time: the file stays. -/
example : (exec Engine.step (fun _ _ => true) (.start 0)
    [[.startAdd true, .session (.attach 0 true), .pump .batch],
      List.replicate 8 (.pump .next), List.replicate 7 (.add 0 true),
      List.replicate 6 (.persister true), List.replicate 2 (.add 0 true),
      [.startTask (.removeFind 0), .task 0 .next, .task 0 .next, .task 0 .next,
        .session (.perform 0), .pump .batch], List.replicate 6 (.pump .next),
      [.shutdown, .shutdown, .abortPump, .shutdown]].flatten).map
    (fun s => decide s.Quiescent && decide (.torrentRemoved 0 ∈ s.pump.handled) &&
      (s.registry.find 0).isNone && (s.disk 0).isSome) = some true := by decide +kernel

end Rsbtd
