import Rsbtd.Verified.Present

/-!
# The record that stays

The resume file of a torrent ends up as the last record written.  The records
that alerts deliver are written in the order in which they were generated, so
the file ends up as the newest of them, unless `Engine::add_torrent` queues the
initial record behind one of them.
-/

namespace Rsbtd

open Transition

variable {s s' : Engine}

/-! ## The steps that spoil the file -/

namespace Engine

/-- A record is not serialized, or not written. -/
def failsWrite (s : Engine) : Action → Bool
  | .pump .fail => match s.pump.pc with
    | .saveSerialize _ _ => true
    | _ => false
  | .persister false => match s.persister with
    | .execute (.writeResume _ _ _) => true
    | _ => false
  | _ => false

/-- `add_torrent` queues the initial record while another record of its torrent
is in the file or in the queue. -/
def overtakenByRecord (s : Engine) : Action → Bool
  | .add k _ => match s.adds[k]? with
    | some (.send entry _) =>
      (s.disk entry.uuid).isSome ||
        (s.queued.filterMap PersistOp.record).any fun saved => saved.1 == entry.uuid
    | _ => false
  | _ => false

/-! ## The record that the pending writes leave -/

def recordsOf (k : Nat) (records : List (Uuid × ResumeData)) : List ResumeData :=
  records.filterMap fun saved => if saved.1 = k then some saved.2 else none

/-- The content of the resume file of torrent `k` once every record that is on
its way is written. -/
def settlesAs (s : Engine) (k : Nat) : Option ResumeData :=
  (recordsOf k s.records).getLast?.or
    ((s.disk k).or (if s.initialPending k then some initialRecord else none))

/-- Until the pump has stopped, the file of a torrent that the session holds ends up
as its newest record. -/
def Newest (s : Engine) : Prop :=
  s.shutdown.persistOpen = true → ∀ (k : Nat) (pc : AddPc), s.adds[k]? = some pc →
    pc.tracked = true → s.session.Holds k → s.settlesAs k = some (s.session.torrents k).latest

variable {k : Nat}

theorem recordsOf_append (before after : List (Uuid × ResumeData)) :
    recordsOf k (before ++ after) = recordsOf k before ++ recordsOf k after :=
  List.filterMap_append

theorem recordsOf_cons_self (bytes : ResumeData) (after : List (Uuid × ResumeData)) :
    recordsOf k ((k, bytes) :: after) = bytes :: recordsOf k after := by
  simp [recordsOf]

theorem recordsOf_cons_other {j : Nat} (other : j ≠ k) (bytes : ResumeData)
    (after : List (Uuid × ResumeData)) :
    recordsOf k ((j, bytes) :: after) = recordsOf k after := by
  simp [recordsOf, other]

theorem recordsOf_eq_nil {records : List (Uuid × ResumeData)}
    (none : ∀ bytes, (k, bytes) ∉ records) : recordsOf k records = [] := by
  rw [recordsOf, List.filterMap_eq_nil_iff]
  rintro ⟨j, bytes⟩ member
  have other : j ≠ k := fun same => none bytes (same ▸ member)
  simp [other]

theorem settlesAs_congr (records : recordsOf k s'.records = recordsOf k s.records)
    (disk : s'.disk k = s.disk k) (pending : s'.initialPending k = s.initialPending k) :
    s'.settlesAs k = s.settlesAs k := by
  rw [settlesAs, settlesAs, records, disk, pending]

end Engine

/-! ## Steps of the pump -/

/-- An alert of a torrent is handled after its `AddTorrent`. -/
theorem Engine.AlertsOrdered.added_handled (ordered : s.AlertsOrdered) {k : Nat} {ok : Bool}
    {alert : Alert} (handled : alert ∈ s.pump.handled) (about : alert.torrent = k)
    (added : .addTorrent k ok ∈ s.stream) : .addTorrent k ok ∈ s.pump.handled := by
  have pairs := ordered.session.first
  rw [Engine.stream, taken, List.append_assoc] at added pairs
  refine (List.mem_append.mp added).resolve_right fun later => ?_
  exact (List.pairwise_append.mp pairs).2.2 alert handled _ later rfl about

/-- The pump drops no record of a torrent that the session holds. -/
theorem PumpMove.recordsOf {k : Nat} {pc : AddPc} (registered : s.Registered)
    (attributed : s.pump.Attributed) (ordered : s.AlertsOrdered) (present : s.Present)
    (call : s.adds[k]? = some pc) (tracked : pc.tracked = true) (held : s.session.Holds k)
    (serialized : ∀ uuid bytes, s.pump.pc = .saveSerialize uuid bytes → s'.records = s.records)
    (move : PumpMove s s') :
    Engine.recordsOf k s'.records = Engine.recordsOf k s.records := by
  cases move.records registered attributed ordered.batch with
  | kept same => rw [same]
  | dropped j bytes before after handled adding was now reason =>
    by_cases own : j = k
    case neg => rw [was, now, Engine.recordsOf_append, Engine.recordsOf_append,
      Engine.recordsOf_cons_other own]
    subst own
    rcases reason with unowned | unregistered | pc
    · have owned := ordered.session.owned (Engine.handled_stream handled) rfl held
      cases owned.symm.trans unowned
    · have order := ordered.session.torrents j
      have attached :=
        held.resolve_left (order.decided _ (Engine.handled_stream handled) rfl).2
      have added := ordered.added_handled handled rfl (order.added (.inl attached))
      exact absurd unregistered (present j _ call tracked held (.inr ⟨added, adding j⟩))
    · rw [serialized j bytes pc]

/-! ## Steps of the other tasks -/

theorem PersisterMove.settlesAs {ok : Bool} {k : Nat} (deletes : s.DeletesGone)
    (held : s.session.Holds k) (kept : s.failsWrite (.persister ok) = false)
    (move : PersisterMove s ok s') : s'.settlesAs k = s.settlesAs k := by
  have pending : s'.initialPending k = s.initialPending k := by
    rw [Engine.initialPending, Engine.initialPending, move.frame.adds]
  have records := move.records
  have still : (∀ uuid bytes ack, s.persister ≠ .execute (.writeResume uuid bytes ack)) →
      s'.disk k = s.disk k → s'.settlesAs k = s.settlesAs k := by
    intro idle disk
    refine Engine.settlesAs_congr ?_ disk pending
    rcases records with ⟨_, same⟩ | ⟨uuid, bytes, ack, executing, _⟩
    · rw [same]
    · exact absurd executing (idle uuid bytes ack)
  cases move with
  | @write uuid bytes ack pc =>
    -- the record leaves the list and is the file
    obtain ⟨_, _, _, executing, head⟩ := records.resolve_left fun idle => idle.1 _ _ _ pc
    cases pc.symm.trans executing
    by_cases own : uuid = k
    · subst own
      rw [Engine.settlesAs, Engine.settlesAs, head, Engine.recordsOf_cons_self, pending,
        List.getLast?_cons]
      cases (Engine.recordsOf uuid _).getLast? <;> simp
    · refine Engine.settlesAs_congr ?_ ?_ pending
      · rw [head, Engine.recordsOf_cons_other own]
      · simp [Ne.symm own]
  | writeFails pc => simp [Engine.failsWrite, pc] at kept
  | @delete uuid pc =>
    have other : k ≠ uuid := by
      rintro rfl
      refine (deletes k ?_).2 held
      simp [Engine.pending, Engine.queued, PersisterPc.executing, pc]
    exact still (by simp [pc]) (by simp [other])
  | dec pc => exact still (by simp [pc]) (by simp)
  | receive pc | deleteFails pc | sessionState pc | unmark pc | mark pc | publishSaved pc
  | publishFailed pc | unheard pc | acknowledge pc => exact still (by simp [pc]) rfl

/-- The initial record is queued: nothing newer is in the file or before it. -/
theorem Engine.settlesAs_send {k : Nat} (call : s.adds[k]? = some (.send (entryOf k) initialRecord))
    {ok : Bool} (kept : s.overtakenByRecord (.add k ok) = false) (disk : s'.disk = s.disk)
    (adds : s'.adds = s.adds.set k (.awaitAck (entryOf k)))
    (records : s'.records = s.queued.filterMap PersistOp.record ++ (k, initialRecord) ::
      (s.pump.ops.filterMap PersistOp.record ++ (s.pump.pc.record.toList ++ s.delivered))) :
    s'.settlesAs k = s.settlesAs k := by
  have was : s.records = s.queued.filterMap PersistOp.record ++
      (s.pump.ops.filterMap PersistOp.record ++ (s.pump.pc.record.toList ++ s.delivered)) := by
    simp [Engine.records]
  simp only [overtakenByRecord, call, Bool.or_eq_false_iff, Option.isSome_eq_false_iff,
    Option.isNone_iff_eq_none, List.any_eq_false, beq_iff_eq, entryOf] at kept
  obtain ⟨empty, alone⟩ := kept
  have queued : recordsOf k (s.queued.filterMap PersistOp.record) = [] :=
    recordsOf_eq_nil fun bytes member => alone (k, bytes) member rfl
  have pending : s.initialPending k = true := by simp [initialPending, call, AddPc.willWrite]
  have sent : s'.initialPending k = false := by
    simp [initialPending, adds, get_set_self call, AddPc.willWrite]
  rw [settlesAs, settlesAs, records, was, recordsOf_append, recordsOf_append, queued,
    recordsOf_cons_self, disk, empty, pending, sent, List.nil_append, List.nil_append,
    List.getLast?_cons]
  cases (recordsOf k _).getLast? <;> simp

theorem AddMove.settlesAs {k : Nat} {ok : Bool} {pc next : AddPc} (registered : s.Registered)
    (call : s.adds[k]? = some pc) (kept : s.overtakenByRecord (.add k ok) = false)
    (move : AddMove s k ok pc s') (entry : s'.adds[k]? = some next) (tracked : next.tracked = true) :
    pc.tracked = true ∧ s'.settlesAs k = s.settlesAs k := by
  have about := registered.calls k pc call
  have records := move.records registered call
  have disk := move.frame.disk
  have still : s'.records = s.records → next.willWrite = pc.willWrite →
      s'.settlesAs k = s.settlesAs k := fun records writes =>
    Engine.settlesAs_congr (by rw [records]) (by rw [disk])
      (by simp [Engine.initialPending, call, entry, writes])
  cases move with
  | send =>
    obtain ⟨rfl, rfl⟩ := about
    refine ⟨rfl, ?_⟩
    rcases records with same | ⟨_, adds, inserted⟩
    · have := congrArg List.length same
      simp [Engine.records, Engine.queued, Engine.delivered, PersistOp.record] at this
    · exact Engine.settlesAs_send call kept disk adds inserted
  | unwindShut | unwindGone | unwindRemove =>
    simp [get_set_self call] at entry
    subst entry
    rw [AddPc.tracked_done_of_failed about.2] at tracked
    cases tracked
  | compensateSend =>
    simp [get_set_self call] at entry
    subst entry
    exact ⟨rfl, still (records.resolve_right (by simp)) rfl⟩
  | refused | expired | removeVanished | notSerialized | shut | release | notWritten | unwind
  | unwindRegistry | unwindFind =>
    simp [get_set_self call] at entry
    subst entry
    cases tracked
  | added | readHandle | upsert | serialize | reserve | opened | durable | present | gone
  | compensate | compensateShut =>
    simp [get_set_self call] at entry
    subst entry
    exact ⟨rfl, still rfl rfl⟩

/-- The add of another torrent does not concern the file of torrent `j`. -/
theorem AddMove.settlesAs_other {j k : Nat} {ok : Bool} {pc : AddPc} (registered : s.Registered)
    (call : s.adds[k]? = some pc) (move : AddMove s k ok pc s') (other : j ≠ k) :
    s'.settlesAs j = s.settlesAs j := by
  obtain ⟨next, adds⟩ := move.frame.call
  refine Engine.settlesAs_congr ?_ (by rw [move.frame.disk])
    (by rw [Engine.initialPending, Engine.initialPending, adds,
      List.getElem?_set_ne (Ne.symm other)])
  rcases move.records registered call with same | ⟨_, _, inserted⟩
  · rw [same]
  · rw [inserted, Engine.recordsOf_append, Engine.recordsOf_cons_other (Ne.symm other),
      ← Engine.recordsOf_append]
    simp [Engine.records]

theorem Move.newest {a : Action} (registered : s.Registered) (attributed : s.pump.Attributed)
    (ordered : s.AlertsOrdered) (present : s.Present) (deletes : s.DeletesGone)
    (unrecorded : s.Unrecorded) (move : Move s a s') (written : s.failsWrite a = false)
    (alone : s.overtakenByRecord a = false)
    (serialized : ∀ c uuid bytes, a = .pump c → s.pump.pc = .saveSerialize uuid bytes →
      s'.records = s.records)
    (newest : s.Newest) : s'.Newest := by
  intro isOpen k now entry tracked held
  have wasOpen := move.persistOpen isOpen
  have holds : k < s.adds.length → s.session.Holds k := fun known => move.holds ordered known held
  have old : ∀ pc, s.adds[k]? = some pc → pc.tracked = true → s'.settlesAs k = s.settlesAs k →
      (s'.session.torrents k).latest = (s.session.torrents k).latest →
      s'.settlesAs k = some (s'.session.torrents k).latest := by
    intro pc call tracked settles latest
    rw [settles, latest]
    exact newest wasOpen k pc call tracked (holds (List.getElem?_eq_some_iff.mp call).1)
  cases move with
  | @pump c _ move =>
    -- a save that the pump drops is of a torrent that the session has lost
    have frame := move.frame
    rw [frame.adds] at entry
    have known := (List.getElem?_eq_some_iff.mp entry).1
    refine old now entry tracked (Engine.settlesAs_congr ?_ (by rw [frame.disk])
      (by rw [Engine.initialPending, Engine.initialPending, frame.adds])) (move.torrent k).2.2
    exact move.recordsOf registered attributed ordered present entry tracked (holds known)
      fun uuid bytes => serialized c uuid bytes rfl
  | persister move =>
    have frame := move.frame
    rw [frame.adds] at entry
    have known := (List.getElem?_eq_some_iff.mp entry).1
    exact old now entry tracked (move.settlesAs deletes (holds known) written)
      (by rw [frame.session])
  | @add j ok pc _ call move =>
    have latest : (s'.session.torrents k).latest = (s.session.torrents k).latest := by
      rcases move.frame.session with same | ⟨torrent, same⟩ <;> simp [same]
    by_cases own : k = j
    · subst own
      obtain ⟨before, settles⟩ := move.settlesAs registered call alone entry tracked
      exact old pc call before settles latest
    · obtain ⟨next, adds⟩ := move.frame.call
      rw [adds, List.getElem?_set_ne (Ne.symm own)] at entry
      exact old now entry tracked (move.settlesAs_other registered call own) latest
  | task _ move =>
    have frame := move.frame
    refine old now (frame.adds ▸ entry) tracked (Engine.settlesAs_congr (by rw [move.records])
      (by rw [frame.disk]) (by rw [Engine.initialPending, Engine.initialPending, frame.adds])) ?_
    rcases frame.session with same | ⟨torrent, same⟩ | ⟨torrent, same⟩ <;> simp [same]
  | session move =>
    -- a record generated now is the newest, and goes behind all others
    rcases move.records with ⟨same, latest⟩ | ⟨j, _, generated, latest, same⟩
    · exact old now entry tracked (Engine.settlesAs_congr (by rw [same]) rfl rfl) (latest k)
    · by_cases own : k = j
      · subst own
        rw [Engine.settlesAs, same, Engine.recordsOf_append, Engine.recordsOf_cons_self]
        simp [Engine.recordsOf]
      · refine old now entry tracked (Engine.settlesAs_congr ?_ rfl rfl) (latest k own)
        rw [same, Engine.recordsOf_append, Engine.recordsOf_cons_other (Ne.symm own)]
        simp [Engine.recordsOf]
  | @startAdd accepted =>
    -- a new torrent has no records but the one its call is going to write
    rcases get_append entry with before | ⟨rfl, rfl⟩
    · have known := (List.getElem?_eq_some_iff.mp before).1
      have other : k ≠ s.session.next := by rw [← ordered.adds]; omega
      refine old now before tracked (Engine.settlesAs_congr rfl rfl ?_) ?_
      · exact congrArg (Option.any AddPc.willWrite) (List.getElem?_append_left known)
      · simp [Session.addTorrent, other]
    · cases accepted with
      | false => cases tracked
      | true =>
        obtain ⟨empty, none⟩ := unrecorded s.adds.length (Nat.le_refl _)
        have pending : ({ s with
            session := s.session.addTorrent true
            adds := s.adds ++ [.awaitAdd] } : Engine).initialPending s.adds.length = true := by
          simp [Engine.initialPending, AddPc.willWrite]
        show (Engine.recordsOf s.adds.length s.records).getLast?.or
          ((s.disk s.adds.length).or (if _ then some initialRecord else Option.none)) = _
        rw [Engine.recordsOf_eq_nil none, empty]
        refine (if_pos pending).trans ?_
        simp [Session.addTorrent, Torrent.absent, ordered.adds]
  | dropAdd call =>
    rcases get_set entry with ⟨_, rfl⟩ | ⟨other, before⟩
    · cases tracked
    · refine old now before tracked (Engine.settlesAs_congr rfl rfl ?_) rfl
      exact congrArg (Option.any AddPc.willWrite) (List.getElem?_set_ne (Ne.symm other))
  -- the persist queue is closed then, and `Newest` says nothing
  | abortPump | close => cases isOpen
  | sendSessionState =>
    refine old now entry tracked (Engine.settlesAs_congr ?_ rfl rfl) rfl
    simp [Engine.records, Engine.queued, Engine.delivered, PersistOp.record, List.filterMap_cons]
  | notify | startTask | quiesce | takeSession | takePersist | dropTask =>
    exact old now entry tracked rfl rfl

/-- A serialization that succeeds keeps the record. -/
theorem serialized_records {c : PumpChoice} {uuid : Uuid} {bytes : ResumeData}
    (pc : s.pump.pc = .saveSerialize uuid bytes) (kept : s.failsWrite (.pump c) = false)
    (stepped : s.step (.pump c) = some s') : s'.records = s.records := by
  rw [Engine.step.eq_def, Option.ite_none_left_eq_some] at stepped
  simp only [Option.ite_none_right_eq_some] at stepped
  obtain ⟨_, _, stepped⟩ := stepped
  cases c with
  | next =>
    simp only [pumpStep, pc, Option.some.injEq] at stepped
    subst stepped
    simp [Engine.records, Engine.queued, Engine.delivered, PumpPc.record, PersistOp.record, pc]
  | fail => simp [Engine.failsWrite, pc] at kept
  | batch | retry | snapshot => simp [pumpStep, pc] at stepped

theorem newest_run {restored : Nat}
    (run : EngineRun (fun s a => s.failsWrite a = false ∧ s.overtakenByRecord a = false)
      restored s) : s.Newest := by
  refine run.invariant (I := Engine.Newest) (fun _ k pc entry _ _ => ?_)
    fun t a u reached newest kept stepped => (step_move stepped).2.newest (registered_run reached)
      (attributed_run reached) (ordered_run reached) (present_run reached)
      (deletesGone_run reached) (unrecorded_run reached) kept.1 kept.2 ?_ newest
  · obtain ⟨known, rfl⟩ := calls_start entry
    simp [Engine.settlesAs, Engine.recordsOf, Engine.records, Engine.queued,
      Engine.delivered, Engine.start, Session.start, PersisterPc.executing, PumpPc.record, known,
      Torrent.restored]
  · rintro c uuid bytes rfl pc
    exact serialized_records pc kept.1 stepped

/-! ## When all is quiet -/

theorem AddPc.tracked_of_finished {pc : AddPc} (finished : pc.finished = true)
    (live : pc.lost = false) (failed : ∀ result, pc = .done result → result.failed = false)
    (kept : pc ≠ .dropped) : pc.tracked = true ∧ pc.willWrite = false := by
  cases pc with
  | restored => exact ⟨rfl, rfl⟩
  | done result =>
    have := failed result rfl
    cases result <;> simp [AddPc.lost, AddResult.failed] at live this
    exact ⟨rfl, rfl⟩
  | dropped => exact absurd rfl kept
  | _ => cases finished

/-- Where no write failed, the resume file of a torrent in the session is the
newest record generated for it. -/
theorem newest_record_stays {restored : Nat}
    (run : EngineRun (fun s a => s.failsWrite a = false ∧ s.overtakenByRecord a = false)
      restored s)
    (quiescent : s.Quiescent) {k : Nat} (held : s.session.Holds k)
    (kept : s.adds[k]? ≠ some .dropped) :
    s.disk k = some (s.session.torrents k).latest := by
  have ordered := ordered_run run
  have drained := quiescent.toDrained
  have running : s.shutdown = .running :=
    quiescent.shutdown.resolve_right fun closed => closed_run run closed k held
  obtain ⟨_, removes, alerts⟩ := quiescent.session.resolve_left (by simp [running])
  cases call : s.adds[k]? with
  | none =>
    have late : s.session.next ≤ k := ordered.adds ▸ List.getElem?_eq_none_iff.mp call
    simp [Session.Holds, ordered.session.fresh k late, Torrent.absent] at held
  | some pc =>
    have live : pc.lost = false :=
      Bool.eq_false_iff.mpr fun lost => lostGone_run run k pc call lost held
    have failed : ∀ result, pc = .done result → result.failed = false := by
      rintro result rfl
      refine Bool.eq_false_iff.mpr fun failed => ?_
      rcases (leaving_run run).leaving k result call failed with pending | out | shut
      · simp [removes] at pending
      · exact out held
      · simp [running, Shutdown.sessionOpen] at shut
    obtain ⟨tracked, written⟩ := AddPc.tracked_of_finished (drained.finished call) live failed
      fun dropped => kept (dropped ▸ call)
    have settles := newest_run run (by rw [running]; rfl) k pc call tracked held
    have batch := ordered.batch (by rw [drained.select]; rfl)
    simpa [Engine.settlesAs, Engine.records, Engine.queued, Engine.delivered, Engine.recordsOf,
      Engine.initialPending, call, written, drained.idle, drained.queue, drained.ops,
      drained.select, batch, alerts, PersisterPc.executing, PumpPc.record] using settles

/-- The torrent finishes while its add waits for the initial write. -/
theorem newest_record_stays_finished_add :
    ∃ s, EngineRun (fun s a => s.failsWrite a = false ∧ s.overtakenByRecord a = false) 0 s ∧
      s.Quiescent ∧ s.session.Holds 0 ∧ s.disk 0 = some ⟨1, 1⟩ := by
  have replayed : (exec Engine.step (fun s a => !s.failsWrite a && !s.overtakenByRecord a) (.start 0)
      [[.startAdd true, .session (.attach 0 true), .pump .batch],
        List.replicate 8 (.pump .next), List.replicate 7 (.add 0 true),
        [.session (.mutate 0), .session (.emit .torrentFinished 0), .pump .batch],
        List.replicate 13 (.pump .next), [.session (.answer 0 true), .pump .batch],
        List.replicate 10 (.pump .next), List.replicate 12 (.persister true),
        List.replicate 2 (.add 0 true), [.notify]].flatten).map
      (fun s => decide s.Quiescent && decide ((s.session.torrents 0).phase = .attached) &&
        decide ((s.session.torrents 0).latest = ⟨1, 1⟩) &&
        decide (s.adds[0]? = some (.done .ok))) = some true := by decide +kernel
  obtain ⟨s, run, reached⟩ := exists_run_of_exec replayed
  simp only [Bool.and_eq_true, decide_eq_true_eq] at reached
  obtain ⟨⟨⟨quiescent, attached⟩, latest⟩, call⟩ := reached
  have kept : EngineRun (fun s a => s.failsWrite a = false ∧ s.overtakenByRecord a = false) 0 s :=
    run.mono (by simp)
  have file := newest_record_stays kept quiescent (.inr attached) (by simp [call])
  exact ⟨s, kept, quiescent, .inr attached, file.trans (by rw [latest])⟩

/-- The pump writes the record of the finished torrent before the call that
added it queues the initial one. -/
theorem initial_record_overwrites :
    ¬ ∀ s k, EngineRun (fun s a => s.failsWrite a = false) 0 s → s.Quiescent →
      s.session.Holds k → s.adds[k]? ≠ some .dropped →
      s.disk k = some (s.session.torrents k).latest := by
  intro claim
  have replayed : (exec Engine.step (fun s a => !s.failsWrite a) (.start 0)
      [[.startAdd true, .session (.attach 0 true), .pump .batch],
        List.replicate 8 (.pump .next),
        [.session (.mutate 0), .session (.emit .torrentFinished 0), .pump .batch],
        List.replicate 13 (.pump .next), [.session (.answer 0 true), .pump .batch],
        List.replicate 10 (.pump .next), List.replicate 6 (.persister true),
        List.replicate 7 (.add 0 true), List.replicate 6 (.persister true),
        List.replicate 2 (.add 0 true)].flatten).map
      (fun s => decide s.Quiescent && decide ((s.session.torrents 0).phase = .attached) &&
        decide (s.disk 0 ≠ some (s.session.torrents 0).latest) &&
        decide (s.adds[0]? = some (.done .ok))) = some true := by decide +kernel
  obtain ⟨s, run, reached⟩ := exists_run_of_exec replayed
  simp only [Bool.and_eq_true, decide_eq_true_eq] at reached
  obtain ⟨⟨⟨quiescent, attached⟩, older⟩, call⟩ := reached
  exact older (claim s 0 (run.mono (by simp)) quiescent (.inr attached) (by simp [call]))

end Rsbtd
