import Rsbtd.Verified.Alerts
import Rsbtd.Verified.Pipeline

/-!
# Resume records on their way

A record that libtorrent has generated travels in an alert through the pump's
batch, is attributed to its torrent, and goes on as a write operation to the
persister.  `Engine.records` lists the records that are on their way, each with
its torrent, in the order in which they will be written.  Every step keeps the
list, appends to it, takes its head, or drops the record that the pump handles.
-/

namespace Rsbtd

open Transition

variable {s s' : Engine}

namespace Alert

/-- The record an alert delivers, with its torrent. -/
def record : Alert → Option (Uuid × ResumeData)
  | saveResumeData k bytes => some (k, bytes)
  | _ => none

theorem record_eq {alert : Alert} {k : Nat} {bytes : ResumeData}
    (carries : alert.record = some (k, bytes)) : alert = .saveResumeData k bytes := by
  cases alert <;> cases carries
  rfl

end Alert

/-- The record an operation writes. -/
def PersistOp.record : Op → Option (Uuid × ResumeData)
  | .writeResume uuid bytes _ => some (uuid, bytes)
  | _ => none

theorem PersistOp.record_eq_none {op : Op} (other : op.isWriteResume = false) :
    op.record = none := by
  cases op with
  | writeResume => cases other
  | deleteResume | writeSessionState => rfl

/-- The record the pump handles. -/
def PumpPc.record : PumpPc → Option (Uuid × ResumeData)
  | .torrentOf alert | .torrentOfGet alert _ | .torrentOfData alert => alert.record
  | .saveFind uuid bytes | .saveSerialize uuid bytes => some (uuid, bytes)
  | _ => none

/-- The call is going to queue the initial record. -/
def AddPc.willWrite : AddPc → Bool
  | .awaitAdd | .readHandle | .upsert | .serialize _ | .reserve _ _ | .enqueue _ _ | .send _ _ => true
  | _ => false

namespace Engine

/-- The records in alerts that are not handled yet. -/
def delivered (s : Engine) : List (Uuid × ResumeData) :=
  (s.pump.todo ++ s.session.alerts).filterMap Alert.record

def records (s : Engine) : List (Uuid × ResumeData) :=
  (s.queued ++ s.pump.ops).filterMap PersistOp.record ++ (s.pump.pc.record.toList ++ s.delivered)

/-- The add call of torrent `k` has yet to queue the initial record. -/
def initialPending (s : Engine) (k : Nat) : Bool := s.adds[k]?.any AddPc.willWrite

end Engine

/-! ## Attribution -/

/-- The pump attributes a record to the torrent it was generated for. -/
structure Pump.Attributed (pump : Pump) : Prop where
  handled : ∀ k bytes, pump.pc.record = some (k, bytes) → .saveResumeData k bytes ∈ pump.handled
  id : ∀ alert id, pump.pc = .torrentOfGet alert id → id = (entryOf alert.torrent).id

theorem afterTorrentOf_record (alert : Alert) :
    (afterTorrentOf alert (some alert.torrent)).record = alert.record := by
  cases alert with
  | trigger kind k => cases kind <;> rfl
  | addTorrent | torrentRemoved | saveResumeData | saveResumeDataFailed => rfl

theorem afterTorrentOf_none_record (alert : Alert) : (afterTorrentOf alert none).record = none := by
  cases alert with
  | trigger kind k => cases kind <;> rfl
  | addTorrent | torrentRemoved | saveResumeData | saveResumeDataFailed => rfl

theorem afterTorrentOf_ne_get (alert other : Alert) (torrent : Option Uuid) (id : TorrentId) :
    afterTorrentOf alert torrent ≠ .torrentOfGet other id := by
  rcases afterTorrentOf_cases alert torrent with
    pc | ⟨_, pc⟩ | ⟨_, _, pc⟩ | ⟨_, _, _, _, _, pc⟩ | ⟨_, _, _, _, pc⟩ <;> rw [pc] <;> simp

theorem Session.handleId_of_alive {s : Session} {k : Nat} (alive : s.handleId k ≠ 0) :
    s.handleId k = (entryOf k).id := by
  rw [handleId] at alive ⊢
  split
  case isTrue => rfl
  case isFalse dead => simp [dead] at alive

theorem Session.clientDataUuid_eq (s : Session) (k : Nat) :
    s.clientDataUuid k = some k ∨ s.clientDataUuid k = none := by
  rw [clientDataUuid]
  split
  · exact .inl rfl
  · exact .inr rfl

theorem Session.clientDataUuid_of_dead {s : Session} {k : Nat} (dead : s.handleId k = 0) :
    s.clientDataUuid k = none := by
  rw [handleId] at dead
  split at dead
  case isTrue => cases dead
  case isFalse gone => simp [clientDataUuid, gone]

/-- `torrent_of` finds the entry of the alert's torrent, if any. -/
theorem Engine.Registered.get_id (registered : s.Registered) {k : Nat} {entry : TorrentEntry}
    (found : s.registry.get (entryOf k).id = some entry) : entry = entryOf k :=
  registered.coherent.find_eq ((registered.coherent.get_id distinct_entryOf k).symm.trans found)

/-! ## Steps of the pump -/

/-- What one move of the pump does to the records on their way. -/
inductive RecordsMove (s s' : Engine) : Prop where
  | kept (same : s'.records = s.records)
  | dropped (k : Nat) (bytes : ResumeData) (before after : List (Uuid × ResumeData))
      (handled : .saveResumeData k bytes ∈ s.pump.handled)
      (adding : ∀ j, ¬ s.pump.pc.Adding j)
      (was : s.records = before ++ (k, bytes) :: after) (now : s'.records = before ++ after)
      (reason : s.session.clientDataUuid k = none ∨ s.registry.find k = none ∨
        s.pump.pc = .saveSerialize k bytes)

theorem PumpMove.attributed (registered : s.Registered) (move : PumpMove s s')
    (attributed : s.pump.Attributed) : s'.pump.Attributed := by
  have handled := attributed.handled
  cases move with
  | trigger | saveDataFailed => exact ⟨fun _ _ carries => (by cases carries), by simp⟩
  | @saveData k bytes rest =>
    refine ⟨fun j other carries => ?_, (by simp)⟩
    have same : some (k, bytes) = some (j, other) := carries
    cases same
    simp
  | @ofAlive alert pc alive =>
    refine ⟨fun k bytes carries => handled k bytes (by rw [pc]; exact carries), ?_⟩
    rintro _ _ ⟨⟩
    exact Session.handleId_of_alive alive
  | @ofUnregistered alert id pc =>
    exact ⟨fun k bytes carries => handled k bytes (by rw [pc]; exact carries), (by simp)⟩
  | ofExpired =>
    refine ⟨fun k bytes carries => ?_, fun other id now => absurd now (afterTorrentOf_ne_get _ _ _ _)⟩
    rw [Engine.goto, afterTorrentOf_none_record] at carries
    cases carries
  | @ofRegistered alert id entry pc found =>
    obtain rfl := attributed.id alert id pc
    obtain rfl := registered.get_id found
    refine ⟨fun k bytes carries => handled k bytes ?_,
      fun other id now => absurd now (afterTorrentOf_ne_get _ _ _ _)⟩
    rw [pc]
    exact (afterTorrentOf_record alert).symm.trans carries
  | @ofData alert pc =>
    refine ⟨fun k bytes carries => ?_, fun other id now => absurd now (afterTorrentOf_ne_get _ _ _ _)⟩
    rcases s.session.clientDataUuid_eq alert.torrent with found | missing
    · rw [Engine.goto, found] at carries
      refine handled k bytes ?_
      rw [pc]
      exact (afterTorrentOf_record alert).symm.trans carries
    · rw [Engine.goto, missing, afterTorrentOf_none_record] at carries
      cases carries
  | saveKnown pc =>
    exact ⟨fun k bytes carries => handled k bytes (by rw [pc]; exact carries), (by simp)⟩
  | @saveFailed k => exact ⟨fun _ _ carries => (by cases carries), by simp⟩
  | send => exact ⟨attributed.handled, attributed.id⟩
  | _ => exact ⟨fun _ _ carries => (by cases carries), by simp⟩

/-- What is left once the record the pump handles is dropped. -/
theorem RecordsMove.drop {k : Nat} {bytes : ResumeData} (attributed : s.pump.Attributed)
    (carries : s.pump.pc.record = some (k, bytes)) (adding : ∀ j, ¬ s.pump.pc.Adding j)
    (reason : s.session.clientDataUuid k = none ∨ s.registry.find k = none ∨
      s.pump.pc = .saveSerialize k bytes)
    (queued : s'.queued = s.queued) (ops : s'.pump.ops = s.pump.ops)
    (pc : s'.pump.pc.record = none) (delivered : s'.delivered = s.delivered) :
    RecordsMove s s' := by
  refine .dropped k bytes ((s.queued ++ s.pump.ops).filterMap PersistOp.record) s.delivered
    (attributed.handled k bytes carries) adding ?_ ?_ reason
  · simp [Engine.records, carries]
  · simp [Engine.records, queued, ops, pc, delivered]

theorem PumpMove.records (registered : s.Registered) (attributed : s.pump.Attributed)
    (done : s.pump.BatchDone) (move : PumpMove s s') : RecordsMove s s' := by
  have unattributed : ∀ {alert : Alert}, s.pump.pc.record = alert.record →
      (∀ j, ¬ s.pump.pc.Adding j) → s.session.clientDataUuid alert.torrent = none →
      RecordsMove s (s.goto (afterTorrentOf alert none)) := by
    intro alert carries adding missing
    cases record : alert.record with
    | none =>
      refine .kept ?_
      simp [Engine.records, Engine.queued, Engine.delivered, afterTorrentOf_none_record, carries,
        record]
    | some saved =>
      obtain ⟨k, bytes⟩ := saved
      obtain rfl := Alert.record_eq record
      exact .drop attributed (carries.trans record) adding (.inl missing) rfl rfl rfl rfl
  have attributes : ∀ {alert : Alert}, s.pump.pc.record = alert.record →
      RecordsMove s (s.goto (afterTorrentOf alert (some alert.torrent))) := fun carries =>
    .kept (by simp [Engine.records, Engine.queued, Engine.delivered, afterTorrentOf_record, carries])
  cases move with
  | batch pc =>
    exact .kept (by simp [Engine.records, Engine.queued, Engine.delivered, PumpPc.record, pc,
      done (by rw [pc]; rfl)])
  | addRefused pc todo | addTorrent pc todo | removed pc todo | removedUnknown pc todo
  | metadata pc todo | trigger pc todo | saveData pc todo | saveDataFailed pc todo =>
    exact .kept (by simp [Engine.records, Engine.queued, Engine.delivered, PumpPc.record,
      Alert.record, List.filterMap_cons, pc, todo])
  | @ofExpired alert pc expired =>
    exact unattributed (by rw [pc]; rfl) (by simp [pc, PumpPc.Adding])
      (Session.clientDataUuid_of_dead expired)
  | @ofRegistered alert id entry pc found =>
    obtain rfl := attributed.id alert id pc
    obtain rfl := registered.get_id found
    exact attributes (by rw [pc]; rfl)
  | @ofData alert pc =>
    rcases s.session.clientDataUuid_eq alert.torrent with found | missing
    · rw [found]
      exact attributes (by rw [pc]; rfl)
    · rw [missing]
      exact unattributed (by rw [pc]; rfl) (by simp [pc, PumpPc.Adding]) missing
  | @saveUnknown uuid bytes pc unregistered =>
    exact .drop attributed (by rw [pc]; rfl) (by simp [pc, PumpPc.Adding]) (.inr (.inl unregistered))
      rfl rfl rfl rfl
  | @notSerialized uuid bytes pc =>
    exact .drop attributed (by rw [pc]; rfl) (by simp [pc, PumpPc.Adding]) (.inr (.inr pc))
      rfl rfl rfl rfl
  | pushWrite pc =>
    exact .kept (by simp [Engine.records, Engine.queued, Engine.delivered, PumpPc.record,
      PersistOp.record, pc])
  | pushDelete pc =>
    exact .kept (by simp [Engine.records, Engine.queued, Engine.delivered, PumpPc.record,
      PersistOp.record, pc])
  | saveFailed pc =>
    exact .kept (by simp [Engine.records, Engine.queued, Engine.delivered, PumpPc.record,
      Alert.record, pc])
  | send pc ops =>
    exact .kept (by simp [Engine.records, Engine.queued, Engine.delivered, ops])
  | process pc | requestPosted pc | requestRefused pc | retryPosted pc | retryRefused pc =>
    exact .kept (by simp [Engine.records, Engine.queued, Engine.delivered, PumpPc.record, pc,
      (Session.saveResumeData_saves _ _).2])
  | _ pc => exact .kept (by simp [Engine.records, Engine.queued, Engine.delivered, PumpPc.record, pc])

theorem Move.attributed {a : Action} (registered : s.Registered) (move : Move s a s')
    (attributed : s.pump.Attributed) : s'.pump.Attributed := by
  cases move with
  | pump move => exact move.attributed registered attributed
  | persister move => rw [move.frame.pump]; exact attributed
  | add _ move => rw [move.frame.pump]; exact attributed
  | task _ move => rw [move.frame.pump]; exact attributed
  | abortPump => exact ⟨nofun, nofun⟩
  | _ => exact attributed

theorem attributed_run {ok : Engine → Action → Prop} {restored : Nat}
    (run : EngineRun ok restored s) : s.pump.Attributed :=
  run.invariant (I := fun s => s.pump.Attributed)
    ⟨fun _ _ carries => (by cases carries), fun _ _ posted => (by cases posted)⟩
    fun _ _ _ reached attributed _ stepped =>
      (step_move stepped).2.attributed (registered_run reached) attributed

/-! ## Steps of the other tasks -/

/-- The persister takes a record off the list when it has tried to write it. -/
theorem PersisterMove.records {ok : Bool} (move : PersisterMove s ok s') :
    (∀ uuid bytes ack, s.persister ≠ .execute (.writeResume uuid bytes ack)) ∧
        s'.records = s.records ∨
      ∃ uuid bytes ack, s.persister = .execute (.writeResume uuid bytes ack) ∧
        s.records = (uuid, bytes) :: s'.records := by
  obtain ⟨session, _, _, _, pump, _⟩ := move.frame
  have rest : s'.pump.pc.record.toList ++ s'.delivered = s.pump.pc.record.toList ++ s.delivered := by
    simp [Engine.delivered, session, pump]
  rw [Engine.records, rest, pump]
  cases move with
  | @write uuid bytes ack pc | @writeFails uuid bytes ack pc =>
    refine .inr ⟨uuid, bytes, ack, pc, ?_⟩
    simp [Engine.records, Engine.queued, PersisterPc.executing, PersistOp.record, pc]
  | receive pc queue =>
    refine .inl ⟨by simp [pc], ?_⟩
    simp [Engine.records, Engine.queued, PersisterPc.executing, pc, queue]
  | _ pc =>
    refine .inl ⟨by simp [pc], ?_⟩
    simp [Engine.records, Engine.queued, PersisterPc.executing, PersistOp.record,
      List.filterMap_cons, pc]

/-- Only the add's own write puts a record into the queue. -/
theorem AddMove.records {k : Nat} {ok : Bool} {pc : AddPc} (registered : s.Registered)
    (call : s.adds[k]? = some pc) (move : AddMove s k ok pc s') :
    s'.records = s.records ∨ pc = .send (entryOf k) initialRecord ∧
      s'.adds = s.adds.set k (.awaitAck (entryOf k)) ∧
      s'.records = s.queued.filterMap PersistOp.record ++ (k, initialRecord) ::
        (s.pump.ops.filterMap PersistOp.record ++ (s.pump.pc.record.toList ++ s.delivered)) := by
  have about := registered.calls k pc call
  have frame := move.frame
  have delivered : s'.delivered = s.delivered := by
    rcases frame.session with same | ⟨torrent, same⟩ <;>
      simp [Engine.delivered, frame.pump, same]
  rw [Engine.records, delivered, frame.pump, Engine.queued, frame.persister]
  cases move with
  | send =>
    obtain ⟨rfl, rfl⟩ := about
    refine .inr ⟨rfl, rfl, ?_⟩
    simp [Engine.queued, PersistOp.record, entryOf]
  | compensateSend =>
    refine .inl ?_
    simp [Engine.records, Engine.queued, PersistOp.record, List.filterMap_cons]
  | release => exact .inl (by simp [Engine.records, Engine.queued])
  | _ => exact .inl rfl

theorem AddMove.initialPending {k : Nat} {ok : Bool} {pc : AddPc} (call : s.adds[k]? = some pc)
    (move : AddMove s k ok pc s') {j : Nat} (pending : s'.initialPending j = true) :
    s.initialPending j = true := by
  obtain ⟨next, adds⟩ := move.frame.call
  by_cases same : j = k
  · subst same
    have now : ∀ next, (s.adds.set j next)[j]? = some next := get_set_self call
    cases move <;> simp_all [Engine.initialPending, AddPc.willWrite]
  · rwa [Engine.initialPending, adds, List.getElem?_set_ne (Ne.symm same)] at pending

theorem TaskMove.records {i : Nat} {task : Task} (move : TaskMove s i task s') :
    s'.records = s.records := by
  have frame := move.frame
  have alerts : s'.session.alerts = s.session.alerts := by
    rcases frame.session with same | ⟨torrent, same⟩ | ⟨torrent, same⟩ <;>
      simp [same, (Session.saveResumeData_saves _ _).2]
  simp [Engine.records, Engine.queued, Engine.delivered, frame.queue, frame.persister, frame.pump,
    alerts]

/-- The records that an aborted pump holds are lost. -/
theorem Engine.abortPump_records (s : Engine) : s.abortPump.records.Sublist s.records := by
  refine .append (.filterMap _ ((List.Sublist.refl s.queued).append (List.nil_sublist _))) ?_
  exact List.sublist_append_right _ _

/-- libtorrent generates a record when it answers a save. -/
theorem SessionMove.records {session : Session} (move : SessionMove s.session session) :
    ({ s with session } : Engine).records = s.records ∧
        (∀ j, (session.torrents j).latest = (s.session.torrents j).latest) ∨
      ∃ k ∈ s.session.saves,
        (session.torrents k).latest =
          ⟨(s.session.torrents k).state, (s.session.torrents k).latest.seq + 1⟩ ∧
        (∀ j, j ≠ k → (session.torrents j).latest = (s.session.torrents j).latest) ∧
        ({ s with session } : Engine).records =
          s.records ++ [(k, (session.torrents k).latest)] := by
  cases move with
  | @answer k pending =>
    refine .inr ⟨k, pending, by simp [Session.post, Session.modify], fun j other => ?_, ?_⟩
    · simp [Session.post, Session.modify, other]
    · simp [Engine.records, Engine.queued, Engine.delivered, Session.post, Session.modify,
        Alert.record]
  | @attach k | @mutate k | @perform k | @expire k =>
    refine .inl ⟨?_, fun j => ?_⟩
    · simp [Engine.records, Engine.queued, Engine.delivered, Session.post, Session.modify,
        Alert.record]
    · by_cases same : j = k <;> simp [Session.post, Session.modify, same]
  | _ =>
    refine .inl ⟨?_, fun j => rfl⟩
    simp [Engine.records, Engine.queued, Engine.delivered, Session.post, Alert.record]

/-- The state of a torrent only moves on. -/
theorem SessionMove.state {s s' : Session} (move : SessionMove s s') (k : Nat) :
    (s.torrents k).state ≤ (s'.torrents k).state := by
  cases move with
  | @attach j | @mutate j | @answer j | @perform j | @expire j =>
    by_cases same : k = j
    · subst same; simp [Session.modify, Session.post]
    · simp [Session.modify, Session.post, same]
  | _ => exact Nat.le_refl _

end Rsbtd
