import Rsbtd.Verified.DirtyMarks
import Rsbtd.Verified.LatestRecord

/-!
# No record is lost

A record that the pump has handled is written, or on its way to the persister,
or its torrent is marked dirty, or the torrent has left.  Up to the torrent's
own initial record, the writes of a torrent followed by its records on their way
are the records handled, in order: `Engine.InOrder`.

Three steps lose a record: the pump drops one that it cannot serialize without
marking the torrent, the initial record, when it lands, takes away the mark of a
newer record that failed, and a pump that shutdown aborts drops what it has not sent.
-/

namespace Rsbtd

open Transition

variable {s s' : Engine} {k : Nat} {writes : List ResumeWrite}

/-- The record of a write that failed, until its torrent is marked. -/
def PersisterPc.unmarked : PersisterPc → List (Uuid × ResumeData)
  | .wrote uuid bytes _ false => [(uuid, bytes)]
  | _ => []

def ResumeWrite.record (w : ResumeWrite) : Uuid × ResumeData := (w.uuid, w.bytes)

namespace Engine

/-- The step drops a record that is not serialized or not sent, or lets the initial
record of a torrent take away its mark. -/
def losesRecord (s : Engine) : Action → Bool
  | .pump c => s.failsWrite (.pump c)
  | .abortPump => s.pump.ops.any PersistOp.isWriteResume
  | .persister _ => match s.persister with
    | .wrote uuid bytes _ true => decide (bytes.seq = 0) && decide (uuid ∈ s.dirty)
    | _ => false
  | _ => false

/-- The records that the pump holds, that are queued, and that the persister has
in hand. -/
def onItsWay (s : Engine) : List (Uuid × ResumeData) :=
  (s.queued ++ s.pump.ops).filterMap PersistOp.record ++ s.pump.pc.record.toList

/-- What has become of a record that the pump handled. -/
inductive Kept (s : Engine) (writes : List ResumeWrite) (k : Nat) (bytes : ResumeData) : Prop where
  /-- It or a later one was written. -/
  | written (w : ResumeWrite) (logged : w ∈ writes) (own : w.uuid = k) (landed : w.ok = true)
      (later : bytes.seq ≤ w.bytes.seq)
  | held (on : (k, bytes) ∈ s.persister.unmarked ++ s.onItsWay)
  /-- The retry arm and `checkpoint` will ask again. -/
  | marked (marked : k ∈ s.dirty)
  | left (left : s.Left k)

/-- The records of a torrent other than the initial one. -/
def savesOf (k : Nat) (records : List (Uuid × ResumeData)) : List ResumeData :=
  (recordsOf k records).filter fun bytes => 0 < bytes.seq

theorem records_eq (s : Engine) : s.records = s.onItsWay ++ s.delivered := by
  simp [records, onItsWay]

theorem stream_records (s : Engine) :
    s.stream.filterMap Alert.record = s.pump.handled.filterMap Alert.record ++ s.delivered := by
  simp [stream, taken, delivered]

theorem onItsWay_congr (records : s'.records = s.records) (delivered : s'.delivered = s.delivered) :
    s'.onItsWay = s.onItsWay := by
  rw [records_eq, records_eq, delivered] at records
  exact List.append_cancel_right records

theorem savesOf_append (before after : List (Uuid × ResumeData)) :
    savesOf k (before ++ after) = savesOf k before ++ savesOf k after := by
  rw [savesOf, recordsOf_append, List.filter_append]
  rfl

theorem savesOf_eq_recordsOf {records : List (Uuid × ResumeData)}
    (numbered : ∀ bytes ∈ recordsOf k records, 0 < bytes.seq) :
    savesOf k records = recordsOf k records :=
  List.filter_eq_self.mpr fun bytes member => decide_eq_true (numbered bytes member)

theorem mem_recordsOf {records : List (Uuid × ResumeData)} {bytes : ResumeData} :
    bytes ∈ recordsOf k records ↔ (k, bytes) ∈ records := by
  rw [recordsOf, List.mem_filterMap]
  constructor
  · rintro ⟨⟨j, other⟩, member, found⟩
    obtain ⟨own, same⟩ := Option.ite_none_right_eq_some.mp found
    cases same
    exact own ▸ member
  · exact fun member => ⟨(k, bytes), member, if_pos rfl⟩

/-! ## The numbers of the records -/

/-- The records of a torrent are numbered from one on, in the order of their alerts. -/
structure Numbered (s : Engine) (k : Nat) : Prop where
  ascending : (recordsOf k (s.stream.filterMap Alert.record)).Pairwise fun a b => a.seq < b.seq
  bounds : ∀ bytes ∈ recordsOf k (s.stream.filterMap Alert.record),
    0 < bytes.seq ∧ bytes.seq ≤ (s.session.torrents k).latest.seq

theorem Numbered.congr (numbered : s.Numbered k) (handled : s'.pump.handled = s.pump.handled)
    (delivered : s'.delivered = s.delivered)
    (latest : (s'.session.torrents k).latest = (s.session.torrents k).latest) : s'.Numbered k := by
  have stream : s'.stream.filterMap Alert.record = s.stream.filterMap Alert.record := by
    rw [stream_records, stream_records, handled, delivered]
  exact ⟨stream ▸ numbered.ascending, by rw [stream, latest]; exact numbered.bounds⟩

end Engine

theorem Session.close_latest (s : Session) (k : Nat) :
    (s.close.torrents k).latest = (s.torrents k).latest := by
  simp only [Session.close]
  split <;> rfl

theorem SessionMove.numbered {session : Session} (move : SessionMove s.session session)
    (numbered : s.Numbered k) : ({ s with session } : Engine).Numbered k := by
  have same : ({ s with session } : Engine).onItsWay = s.onItsWay := rfl
  rcases move.records with ⟨records, latest⟩ | ⟨j, _, generated, latest, records⟩
  · rw [Engine.records_eq, Engine.records_eq, same] at records
    exact numbered.congr rfl (List.append_cancel_left records) (latest k)
  rw [Engine.records_eq, Engine.records_eq, same, List.append_assoc] at records
  have delivered := List.append_cancel_left records
  by_cases own : k = j
  case neg =>
    have stream : Engine.recordsOf k
        (({ s with session } : Engine).stream.filterMap Alert.record) =
        Engine.recordsOf k (s.stream.filterMap Alert.record) := by
      rw [Engine.stream_records, Engine.stream_records, delivered, ← List.append_assoc,
        Engine.recordsOf_append, Engine.recordsOf_cons_other (Ne.symm own)]
      simp [Engine.recordsOf]
    refine ⟨stream ▸ numbered.ascending, ?_⟩
    rw [stream, latest k own]
    exact numbered.bounds
  subst own
  have stream : Engine.recordsOf k (({ s with session } : Engine).stream.filterMap Alert.record) =
      Engine.recordsOf k (s.stream.filterMap Alert.record) ++ [(session.torrents k).latest] := by
    rw [Engine.stream_records, Engine.stream_records, delivered, ← List.append_assoc,
      Engine.recordsOf_append, Engine.recordsOf_cons_self]
    rfl
  constructor
  case ascending =>
    rw [stream, List.pairwise_append]
    refine ⟨numbered.ascending, List.pairwise_singleton _ _, fun bytes member last isLast => ?_⟩
    rw [List.mem_singleton.mp isLast, generated]
    exact Nat.lt_succ_of_le (numbered.bounds bytes member).2
  case bounds =>
    intro bytes member
    rw [stream] at member
    show _ ∧ _ ≤ (session.torrents k).latest.seq
    rcases List.mem_append.mp member with old | last
    · have before := numbered.bounds bytes old
      rw [generated]
      exact ⟨before.1, Nat.le_succ_of_le before.2⟩
    · rw [List.mem_singleton.mp last, generated]
      exact ⟨Nat.succ_pos _, Nat.le_refl _⟩

theorem Move.numbered {a : Action} (ordered : s.AlertsOrdered) (move : Move s a s')
    (numbered : s.Numbered k) : s'.Numbered k := by
  cases move with
  | pump move =>
    have stream := move.stream ordered.batch
    refine ⟨stream ▸ numbered.ascending, ?_⟩
    rw [stream, (move.torrent k).2.2]
    exact numbered.bounds
  | persister move =>
    obtain ⟨session, _, _, _, pump, _⟩ := move.frame
    have delivered : s'.delivered = s.delivered := by simp [Engine.delivered, pump, session]
    exact numbered.congr (by rw [pump]) delivered (by rw [session])
  | add _ move =>
    have frame := move.frame
    rcases frame.session with same | ⟨torrent, same⟩ <;>
      exact numbered.congr (by rw [frame.pump]) (by simp [Engine.delivered, frame.pump, same])
        (by simp [same])
  | task _ move =>
    have frame := move.frame
    rcases frame.session with same | ⟨torrent, same⟩ | ⟨torrent, same⟩ <;>
      exact numbered.congr (by rw [frame.pump]) (by simp [Engine.delivered, frame.pump, same,
        (Session.saveResumeData_saves _ _).2]) (by simp [same])
  | session move => exact move.numbered numbered
  | @startAdd accepted =>
    by_cases own : k = s.session.next
    · -- no alert is about a torrent that was not added yet
      have silent : Engine.recordsOf k (s.stream.filterMap Alert.record) = [] := by
        refine Engine.recordsOf_eq_nil fun bytes member => ?_
        obtain ⟨alert, posted, carries⟩ := List.mem_filterMap.mp member
        rw [Alert.record_eq carries] at posted
        have added := ordered.known ((ordered.session.torrents k).decided _ posted rfl)
        have length := ordered.adds
        omega
      refine ⟨silent ▸ .nil, fun bytes member => ?_⟩
      change bytes ∈ Engine.recordsOf k (s.stream.filterMap Alert.record) at member
      rw [silent] at member
      cases member
    · exact numbered.congr rfl rfl (by simp [Session.addTorrent, own])
  | close => exact numbered.congr rfl rfl (s.session.close_latest k)
  | _ => exact numbered.congr rfl rfl rfl

theorem numbered_run {ok : Engine → Action → Prop} {restored : Nat}
    (run : EngineRun ok restored s) (k : Nat) : s.Numbered k := by
  refine run.invariant (I := fun s => s.Numbered k) ?_ fun _ _ _ reached numbered _ stepped =>
    (step_move stepped).2.numbered (ordered_run reached) numbered
  have silent : (Engine.start restored).stream.filterMap Alert.record = [] := by
    simp [Engine.start, Engine.stream, Engine.taken, Session.start, Alert.record]
  refine ⟨by rw [silent]; exact .nil, fun bytes member => ?_⟩
  rw [silent] at member
  cases member

/-! ## The records that were handled -/

namespace Engine

/-- The writes and the records on their way are the records handled, in order. -/
def InOrder (s : Engine) (writes : List ResumeWrite) (k : Nat) : Prop :=
  savesOf k (writes.map ResumeWrite.record ++ s.onItsWay) =
    recordsOf k (s.pump.handled.filterMap Alert.record)

theorem Numbered.delivered (numbered : s.Numbered k) :
    savesOf k s.delivered = recordsOf k s.delivered := by
  refine savesOf_eq_recordsOf fun bytes member => (numbered.bounds bytes ?_).1
  rw [stream_records, recordsOf_append]
  exact List.mem_append_right _ member

/-- The records that are not handled yet can be counted on both sides. -/
theorem inOrder_iff (numbered : s.Numbered k) :
    s.InOrder writes k ↔
      savesOf k (writes.map ResumeWrite.record ++ s.records) =
        recordsOf k (s.stream.filterMap Alert.record) := by
  rw [InOrder, records_eq, stream_records, ← List.append_assoc,
    savesOf_append (writes.map ResumeWrite.record ++ s.onItsWay), recordsOf_append,
    numbered.delivered, List.append_left_inj]

theorem InOrder.congr (inOrder : s.InOrder writes k) (onItsWay : s'.onItsWay = s.onItsWay)
    (handled : s'.pump.handled = s.pump.handled) : s'.InOrder writes k := by
  rw [InOrder, onItsWay, handled]
  exact inOrder

end Engine

/-- The pump drops no record of a torrent that has not left. -/
theorem PumpMove.records_kept (registered : s.Registered) (attributed : s.pump.Attributed)
    (ordered : s.AlertsOrdered) (adds : s.AddedKnown) (here : ¬ s.Left k)
    (serialized : ∀ uuid bytes, s.pump.pc = .saveSerialize uuid bytes → s'.records = s.records)
    (move : PumpMove s s') : Engine.savesOf k s'.records = Engine.savesOf k s.records := by
  have held : s.session.Holds k := Classical.not_not.mp fun out => here (.inl out)
  rw [Engine.savesOf, Engine.savesOf]
  refine congrArg _ ?_
  cases move.records registered attributed ordered.batch with
  | kept same => rw [same]
  | dropped j bytes before after handled adding was now reason =>
    by_cases own : j = k
    case neg => rw [was, now, Engine.recordsOf_append, Engine.recordsOf_append,
      Engine.recordsOf_cons_other own]
    subst own
    rcases reason with unowned | unregistered | pc
    · have owned := ordered.session.owned (Engine.handled_stream handled) rfl held
      cases owned.symm.trans unowned
    · -- the torrent is registered since its `AddTorrent`, which came first
      have order := ordered.session.torrents j
      have attached := held.resolve_left (order.decided _ (Engine.handled_stream handled) rfl).2
      have added := ordered.added_handled handled rfl (order.added (.inl attached))
      rcases adds j ⟨added, adding j⟩ with gone | found
      · exact absurd gone.2 here
      · exact absurd unregistered found
    · rw [serialized j bytes pc]

theorem AddMove.inOrder {j : Nat} {ok : Bool} {pc : AddPc} (registered : s.Registered)
    (call : s.adds[j]? = some pc) (move : AddMove s j ok pc s')
    (inOrder : s.InOrder writes k) : s'.InOrder writes k := by
  have frame := move.frame
  have delivered : s'.delivered = s.delivered := by
    rcases frame.session with same | ⟨torrent, same⟩ <;> simp [Engine.delivered, frame.pump, same]
  rcases move.records registered call with same | ⟨_, _, inserted⟩
  · exact inOrder.congr (Engine.onItsWay_congr same delivered) (by rw [frame.pump])
  have onItsWay : s'.onItsWay = s.queued.filterMap PersistOp.record ++ (j, initialRecord) ::
      (s.pump.ops.filterMap PersistOp.record ++ s.pump.pc.record.toList) := by
    rw [Engine.records_eq, delivered] at inserted
    refine List.append_cancel_right (inserted.trans ?_)
    simp
  -- the initial record is not counted
  have initial : ∀ rest, Engine.savesOf k ((j, initialRecord) :: rest) = Engine.savesOf k rest := by
    intro rest
    by_cases own : j = k
    · subst own
      rw [Engine.savesOf, Engine.recordsOf_cons_self]
      exact List.filter_cons_of_neg (by simp [initialRecord])
    · rw [Engine.savesOf, Engine.recordsOf_cons_other own]
      rfl
  have was : s.onItsWay = s.queued.filterMap PersistOp.record ++
      (s.pump.ops.filterMap PersistOp.record ++ s.pump.pc.record.toList) := by
    simp [Engine.onItsWay]
  rw [Engine.InOrder, frame.pump, ← inOrder, onItsWay, was]
  simp only [Engine.savesOf_append, initial]

/-- A step keeps the account of a torrent that has not left. -/
theorem Move.inOrder {a : Action} (registered : s.Registered) (ordered : s.AlertsOrdered)
    (attributed : s.pump.Attributed) (adds : s.AddedKnown) (move : Move s a s')
    (here : ¬ s.Left k) (numbered : s.Numbered k)
    (serialized : ∀ c uuid bytes, a = .pump c → s.pump.pc = .saveSerialize uuid bytes →
      s'.records = s.records)
    (kept : s.losesRecord a = false) (inOrder : s.InOrder writes k) :
    s'.InOrder (writes ++ (s.write a).toList) k := by
  have quiet : (∀ ok, a ≠ .persister ok) → s'.InOrder writes k →
      s'.InOrder (writes ++ (s.write a).toList) k := by
    intro other kept
    rwa [(move.write_none other).1, Option.toList_none, List.append_nil]
  cases move with
  | @pump c _ move isOpen =>
    refine quiet (by simp) ?_
    have later : s'.Numbered k := (Move.pump (c := c) move isOpen).numbered ordered numbered
    rw [Engine.inOrder_iff later, move.stream ordered.batch, Engine.savesOf_append,
      move.records_kept registered attributed ordered adds here
        fun uuid bytes => serialized c uuid bytes rfl, ← Engine.savesOf_append]
    exact (Engine.inOrder_iff numbered).mp inOrder
  | @persister ok _ move =>
    have frame := move.frame
    have delivered : s'.delivered = s.delivered := by
      simp [Engine.delivered, frame.session, frame.pump]
    rcases move.records with ⟨idle, same⟩ | ⟨uuid, bytes, ack, executing, head⟩
    · rcases move.logs with ⟨_, none_, _⟩ | ⟨uuid, bytes, ack, executing, _⟩
      · rw [none_, Option.toList_none, List.append_nil]
        exact inOrder.congr (Engine.onItsWay_congr same delivered) (by rw [frame.pump])
      · exact absurd executing (idle uuid bytes ack)
    · have made : s.write (.persister ok) = some ⟨uuid, bytes, ok⟩ := by
        simp [Engine.write, executing]
      have onItsWay : s.onItsWay = (uuid, bytes) :: s'.onItsWay := by
        rw [Engine.records_eq, Engine.records_eq, delivered, ← List.cons_append] at head
        exact List.append_cancel_right head
      rw [Engine.InOrder, onItsWay] at inOrder
      rw [Engine.InOrder, made, frame.pump, ← inOrder]
      simp [ResumeWrite.record]
  | add call move => exact quiet (by simp) (move.inOrder registered call inOrder)
  | task _ move =>
    have frame := move.frame
    refine quiet (by simp) (inOrder.congr ?_ (by rw [frame.pump]))
    simp [Engine.onItsWay, Engine.queued, frame.queue, frame.persister, frame.pump]
  | sendSessionState =>
    refine quiet (by simp) (inOrder.congr ?_ rfl)
    simp [Engine.onItsWay, Engine.queued, PersistOp.record, List.filterMap_cons]
  | abortPump _ pc =>
    refine quiet (by simp) (inOrder.congr ?_ rfl)
    have unsent : s.pump.ops.filterMap PersistOp.record = [] :=
      List.filterMap_eq_nil_iff.mpr fun op member =>
        PersistOp.record_eq_none (by simpa using List.any_eq_false.mp kept op member)
    simp [Engine.onItsWay, Engine.queued, PumpPc.record, unsent, pc]
  | _ => exact quiet (by simp) (inOrder.congr rfl rfl)

/-! ## The writes that failed -/

/-- A record that was written, landed or is followed by one that did, unless its
torrent is marked. -/
def Engine.Covered (s : Engine) (writes : List ResumeWrite) (k : Nat) : Prop :=
  ∀ bytes ∈ Engine.savesOf k (writes.map ResumeWrite.record),
    (∃ w ∈ writes, w.uuid = k ∧ w.ok = true ∧ bytes.seq ≤ w.bytes.seq) ∨
      k ∈ s.dirty ∨ (k, bytes) ∈ s.persister.unmarked

/-- The last record written is the newest. -/
theorem Engine.InOrder.newest {older : List ResumeWrite} {w : ResumeWrite}
    (inOrder : s.InOrder (older ++ [w]) w.uuid) (numbered : s.Numbered w.uuid)
    (generated : 0 < w.bytes.seq) :
    ∀ bytes ∈ savesOf w.uuid ((older ++ [w]).map ResumeWrite.record),
      bytes.seq ≤ w.bytes.seq := by
  have ascending := numbered.ascending
  rw [stream_records, recordsOf_append, ← inOrder, savesOf_append] at ascending
  have own : savesOf w.uuid ((older ++ [w]).map ResumeWrite.record) =
      savesOf w.uuid (older.map ResumeWrite.record) ++ [w.bytes] := by
    rw [List.map_append, savesOf_append]
    refine congrArg _ ?_
    simp [savesOf, recordsOf, ResumeWrite.record, generated]
  have sorted := ascending.sublist
    ((List.sublist_append_left _ _).trans (List.sublist_append_left _ _))
  rw [own] at sorted ⊢
  intro bytes member
  rcases List.mem_append.mp member with before | same
  · exact Nat.le_of_lt ((List.pairwise_append.mp sorted).2.2 bytes before w.bytes (by simp))
  · rw [List.mem_singleton.mp same]

theorem Move.covered {a : Action} (registered : s.Registered) (marks : s.Marks writes)
    (move : Move s a s') (here : ¬ s.Left k) (numbered : s.Numbered k)
    (inOrder : s.InOrder writes k) (kept : s.losesRecord a = false)
    (covered : s.Covered writes k) : s'.Covered (writes ++ (s.write a).toList) k := by
  have stays := (move.marks registered marks.forgets).dropped k
  intro bytes member
  -- a mark that goes now is replaced by a landed write
  have unmarked : k ∈ s.dirty → bytes ∈ Engine.savesOf k (writes.map ResumeWrite.record) →
      (∃ w ∈ writes, w.uuid = k ∧ w.ok = true ∧ bytes.seq ≤ w.bytes.seq) ∨ k ∈ s'.dirty := by
    intro marked before
    by_cases still : k ∈ s'.dirty
    · exact .inr still
    rcases stays marked still with gone | ⟨ok, last, ack, rfl, wrote⟩
    · exact absurd gone.2 here
    obtain ⟨older, rfl⟩ := marks.last k last ack true wrote
    have generated : 0 < last.seq := by
      simp [Engine.losesRecord, wrote, marked] at kept
      omega
    have newest := inOrder.newest numbered generated bytes before
    exact .inl ⟨⟨k, last, true⟩, by simp, rfl, rfl, newest⟩
  by_cases own : ∃ ok, a = .persister ok
  case neg =>
    obtain ⟨none_, persister⟩ := move.write_none fun ok same => own ⟨ok, same⟩
    rw [none_, Option.toList_none, List.append_nil] at member ⊢
    rw [persister]
    rcases covered bytes member with landed | marked | failed
    · exact .inl landed
    · exact (unmarked marked member).imp_right .inl
    · exact .inr (.inr failed)
  obtain ⟨ok, rfl⟩ := own
  cases move with
  | persister move =>
  rcases move.logs with ⟨idle, none_, _⟩ | ⟨uuid, made, ack, pc, logged, wrote, dirty⟩
  · rw [none_, Option.toList_none, List.append_nil] at member ⊢
    rcases covered bytes member with landed | marked | failed
    · exact .inl landed
    · exact (unmarked marked member).imp_right .inl
    · cases move with
      | mark pc =>
        simp only [PersisterPc.unmarked, pc, List.mem_singleton, Prod.mk.injEq] at failed
        exact .inr (.inl (failed.1 ▸ Finset.mem_insert_self _ _))
      | _ pc => simp [PersisterPc.unmarked, pc] at failed
  · rw [logged, Option.toList_some] at member ⊢
    rw [List.map_append, Engine.savesOf_append] at member
    rw [dirty, wrote]
    rcases List.mem_append.mp member with before | now
    · rcases covered bytes before with ⟨w, old, own⟩ | marked | failed
      · exact .inl ⟨w, List.mem_append_left _ old, own⟩
      · exact .inr (.inl marked)
      · simp [PersisterPc.unmarked, pc] at failed
    · have same := Engine.mem_recordsOf.mp (List.mem_of_mem_filter now)
      simp only [List.map_cons, List.map_nil, List.mem_singleton, ResumeWrite.record,
        Prod.mk.injEq] at same
      obtain ⟨rfl, rfl⟩ := same
      cases ok with
      | true =>
        exact .inl ⟨_, List.mem_append_right _ (List.mem_singleton_self _), rfl, rfl, Nat.le_refl _⟩
      | false => exact .inr (.inr (List.mem_singleton_self _))

/-! ## Runs -/

namespace Engine

/-- Every record that the pump has handled is kept, and a step drops the mark of
a torrent that has not left only when a write has landed after one that failed. -/
def RecordsKept (s : Engine) (writes : List ResumeWrite) : Prop :=
  (∀ k bytes, .saveResumeData k bytes ∈ s.pump.handled → s.Kept writes k bytes) ∧
    ∀ a s' u, s.step a = some s' → u ∈ s.dirty → u ∉ s'.dirty →
      s.Left u ∨ ∃ older bytes, writes = older ++ [⟨u, bytes, true⟩] ∧
        ∃ w ∈ older, w.uuid = u ∧ w.ok = false

theorem RegistersAdded.added (registers : s.RegistersAdded) (known : s.Known k) :
    k < s.adds.length :=
  known.elim And.left fun found => (registers k found).1

/-- There is nothing to account for before a torrent is added. -/
theorem inOrder_new (ordered : s.AlertsOrdered) (registers : s.RegistersAdded)
    (unrecorded : s.Unrecorded) (marks : s.Marks writes) (late : s.adds.length ≤ k) :
    s.InOrder writes k ∧ savesOf k (writes.map ResumeWrite.record) = [] := by
  have unwritten : savesOf k (writes.map ResumeWrite.record) = [] := by
    refine List.filter_eq_nil_iff.mpr fun bytes member => ?_
    obtain ⟨w, logged, same⟩ := List.mem_map.mp (mem_recordsOf.mp member)
    have added := registers.added (marks.writes w logged)
    have own : w.uuid = k := congrArg Prod.fst same
    rw [own] at added
    exact absurd added (Nat.not_lt.mpr late)
  have still : savesOf k s.onItsWay = [] := by
    refine List.filter_eq_nil_iff.mpr fun bytes member => ?_
    have absent := (unrecorded k late).2 bytes
    rw [records_eq] at absent
    exact absurd (List.mem_append_left _ (mem_recordsOf.mp member)) absent
  have unhandled : recordsOf k (s.pump.handled.filterMap Alert.record) = [] := by
    refine recordsOf_eq_nil fun bytes member => ?_
    obtain ⟨alert, handled, carries⟩ := List.mem_filterMap.mp member
    rw [Alert.record_eq carries] at handled
    have posted := handled_stream handled
    have added := ordered.known ((ordered.session.torrents k).decided _ posted rfl)
    omega
  refine ⟨?_, unwritten⟩
  rw [InOrder, savesOf_append, unwritten, still, unhandled]
  rfl

end Engine

theorem inOrder_run {restored : Nat}
    (run : LoggedRun (fun s a => s.losesRecord a = false) restored (s, writes)) :
    ∀ k, k < s.adds.length → ¬ s.Left k → s.InOrder writes k ∧ s.Covered writes k := by
  refine run.invariant (I := fun t => ∀ k, k < t.1.adds.length → ¬ t.1.Left k →
    t.1.InOrder t.2 k ∧ t.1.Covered t.2 k) (fun k _ _ => ⟨?_, fun _ member => ?_⟩) ?_
  · simp [Engine.InOrder, Engine.onItsWay, Engine.savesOf, Engine.recordsOf, Engine.start,
      Engine.queued, PersisterPc.executing, PumpPc.record, Alert.record]
  · cases member
  rintro ⟨t, log⟩ a ⟨u, later⟩ reached before kept stepped k added here
  obtain ⟨engine, same⟩ := logged_eq_some.mp stepped
  change later = log ++ (t.write a).toList at same
  subst same
  change LoggedRun (fun s a => s.losesRecord a = false) restored (t, log) at reached
  have past := reached.engine
  have registered := registered_run past
  have ordered := ordered_run past
  have marks := marks_run reached
  have move := (step_move engine).2
  by_cases old : k < t.adds.length
  · have was : ¬ t.Left k := fun left => here (move.left registered ordered old left)
    obtain ⟨inOrder, covered⟩ := before k old was
    have numbered := numbered_run past k
    refine ⟨move.inOrder registered ordered (attributed_run past) (addedKnown_run past) was
      numbered ?_ kept inOrder, move.covered registered marks was numbered inOrder kept covered⟩
    rintro c uuid bytes rfl pc
    exact serialized_records pc kept engine
  · obtain ⟨inOrder, unwritten⟩ := Engine.inOrder_new ordered (registersAdded_run past)
      (unrecorded_run past) marks (Nat.le_of_not_lt old)
    cases move with
    | @startAdd accepted =>
      have none_ : log ++ (t.write (.startAdd accepted)).toList = log := List.append_nil log
      rw [none_]
      refine ⟨inOrder.congr rfl rfl, fun bytes member => ?_⟩
      rw [unwritten] at member
      cases member
    | pump move => exact absurd (move.frame.adds ▸ added) old
    | persister move => exact absurd (move.frame.adds ▸ added) old
    | task _ move => exact absurd (move.frame.adds ▸ added) old
    | add _ move =>
      obtain ⟨next, adds⟩ := move.frame.call
      rw [adds, List.length_set] at added
      exact absurd added old
    | dropAdd => exact absurd (by simpa using added) old
    | _ => exact absurd added old

/-- No record is lost in a run in which the pump serializes every record and sends
it, and no initial record lands while its torrent is marked. -/
theorem record_kept {restored : Nat}
    (run : LoggedRun (fun s a => s.losesRecord a = false) restored (s, writes)) :
    s.RecordsKept writes := by
  refine ⟨fun k bytes handled => ?_, fun _ _ _ => mark_dropped run⟩
  by_cases left : s.Left k
  · exact .left left
  have ordered := ordered_run run.engine
  have posted := Engine.handled_stream handled
  have added := ordered.known ((ordered.session.torrents k).decided _ posted rfl)
  obtain ⟨inOrder, covered⟩ := inOrder_run run k added left
  have member : bytes ∈ Engine.recordsOf k (s.pump.handled.filterMap Alert.record) :=
    Engine.mem_recordsOf.mpr (List.mem_filterMap.mpr ⟨_, handled, rfl⟩)
  rw [← inOrder, Engine.savesOf_append] at member
  rcases List.mem_append.mp member with written | on
  · rcases covered bytes written with ⟨w, logged, own, landed, later⟩ | marked | failed
    · exact .written w logged own landed later
    · exact .marked marked
    · exact .held (List.mem_append_left _ failed)
  · exact .held (List.mem_append_right _
      (Engine.mem_recordsOf.mp (List.mem_of_mem_filter on)))

theorem Engine.kept_iff {bytes : ResumeData} :
    s.Kept writes k bytes ↔
      (∃ w ∈ writes, w.uuid = k ∧ w.ok = true ∧ bytes.seq ≤ w.bytes.seq) ∨
        (k, bytes) ∈ s.persister.unmarked ++ s.onItsWay ∨ k ∈ s.dirty ∨ s.Left k := by
  constructor
  · rintro (⟨w, logged, own, landed, later⟩ | on | marked | left)
    · exact .inl ⟨w, logged, own, landed, later⟩
    · exact .inr (.inl on)
    · exact .inr (.inr (.inl marked))
    · exact .inr (.inr (.inr left))
  · rintro (⟨w, logged, own, landed, later⟩ | on | marked | left)
    · exact .written w logged own landed later
    · exact .held on
    · exact .marked marked
    · exact .left left

instance : Decidable (s.Left k) :=
  inferInstanceAs (Decidable (¬ (_ ∨ _) ∨ _))

instance {bytes : ResumeData} : Decidable (s.Kept writes k bytes) :=
  decidable_of_iff _ Engine.kept_iff.symm

/-- The steps up to a record of torrent `0` that the pump is about to serialize. -/
def finishedRecord : List Action :=
  [[.session (.mutate 0), .session (.emit .torrentFinished 0), .pump .batch],
    List.replicate 13 (.pump .next), [.session (.answer 0 true), .pump .batch],
    List.replicate 6 (.pump .next)].flatten

/-- A record whose write fails leaves a mark. -/
theorem record_kept_failed_write :
    ∃ s writes, LoggedRun (fun s a => s.losesRecord a = false) 1 (s, writes) ∧
      s.RecordsKept writes ∧ .saveResumeData 0 ⟨1, 1⟩ ∈ s.pump.handled ∧ 0 ∈ s.dirty := by
  have replayed : (exec (logged Engine.step Engine.write) (fun s a => !s.1.losesRecord a)
      (.start 1, []) (finishedRecord ++ List.replicate 4 (.pump .next) ++
        List.replicate 6 (.persister false))).map (fun t =>
      decide (.saveResumeData 0 ⟨1, 1⟩ ∈ t.1.pump.handled) && decide (0 ∈ t.1.dirty)) =
        some true := by decide +kernel
  obtain ⟨⟨s, writes⟩, run, reached⟩ := exists_run_of_exec replayed
  simp only [Bool.and_eq_true, decide_eq_true_eq] at reached
  have kept : LoggedRun (fun s a => s.losesRecord a = false) 1 (s, writes) := run.mono (by simp)
  exact ⟨s, writes, kept, record_kept kept, reached⟩

/-- A record is lost when its serialization fails, and also where every
serialization succeeds: to an initial record that lands after it has failed. -/
theorem record_lost :
    (¬ ∀ restored s writes, LoggedRun (fun _ _ => True) restored (s, writes) →
      s.RecordsKept writes) ∧
    ¬ ∀ restored s writes,
      LoggedRun (fun s a => ∀ c, a = .pump c → s.failsWrite a = false) restored (s, writes) →
        s.RecordsKept writes := by
  constructor
  · intro claim
    have replayed : (exec (logged Engine.step Engine.write) (fun _ _ => true) (.start 1, [])
        (finishedRecord ++ [.pump .fail])).map (fun t =>
        decide (.saveResumeData 0 ⟨1, 1⟩ ∈ t.1.pump.handled) &&
          decide (¬ t.1.Kept t.2 0 ⟨1, 1⟩)) = some true := by decide +kernel
    obtain ⟨⟨s, writes⟩, run, reached⟩ := exists_run_of_exec replayed
    simp only [Bool.and_eq_true, decide_eq_true_eq] at reached
    exact reached.2 ((claim 1 s writes (run.mono (by simp))).1 0 _ reached.1)
  · intro claim
    have replayed : (exec (logged Engine.step Engine.write) (fun s a =>
          !(match a with | .pump _ => s.1.failsWrite a | _ => false)) (.start 0, [])
        ([[.startAdd true, .session (.attach 0 true), .pump .batch],
          List.replicate 8 (.pump .next), finishedRecord, List.replicate 4 (.pump .next),
          List.replicate 6 (.persister false), List.replicate 7 (.add 0 true),
          List.replicate 3 (.persister true)].flatten)).map (fun t =>
        decide (.saveResumeData 0 ⟨1, 1⟩ ∈ t.1.pump.handled) &&
          decide (¬ t.1.Kept t.2 0 ⟨1, 1⟩)) = some true := by decide +kernel
    obtain ⟨⟨s, writes⟩, run, reached⟩ := exists_run_of_exec replayed
    simp only [Bool.and_eq_true, decide_eq_true_eq] at reached
    refine reached.2 ((claim 0 s writes (run.mono ?_)).1 0 _ reached.1)
    rintro t _ allowed c rfl
    simpa using allowed

end Rsbtd
