import Rsbtd.Verified.Records

/-!
# Explicit saves

`Engine::save_resume_data` returns on the first `ResumeDataSaved` event of its
torrent.  The event carries the uuid only, so the call gets what it asked for
only if no record older than its post can still be announced: `Engine.Fresh` is
that invariant of a waiting call.
-/

namespace Rsbtd

open Transition

variable {s s' : Engine}

/-! ## The steps that spoil an explicit save -/

/-- The persister has written a record of torrent `k` that it has not announced yet. -/
def PersisterPc.announcing (k : Nat) : PersisterPc → Bool
  | .wrote uuid _ _ ok | .marked uuid _ _ ok => ok && uuid == k
  | _ => false

/-- An explicit save of torrent `k` awaits its event. -/
def Task.saving (k : Nat) : Task → Bool
  | .saveWait torrent _ _ => torrent == k
  | _ => false

namespace Engine

/-- A write of torrent `k` is or will be announced to a subscription at `cursor`. -/
def Announces (s : Engine) (k cursor : Nat) : Prop :=
  ⟨some k, .resumeDataSaved⟩ ∈ s.events.drop cursor ∨ s.persister.announcing k = true

instance (s : Engine) (k cursor : Nat) : Decidable (s.Announces k cursor) :=
  inferInstanceAs (Decidable (_ ∨ _))

/-- A record of torrent `k` that is older than `state` is on its way to the file. -/
def behind (s : Engine) (k state : Nat) : Bool :=
  s.records.any (fun saved => saved.1 == k && decide (saved.2.state < state)) ||
    s.initialPending k && decide (initialRecord.state < state)

/-- The resume file of torrent `k` was generated in `state` or later. -/
def StoredSince (s : Engine) (k state : Nat) : Prop :=
  ∃ bytes, s.disk k = some bytes ∧ state ≤ bytes.state

/-- The resume file of torrent `k` is older than `state`. -/
def storedBefore (s : Engine) (k state : Nat) : Bool :=
  !(s.disk k).any fun bytes => decide (state ≤ bytes.state)

/-- An explicit save is posted while an older record of its torrent is on its
way, or is announced without the call being able to tell. -/
def postsBehind (s : Engine) : Action → Bool
  | .task i _ =>
    match s.tasks[i]? with
    | some (.savePost k cursor) =>
      s.behind k (s.session.torrents k).state ||
        decide (s.Announces k cursor) && s.storedBefore k (s.session.torrents k).state
    | _ => false
  | _ => false

/-- A resume file is deleted while an explicit save of its torrent waits. -/
def deletesAwaited (s : Engine) : Action → Bool
  | .persister true =>
    match s.persister with
    | .execute (.deleteResume uuid) => s.tasks.any (Task.saving uuid)
    | _ => false
  | _ => false

def spoilsSave (s : Engine) (a : Action) : Bool := s.postsBehind a || s.deletesAwaited a

end Engine

/-! ## Who publishes `ResumeDataSaved` -/

/-- The event the pump is going to publish. -/
def PumpPc.event : PumpPc → Option Event
  | .saveDrop event => event
  | .requestSave _ event | .requestFind _ event | .requestLookup _ event | .requestInc _ event
  | .requestPost _ event | .requestUndo event | .publish event => some event
  | _ => none

/-- The pump leaves the announcement of writes to the persister. -/
def PumpPc.Unannounced (pc : PumpPc) : Prop :=
  ∀ event, pc.event = some event → event.kind ≠ .resumeDataSaved

theorem afterTorrentOf_unannounced (alert : Alert) (torrent : Option Uuid) :
    (afterTorrentOf alert torrent).Unannounced := by
  intro event pending
  cases alert with
  | trigger kind k =>
    cases kind <;> cases torrent <;> simp [afterTorrentOf, PumpPc.event] at pending <;>
      simp [← pending]
  | saveResumeData k bytes => cases torrent <;> cases pending
  | saveResumeDataFailed k => simp [afterTorrentOf, PumpPc.event] at pending; simp [← pending]
  | addTorrent | torrentRemoved => cases pending

theorem PumpMove.unannounced (move : PumpMove s s') (before : s.pump.pc.Unannounced) :
    s'.pump.pc.Unannounced := by
  cases move with
  | ofExpired | ofRegistered | ofData => exact afterTorrentOf_unannounced _ _
  | removedUnknown | upsert | pushDelete | metadataKnown | notSerialized =>
    rintro _ ⟨⟩
    simp
  | send pc => exact before
  | droppedLoud pc | requestQuiesced pc | requestSave pc | requestKnown pc | requestUnknown pc
  | requestLive pc | requestGone pc | requestInc pc | requestPosted pc | requestRefused pc
  | requestUndo pc =>
    rintro _ ⟨⟩
    exact before _ (by rw [pc]; rfl)
  | _ => rintro _ ⟨⟩

theorem unannounced_run {ok : Engine → Action → Prop} {restored : Nat}
    (run : EngineRun ok restored s) : s.pump.pc.Unannounced := by
  refine run.invariant (I := fun s => s.pump.pc.Unannounced) (by rintro _ ⟨⟩)
    fun _ _ _ _ before _ stepped => ?_
  cases (step_move stepped).2 with
  | pump move => exact move.unannounced before
  | persister move => rw [move.frame.pump]; exact before
  | add _ move => rw [move.frame.pump]; exact before
  | task _ move => rw [move.frame.pump]; exact before
  | abortPump => exact nofun
  | _ => exact before

theorem PumpMove.events (move : PumpMove s s') :
    s'.events = s.events ∨ ∃ event, s.pump.pc = .publish event ∧ s'.events = s.events ++ [event] := by
  cases move with
  | publish pc => exact .inr ⟨_, pc, rfl⟩
  | _ => exact .inl (by simp)

/-! ## The invariant of a waiting call -/

/-- An explicit save of torrent `k`, posted in state `posted`, that has seen the
events before `cursor`. -/
structure Engine.Fresh (s : Engine) (k posted cursor : Nat) : Prop where
  state : posted ≤ (s.session.torrents k).state
  records : ∀ bytes, (k, bytes) ∈ s.records → posted ≤ bytes.state
  initial : s.initialPending k = true → posted ≤ initialRecord.state
  announced : s.Announces k cursor → s.StoredSince k posted

namespace Engine.Fresh

variable {k posted cursor : Nat}

/-- A step that neither writes nor announces anything. -/
theorem mono (fresh : s.Fresh k posted cursor)
    (state : (s.session.torrents k).state ≤ (s'.session.torrents k).state)
    (records : ∀ bytes, (k, bytes) ∈ s'.records → (k, bytes) ∈ s.records ∨ posted ≤ bytes.state)
    (initial : s'.initialPending k = true → s.initialPending k = true ∨ posted ≤ initialRecord.state)
    (announced : s'.Announces k cursor → s.Announces k cursor) (disk : s'.disk = s.disk) :
    s'.Fresh k posted cursor where
  state := fresh.state.trans state
  records bytes member := (records bytes member).elim (fresh.records bytes) id
  initial pending := (initial pending).elim fresh.initial id
  announced now := by
    rw [StoredSince, disk]
    exact fresh.announced (announced now)

theorem later {cursor' : Nat} (fresh : s.Fresh k posted cursor) (forward : cursor ≤ cursor') :
    s.Fresh k posted cursor' where
  state := fresh.state
  records := fresh.records
  initial := fresh.initial
  announced now := fresh.announced (now.imp_left fun member => by
    obtain ⟨steps, rfl⟩ := Nat.exists_eq_add_of_le forward
    rw [← List.drop_drop] at member
    exact List.mem_of_mem_drop member)

end Engine.Fresh

namespace Engine.Fresh

variable {k posted cursor : Nat}

theorem pump (fresh : s.Fresh k posted cursor) (registered : s.Registered)
    (attributed : s.pump.Attributed) (done : s.pump.BatchDone)
    (unannounced : s.pump.pc.Unannounced) (move : PumpMove s s') : s'.Fresh k posted cursor := by
  have frame := move.frame
  refine fresh.mono (Nat.le_of_eq (move.torrent k).2.1.symm) (fun bytes member => .inl ?_)
    (fun pending => .inl ?_) (fun now => ?_) frame.disk
  · cases move.records registered attributed done with
    | kept same => exact same ▸ member
    | dropped j other before after _ _ was now =>
      rw [now] at member
      rw [was]
      exact List.mem_append.mpr ((List.mem_append.mp member).imp_right (List.mem_cons_of_mem _))
  · rwa [initialPending, frame.adds] at pending
  · rw [Announces, frame.persister] at now
    refine now.imp_left fun member => ?_
    rcases move.events with same | ⟨event, pc, appended⟩
    · rwa [same] at member
    · rw [appended, List.drop_append] at member
      refine (List.mem_append.mp member).resolve_right fun last => ?_
      have same := List.mem_singleton.mp (List.mem_of_mem_drop last)
      exact unannounced event (by rw [pc]; rfl) (by rw [← same])

theorem persister {ok : Bool} (fresh : s.Fresh k posted cursor) (move : PersisterMove s ok s')
    (kept : ok = true → s.persister ≠ .execute (.deleteResume k)) : s'.Fresh k posted cursor := by
  obtain ⟨session, adds, _, _, _, _⟩ := move.frame
  have records : ∀ bytes, (k, bytes) ∈ s'.records → (k, bytes) ∈ s.records := by
    intro bytes member
    rcases move.records with ⟨_, same⟩ | ⟨_, _, _, _, was⟩
    · exact same ▸ member
    · rw [was]; exact List.mem_cons_of_mem _ member
  suffices announced : s'.Announces k cursor → s'.StoredSince k posted by
    refine ⟨session ▸ fresh.state, fun bytes member => fresh.records bytes (records bytes member),
      fun pending => fresh.initial ?_, announced⟩
    rwa [initialPending, adds] at pending
  intro now
  have announced := fresh.announced
  cases move with
  | @write uuid bytes ack pc =>
    by_cases own : uuid = k
    · subst own
      refine ⟨bytes, by simp, fresh.records bytes ?_⟩
      simp [Engine.records, queued, PersisterPc.executing, PersistOp.record, pc]
    · have before : s.Announces k cursor :=
        .inl (by simpa [Announces, PersisterPc.announcing, own] using now)
      obtain ⟨stored, found, since⟩ := announced before
      exact ⟨stored, by simpa [Ne.symm own] using found, since⟩
  | @delete uuid pc =>
    have other : k ≠ uuid := fun same => kept rfl (same ▸ pc)
    have before : s.Announces k cursor :=
      .inl (by simpa [Announces, PersisterPc.announcing] using now)
    obtain ⟨stored, found, since⟩ := announced before
    exact ⟨stored, by simpa [other] using found, since⟩
  | @publishSaved uuid bytes ack ok pc =>
    refine announced ?_
    rcases now with member | announcing
    · simp only [Engine.publish, List.drop_append] at member
      rcases List.mem_append.mp member with before | last
      · exact .inl before
      · have same := List.mem_singleton.mp (List.mem_of_mem_drop last)
        simp only [Event.mk.injEq, Option.some.injEq, and_true] at same
        exact .inr (by simp [PersisterPc.announcing, pc, same])
    · cases announcing
  | @publishFailed uuid bytes ack ok pc =>
    refine announced ?_
    rcases now with member | announcing
    · simp only [Engine.publish, List.drop_append] at member
      rcases List.mem_append.mp member with before | last
      · exact .inl before
      · cases List.mem_singleton.mp (List.mem_of_mem_drop last)
    · cases announcing
  | receive pc | writeFails pc | deleteFails pc | sessionState pc | unmark pc | mark pc
  | unheard pc | acknowledge pc =>
    exact announced (by simpa [Announces, PersisterPc.announcing, pc] using now)
  | dec pc =>
    have := announced (by simpa [Announces, PersisterPc.announcing, pc] using now)
    simpa [StoredSince] using this

end Engine.Fresh

/-- A posted save has nothing older than its post to come. -/
theorem Engine.fresh_of_post {i k cursor : Nat} {c : TaskChoice}
    (call : s.tasks[i]? = some (.savePost k cursor))
    (kept : s.postsBehind (.task i c) = false) :
    s.Fresh k (s.session.torrents k).state cursor := by
  simp only [postsBehind, call, behind, storedBefore, Bool.or_eq_false_iff, List.any_eq_false,
    Bool.and_eq_false_iff, Bool.and_eq_true, beq_iff_eq, decide_eq_true_eq, not_and, not_lt,
    decide_eq_false_iff_not, Bool.not_eq_eq_eq_not, Bool.not_false, Option.any_eq_true] at kept
  obtain ⟨⟨records, initial⟩, announced⟩ := kept
  refine ⟨Nat.le_refl _, fun bytes member => records (k, bytes) member rfl, fun pending => ?_,
    fun now => announced.resolve_left (not_not_intro now)⟩
  exact initial.resolve_left (by simp [pending])

/-- A step of the engine keeps the invariant of a call that waits. -/
theorem Move.fresh {a : Action} {k posted cursor : Nat} (registered : s.Registered)
    (attributed : s.pump.Attributed) (ordered : s.AlertsOrdered)
    (unannounced : s.pump.pc.Unannounced) (move : Move s a s')
    (kept : a = .persister true → s.persister ≠ .execute (.deleteResume k))
    (fresh : s.Fresh k posted cursor) : s'.Fresh k posted cursor := by
  have still : ∀ {t : Engine}, (s.session.torrents k).state ≤ (t.session.torrents k).state →
      t.records = s.records → t.adds = s.adds → t.events = s.events →
      t.persister = s.persister → t.disk = s.disk → t.Fresh k posted cursor :=
    fun state records adds events persister disk =>
      fresh.mono state (fun _ member => .inl (records ▸ member))
        (fun pending => .inl (by rwa [Engine.initialPending, adds] at pending))
        (fun now => by rwa [Engine.Announces, events, persister] at now) disk
  cases move with
  | pump move => exact fresh.pump registered attributed ordered.batch unannounced move
  | persister move => exact fresh.persister move fun done => kept (by rw [done])
  | @add j ok pc _ call move =>
    have frame := move.frame
    refine fresh.mono (Nat.le_of_eq ?_) (fun bytes member => ?_)
      (fun pending => .inl (move.initialPending call pending)) (fun now => ?_) frame.disk
    · rcases frame.session with same | ⟨torrent, same⟩ <;> simp [same]
    · rcases move.records registered call with same | ⟨sends, _, inserted⟩
      · exact .inl (same ▸ member)
      · rw [inserted] at member
        rcases List.mem_append.mp member with before | rest
        · exact .inl (by simp [Engine.records, before])
        · rcases List.mem_cons.mp rest with same | after
          · obtain ⟨rfl, rfl⟩ := Prod.mk.inj same
            exact .inr (fresh.initial (by simp [Engine.initialPending, call, sends, AddPc.willWrite]))
          · exact .inl (by rw [Engine.records, List.filterMap_append, List.append_assoc]
                           exact List.mem_append_right _ after)
    · rwa [Engine.Announces, frame.events, frame.persister] at now
  | task call move =>
    have frame := move.frame
    refine still (Nat.le_of_eq ?_) move.records frame.adds frame.events frame.persister frame.disk
    rcases frame.session with same | ⟨torrent, same⟩ | ⟨torrent, same⟩ <;> simp [same]
  | session move =>
    refine fresh.mono (move.state k) (fun bytes member => ?_) .inl id rfl
    rcases move.records with ⟨same, _⟩ | ⟨j, _, generated, _, same⟩ <;> rw [same] at member
    · exact .inl member
    · rcases List.mem_append.mp member with before | last
      · exact .inl before
      · obtain ⟨rfl, rfl⟩ := Prod.mk.inj (List.mem_singleton.mp last)
        rw [generated]
        exact .inr fresh.state
  | @startAdd accepted =>
    have vacant : k = s.session.next → posted ≤ 0 := fun same => by
      have unused := ordered.session.fresh k (by omega)
      simpa [unused, Torrent.absent] using fresh.state
    refine fresh.mono ?_ (fun _ => .inl) (fun pending => ?_) id rfl
    · by_cases same : k = s.session.next
      · simp [ordered.session.fresh k (by omega), Torrent.absent]
      · simp [Session.addTorrent, same]
    · by_cases same : k = s.session.next
      · exact .inr (vacant same)
      · refine .inl ?_
        rw [← ordered.adds] at same
        have other : (s.adds ++ [if accepted then .awaitAdd else .done .refused])[k]? =
            s.adds[k]? := by
          rcases Nat.lt_or_gt_of_ne same with old | late
          · exact List.getElem?_append_left old
          · rw [List.getElem?_eq_none (by simp; omega), List.getElem?_eq_none (by omega)]
        exact (congrArg (Option.any AddPc.willWrite) other).symm.trans pending
  | @dropAdd j pc call =>
    refine fresh.mono (Nat.le_refl _) (fun _ => .inl) (fun pending => .inl ?_) id rfl
    by_cases same : k = j
    · subst same
      simp [Engine.initialPending, get_set_self call, AddPc.willWrite] at pending
    · simpa [Engine.initialPending, List.getElem?_set_ne (Ne.symm same)] using pending
  | abortPump =>
    exact fresh.mono (Nat.le_refl _) (fun _ member => .inl (s.abortPump_records.subset member))
      .inl id rfl
  | sendSessionState =>
    refine still (Nat.le_refl _) ?_ rfl rfl rfl rfl
    simp [Engine.records, Engine.queued, Engine.delivered, PersistOp.record, List.filterMap_cons]
  | close =>
    refine still (Nat.le_of_eq ?_) rfl rfl rfl rfl rfl
    simp only [Session.close]
    split <;> rfl
  | notify | startTask | quiesce | takeSession | takePersist | dropTask =>
    exact still (Nat.le_refl _) rfl rfl rfl rfl rfl

/-- A call that waits after the step waited before it, or has just posted. -/
theorem Move.saving {a : Action} (move : Move s a s') {i k posted cursor : Nat}
    (waits : s'.tasks[i]? = some (.saveWait k posted cursor)) :
    (∃ before, before ≤ cursor ∧ s.tasks[i]? = some (.saveWait k posted before)) ∨
      s.tasks[i]? = some (.savePost k cursor) ∧ posted = (s.session.torrents k).state ∧
        ∃ c, a = .task i c := by
  have waited : s'.tasks = s.tasks →
      ∃ before, before ≤ cursor ∧ s.tasks[i]? = some (.saveWait k posted before) :=
    fun tasks => ⟨cursor, Nat.le_refl _, tasks ▸ waits⟩
  cases move with
  | pump move => exact .inl (waited move.frame.tasks)
  | persister move => exact .inl (waited move.frame.tasks)
  | add _ move => exact .inl (waited move.frame.tasks)
  | @task j c task _ call move =>
    obtain ⟨next, tasks⟩ := move.frame.call
    rcases get_set (tasks ▸ waits) with ⟨rfl, now⟩ | ⟨_, old⟩
    · have here : s'.tasks[i]? = some (.saveWait k posted cursor) := waits
      cases move with
      | savePosted accepted =>
        simp [get_set_self call] at here
        obtain ⟨rfl, rfl, rfl⟩ := here
        exact .inr ⟨call, rfl, c, rfl⟩
      | saveSkip forward =>
        simp [get_set_self call] at here
        obtain ⟨rfl, rfl, rfl⟩ := here
        exact .inl ⟨_, forward, call⟩
      | @flushEnd final => cases final <;> simp [get_set_self call, afterFlush] at here
      | _ => simp [get_set_self call] at here
    · exact .inl ⟨cursor, Nat.le_refl _, old⟩
  | @startTask task initial =>
    rcases get_append waits with old | ⟨_, same⟩
    · exact .inl ⟨cursor, Nat.le_refl _, old⟩
    · subst same; cases initial
  | @dropTask j task call =>
    rcases get_set waits with ⟨_, now⟩ | ⟨_, old⟩
    · cases now
    · exact .inl ⟨cursor, Nat.le_refl _, old⟩
  | session | notify | startAdd | sendSessionState | quiesce | takeSession | takePersist | abortPump
  | close | dropAdd => exact .inl (waited rfl)

theorem fresh_run {restored : Nat}
    (run : EngineRun (fun s a => s.spoilsSave a = false) restored s) {i k posted cursor : Nat}
    (waits : s.tasks[i]? = some (.saveWait k posted cursor)) : s.Fresh k posted cursor := by
  refine run.invariant (I := fun s => ∀ i k posted cursor,
    s.tasks[i]? = some (.saveWait k posted cursor) → s.Fresh k posted cursor) ?_
    (fun t a u reached before kept stepped i k posted cursor waits => ?_) i k posted cursor waits
  · intro i k posted cursor waits
    simp [Engine.start] at waits
  · have move := (step_move stepped).2
    simp only [Engine.spoilsSave, Bool.or_eq_false_iff] at kept
    obtain ⟨posts, deletes⟩ := kept
    have keeps : ∀ cursor, t.Fresh k posted cursor →
        (a = .persister true → t.persister ≠ .execute (.deleteResume k)) →
        u.Fresh k posted cursor := fun cursor fresh kept =>
      move.fresh (registered_run reached) (attributed_run reached) (ordered_run reached)
        (unannounced_run reached) kept fresh
    rcases move.saving waits with ⟨old, forward, waited⟩ | ⟨posting, rfl, c, rfl⟩
    · refine (keeps old (before i k posted old waited) ?_).later forward
      rintro rfl deleting
      simp only [Engine.deletesAwaited, deleting, List.any_eq_false] at deletes
      exact deletes _ (List.mem_of_getElem? waited) (by simp [Task.saving])
    · exact keeps cursor (Engine.fresh_of_post posting posts) (by simp)

/-! ## An explicit save that returns -/

/-- When an explicit save returns `Ok`, the resume file was generated from the
torrent's state at its post or from a later one. -/
theorem save_returns_fresh {restored : Nat}
    (run : EngineRun (fun s a => s.spoilsSave a = false) restored s) {i k posted cursor : Nat}
    {c : TaskChoice} (waits : s.tasks[i]? = some (.saveWait k posted cursor))
    (stepped : s.step (.task i c) = some s') (returned : s'.tasks[i]? = some (.saveDone .ok)) :
    s'.StoredSince k posted := by
  have fresh := fresh_run run waits
  cases (step_move stepped).2 with
  | task call move =>
    obtain rfl := Option.some.inj (call.symm.trans waits)
    have disk := move.frame.disk
    cases move with
    | @saveMatched _ _ _ event result next matched =>
      simp [get_set_self call] at returned
      subst returned
      refine fresh.announced (.inl ?_)
      obtain ⟨torrent, kind⟩ := event
      simp only [saveMatcher] at matched
      split at matched
      case isFalse => cases matched
      case isTrue own =>
        obtain rfl : torrent = some k := own
        cases kind <;> simp at matched
        exact List.mem_iff_getElem?.mpr ⟨0, by rw [List.getElem?_drop]; exact next⟩
    | _ => simp [get_set_self call] at returned

/-- The torrent changes, its save is posted, answered and written. -/
theorem save_returns_fresh_after_change :
    ∃ s s' : Engine, EngineRun (fun s a => s.spoilsSave a = false) 1 s ∧
      s.step (.task 0 .next) = some s' ∧ s'.tasks[0]? = some (.saveDone .ok) ∧
      s'.StoredSince 0 1 := by
  have replayed : (exec Engine.step (fun s a => !s.spoilsSave a) (.start 1)
      [[.session (.mutate 0), .startTask (.saveFind 0)], List.replicate 5 (.task 0 .next),
        [.session (.answer 0 true), .pump .batch], List.replicate 10 (.pump .next),
        List.replicate 6 (.persister true)].flatten).map
      (fun s => decide (s.tasks[0]? = some (.saveWait 0 1 0)) &&
        (s.step (.task 0 .next)).any fun s' => decide (s'.tasks[0]? = some (.saveDone .ok))) =
      some true := by decide +kernel
  obtain ⟨s, run, reached⟩ := exists_run_of_exec replayed
  simp only [Bool.and_eq_true, Option.any_eq_true, decide_eq_true_eq] at reached
  obtain ⟨waits, s', stepped, returned⟩ := reached
  have kept : EngineRun (fun s a => s.spoilsSave a = false) 1 s := run.mono (by simp)
  exact ⟨s, s', kept, stepped, returned, save_returns_fresh kept waits stepped returned⟩

/-- The record of an earlier save is still in an alert when the torrent changes
and the call posts its own: the call returns on the write of the older record. -/
theorem earlier_save_answers :
    ¬ ∀ s s' i k posted cursor c, EngineRun (fun _ _ => True) 1 s →
      s.tasks[i]? = some (.saveWait k posted cursor) → s.step (.task i c) = some s' →
      s'.tasks[i]? = some (.saveDone .ok) → s'.StoredSince k posted := by
  intro claim
  have replayed : (exec Engine.step (fun _ _ => true) (.start 1)
      [[.session (.emit .torrentFinished 0), .pump .batch], List.replicate 13 (.pump .next),
        [.session (.answer 0 true), .session (.mutate 0), .startTask (.saveFind 0)],
        List.replicate 5 (.task 0 .next), [.pump .batch], List.replicate 10 (.pump .next),
        List.replicate 6 (.persister true)].flatten).map
      (fun s => decide (s.tasks[0]? = some (.saveWait 0 1 1)) &&
        (s.step (.task 0 .next)).any fun s' => decide (s'.tasks[0]? = some (.saveDone .ok)) &&
          s'.storedBefore 0 1) = some true := by decide +kernel
  obtain ⟨s, run, reached⟩ := exists_run_of_exec replayed
  simp only [Bool.and_eq_true, Option.any_eq_true, decide_eq_true_eq] at reached
  obtain ⟨waits, s', stepped, returned, older⟩ := reached
  obtain ⟨bytes, found, since⟩ :=
    claim s s' 0 0 1 1 .next (run.mono fun _ _ _ => trivial) waits stepped returned
  simp [Engine.storedBefore, found] at older
  omega

end Rsbtd
