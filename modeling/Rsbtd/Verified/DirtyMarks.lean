import Rsbtd.Transition.Logged
import Rsbtd.Verified.KnownTorrents

/-!
# Dirty marks

A mark is set by a write that failed.  It goes when a later write of the torrent
has landed, or when the torrent has left: the retry arm of the pump forgets only
torrents that are gone.  `Engine.write` logs the writes of the persister.
-/

namespace Rsbtd

open Transition

/-- A write of a resume file, landed or failed. -/
structure ResumeWrite where
  uuid : Uuid
  bytes : ResumeData
  ok : Bool
deriving DecidableEq, Repr

variable {s s' : Engine} {k : Nat} {writes : List ResumeWrite}

/-- The write that a step makes. -/
def Engine.write (s : Engine) : Action → Option ResumeWrite
  | .persister ok => match s.persister with
    | .execute (.writeResume uuid bytes _) => some ⟨uuid, bytes, ok⟩
    | _ => none
  | _ => none

/-- A run of the engine, with the writes of the persister, oldest first. -/
abbrev LoggedRun (ok : Engine → Action → Prop) (restored : Nat) :
    Engine × List ResumeWrite → Prop :=
  Run (logged Engine.step Engine.write) (fun s a => ok s.1 a) (Engine.start restored, [])

theorem LoggedRun.engine {ok : Engine → Action → Prop} {restored : Nat}
    (run : LoggedRun ok restored (s, writes)) : EngineRun ok restored s :=
  run.unlogged

/-- The call is going to queue the initial record of a torrent it has registered. -/
def AddPc.queues : AddPc → Bool
  | .serialize _ | .reserve _ _ | .enqueue _ _ | .send _ _ => true
  | _ => false

/-- What the pump knows of the torrents whose marks it is about to drop. -/
def Engine.Forgets (s : Engine) : PumpPc → Prop
  | .torrentRemoved entry => s.Gone entry.uuid
  | .retryFind uuids _ => ∀ u ∈ uuids, s.Known u
  | .retryForget uuid uuids _ | .retryUndo uuid uuids _ => s.Gone uuid ∧ ∀ u ∈ uuids, s.Known u
  | .retryLookup uuid entry uuids _ =>
    entry = entryOf uuid ∧ s.Known uuid ∧ ∀ u ∈ uuids, s.Known u
  | .retryInc k uuid uuids _ | .retryPost k uuid uuids _ =>
    k = uuid ∧ s.Known uuid ∧ ∀ u ∈ uuids, s.Known u
  | _ => True

/-- The marks against the log of the writes. -/
structure Engine.Marks (s : Engine) (writes : List ResumeWrite) : Prop where
  last : ∀ uuid bytes ack ok, s.persister = .wrote uuid bytes ack ok →
    ∃ older, writes = older ++ [⟨uuid, bytes, ok⟩]
  dirty : ∀ u ∈ s.dirty, ∃ w ∈ writes, w.uuid = u ∧ w.ok = false
  calls : ∀ (k : Nat) (pc : AddPc), s.adds[k]? = some pc → pc.queues = true → s.Known k
  pending : ∀ u bytes ack, .writeResume u bytes ack ∈ s.pending → s.Known u
  writes : ∀ w ∈ writes, s.Known w.uuid
  forgets : s.Forgets s.pump.pc

/-! ## Steps -/

theorem PersisterMove.logs {ok : Bool} (move : PersisterMove s ok s') :
    (∀ uuid bytes ack, s.persister ≠ .execute (.writeResume uuid bytes ack)) ∧
        s.write (.persister ok) = none ∧ (∀ uuid bytes ack done,
          s'.persister ≠ .wrote uuid bytes ack done) ∨
      ∃ uuid bytes ack, s.persister = .execute (.writeResume uuid bytes ack) ∧
        s.write (.persister ok) = some ⟨uuid, bytes, ok⟩ ∧
        s'.persister = .wrote uuid bytes ack ok ∧ s'.dirty = s.dirty := by
  cases move with
  | write pc | writeFails pc => exact .inr ⟨_, _, _, pc, by simp [Engine.write, pc], rfl, rfl⟩
  | _ pc => exact .inl ⟨by simp [pc], by simp [Engine.write, pc], by simp⟩

/-- Only the persister writes, and only in its own steps. -/
theorem Move.write_none {a : Action} (move : Move s a s') (idle : ∀ ok, a ≠ .persister ok) :
    s.write a = none ∧ s'.persister = s.persister := by
  cases move with
  | persister => exact absurd rfl (idle _)
  | pump move => exact ⟨rfl, move.frame.persister⟩
  | add _ move => exact ⟨rfl, move.frame.persister⟩
  | task _ move => exact ⟨rfl, move.frame.persister⟩
  | _ => exact ⟨rfl, rfl⟩

theorem Move.marks_last {a : Action} (move : Move s a s')
    (last : ∀ uuid bytes ack ok, s.persister = .wrote uuid bytes ack ok →
      ∃ older, writes = older ++ [⟨uuid, bytes, ok⟩]) :
    ∀ uuid bytes ack ok, s'.persister = .wrote uuid bytes ack ok →
      ∃ older, writes ++ (s.write a).toList = older ++ [⟨uuid, bytes, ok⟩] := by
  intro uuid bytes ack ok wrote
  by_cases own : ∃ done, a = .persister done
  · obtain ⟨done, rfl⟩ := own
    cases move with
    | persister move =>
      rcases move.logs with ⟨_, _, idle⟩ | ⟨_, _, _, _, made, pc, _⟩
      · exact absurd wrote (idle uuid bytes ack ok)
      · cases pc.symm.trans wrote
        exact ⟨writes, by rw [made]; rfl⟩
  · obtain ⟨none_, same⟩ := move.write_none fun done same => own ⟨done, same⟩
    rw [none_, Option.toList_none, List.append_nil]
    exact last uuid bytes ack ok (same ▸ wrote)

/-- What a step does to the marks: it sets one for a write that has failed, and
drops the marks of torrents that are gone and of one whose write has landed. -/
structure MarksMove (s s' : Engine) (a : Action) : Prop where
  set : ∀ u ∈ s'.dirty, u ∈ s.dirty ∨ ∃ bytes ack, s.persister = .wrote u bytes ack false
  dropped : ∀ u ∈ s.dirty, u ∉ s'.dirty →
    s.Gone u ∨ ∃ ok bytes ack, a = .persister ok ∧ s.persister = .wrote u bytes ack true

theorem MarksMove.same {a : Action} (dirty : s'.dirty = s.dirty) : MarksMove s s' a where
  set _ marked := .inl (dirty ▸ marked)
  dropped _ marked unmarked := absurd (dirty ▸ marked) unmarked

theorem MarksMove.erase {a : Action} {uuid : Uuid} (dirty : s'.dirty = s.dirty.erase uuid)
    (reason : s.Gone uuid ∨
      ∃ ok bytes ack, a = .persister ok ∧ s.persister = .wrote uuid bytes ack true) :
    MarksMove s s' a where
  set u marked := .inl (Finset.mem_of_mem_erase (dirty ▸ marked))
  dropped u marked unmarked := by
    have erased : u = uuid := by
      by_contra other
      exact unmarked (dirty ▸ Finset.mem_erase.mpr ⟨other, marked⟩)
    exact erased ▸ reason

theorem Move.marks {a : Action} (registered : s.Registered) (forgets : s.Forgets s.pump.pc)
    (move : Move s a s') : MarksMove s s' a := by
  cases move with
  | pump move =>
    cases move with
    | pushDelete pc =>
      rw [pc] at forgets
      exact .erase rfl (.inl forgets)
    | retryForget pc =>
      rw [pc] at forgets
      exact .erase rfl (.inl forgets.1)
    | dropped | droppedLoud | saveFailed | requestUndo | retryUndo => exact .same (by simp)
    | _ => exact .same rfl
  | persister move =>
    cases move with
    | unmark pc => exact .erase rfl (.inr ⟨_, _, _, rfl, pc⟩)
    | @mark uuid bytes ack ok pc =>
      refine ⟨fun u marked => ?_, fun u marked unmarked =>
        absurd (Finset.mem_insert_of_mem marked) unmarked⟩
      rcases Finset.mem_insert.mp marked with rfl | before
      · exact .inr ⟨bytes, ack, pc⟩
      · exact .inl before
    | dec => exact .same (by simp)
    | _ => exact .same rfl
  | @add j ok pc _ call move =>
    have about := registered.calls j pc call
    cases move with
    | @unwind entry result =>
      obtain rfl : entry = entryOf j := about.1
      have failing : s.adds[j]?.any AddPc.failing = true := by simp [call, AddPc.failing]
      exact .erase rfl (.inl ⟨(List.getElem?_eq_some_iff.mp call).1, .inr failing⟩)
    | release => exact .same (by simp)
    | _ => exact .same rfl
  | task _ move => exact .same move.frame.dirty
  | _ => exact .same rfl

/-! ## What the pipeline holds -/

theorem Move.known_calls {a : Action} (registered : s.Registered) (ordered : s.AlertsOrdered)
    (move : Move s a s')
    (calls : ∀ (k : Nat) (pc : AddPc), s.adds[k]? = some pc → pc.queues = true → s.Known k) :
    ∀ (k : Nat) (pc : AddPc), s'.adds[k]? = some pc → pc.queues = true → s'.Known k := by
  intro k now entry queues
  have old : ∀ pc, s.adds[k]? = some pc → pc.queues = true → s'.Known k := fun pc call before =>
    move.known registered ordered (calls k pc call before)
  cases move with
  | pump move => exact old now (move.frame.adds ▸ entry) queues
  | persister move => exact old now (move.frame.adds ▸ entry) queues
  | task _ move => exact old now (move.frame.adds ▸ entry) queues
  | @add j ok pc _ call move =>
    obtain ⟨next, adds⟩ := move.frame.call
    rcases get_set (adds ▸ entry) with ⟨rfl, rfl⟩ | ⟨_, before⟩
    · cases move with
      | upsert => exact .inr (by simp [registered.upsert_find])
      | serialize | reserve | opened => exact old _ call rfl
      | unwindShut | unwindGone | unwindRemove | release | _ =>
        simp [get_set_self call] at entry
        subst entry
        cases queues
    · exact old now before queues
  | @startAdd accepted =>
    rcases get_append entry with before | ⟨_, rfl⟩
    · exact old now before queues
    · cases accepted <;> cases queues
  | dropAdd =>
    rcases get_set entry with ⟨_, rfl⟩ | ⟨_, before⟩
    · cases queues
    · exact old now before queues
  | _ => exact old now entry queues

/-- Only records of registered torrents are queued. -/
theorem Move.known_pending {a : Action} (registered : s.Registered) (ordered : s.AlertsOrdered)
    (calls : ∀ (k : Nat) (pc : AddPc), s.adds[k]? = some pc → pc.queues = true → s.Known k)
    (move : Move s a s')
    (pending : ∀ u bytes ack, .writeResume u bytes ack ∈ s.pending → s.Known u) :
    ∀ u bytes ack, .writeResume u bytes ack ∈ s'.pending → s'.Known u := by
  intro u bytes ack queued
  have old : .writeResume u bytes ack ∈ s.pending ∨ s.Known u → s'.Known u := fun before =>
    move.known registered ordered (before.elim (pending u bytes ack) id)
  refine old ?_
  cases move with
  | pump move =>
    have frame := move.frame
    rw [Engine.pending, Engine.queued, frame.persister] at queued
    cases move.pipeline registered with
    | still _ queue held | register _ _ _ queue held => exact .inl (by rwa [queue, held] at queued)
    | send op _ queue held =>
      exact .inl (by simpa [Engine.pending, Engine.queued, queue, held] using queued)
    | remove j _ _ queue held =>
      exact .inl (by simpa [Engine.pending, Engine.queued, queue, held] using queued)
    | hold uuid other found _ queue held =>
      rw [queue, held, ← List.append_assoc] at queued
      rcases List.mem_append.mp queued with before | last
      · exact .inl before
      · cases List.mem_singleton.mp last
        exact .inr (.inr found)
    | discard uuid other _ queue held =>
      refine .inl ?_
      rw [queue] at queued
      rw [Engine.pending, held, ← List.append_assoc]
      exact List.mem_append_left _ queued
  | persister move =>
    refine .inl ?_
    have held : s'.held = s.held := by rw [Engine.held, Engine.held, move.frame.pump]
    rw [Engine.pending, held] at queued
    refine List.mem_append.mpr ((List.mem_append.mp queued).imp_left fun member => ?_)
    cases move with
    | receive pc queue =>
      simpa [Engine.queued, PersisterPc.executing, pc, queue] using member
    | _ pc =>
      simp [Engine.queued, PersisterPc.executing] at member ⊢
      simp [member]
  | @add j ok before _ call move =>
    have about := registered.calls j before call
    have frame := move.frame
    rw [Engine.pending, Engine.held, Engine.queued, frame.pump, frame.persister] at queued
    cases move with
    | @send entry =>
      obtain ⟨rfl, _⟩ := about
      by_cases own : u = j
      · exact .inr (own ▸ calls j _ call rfl)
      · refine .inl ?_
        simpa [Engine.pending, Engine.queued, Engine.held, entryOf, own] using queued
    | compensateSend =>
      exact .inl (by simpa [Engine.pending, Engine.queued, Engine.held] using queued)
    | release => exact .inl (by simpa [Engine.pending, Engine.queued, Engine.held] using queued)
    | _ => exact .inl queued
  | task _ move =>
    have frame := move.frame
    refine .inl ?_
    rwa [Engine.pending, Engine.queued, Engine.held, frame.queue, frame.persister, frame.pump]
      at queued
  | sendSessionState =>
    exact .inl (by simpa [Engine.pending, Engine.queued, Engine.held] using queued)
  | abortPump =>
    rw [s.abortPump_pending] at queued
    exact .inl (List.mem_append_left _ queued)
  | _ => exact .inl queued

/-! ## What the retry arm forgets -/

theorem Engine.Forgets.mono {pc : PumpPc} (gone : ∀ k, s.Gone k → s'.Gone k)
    (known : ∀ k, s.Known k → s'.Known k) (forgets : s.Forgets pc) : s'.Forgets pc := by
  cases pc with
  | torrentRemoved => exact gone _ forgets
  | retryFind => exact fun u member => known u (forgets u member)
  | retryForget | retryUndo =>
    exact ⟨gone _ forgets.1, fun u member => known u (forgets.2 u member)⟩
  | retryLookup | retryInc | retryPost =>
    exact ⟨forgets.1, known _ forgets.2.1, fun u member => known u (forgets.2.2 u member)⟩
  | _ => trivial

theorem afterTorrentOf_forgets (alert : Alert) (torrent : Option Uuid) :
    s.Forgets (afterTorrentOf alert torrent) := by
  rcases afterTorrentOf_cases alert torrent with
    pc | ⟨_, pc⟩ | ⟨_, _, pc⟩ | ⟨_, _, _, _, _, pc⟩ | ⟨_, _, _, _, pc⟩ <;> rw [pc] <;> trivial

theorem Session.dead_of_refused {s : Session} (refused : (s.saveResumeData k).2 = false) :
    s.alive k = false := by
  rw [Session.saveResumeData] at refused
  split at refused
  case isTrue => cases refused
  case isFalse dead => exact Bool.eq_false_iff.mpr dead

theorem PumpMove.forgets (registered : s.Registered) (ordered : s.AlertsOrdered)
    (registers : s.RegistersAdded) (closed : s.shutdown ≠ .closed)
    (marked : ∀ u ∈ s.dirty, s.Known u) (move : PumpMove s s')
    (forgets : s.Forgets s.pump.pc) : s.Forgets s'.pump.pc := by
  cases move with
  | @removed k rest entry pc todo found =>
    rw [registered.removeByToken, Registry.remove_entry] at found
    obtain rfl := registered.coherent.find_eq found
    have removed : .torrentRemoved k ∈ s.stream := by simp [Engine.stream, Engine.taken, todo]
    exact ordered.gone removed
  | ofExpired | ofRegistered | ofData => exact afterTorrentOf_forgets _ _
  | retrySnapshot _ snapshot =>
    exact fun u member => marked u (snapshot ▸ List.mem_toFinset.mpr member)
  | retryKnown pc found =>
    rw [pc] at forgets
    exact ⟨registered.coherent.find_eq found, forgets _ List.mem_cons_self,
      fun u member => forgets u (List.mem_cons_of_mem _ member)⟩
  | retryUnknown pc unregistered =>
    rw [pc] at forgets
    exact ⟨(forgets _ List.mem_cons_self).resolve_right fun found => found unregistered,
      fun u member => forgets u (List.mem_cons_of_mem _ member)⟩
  | retryForget pc =>
    rw [pc] at forgets
    exact forgets.2
  | retryLive pc live =>
    rw [pc] at forgets
    obtain ⟨rfl, rest⟩ := forgets
    exact ⟨(Session.findTorrentByToken_entryOf live).1, rest⟩
  | retryGone pc lost =>
    rw [pc] at forgets
    obtain ⟨rfl, known, rest⟩ := forgets
    exact ⟨registers.gone_of_notFound ordered (fun shut => absurd shut closed) known lost, rest⟩
  | retryInc pc =>
    rw [pc] at forgets
    exact forgets
  | retryPosted pc =>
    rw [pc] at forgets
    exact forgets.2.2
  | retryRefused pc refused =>
    rw [pc] at forgets
    obtain ⟨rfl, known, rest⟩ := forgets
    exact ⟨registers.gone_of_dead ordered known (Session.dead_of_refused refused), rest⟩
  | retryUndo pc =>
    rw [pc] at forgets
    exact forgets
  | send => exact forgets
  | _ => trivial

theorem Move.forgets {a : Action} (registered : s.Registered) (ordered : s.AlertsOrdered)
    (registers : s.RegistersAdded) (marked : ∀ u ∈ s.dirty, s.Known u) (move : Move s a s')
    (forgets : s.Forgets s.pump.pc) : s'.Forgets s'.pump.pc := by
  have later : s.Forgets s'.pump.pc → s'.Forgets s'.pump.pc := fun now =>
    now.mono (fun _ => move.gone registered ordered) (fun _ => move.known registered ordered)
  refine later ?_
  cases move with
  | pump move isOpen =>
    refine move.forgets registered ordered registers (fun closed => ?_) marked forgets
    rw [closed] at isOpen
    cases isOpen
  | persister move => rwa [move.frame.pump]
  | add _ move => rwa [move.frame.pump]
  | task _ move => rwa [move.frame.pump]
  | abortPump => trivial
  | _ => exact forgets

/-! ## Runs -/

theorem Engine.Marks.known (marks : s.Marks writes) {u : Uuid} (marked : u ∈ s.dirty) :
    s.Known u := by
  obtain ⟨w, logged, rfl, _⟩ := marks.dirty u marked
  exact marks.writes w logged

theorem Move.keepsMarks {a : Action} (registered : s.Registered) (ordered : s.AlertsOrdered)
    (registers : s.RegistersAdded) (move : Move s a s') (marks : s.Marks writes) :
    s'.Marks (writes ++ (s.write a).toList) where
  last := move.marks_last marks.last
  dirty u marked := by
    rcases (move.marks registered marks.forgets).set u marked with before | ⟨bytes, ack, wrote⟩
    · obtain ⟨w, logged, failed⟩ := marks.dirty u before
      exact ⟨w, List.mem_append_left _ logged, failed⟩
    · obtain ⟨older, rfl⟩ := marks.last u bytes ack false wrote
      exact ⟨⟨u, bytes, false⟩, by simp, rfl, rfl⟩
  calls := move.known_calls registered ordered marks.calls
  pending := move.known_pending registered ordered marks.calls marks.pending
  writes w logged := by
    refine move.known registered ordered ?_
    rcases List.mem_append.mp logged with before | now
    · exact marks.writes w before
    · cases move with
      | persister move =>
        rcases move.logs with ⟨_, none_, _⟩ | ⟨uuid, bytes, ack, pc, made, _⟩
        · rw [none_] at now
          cases now
        · rw [made, Option.toList_some, List.mem_singleton] at now
          subst now
          refine marks.pending uuid bytes ack ?_
          simp [Engine.pending, Engine.queued, PersisterPc.executing, pc]
      | _ => cases now
  forgets := move.forgets registered ordered registers (fun _ => marks.known) marks.forgets

theorem marks_run {ok : Engine → Action → Prop} {restored : Nat}
    (run : LoggedRun ok restored (s, writes)) : s.Marks writes := by
  refine run.invariant (I := fun t => t.1.Marks t.2) ?_ fun t a u reached marks _ stepped => ?_
  · refine ⟨fun _ _ _ _ wrote => (by cases wrote), fun _ marked => (by cases marked),
      fun k pc entry queues => ?_, fun _ _ _ queued => ?_, fun _ logged => (by cases logged),
      trivial⟩
    · rw [(calls_start entry).2] at queues
      cases queues
    · simp [Engine.pending, Engine.queued, Engine.held, Engine.start, PersisterPc.executing,
        PumpPc.holding] at queued
  · obtain ⟨engine, log⟩ := logged_eq_some.mp stepped
    have past := reached.unlogged
    rw [log]
    exact (step_move engine).2.keepsMarks (registered_run past) (ordered_run past)
      (registersAdded_run past) marks

/-- A mark is dropped when a write has landed after the one that failed, or when
the torrent has left. -/
theorem mark_dropped {ok : Engine → Action → Prop} {restored : Nat} {a : Action} {u : Uuid}
    (run : LoggedRun ok restored (s, writes)) (stepped : s.step a = some s')
    (marked : u ∈ s.dirty) (unmarked : u ∉ s'.dirty) :
    s.Left u ∨ ∃ older bytes, writes = older ++ [⟨u, bytes, true⟩] ∧
      ∃ w ∈ older, w.uuid = u ∧ w.ok = false := by
  have marks := marks_run run
  have move := (step_move stepped).2.marks (registered_run run.engine) marks.forgets
  rcases move.dropped u marked unmarked with gone | ⟨_, bytes, ack, _, wrote⟩
  · exact .inl gone.2
  · obtain ⟨older, rfl⟩ := marks.last u bytes ack true wrote
    obtain ⟨w, logged, own, failed⟩ := marks.dirty u marked
    refine .inr ⟨older, bytes, rfl, w, ?_, own, failed⟩
    -- the write that landed is not the one that failed
    refine (List.mem_append.mp logged).resolve_right fun last => ?_
    rw [List.mem_singleton.mp last] at failed
    cases failed

end Rsbtd
