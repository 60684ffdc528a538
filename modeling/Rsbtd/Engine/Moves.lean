import Rsbtd.Engine.Step

/-!
# What a step can do

One inductive per task lists the moves of its step function: the program
counter a move is taken from, the outcome of the call it makes, and the state it
leads to.  The inversion theorems (`pumpStep_move` and its siblings) are the
only proofs that unfold a step function; every invariant is a case analysis over
the moves.
-/

namespace Rsbtd

variable {s s' : Engine}

/-! ## The pump -/

inductive PumpMove (s : Engine) : Engine → Prop where
  | batch (pc : s.pump.pc = .select) (pending : s.session.alerts ≠ []) :
      PumpMove s
        { s with
          session := { s.session with alerts := [] }
          pump := { s.pump with pc := .process s.session.alerts, todo := s.session.alerts } }
  | retry (pc : s.pump.pc = .select) : PumpMove s (s.goto .retry)
  | processed (pc : s.pump.pc = .process []) : PumpMove s (s.goto .dispatch)
  | process {alert rest} (pc : s.pump.pc = .process (alert :: rest)) :
      PumpMove s ({ s with session := s.session.process alert }.goto (.process rest))
  | batchDone (pc : s.pump.pc = .dispatch) (todo : s.pump.todo = []) : PumpMove s (s.goto .send)
  | addRefused {k rest} (pc : s.pump.pc = .dispatch)
      (todo : s.pump.todo = .addTorrent k false :: rest) :
      PumpMove s ((s.take (.addTorrent k false) rest).goto .dispatch)
  | addTorrent {k rest} (pc : s.pump.pc = .dispatch)
      (todo : s.pump.todo = .addTorrent k true :: rest) :
      PumpMove s ((s.take (.addTorrent k true) rest).goto (.addTorrent k))
  | removed {k rest entry} (pc : s.pump.pc = .dispatch)
      (todo : s.pump.todo = .torrentRemoved k :: rest)
      (registered : (s.registry.removeByToken (entryOf k).token).2 = some entry) :
      PumpMove s
        (({ s with
            registry := (s.registry.removeByToken (entryOf k).token).1 }.take
              (.torrentRemoved k) rest).goto (.torrentRemoved entry))
  | removedUnknown {k rest} (pc : s.pump.pc = .dispatch)
      (todo : s.pump.todo = .torrentRemoved k :: rest)
      (unknown : (s.registry.removeByToken (entryOf k).token).2 = none) :
      PumpMove s
        (({ s with
            registry := (s.registry.removeByToken (entryOf k).token).1 }.take
              (.torrentRemoved k) rest).goto (.publish ⟨none, .torrentRemoved⟩))
  | metadata {k rest} (pc : s.pump.pc = .dispatch)
      (todo : s.pump.todo = .trigger .metadataReceived k :: rest) :
      PumpMove s ((s.take (.trigger .metadataReceived k) rest).goto (.metadataReceived k))
  | trigger {kind k rest} (pc : s.pump.pc = .dispatch)
      (todo : s.pump.todo = .trigger kind k :: rest) :
      PumpMove s ((s.take (.trigger kind k) rest).goto (.torrentOf (.trigger kind k)))
  | saveData {k bytes rest} (pc : s.pump.pc = .dispatch)
      (todo : s.pump.todo = .saveResumeData k bytes :: rest) :
      PumpMove s
        ((s.take (.saveResumeData k bytes) rest).goto (.torrentOf (.saveResumeData k bytes)))
  | saveDataFailed {k rest} (pc : s.pump.pc = .dispatch)
      (todo : s.pump.todo = .saveResumeDataFailed k :: rest) :
      PumpMove s ((s.take (.saveResumeDataFailed k) rest).goto (.saveFailed k))
  | addKnown {k} (pc : s.pump.pc = .addTorrent k)
      (readable : s.session.clientDataUuid k ≠ none) : PumpMove s (s.goto (.addTorrentUpsert k))
  | addVanished {k} (pc : s.pump.pc = .addTorrent k)
      (vanished : s.session.clientDataUuid k = none) : PumpMove s (s.goto .dispatch)
  | upsert {k} (pc : s.pump.pc = .addTorrentUpsert k) :
      PumpMove s
        ({ s with
            registry :=
              (s.registry.upsert (entryOf k).id (entryOf k).token (entryOf k).uuid).1 }.goto
          (.publish
            ⟨some (s.registry.upsert (entryOf k).id (entryOf k).token (entryOf k).uuid).2.uuid,
              .torrentAdded⟩))
  | pushDelete {entry} (pc : s.pump.pc = .torrentRemoved entry) :
      PumpMove s
        ({ s with dirty := s.dirty.erase entry.uuid }.push (.deleteResume entry.uuid)
          (.publish ⟨some entry.uuid, .torrentRemoved⟩))
  | ofExpired {alert} (pc : s.pump.pc = .torrentOf alert)
      (expired : s.session.handleId alert.torrent = 0) :
      PumpMove s (s.goto (afterTorrentOf alert none))
  | ofAlive {alert} (pc : s.pump.pc = .torrentOf alert)
      (alive : s.session.handleId alert.torrent ≠ 0) :
      PumpMove s (s.goto (.torrentOfGet alert (s.session.handleId alert.torrent)))
  | ofRegistered {alert id entry} (pc : s.pump.pc = .torrentOfGet alert id)
      (registered : s.registry.get id = some entry) :
      PumpMove s (s.goto (afterTorrentOf alert (some entry.uuid)))
  | ofUnregistered {alert id} (pc : s.pump.pc = .torrentOfGet alert id)
      (unregistered : s.registry.get id = none) : PumpMove s (s.goto (.torrentOfData alert))
  | ofData {alert} (pc : s.pump.pc = .torrentOfData alert) :
      PumpMove s (s.goto (afterTorrentOf alert (s.session.clientDataUuid alert.torrent)))
  | metadataId {k} (pc : s.pump.pc = .metadataReceived k) :
      PumpMove s (s.goto (.metadataReceivedGet (s.session.handleId k)))
  | metadataKnown {id entry} (pc : s.pump.pc = .metadataReceivedGet id)
      (registered : s.registry.get id = some entry) :
      PumpMove s (s.goto (.requestSave entry.uuid ⟨some entry.uuid, .metadataReceived⟩))
  | metadataUnknown {id} (pc : s.pump.pc = .metadataReceivedGet id)
      (unregistered : s.registry.get id = none) : PumpMove s (s.goto .dispatch)
  | saveKnown {uuid bytes} (pc : s.pump.pc = .saveFind uuid bytes)
      (registered : s.registry.find uuid ≠ none) :
      PumpMove s (s.goto (.saveSerialize uuid bytes))
  | saveUnknown {uuid bytes} (pc : s.pump.pc = .saveFind uuid bytes)
      (unregistered : s.registry.find uuid = none) : PumpMove s (s.goto (.saveDrop none))
  | pushWrite {uuid bytes} (pc : s.pump.pc = .saveSerialize uuid bytes) :
      PumpMove s (s.push (.writeResume uuid bytes none) .dispatch)
  | notSerialized {uuid bytes} (pc : s.pump.pc = .saveSerialize uuid bytes) :
      PumpMove s (s.goto (.saveDrop (some ⟨some uuid, .resumeDataFailed⟩)))
  | dropped (pc : s.pump.pc = .saveDrop none) : PumpMove s (s.dec.goto .dispatch)
  | droppedLoud {event} (pc : s.pump.pc = .saveDrop (some event)) :
      PumpMove s (s.dec.goto (.publish event))
  | saveFailed {k} (pc : s.pump.pc = .saveFailed k) :
      PumpMove s (s.dec.goto (.torrentOf (.saveResumeDataFailed k)))
  | requestQuiesced {uuid event} (pc : s.pump.pc = .requestSave uuid event)
      (quiesced : s.shutdown.quiesce = true) : PumpMove s (s.goto (.publish event))
  | requestSave {uuid event} (pc : s.pump.pc = .requestSave uuid event)
      (running : s.shutdown.quiesce = false) : PumpMove s (s.goto (.requestFind uuid event))
  | requestKnown {uuid event entry} (pc : s.pump.pc = .requestFind uuid event)
      (registered : s.registry.find uuid = some entry) :
      PumpMove s (s.goto (.requestLookup entry event))
  | requestUnknown {uuid event} (pc : s.pump.pc = .requestFind uuid event)
      (unregistered : s.registry.find uuid = none) : PumpMove s (s.goto (.publish event))
  | requestLive {entry event k} (pc : s.pump.pc = .requestLookup entry event)
      (live : s.session.findTorrentByToken entry.token = some k) :
      PumpMove s (s.goto (.requestInc k event))
  | requestGone {entry event} (pc : s.pump.pc = .requestLookup entry event)
      (gone : s.session.findTorrentByToken entry.token = none) :
      PumpMove s (s.goto (.publish event))
  | requestInc {k event} (pc : s.pump.pc = .requestInc k event) :
      PumpMove s ({ s with inflight := s.inflight.inc }.goto (.requestPost k event))
  | requestPosted {k event} (pc : s.pump.pc = .requestPost k event)
      (accepted : (s.session.saveResumeData k).2 = true) :
      PumpMove s
        ({ s with session := (s.session.saveResumeData k).1 }.goto (.publish event))
  | requestRefused {k event} (pc : s.pump.pc = .requestPost k event)
      (refused : (s.session.saveResumeData k).2 = false) :
      PumpMove s
        ({ s with session := (s.session.saveResumeData k).1 }.goto (.requestUndo event))
  | requestUndo {event} (pc : s.pump.pc = .requestUndo event) :
      PumpMove s (s.dec.goto (.publish event))
  | publish {event} (pc : s.pump.pc = .publish event) :
      PumpMove s ((s.publish event).goto .dispatch)
  | sent (pc : s.pump.pc = .send) (ops : s.pump.ops = []) : PumpMove s (s.goto .select)
  | send {op rest} (pc : s.pump.pc = .send) (ops : s.pump.ops = op :: rest)
      (room : s.queue.length < persistQueueCapacity) :
      PumpMove s (s.sendOp op rest)
  | retryQuiesced (pc : s.pump.pc = .retry) (quiesced : s.shutdown.quiesce = true) :
      PumpMove s (s.goto .select)
  | retryRunning (pc : s.pump.pc = .retry) (running : s.shutdown.quiesce = false) :
      PumpMove s (s.goto .retrySnapshot)
  | retrySnapshot {uuids budget} (pc : s.pump.pc = .retrySnapshot)
      (snapshot : uuids.toFinset = s.dirty) : PumpMove s (s.goto (.retryFind uuids budget))
  | retryEnd {budget} (pc : s.pump.pc = .retryFind [] budget) : PumpMove s (s.goto .select)
  | retryKnown {uuid uuids budget entry} (pc : s.pump.pc = .retryFind (uuid :: uuids) budget)
      (registered : s.registry.find uuid = some entry) :
      PumpMove s (s.goto (.retryLookup uuid entry uuids budget))
  | retryUnknown {uuid uuids budget} (pc : s.pump.pc = .retryFind (uuid :: uuids) budget)
      (unregistered : s.registry.find uuid = none) :
      PumpMove s (s.goto (.retryForget uuid uuids budget))
  | retryForget {uuid uuids budget} (pc : s.pump.pc = .retryForget uuid uuids budget) :
      PumpMove s ({ s with dirty := s.dirty.erase uuid }.goto (.retryFind uuids budget))
  | retrySpent {uuid entry uuids k} (pc : s.pump.pc = .retryLookup uuid entry uuids 0)
      (live : s.session.findTorrentByToken entry.token = some k) : PumpMove s (s.goto .select)
  | retryLive {uuid entry uuids budget k}
      (pc : s.pump.pc = .retryLookup uuid entry uuids (budget + 1))
      (live : s.session.findTorrentByToken entry.token = some k) :
      PumpMove s (s.goto (.retryInc k uuid uuids budget))
  | retryGone {uuid entry uuids budget} (pc : s.pump.pc = .retryLookup uuid entry uuids budget)
      (gone : s.session.findTorrentByToken entry.token = none) :
      PumpMove s (s.goto (.retryForget uuid uuids budget))
  | retryInc {k uuid uuids budget} (pc : s.pump.pc = .retryInc k uuid uuids budget) :
      PumpMove s
        ({ s with inflight := s.inflight.inc }.goto (.retryPost k uuid uuids budget))
  | retryPosted {k uuid uuids budget} (pc : s.pump.pc = .retryPost k uuid uuids budget)
      (accepted : (s.session.saveResumeData k).2 = true) :
      PumpMove s
        ({ s with session := (s.session.saveResumeData k).1 }.goto (.retryFind uuids budget))
  | retryRefused {k uuid uuids budget} (pc : s.pump.pc = .retryPost k uuid uuids budget)
      (refused : (s.session.saveResumeData k).2 = false) :
      PumpMove s
        ({ s with session := (s.session.saveResumeData k).1 }.goto (.retryUndo uuid uuids budget))
  | retryUndo {uuid uuids budget} (pc : s.pump.pc = .retryUndo uuid uuids budget) :
      PumpMove s (s.dec.goto (.retryForget uuid uuids budget))

/-- Where `handle_alert` can go on after `torrent_of`. -/
theorem afterTorrentOf_cases (alert : Alert) (torrent : Option Uuid) :
    afterTorrentOf alert torrent = .dispatch ∨
      (∃ event, afterTorrentOf alert torrent = .publish event) ∨
      (∃ uuid event, afterTorrentOf alert torrent = .requestSave uuid event) ∨
      (∃ k bytes uuid, alert = .saveResumeData k bytes ∧ torrent = some uuid ∧
        afterTorrentOf alert torrent = .saveFind uuid bytes) ∨
      ∃ k bytes, alert = .saveResumeData k bytes ∧ torrent = none ∧
        afterTorrentOf alert torrent = .saveDrop none := by
  cases alert with
  | trigger kind k => cases kind <;> cases torrent <;> simp [afterTorrentOf]
  | saveResumeData k bytes => cases torrent <;> simp [afterTorrentOf]
  | addTorrent | torrentRemoved | saveResumeDataFailed => simp [afterTorrentOf]

theorem beginAlert_move {alert : Alert} {rest : List Alert} (pc : s.pump.pc = .dispatch)
    (todo : s.pump.todo = alert :: rest) : PumpMove s (beginAlert (s.take alert rest) alert) := by
  cases alert with
  | addTorrent k ok =>
    cases ok with
    | false => exact .addRefused pc todo
    | true => exact .addTorrent pc todo
  | torrentRemoved k =>
    cases found : (s.registry.removeByToken (entryOf k).token).2 with
    | none =>
      have move := PumpMove.removedUnknown pc todo found
      simpa [beginAlert, Engine.take, found] using move
    | some entry =>
      have move := PumpMove.removed pc todo found
      simpa [beginAlert, Engine.take, found] using move
  | trigger kind k =>
    cases kind with
    | metadataReceived => exact .metadata pc todo
    | torrentFinished | storageMoved => exact .trigger pc todo
  | saveResumeData k bytes => exact .saveData pc todo
  | saveResumeDataFailed k => exact .saveDataFailed pc todo

/-- Every step of the pump is one of its moves. -/
theorem pumpStep_move {c : PumpChoice} (h : pumpStep s c = some s') : PumpMove s s' := by
  cases pc : s.pump.pc with
  | select =>
    cases c with
    | batch =>
      simp only [pumpStep, pc, Option.ite_none_left_eq_some, Option.some.injEq] at h
      obtain ⟨pending, rfl⟩ := h
      exact .batch pc pending
    | retry =>
      simp only [pumpStep, pc, Option.ite_none_left_eq_some, Option.some.injEq] at h
      obtain ⟨_, rfl⟩ := h
      exact .retry pc
    | next | fail | snapshot _ _ => simp [pumpStep, pc] at h
  | process rest =>
    cases rest with
    | nil => simp only [pumpStep, pc, Option.some.injEq] at h; exact h ▸ .processed pc
    | cons alert rest => simp only [pumpStep, pc, Option.some.injEq] at h; exact h ▸ .process pc
  | dispatch =>
    cases todo : s.pump.todo with
    | nil => simp only [pumpStep, pc, todo, Option.some.injEq] at h; exact h ▸ .batchDone pc todo
    | cons alert rest =>
      simp only [pumpStep, pc, todo, Option.some.injEq] at h
      exact h ▸ beginAlert_move pc todo
  | addTorrent k =>
    cases read : s.session.clientDataUuid k with
    | none => simp only [pumpStep, pc, read, Option.some.injEq] at h; exact h ▸ .addVanished pc read
    | some uuid =>
      simp only [pumpStep, pc, read, Option.some.injEq] at h
      exact h ▸ .addKnown pc (by simp [read])
  | addTorrentUpsert k => simp only [pumpStep, pc, Option.some.injEq] at h; exact h ▸ .upsert pc
  | torrentRemoved entry =>
    simp only [pumpStep, pc, Option.some.injEq] at h; exact h ▸ .pushDelete pc
  | torrentOf alert =>
    simp only [pumpStep, pc] at h
    split at h
    case isTrue expired => cases h; exact .ofExpired pc expired
    case isFalse alive => cases h; exact .ofAlive pc alive
  | torrentOfGet alert id =>
    cases read : s.registry.get id with
    | none =>
      simp only [pumpStep, pc, read, Option.some.injEq] at h
      exact h ▸ .ofUnregistered pc read
    | some entry =>
      simp only [pumpStep, pc, read, Option.some.injEq] at h
      exact h ▸ .ofRegistered pc read
  | torrentOfData alert => simp only [pumpStep, pc, Option.some.injEq] at h; exact h ▸ .ofData pc
  | metadataReceived k => simp only [pumpStep, pc, Option.some.injEq] at h; exact h ▸ .metadataId pc
  | metadataReceivedGet id =>
    cases read : s.registry.get id with
    | none =>
      simp only [pumpStep, pc, read, Option.some.injEq] at h
      exact h ▸ .metadataUnknown pc read
    | some entry =>
      simp only [pumpStep, pc, read, Option.some.injEq] at h
      exact h ▸ .metadataKnown pc read
  | saveFind uuid bytes =>
    cases read : s.registry.find uuid with
    | none => simp only [pumpStep, pc, read, Option.some.injEq] at h; exact h ▸ .saveUnknown pc read
    | some entry =>
      simp only [pumpStep, pc, read, Option.some.injEq] at h
      exact h ▸ .saveKnown pc (by simp [read])
  | saveSerialize uuid bytes =>
    cases c with
    | next => simp only [pumpStep, pc, Option.some.injEq] at h; exact h ▸ .pushWrite pc
    | fail => simp only [pumpStep, pc, Option.some.injEq] at h; exact h ▸ .notSerialized pc
    | batch | retry | snapshot _ _ => simp [pumpStep, pc] at h
  | saveDrop event =>
    cases event with
    | none => simp only [pumpStep, pc, Option.some.injEq] at h; exact h ▸ .dropped pc
    | some event => simp only [pumpStep, pc, Option.some.injEq] at h; exact h ▸ .droppedLoud pc
  | saveFailed k => simp only [pumpStep, pc, Option.some.injEq] at h; exact h ▸ .saveFailed pc
  | requestSave uuid event =>
    cases quiesce : s.shutdown.quiesce with
    | true =>
      simp only [pumpStep, pc, quiesce, if_true, Option.some.injEq] at h
      exact h ▸ .requestQuiesced pc quiesce
    | false => simp [pumpStep, pc, quiesce] at h; exact h ▸ .requestSave pc quiesce
  | requestFind uuid event =>
    cases read : s.registry.find uuid with
    | none =>
      simp only [pumpStep, pc, read, Option.some.injEq] at h
      exact h ▸ .requestUnknown pc read
    | some entry =>
      simp only [pumpStep, pc, read, Option.some.injEq] at h
      exact h ▸ .requestKnown pc read
  | requestLookup entry event =>
    cases read : s.session.findTorrentByToken entry.token with
    | none => simp only [pumpStep, pc, read, Option.some.injEq] at h; exact h ▸ .requestGone pc read
    | some k =>
      simp only [pumpStep, pc, read, Option.some.injEq] at h
      exact h ▸ .requestLive pc read
  | requestInc k event => simp only [pumpStep, pc, Option.some.injEq] at h; exact h ▸ .requestInc pc
  | requestPost k event =>
    simp only [pumpStep, pc] at h
    split at h
    case h_1 session posted =>
      cases h
      have move := PumpMove.requestPosted pc (by rw [posted])
      rwa [posted] at move
    case h_2 session posted =>
      cases h
      have move := PumpMove.requestRefused pc (by rw [posted])
      rwa [posted] at move
  | requestUndo event => simp only [pumpStep, pc, Option.some.injEq] at h; exact h ▸ .requestUndo pc
  | publish event => simp only [pumpStep, pc, Option.some.injEq] at h; exact h ▸ .publish pc
  | send =>
    cases ops : s.pump.ops with
    | nil => simp only [pumpStep, pc, ops, Option.some.injEq] at h; exact h ▸ .sent pc ops
    | cons op rest =>
      simp only [pumpStep, pc, ops, Option.ite_none_right_eq_some, Option.some.injEq] at h
      obtain ⟨room, rfl⟩ := h
      exact .send pc ops room
  | retry =>
    cases quiesce : s.shutdown.quiesce with
    | true =>
      simp only [pumpStep, pc, quiesce, if_true, Option.some.injEq] at h
      exact h ▸ .retryQuiesced pc quiesce
    | false => simp [pumpStep, pc, quiesce] at h; exact h ▸ .retryRunning pc quiesce
  | retrySnapshot =>
    cases c with
    | snapshot uuids budget =>
      simp only [pumpStep, pc, Option.ite_none_right_eq_some, Option.some.injEq] at h
      obtain ⟨⟨_, snapshot, _⟩, rfl⟩ := h
      exact .retrySnapshot pc snapshot
    | next | fail | batch | retry => simp [pumpStep, pc] at h
  | retryFind uuids budget =>
    cases uuids with
    | nil => simp only [pumpStep, pc, Option.some.injEq] at h; exact h ▸ .retryEnd pc
    | cons uuid uuids =>
      cases read : s.registry.find uuid with
      | none =>
        simp only [pumpStep, pc, read, Option.some.injEq] at h
        exact h ▸ .retryUnknown pc read
      | some entry =>
        simp only [pumpStep, pc, read, Option.some.injEq] at h
        exact h ▸ .retryKnown pc read
  | retryForget uuid uuids budget =>
    simp only [pumpStep, pc, Option.some.injEq] at h; exact h ▸ .retryForget pc
  | retryLookup uuid entry uuids budget =>
    cases read : s.session.findTorrentByToken entry.token with
    | none => simp only [pumpStep, pc, read, Option.some.injEq] at h; exact h ▸ .retryGone pc read
    | some k =>
      cases budget with
      | zero =>
        simp only [pumpStep, pc, read, if_true, Option.some.injEq] at h
        exact h ▸ .retrySpent pc read
      | succ budget => simp [pumpStep, pc, read] at h; exact h ▸ .retryLive pc read
  | retryInc k uuid uuids budget =>
    simp only [pumpStep, pc, Option.some.injEq] at h; exact h ▸ .retryInc pc
  | retryPost k uuid uuids budget =>
    simp only [pumpStep, pc] at h
    split at h
    case h_1 session posted =>
      cases h
      have move := PumpMove.retryPosted pc (by rw [posted])
      rwa [posted] at move
    case h_2 session posted =>
      cases h
      have move := PumpMove.retryRefused pc (by rw [posted])
      rwa [posted] at move
  | retryUndo uuid uuids budget =>
    simp only [pumpStep, pc, Option.some.injEq] at h; exact h ▸ .retryUndo pc

/-! ## The persister -/

inductive PersisterMove (s : Engine) : Bool → Engine → Prop where
  | receive {op rest ok} (pc : s.persister = .idle) (queue : s.queue = op :: rest) :
      PersisterMove s ok { s with queue := rest, persister := .execute op }
  | write {uuid bytes ack} (pc : s.persister = .execute (.writeResume uuid bytes ack)) :
      PersisterMove s true
        { s with
          disk := Function.update s.disk uuid (some bytes)
          persister := .wrote uuid bytes ack true }
  | writeFails {uuid bytes ack} (pc : s.persister = .execute (.writeResume uuid bytes ack)) :
      PersisterMove s false { s with persister := .wrote uuid bytes ack false }
  | delete {uuid} (pc : s.persister = .execute (.deleteResume uuid)) :
      PersisterMove s true
        { s with
          disk := Function.update s.disk uuid none
          deleted := insert uuid s.deleted
          persister := .idle }
  | deleteFails {uuid} (pc : s.persister = .execute (.deleteResume uuid)) :
      PersisterMove s false { s with persister := .idle }
  | sessionState {bytes ack ok} (pc : s.persister = .execute (.writeSessionState bytes ack)) :
      PersisterMove s ok { s with persister := .idle }
  | unmark {uuid bytes ack ok} (pc : s.persister = .wrote uuid bytes ack true) :
      PersisterMove s ok
        { s with dirty := s.dirty.erase uuid, persister := .marked uuid bytes ack true }
  | mark {uuid bytes ack ok} (pc : s.persister = .wrote uuid bytes ack false) :
      PersisterMove s ok
        { s with dirty := insert uuid s.dirty, persister := .marked uuid bytes ack false }
  | publishSaved {uuid bytes ack ok} (pc : s.persister = .marked uuid bytes ack true) :
      PersisterMove s ok
        { s.publish ⟨some uuid, .resumeDataSaved⟩ with persister := .published ack true }
  | publishFailed {uuid bytes ack ok} (pc : s.persister = .marked uuid bytes ack false) :
      PersisterMove s ok
        { s.publish ⟨some uuid, .resumeDataFailed⟩ with persister := .published ack false }
  | dec {ack done ok} (pc : s.persister = .published ack done) :
      PersisterMove s ok { s.dec with persister := .released ack done }
  | unheard {done ok} (pc : s.persister = .released none done) :
      PersisterMove s ok { s with persister := .idle }
  | acknowledge {call done ok} (pc : s.persister = .released (some call) done) :
      PersisterMove s ok
        { s with acks := Function.update s.acks call (some done), persister := .idle }

theorem persisterStep_move {ok : Bool} (h : persisterStep s ok = some s') :
    PersisterMove s ok s' := by
  cases pc : s.persister with
  | idle =>
    cases queue : s.queue with
    | nil => simp [persisterStep, pc, queue] at h
    | cons op rest =>
      simp only [persisterStep, pc, queue, Option.some.injEq] at h
      exact h ▸ .receive pc queue
  | execute op =>
    cases op with
    | writeResume uuid bytes ack =>
      simp only [persisterStep, pc, Option.some.injEq] at h
      cases ok with
      | true => exact h ▸ .write pc
      | false => exact h ▸ .writeFails pc
    | deleteResume uuid =>
      simp only [persisterStep, pc, Option.some.injEq] at h
      cases ok with
      | true => exact h ▸ .delete pc
      | false => exact h ▸ .deleteFails pc
    | writeSessionState bytes ack =>
      simp only [persisterStep, pc, Option.some.injEq] at h
      exact h ▸ .sessionState pc
  | wrote uuid bytes ack done =>
    simp only [persisterStep, pc, Option.some.injEq] at h
    cases done with
    | true => exact h ▸ .unmark pc
    | false => exact h ▸ .mark pc
  | marked uuid bytes ack done =>
    simp only [persisterStep, pc, Option.some.injEq] at h
    cases done with
    | true => exact h ▸ .publishSaved pc
    | false => exact h ▸ .publishFailed pc
  | published ack done =>
    simp only [persisterStep, pc, Option.some.injEq] at h
    exact h ▸ .dec pc
  | released ack done =>
    simp only [persisterStep, pc] at h
    cases ack with
    | none => simp only [Option.some.injEq] at h; exact h ▸ .unheard pc
    | some call => simp only [Option.some.injEq] at h; exact h ▸ .acknowledge pc

/-! ## The call that adds torrent `k` -/

inductive AddMove (s : Engine) (k : Nat) : Bool → AddPc → Engine → Prop where
  | added {ok} (reply : (s.session.torrents k).reply = some true) :
      AddMove s k ok .awaitAdd (s.setAdd k .readHandle)
  | refused {ok} (reply : (s.session.torrents k).reply = some false) :
      AddMove s k ok .awaitAdd (s.setAdd k (.done .refused))
  | readHandle {ok} (alive : s.session.alive k = true) :
      AddMove s k ok .readHandle (s.setAdd k .upsert)
  | expired {ok} (expired : s.session.alive k = false) :
      AddMove s k ok .readHandle (s.setAdd k .removeVanished)
  | removeVanished {ok} :
      AddMove s k ok .removeVanished
        ({ s with session := s.session.remove k }.setAdd k (.done .vanished))
  | upsert {ok} :
      AddMove s k ok .upsert
        ({ s with
            registry :=
              (s.registry.upsert (entryOf k).id (entryOf k).token (entryOf k).uuid).1 }.setAdd k
          (.serialize (s.registry.upsert (entryOf k).id (entryOf k).token (entryOf k).uuid).2))
  | serialize {entry} : AddMove s k true (.serialize entry) (s.setAdd k (.reserve entry initialRecord))
  | notSerialized {entry} :
      AddMove s k false (.serialize entry) (s.setAdd k (.unwind entry .notSerialized))
  | reserve {entry bytes ok} :
      AddMove s k ok (.reserve entry bytes)
        ({ s with inflight := s.inflight.inc }.setAdd k (.enqueue entry bytes))
  | opened {entry bytes ok} (isOpen : s.shutdown.persistOpen = true) :
      AddMove s k ok (.enqueue entry bytes) (s.setAdd k (.send entry bytes))
  | shut {entry bytes ok} (shut : s.shutdown.persistOpen = false) :
      AddMove s k ok (.enqueue entry bytes) (s.setAdd k (.release entry))
  | send {entry bytes ok} (room : s.queue.length < persistQueueCapacity) :
      AddMove s k ok (.send entry bytes)
        ((s.enqueue (.writeResume entry.uuid bytes (some k))).setAdd k (.awaitAck entry))
  | release {entry ok} :
      AddMove s k ok (.release entry) (s.dec.setAdd k (.unwind entry .shuttingDown))
  | durable {entry ok} (ack : s.acks k = some true) :
      AddMove s k ok (.awaitAck entry) (s.setAdd k (.check entry))
  | notWritten {entry ok} (ack : s.acks k = some false) :
      AddMove s k ok (.awaitAck entry) (s.setAdd k (.unwind entry .io))
  | present {entry ok} (registered : s.registry.find entry.uuid ≠ none) :
      AddMove s k ok (.check entry) (s.setAdd k (.done .ok))
  | gone {entry ok} (unregistered : s.registry.find entry.uuid = none) :
      AddMove s k ok (.check entry) (s.setAdd k (.compensate entry))
  | compensate {entry ok} (isOpen : s.shutdown.persistOpen = true) :
      AddMove s k ok (.compensate entry) (s.setAdd k (.compensateSend entry))
  | compensateShut {entry ok} (shut : s.shutdown.persistOpen = false) :
      AddMove s k ok (.compensate entry) (s.setAdd k (.done .ok))
  | compensateSend {entry ok} (room : s.queue.length < persistQueueCapacity) :
      AddMove s k ok (.compensateSend entry)
        ((s.enqueue (.deleteResume entry.uuid)).setAdd k (.done .ok))
  | unwind {entry result ok} :
      AddMove s k ok (.unwind entry result)
        ({ s with dirty := s.dirty.erase entry.uuid }.setAdd k (.unwindRegistry entry result))
  | unwindRegistry {entry result ok} :
      AddMove s k ok (.unwindRegistry entry result)
        ({ s with registry := (s.registry.removeById entry.id).1 }.setAdd k
          (.unwindFind entry result))
  | unwindShut {entry result ok} (shut : s.shutdown.sessionOpen = false) :
      AddMove s k ok (.unwindFind entry result) (s.setAdd k (.done result))
  | unwindFind {entry result torrent ok} (isOpen : s.shutdown.sessionOpen = true)
      (live : s.session.findTorrentByToken entry.token = some torrent) :
      AddMove s k ok (.unwindFind entry result) (s.setAdd k (.unwindRemove torrent result))
  | unwindGone {entry result ok} (isOpen : s.shutdown.sessionOpen = true)
      (gone : s.session.findTorrentByToken entry.token = none) :
      AddMove s k ok (.unwindFind entry result) (s.setAdd k (.done result))
  | unwindRemove {torrent result ok} :
      AddMove s k ok (.unwindRemove torrent result)
        ({ s with session := s.session.remove torrent }.setAdd k (.done result))

theorem addStep_move {k : Nat} {ok : Bool} {pc : AddPc} (h : addStep s k ok pc = some s') :
    AddMove s k ok pc s' := by
  cases pc with
  | restored | done _ | dropped => simp [addStep] at h
  | awaitAdd =>
    simp only [addStep] at h
    split at h
    case h_1 reply => cases h; exact .added reply
    case h_2 reply => cases h; exact .refused reply
    case h_3 => cases h
  | readHandle =>
    cases alive : s.session.alive k with
    | true => simp only [addStep, alive, if_true, Option.some.injEq] at h; exact h ▸ .readHandle alive
    | false => simp [addStep, alive] at h; exact h ▸ .expired alive
  | removeVanished => simp only [addStep, Option.some.injEq] at h; exact h ▸ .removeVanished
  | upsert => simp only [addStep, Option.some.injEq] at h; exact h ▸ .upsert
  | serialize entry =>
    cases ok with
    | true => simp only [addStep, if_true, Option.some.injEq] at h; exact h ▸ .serialize
    | false => simp [addStep] at h; exact h ▸ .notSerialized
  | reserve entry bytes => simp only [addStep, Option.some.injEq] at h; exact h ▸ .reserve
  | enqueue entry bytes =>
    cases isOpen : s.shutdown.persistOpen with
    | true => simp only [addStep, isOpen, if_true, Option.some.injEq] at h; exact h ▸ .opened isOpen
    | false => simp [addStep, isOpen] at h; exact h ▸ .shut isOpen
  | send entry bytes =>
    simp only [addStep, Option.ite_none_right_eq_some, Option.some.injEq] at h
    obtain ⟨room, rfl⟩ := h
    exact .send room
  | release entry => simp only [addStep, Option.some.injEq] at h; exact h ▸ .release
  | awaitAck entry =>
    simp only [addStep] at h
    split at h
    case h_1 ack => cases h; exact .durable ack
    case h_2 ack => cases h; exact .notWritten ack
    case h_3 => cases h
  | check entry =>
    cases found : s.registry.find entry.uuid with
    | none => simp only [addStep, found, Option.some.injEq] at h; exact h ▸ .gone found
    | some e =>
      simp only [addStep, found, Option.some.injEq] at h
      exact h ▸ .present (by simp [found])
  | compensate entry =>
    cases isOpen : s.shutdown.persistOpen with
    | true =>
      simp only [addStep, isOpen, if_true, Option.some.injEq] at h
      exact h ▸ .compensate isOpen
    | false => simp [addStep, isOpen] at h; exact h ▸ .compensateShut isOpen
  | compensateSend entry =>
    simp only [addStep, Option.ite_none_right_eq_some, Option.some.injEq] at h
    obtain ⟨room, rfl⟩ := h
    exact .compensateSend room
  | unwind entry result => simp only [addStep, Option.some.injEq] at h; exact h ▸ .unwind
  | unwindRegistry entry result =>
    simp only [addStep, Option.some.injEq] at h; exact h ▸ .unwindRegistry
  | unwindFind entry result =>
    cases isOpen : s.shutdown.sessionOpen with
    | false => simp [addStep, isOpen] at h; exact h ▸ .unwindShut isOpen
    | true =>
      cases found : s.session.findTorrentByToken entry.token with
      | none =>
        simp only [addStep, isOpen, found, if_true, Option.some.injEq] at h
        exact h ▸ .unwindGone isOpen found
      | some torrent =>
        simp only [addStep, isOpen, found, if_true, Option.some.injEq] at h
        exact h ▸ .unwindFind isOpen found
  | unwindRemove torrent result =>
    simp only [addStep, Option.some.injEq] at h; exact h ▸ .unwindRemove

/-! ## The other calls and the background tasks -/

inductive TaskMove (s : Engine) (i : Nat) : Task → Engine → Prop where
  | saveKnown {uuid entry} (registered : s.registry.find uuid = some entry) :
      TaskMove s i (.saveFind uuid) (s.setTask i (.saveLookup entry))
  | saveUnknown {uuid} : TaskMove s i (.saveFind uuid) (s.setTask i (.saveDone .notFound))
  | saveLive {entry k} (isOpen : s.shutdown.sessionOpen = true)
      (live : s.session.findTorrentByToken entry.token = some k) :
      TaskMove s i (.saveLookup entry) (s.setTask i (.saveSubscribe k))
  | saveGone {entry} : TaskMove s i (.saveLookup entry) (s.setTask i (.saveDone .notFound))
  | saveShut {entry} : TaskMove s i (.saveLookup entry) (s.setTask i (.saveDone .shuttingDown))
  | saveSubscribe {k} :
      TaskMove s i (.saveSubscribe k) (s.setTask i (.saveInc k s.events.length))
  | saveQuiesced {k} : TaskMove s i (.saveSubscribe k) (s.setTask i (.saveDone .shuttingDown))
  | saveInc {k cursor} :
      TaskMove s i (.saveInc k cursor)
        ({ s with inflight := s.inflight.inc }.setTask i (.savePost k cursor))
  | savePosted {k cursor} (accepted : (s.session.saveResumeData k).2 = true) :
      TaskMove s i (.savePost k cursor)
        ({ s with session := (s.session.saveResumeData k).1 }.setTask i
          (.saveWait k (s.session.torrents k).state cursor))
  | saveRefused {k cursor} (refused : (s.session.saveResumeData k).2 = false) :
      TaskMove s i (.savePost k cursor)
        ({ s with session := (s.session.saveResumeData k).1 }.setTask i .saveUndo)
  | saveUndo : TaskMove s i .saveUndo (s.dec.setTask i (.saveDone .notFound))
  | saveMatched {k posted cursor event result} (next : s.events[cursor]? = some event)
      (matched : saveMatcher (entryOf k).uuid event = some result) :
      TaskMove s i (.saveWait k posted cursor) (s.setTask i (.saveDone result))
  /-- An event that is not the save's, or a lag. -/
  | saveSkip {k posted cursor later} (forward : cursor ≤ later) :
      TaskMove s i (.saveWait k posted cursor) (s.setTask i (.saveWait k posted later))
  | saveTimeout {k posted cursor} :
      TaskMove s i (.saveWait k posted cursor) (s.setTask i (.saveDone .timeout))
  | saveCancelled {k posted cursor} :
      TaskMove s i (.saveWait k posted cursor) (s.setTask i (.saveDone .shuttingDown))
  | removeKnown {uuid entry} (registered : s.registry.find uuid = some entry) :
      TaskMove s i (.removeFind uuid) (s.setTask i (.removeLookup entry))
  | removeUnknown {uuid} : TaskMove s i (.removeFind uuid) (s.setTask i .removeDone)
  | removeLive {entry k} (isOpen : s.shutdown.sessionOpen = true)
      (live : s.session.findTorrentByToken entry.token = some k) :
      TaskMove s i (.removeLookup entry) (s.setTask i (.removePost k))
  | removeGone {entry} : TaskMove s i (.removeLookup entry) (s.setTask i .removeDone)
  | removePost {k} (running : s.shutdown.quiesce = false) :
      TaskMove s i (.removePost k)
        ({ s with session := s.session.remove k }.setTask i .removeDone)
  | removeQuiesced {k} : TaskMove s i (.removePost k) (s.setTask i .removeDone)
  | flushShut {final} : TaskMove s i (.flushList final) (s.setTask i .waitCreate)
  | flushList {final entries} (listed : entries.Perm s.registry.list) :
      TaskMove s i (.flushList final) (s.setTask i (.flushNext final entries))
  | flushEnd {final} : TaskMove s i (.flushNext final []) (s.setTask i (afterFlush final))
  | flushLive {final entry todo k} (live : s.session.findTorrentByToken entry.token = some k) :
      TaskMove s i (.flushNext final (entry :: todo))
        (s.setTask i (.flushNeed final k entry.uuid todo))
  | flushGone {final entry todo} :
      TaskMove s i (.flushNext final (entry :: todo)) (s.setTask i (.flushNext final todo))
  | flushNeed {final k uuid todo} :
      TaskMove s i (.flushNeed final k uuid todo) (s.setTask i (.flushInc final k todo))
  | flushClean {final k uuid todo} :
      TaskMove s i (.flushNeed final k uuid todo) (s.setTask i (.flushNext final todo))
  | flushInc {final k todo} :
      TaskMove s i (.flushInc final k todo)
        ({ s with inflight := s.inflight.inc }.setTask i (.flushPost final k todo))
  | flushPosted {final k todo} (accepted : (s.session.saveResumeData k).2 = true) :
      TaskMove s i (.flushPost final k todo)
        ({ s with session := (s.session.saveResumeData k).1 }.setTask i (.flushNext final todo))
  | flushRefused {final k todo} (refused : (s.session.saveResumeData k).2 = false) :
      TaskMove s i (.flushPost final k todo)
        ({ s with session := (s.session.saveResumeData k).1 }.setTask i (.flushUndo final todo))
  | flushUndo {final todo} :
      TaskMove s i (.flushUndo final todo) (s.dec.setTask i (.flushNext final todo))
  | waitCreate : TaskMove s i .waitCreate (s.setTask i (.waitLoad s.inflight.notifies))
  | waitZero {since} (zero : s.inflight.count = 0) :
      TaskMove s i (.waitLoad since) (s.setTask i .waitReturned)
  | waitPark {since} (pending : s.inflight.count ≠ 0) :
      TaskMove s i (.waitLoad since) (s.setTask i (.waitPark since))
  | waitWoken {since} (notified : since < s.inflight.notifies) :
      TaskMove s i (.waitPark since) (s.setTask i .waitCreate)
  | waitTimedOut {since} : TaskMove s i (.waitPark since) (s.setTask i .waitTimedOut)

theorem saveWait_move {i k posted cursor : Nat} {c : TaskChoice}
    (h : taskStep s i c (.saveWait k posted cursor) = some s') :
    TaskMove s i (.saveWait k posted cursor) s' := by
  cases c with
  | next =>
    simp only [taskStep] at h
    split at h
    case h_1 event next =>
      split at h
      case h_1 result matched => cases h; exact .saveMatched next matched
      case h_2 => cases h; exact .saveSkip (Nat.le_succ cursor)
    case h_2 => cases h
  | lag later =>
    simp only [taskStep, Option.ite_none_right_eq_some, Option.some.injEq] at h
    obtain ⟨⟨forward, _⟩, rfl⟩ := h
    exact .saveSkip forward
  | timeout => simp only [taskStep, Option.some.injEq] at h; exact h ▸ .saveTimeout
  | cancelled =>
    simp only [taskStep, Option.ite_none_right_eq_some, Option.some.injEq] at h
    obtain ⟨_, rfl⟩ := h
    exact .saveCancelled
  | order _ | need _ => simp [taskStep] at h

theorem taskStep_move {i : Nat} {c : TaskChoice} {task : Task}
    (h : taskStep s i c task = some s') : TaskMove s i task s' := by
  cases task with
  | saveDone _ | removeDone | waitReturned | waitTimedOut | sweepDone | dropped =>
    simp [taskStep] at h
  | saveFind uuid =>
    simp only [taskStep] at h
    split at h
    case h_1 entry registered => cases h; exact .saveKnown registered
    case h_2 => cases h; exact .saveUnknown
  | saveLookup entry =>
    cases isOpen : s.shutdown.sessionOpen with
    | false => simp [taskStep, isOpen] at h; exact h ▸ .saveShut
    | true =>
      simp only [taskStep, isOpen, if_true] at h
      split at h
      case h_1 k live => cases h; exact .saveLive isOpen live
      case h_2 => cases h; exact .saveGone
  | saveSubscribe k =>
    simp only [taskStep] at h
    split at h
    case isTrue => cases h; exact .saveQuiesced
    case isFalse => cases h; exact .saveSubscribe
  | saveInc k cursor => simp only [taskStep, Option.some.injEq] at h; exact h ▸ .saveInc
  | savePost k cursor =>
    simp only [taskStep] at h
    split at h
    case h_1 session posted =>
      cases h
      have move : TaskMove s i (.savePost k cursor) _ := .savePosted (by rw [posted])
      rwa [posted] at move
    case h_2 session posted =>
      cases h
      have move : TaskMove s i (.savePost k cursor) _ := .saveRefused (by rw [posted])
      rwa [posted] at move
  | saveUndo => simp only [taskStep, Option.some.injEq] at h; exact h ▸ .saveUndo
  | saveWait k posted cursor => exact saveWait_move h
  | removeFind uuid =>
    simp only [taskStep] at h
    split at h
    case h_1 entry registered => cases h; exact .removeKnown registered
    case h_2 => cases h; exact .removeUnknown
  | removeLookup entry =>
    cases isOpen : s.shutdown.sessionOpen with
    | false => simp [taskStep, isOpen] at h; exact h ▸ .removeGone
    | true =>
      simp only [taskStep, isOpen, if_true] at h
      split at h
      case h_1 k live => cases h; exact .removeLive isOpen live
      case h_2 => cases h; exact .removeGone
  | removePost k =>
    cases quiesce : s.shutdown.quiesce with
    | true => simp only [taskStep, quiesce, if_true, Option.some.injEq] at h; exact h ▸ .removeQuiesced
    | false => simp [taskStep, quiesce] at h; exact h ▸ .removePost quiesce
  | flushList final =>
    cases c with
    | order entries =>
      simp only [taskStep] at h
      split at h
      case isTrue => cases h; exact .flushShut
      case isFalse =>
        simp only [Option.ite_none_right_eq_some, Option.some.injEq] at h
        obtain ⟨listed, rfl⟩ := h
        exact .flushList listed
    | next | need _ | lag _ | timeout | cancelled => simp [taskStep] at h
  | flushNext final todo =>
    cases todo with
    | nil => simp only [taskStep, Option.some.injEq] at h; exact h ▸ .flushEnd
    | cons entry todo =>
      simp only [taskStep] at h
      split at h
      case h_1 k live => cases h; exact .flushLive live
      case h_2 => cases h; exact .flushGone
  | flushNeed final k uuid todo =>
    cases c with
    | need modified =>
      simp only [taskStep] at h
      split at h
      case isTrue => cases h; exact .flushNeed
      case isFalse => cases h; exact .flushClean
    | next | order _ | lag _ | timeout | cancelled => simp [taskStep] at h
  | flushInc final k todo => simp only [taskStep, Option.some.injEq] at h; exact h ▸ .flushInc
  | flushPost final k todo =>
    simp only [taskStep] at h
    split at h
    case h_1 session posted =>
      cases h
      have move : TaskMove s i (.flushPost final k todo) _ := .flushPosted (by rw [posted])
      rwa [posted] at move
    case h_2 session posted =>
      cases h
      have move : TaskMove s i (.flushPost final k todo) _ := .flushRefused (by rw [posted])
      rwa [posted] at move
  | flushUndo final todo => simp only [taskStep, Option.some.injEq] at h; exact h ▸ .flushUndo
  | waitCreate => simp only [taskStep, Option.some.injEq] at h; exact h ▸ .waitCreate
  | waitLoad since =>
    simp only [taskStep] at h
    split at h
    case isTrue zero => cases h; exact .waitZero zero
    case isFalse pending => cases h; exact .waitPark pending
  | waitPark since =>
    cases c with
    | next =>
      simp only [taskStep, Option.ite_none_right_eq_some, Option.some.injEq] at h
      obtain ⟨notified, rfl⟩ := h
      exact .waitWoken notified
    | timeout => simp only [taskStep, Option.some.injEq] at h; exact h ▸ .waitTimedOut
    | order _ | need _ | lag _ | cancelled => simp [taskStep] at h

/-! ## libtorrent -/

inductive SessionMove (s : Session) : Session → Prop where
  | attach {k ok} (posted : (s.torrents k).phase = .posted) :
      SessionMove s
        ((s.modify k fun t => { t with phase := if ok then .attached else .rejected }).post
          (.addTorrent k ok))
  | mutate {k} (attached : (s.torrents k).phase = .attached) :
      SessionMove s (s.modify k fun t => { t with state := t.state + 1 })
  | emit {kind k} (attached : (s.torrents k).phase = .attached) :
      SessionMove s (s.post (.trigger kind k))
  | answer {k} (pending : k ∈ s.saves) :
      SessionMove s
        (({ s with saves := s.saves.erase k }.modify k fun t =>
          { t with latest := ⟨t.state, t.latest.seq + 1⟩ }).post
            (.saveResumeData k ⟨(s.torrents k).state, (s.torrents k).latest.seq + 1⟩))
  | answerFailed {k} (pending : k ∈ s.saves) :
      SessionMove s ({ s with saves := s.saves.erase k }.post (.saveResumeDataFailed k))
  | perform {k} (pending : k ∈ s.removes) (alive : s.alive k = true) :
      SessionMove s
        (({ s with removes := s.removes.erase k }.modify k fun t =>
          { t with phase := .removed }).post (.torrentRemoved k))
  | performGone {k} (pending : k ∈ s.removes) (gone : s.alive k = false) :
      SessionMove s { s with removes := s.removes.erase k }
  | expire {k} (removed : (s.torrents k).phase = .removed) :
      SessionMove s (s.modify k fun t => { t with phase := .expired })

theorem sessionStep_move {s s' : Session} {a : SessionAction} (h : s.step a = some s') :
    SessionMove s s' := by
  cases a with
  | attach k ok =>
    simp only [Session.step, Session.attach, Option.ite_none_right_eq_some, Option.some.injEq] at h
    obtain ⟨posted, rfl⟩ := h
    exact .attach posted
  | mutate k =>
    simp only [Session.step, Session.mutate, Option.ite_none_right_eq_some, Option.some.injEq] at h
    obtain ⟨attached, rfl⟩ := h
    exact .mutate attached
  | emit kind k =>
    simp only [Session.step, Session.emit, Option.ite_none_right_eq_some, Option.some.injEq] at h
    obtain ⟨attached, rfl⟩ := h
    exact .emit attached
  | answer k ok =>
    simp only [Session.step, Session.answer, Option.ite_none_right_eq_some] at h
    obtain ⟨pending, h⟩ := h
    cases ok with
    | true =>
      simp only [if_true, Option.some.injEq] at h
      exact h ▸ .answer pending
    | false =>
      simp only [Bool.false_eq_true, if_false, Option.some.injEq] at h
      exact h ▸ .answerFailed pending
  | perform k =>
    simp only [Session.step, Session.perform, Option.ite_none_right_eq_some] at h
    obtain ⟨pending, h⟩ := h
    cases alive : s.alive k with
    | true =>
      simp only [alive, if_true, Option.some.injEq] at h
      exact h ▸ .perform pending alive
    | false =>
      simp only [alive, Bool.false_eq_true, if_false, Option.some.injEq] at h
      exact h ▸ .performGone pending alive
  | expire k =>
    simp only [Session.step, Session.expire, Option.ite_none_right_eq_some, Option.some.injEq] at h
    obtain ⟨removed, rfl⟩ := h
    exact .expire removed

/-! ## The engine -/

inductive Move (s : Engine) : Action → Engine → Prop where
  | session {a session} (move : SessionMove s.session session) :
      Move s (.session a) { s with session }
  | pump {c s'} (move : PumpMove s s') (running : s.shutdown.persistOpen = true) :
      Move s (.pump c) s'
  | persister {ok s'} (move : PersisterMove s ok s') : Move s (.persister ok) s'
  | add {k ok pc s'} (call : s.adds[k]? = some pc) (move : AddMove s k ok pc s') :
      Move s (.add k ok) s'
  | task {i c task s'} (call : s.tasks[i]? = some task) (move : TaskMove s i task s') :
      Move s (.task i c) s'
  | notify (pending : s.inflight.notifying ≠ 0) :
      Move s .notify
        { s with
          inflight :=
            { s.inflight with
              notifying := s.inflight.notifying - 1
              notifies := s.inflight.notifies + 1 } }
  | startAdd {accepted} (isOpen : s.shutdown.sessionOpen = true) :
      Move s (.startAdd accepted)
        { s with
          session := s.session.addTorrent accepted
          adds := s.adds ++ [if accepted then .awaitAdd else .done .refused] }
  | startTask {task} (initial : task.initial = true) :
      Move s (.startTask task) { s with tasks := s.tasks ++ [task] }
  | sendSessionState (isOpen : s.shutdown.persistOpen = true)
      (room : s.queue.length < persistQueueCapacity) :
      Move s .sendSessionState (s.enqueue (.writeSessionState () none))
  | quiesce (running : s.shutdown = .running) :
      Move s .shutdown { s with shutdown := .quiescing }
  | takeSession (quiescing : s.shutdown = .quiescing) :
      Move s .shutdown { s with shutdown := .sessionTaken }
  | takePersist (taken : s.shutdown = .sessionTaken) (stopped : s.pump.pc.selecting = true) :
      Move s .shutdown { s with shutdown := .persistTaken }
  | close (taken : s.shutdown = .persistTaken) (released : s.released = true) :
      Move s .shutdown { s with shutdown := .closed, session := s.session.close }
  | abortPump {op rest} (taken : s.shutdown = .sessionTaken) (pc : s.pump.pc = .send)
      (ops : s.pump.ops = op :: rest) : Move s .abortPump s.abortPump
  | dropAdd {k pc} (call : s.adds[k]? = some pc) (awaits : pc.awaits = true) :
      Move s (.dropAdd k) (s.setAdd k .dropped)
  | dropTask {i task} (call : s.tasks[i]? = some task) (awaits : task.awaits = true) :
      Move s (.dropTask i) (s.setTask i .dropped)

/-- Every step of the engine is one of its moves. -/
theorem step_move {a : Action} (h : s.step a = some s') : s.fatal = false ∧ Move s a s' := by
  rw [Engine.step.eq_def, Option.ite_none_left_eq_some] at h
  obtain ⟨alive, h⟩ := h
  refine ⟨by simpa using alive, ?_⟩
  cases a with
  | session a =>
    obtain ⟨session, stepped, rfl⟩ := Option.map_eq_some_iff.mp h
    exact .session (sessionStep_move stepped)
  | pump c =>
    simp only [Option.ite_none_right_eq_some] at h
    exact .pump (pumpStep_move h.2) h.1
  | persister ok => exact .persister (persisterStep_move h)
  | add k ok =>
    obtain ⟨pc, call, stepped⟩ := Option.bind_eq_some_iff.mp h
    exact .add call (addStep_move stepped)
  | task i c =>
    obtain ⟨task, call, stepped⟩ := Option.bind_eq_some_iff.mp h
    exact .task call (taskStep_move stepped)
  | notify =>
    obtain ⟨inflight, notified, rfl⟩ := Option.map_eq_some_iff.mp h
    simp only [Inflight.notifyWaiters, Option.ite_none_left_eq_some, Option.some.injEq] at notified
    obtain ⟨pending, rfl⟩ := notified
    exact .notify pending
  | startAdd accepted =>
    simp only [Option.ite_none_right_eq_some, Option.some.injEq] at h
    obtain ⟨isOpen, rfl⟩ := h
    exact .startAdd isOpen
  | startTask task =>
    simp only [Option.ite_none_right_eq_some, Option.some.injEq] at h
    obtain ⟨initial, rfl⟩ := h
    exact .startTask initial
  | sendSessionState =>
    simp only [Option.ite_none_right_eq_some, Option.some.injEq, Bool.and_eq_true,
      decide_eq_true_eq] at h
    obtain ⟨⟨isOpen, room⟩, rfl⟩ := h
    exact .sendSessionState isOpen room
  | shutdown =>
    simp only [shutdownStep] at h
    split at h
    case h_1 running => cases h; exact .quiesce running
    case h_2 quiescing => cases h; exact .takeSession quiescing
    case h_3 taken =>
      simp only [Option.ite_none_right_eq_some, Option.some.injEq] at h
      obtain ⟨stopped, rfl⟩ := h
      exact .takePersist taken stopped
    case h_4 taken =>
      simp only [Option.ite_none_right_eq_some, Option.some.injEq] at h
      obtain ⟨released, rfl⟩ := h
      exact .close taken released
    case h_5 => cases h
  | abortPump =>
    simp only [abortPumpStep] at h
    split at h
    case h_1 taken pc ops => cases h; exact .abortPump taken pc ops
    case h_2 => cases h
  | dropAdd k =>
    obtain ⟨pc, call, h⟩ := Option.bind_eq_some_iff.mp h
    simp only [Option.ite_none_right_eq_some, Option.some.injEq] at h
    obtain ⟨awaits, rfl⟩ := h
    exact .dropAdd call awaits
  | dropTask i =>
    obtain ⟨task, call, h⟩ := Option.bind_eq_some_iff.mp h
    simp only [Option.ite_none_right_eq_some, Option.some.injEq] at h
    obtain ⟨awaits, rfl⟩ := h
    exact .dropTask call awaits

end Rsbtd
