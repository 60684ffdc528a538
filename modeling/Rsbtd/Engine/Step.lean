import Mathlib.Data.List.Perm.Basic
import Mathlib.Data.Finset.Dedup
import Rsbtd.Engine.State
import Rsbtd.Transition.Runs

/-!
# One step of the engine

`Engine.step s a` is the atomic step `a` of one task, or `none` when `a` is not
enabled in `s`.  The program counter of the task decides which call is made;
the action only resolves what the code cannot: the outcome of serializations
and writes, the order of a hash map's elements, which arm a `select!` takes,
whether libtorrent wants a save, and when a caller drops a future.
-/

namespace Rsbtd

open Transition (Run)

/-! ## The alert pump (`pump.rs`) -/

inductive PumpChoice where
  /-- The only way on from most program counters; a successful serialization. -/
  | next
  | fail
  /-- `select!` takes the `next_batch` arm. -/
  | batch
  /-- `select!` takes the retry arm. -/
  | retry
  /-- The order of `dirty.snapshot()` and the value of `persist.capacity()`. -/
  | snapshot (uuids : List Uuid) (budget : Nat)

/-- Where `handle_alert` goes on once `torrent_of` has returned `torrent`. -/
def afterTorrentOf : Alert → Option Uuid → PumpPc
  | .trigger .torrentFinished _, some uuid => .requestSave uuid ⟨some uuid, .torrentFinished⟩
  | .trigger .torrentFinished _, none => .dispatch
  | .trigger .storageMoved _, some uuid => .requestSave uuid ⟨some uuid, .storageMoved⟩
  | .trigger .storageMoved _, none => .publish ⟨none, .storageMoved⟩
  | .saveResumeData _ bytes, some uuid => .saveFind uuid bytes
  | .saveResumeData _ _, none => .saveDrop none
  | .saveResumeDataFailed _, torrent => .publish ⟨torrent, .resumeDataFailed⟩
  | _, _ => .dispatch

/-- The start of `handle_alert`. -/
def beginAlert (s : Engine) : Alert → Engine
  | .addTorrent _ false => s.goto .dispatch
  | .addTorrent k true => s.goto (.addTorrent k)
  | .torrentRemoved k =>
    let (registry, removed) := s.registry.removeByToken (entryOf k).token
    match removed with
    | some entry => { s with registry }.goto (.torrentRemoved entry)
    -- never registered, e.g. an unwound failed add
    | none => { s with registry }.goto (.publish ⟨none, .torrentRemoved⟩)
  | .trigger .metadataReceived k => s.goto (.metadataReceived k)
  | .saveResumeDataFailed k => s.goto (.saveFailed k)
  | alert => s.goto (.torrentOf alert)

def pumpStep (s : Engine) (c : PumpChoice) : Option Engine :=
  match s.pump.pc with
  | .select =>
    match c with
    | .batch =>
      if s.session.alerts = [] then none
      else some
        { s with
          session := { s.session with alerts := [] }
          pump := { s.pump with pc := .process s.session.alerts, todo := s.session.alerts } }
    | .retry => if s.dirty = ∅ then none else some (s.goto .retry)
    | _ => none
  | .process [] => some (s.goto .dispatch)
  | .process (alert :: rest) =>
    some ({ s with session := s.session.process alert }.goto (.process rest))
  | .dispatch =>
    match s.pump.todo with
    | [] => some (s.goto .send)
    | alert :: rest => some (beginAlert (s.take alert rest) alert)
  | .addTorrent k =>
    match s.session.clientDataUuid k with
    | some _ => some (s.goto (.addTorrentUpsert k))
    | none => some (s.goto .dispatch)
  | .addTorrentUpsert k =>
    let (registry, entry) := s.registry.upsert (entryOf k).id (entryOf k).token (entryOf k).uuid
    some ({ s with registry }.goto (.publish ⟨some entry.uuid, .torrentAdded⟩))
  | .torrentRemoved entry =>
    some ({ s with dirty := s.dirty.erase entry.uuid }.push (.deleteResume entry.uuid)
      (.publish ⟨some entry.uuid, .torrentRemoved⟩))
  | .torrentOf alert =>
    if s.session.handleId alert.torrent = 0 then some (s.goto (afterTorrentOf alert none))
    else some (s.goto (.torrentOfGet alert (s.session.handleId alert.torrent)))
  | .torrentOfGet alert id =>
    match s.registry.get id with
    | some entry => some (s.goto (afterTorrentOf alert (some entry.uuid)))
    | none => some (s.goto (.torrentOfData alert))
  | .torrentOfData alert =>
    some (s.goto (afterTorrentOf alert (s.session.clientDataUuid alert.torrent)))
  | .metadataReceived k => some (s.goto (.metadataReceivedGet (s.session.handleId k)))
  | .metadataReceivedGet id =>
    match s.registry.get id with
    | some entry => some (s.goto (.requestSave entry.uuid ⟨some entry.uuid, .metadataReceived⟩))
    | none => some (s.goto .dispatch)
  | .saveFind uuid bytes =>
    match s.registry.find uuid with
    | some _ => some (s.goto (.saveSerialize uuid bytes))
    | none => some (s.goto (.saveDrop none))
  | .saveSerialize uuid bytes =>
    match c with
    | .next => some (s.push (.writeResume uuid bytes none) .dispatch)
    | .fail => some (s.goto (.saveDrop (some ⟨some uuid, .resumeDataFailed⟩)))
    | _ => none
  | .saveDrop none => some (s.dec.goto .dispatch)
  | .saveDrop (some event) => some (s.dec.goto (.publish event))
  | .saveFailed k => some (s.dec.goto (.torrentOf (.saveResumeDataFailed k)))
  | .requestSave uuid event =>
    if s.shutdown.quiesce then some (s.goto (.publish event))
    else some (s.goto (.requestFind uuid event))
  | .requestFind uuid event =>
    match s.registry.find uuid with
    | some entry => some (s.goto (.requestLookup entry event))
    | none => some (s.goto (.publish event))
  | .requestLookup entry event =>
    match s.session.findTorrentByToken entry.token with
    | some k => some (s.goto (.requestInc k event))
    | none => some (s.goto (.publish event))
  | .requestInc k event =>
    some ({ s with inflight := s.inflight.inc }.goto (.requestPost k event))
  | .requestPost k event =>
    match s.session.saveResumeData k with
    | (session, true) => some ({ s with session }.goto (.publish event))
    | (session, false) => some ({ s with session }.goto (.requestUndo event))
  | .requestUndo event => some (s.dec.goto (.publish event))
  | .publish event => some ((s.publish event).goto .dispatch)
  | .send =>
    match s.pump.ops with
    | [] => some (s.goto .select)
    | op :: rest =>
      if s.queue.length < persistQueueCapacity then some (s.sendOp op rest) else none
  | .retry =>
    if s.shutdown.quiesce then some (s.goto .select) else some (s.goto .retrySnapshot)
  | .retrySnapshot =>
    match c with
    | .snapshot uuids budget =>
      if uuids.Nodup ∧ uuids.toFinset = s.dirty ∧
          budget ≤ persistQueueCapacity - s.queue.length then
        some (s.goto (.retryFind uuids budget))
      else none
    | _ => none
  | .retryFind [] _ => some (s.goto .select)
  | .retryFind (uuid :: uuids) budget =>
    match s.registry.find uuid with
    | some entry => some (s.goto (.retryLookup uuid entry uuids budget))
    -- removed while marked dirty
    | none => some (s.goto (.retryForget uuid uuids budget))
  | .retryForget uuid uuids budget =>
    some ({ s with dirty := s.dirty.erase uuid }.goto (.retryFind uuids budget))
  | .retryLookup uuid entry uuids budget =>
    match s.session.findTorrentByToken entry.token with
    | some k =>
      if budget = 0 then some (s.goto .select)
      else some (s.goto (.retryInc k uuid uuids (budget - 1)))
    -- left the session while marked dirty
    | none => some (s.goto (.retryForget uuid uuids budget))
  | .retryInc k uuid uuids budget =>
    some ({ s with inflight := s.inflight.inc }.goto (.retryPost k uuid uuids budget))
  | .retryPost k uuid uuids budget =>
    match s.session.saveResumeData k with
    | (session, true) => some ({ s with session }.goto (.retryFind uuids budget))
    | (session, false) => some ({ s with session }.goto (.retryUndo uuid uuids budget))
  | .retryUndo uuid uuids budget => some (s.dec.goto (.retryForget uuid uuids budget))

/-! ## The persister (`persist.rs`) -/

/-- One step of `run_persister`; `ok` is the outcome of a file operation. -/
def persisterStep (s : Engine) (ok : Bool) : Option Engine :=
  match s.persister with
  | .idle =>
    match s.queue with
    | [] => none
    | op :: rest => some { s with queue := rest, persister := .execute op }
  | .execute (.writeResume uuid bytes ack) =>
    -- `write_atomic` replaces the file or leaves it as it was
    some
      { s with
        disk := if ok then Function.update s.disk uuid (some bytes) else s.disk
        persister := .wrote uuid bytes ack ok }
  | .execute (.deleteResume uuid) =>
    some
      { s with
        disk := if ok then Function.update s.disk uuid none else s.disk
        deleted := if ok then insert uuid s.deleted else s.deleted
        persister := .idle }
  | .execute (.writeSessionState _ _) => some { s with persister := .idle }
  | .wrote uuid bytes ack done =>
    some
      { s with
        dirty := if done then s.dirty.erase uuid else insert uuid s.dirty
        persister := .marked uuid bytes ack done }
  | .marked uuid _ ack done =>
    let kind : EventKind := if done then .resumeDataSaved else .resumeDataFailed
    some { s.publish ⟨some uuid, kind⟩ with persister := .published ack done }
  | .published ack done => some { s.dec with persister := .released ack done }
  | .released none _ => some { s with persister := .idle }
  | .released (some call) done =>
    some { s with acks := Function.update s.acks call (some done), persister := .idle }

/-! ## `Engine::add_torrent` -/

/-- One step of the call that adds torrent `k`; `ok` is the outcome of its
serialization. -/
def addStep (s : Engine) (k : Nat) (ok : Bool) : AddPc → Option Engine
  | .restored | .done _ | .dropped => none
  | .awaitAdd =>
    match (s.session.torrents k).reply with
    | some true => some (s.setAdd k .readHandle)
    | some false => some (s.setAdd k (.done .refused))
    | none => none
  | .readHandle =>
    if s.session.alive k then some (s.setAdd k .upsert) else some (s.setAdd k .removeVanished)
  | .removeVanished =>
    some ({ s with session := s.session.remove k }.setAdd k (.done .vanished))
  | .upsert =>
    let (registry, entry) := s.registry.upsert (entryOf k).id (entryOf k).token (entryOf k).uuid
    some ({ s with registry }.setAdd k (.serialize entry))
  | .serialize entry =>
    if ok then some (s.setAdd k (.reserve entry initialRecord))
    else some (s.setAdd k (.unwind entry .notSerialized))
  | .reserve entry bytes =>
    some ({ s with inflight := s.inflight.inc }.setAdd k (.enqueue entry bytes))
  | .enqueue entry bytes =>
    if s.shutdown.persistOpen then some (s.setAdd k (.send entry bytes))
    else some (s.setAdd k (.release entry))
  | .send entry bytes =>
    if s.queue.length < persistQueueCapacity then
      some ((s.enqueue (.writeResume entry.uuid bytes (some k))).setAdd k (.awaitAck entry))
    else none
  | .release entry => some (s.dec.setAdd k (.unwind entry .shuttingDown))
  | .awaitAck entry =>
    match s.acks k with
    | some true => some (s.setAdd k (.check entry))
    | some false => some (s.setAdd k (.unwind entry .io))
    | none => none
  | .check entry =>
    match s.registry.find entry.uuid with
    | some _ => some (s.setAdd k (.done .ok))
    | none => some (s.setAdd k (.compensate entry))
  | .compensate entry =>
    if s.shutdown.persistOpen then some (s.setAdd k (.compensateSend entry))
    else some (s.setAdd k (.done .ok))
  | .compensateSend entry =>
    if s.queue.length < persistQueueCapacity then
      some ((s.enqueue (.deleteResume entry.uuid)).setAdd k (.done .ok))
    else none
  | .unwind entry result =>
    some ({ s with dirty := s.dirty.erase entry.uuid }.setAdd k (.unwindRegistry entry result))
  | .unwindRegistry entry result =>
    some ({ s with registry := (s.registry.removeById entry.id).1 }.setAdd k
      (.unwindFind entry result))
  | .unwindFind entry result =>
    if s.shutdown.sessionOpen then
      match s.session.findTorrentByToken entry.token with
      | some torrent => some (s.setAdd k (.unwindRemove torrent result))
      | none => some (s.setAdd k (.done result))
    else some (s.setAdd k (.done result))
  | .unwindRemove torrent result =>
    some ({ s with session := s.session.remove torrent }.setAdd k (.done result))

/-- The awaits of `add_torrent`, where its caller can drop the future. -/
def AddPc.awaits : AddPc → Bool
  | .awaitAdd | .send _ _ | .awaitAck _ | .compensateSend _ => true
  | _ => false

/-! ## The other calls and the background tasks -/

inductive TaskChoice where
  | next
  /-- The order of `registry.list()`. -/
  | order (entries : List TorrentEntry)
  /-- The answer of `need_save_resume_data`. -/
  | need (modified : Bool)
  /-- The subscription lost events up to `cursor`. -/
  | lag (cursor : Nat)
  | timeout
  /-- The shutdown token is cancelled. -/
  | cancelled

/-- What `save_resume_data`'s matcher makes of an event. -/
def saveMatcher (uuid : Uuid) (event : Event) : Option SaveResult :=
  if event.torrent = some uuid then
    match event.kind with
    | .resumeDataSaved => some .ok
    | .resumeDataFailed => some .failed
    | _ => none
  else none

/-- Past the loop over the registry: `checkpoint` goes on to `wait_zero`. -/
def afterFlush : Bool → Task
  | true => .waitCreate
  | false => .sweepDone

def taskStep (s : Engine) (i : Nat) (c : TaskChoice) : Task → Option Engine
  | .saveDone _ | .removeDone | .waitReturned | .waitTimedOut | .sweepDone | .dropped => none
  | .saveFind uuid =>
    match s.registry.find uuid with
    | some entry => some (s.setTask i (.saveLookup entry))
    | none => some (s.setTask i (.saveDone .notFound))
  | .saveLookup entry =>
    if s.shutdown.sessionOpen then
      match s.session.findTorrentByToken entry.token with
      | some k => some (s.setTask i (.saveSubscribe k))
      | none => some (s.setTask i (.saveDone .notFound))
    else some (s.setTask i (.saveDone .shuttingDown))
  | .saveSubscribe k =>
    if s.shutdown.quiesce then some (s.setTask i (.saveDone .shuttingDown))
    else some (s.setTask i (.saveInc k s.events.length))
  | .saveInc k cursor =>
    some ({ s with inflight := s.inflight.inc }.setTask i (.savePost k cursor))
  | .savePost k cursor =>
    match s.session.saveResumeData k with
    | (session, true) =>
      some ({ s with session }.setTask i (.saveWait k (s.session.torrents k).state cursor))
    | (session, false) => some ({ s with session }.setTask i .saveUndo)
  | .saveUndo => some (s.dec.setTask i (.saveDone .notFound))
  | .saveWait k posted cursor =>
    match c with
    | .next =>
      match s.events[cursor]? with
      | some event =>
        match saveMatcher (entryOf k).uuid event with
        | some result => some (s.setTask i (.saveDone result))
        | none => some (s.setTask i (.saveWait k posted (cursor + 1)))
      | none => none
    | .lag later =>
      if cursor ≤ later ∧ later ≤ s.events.length then
        some (s.setTask i (.saveWait k posted later))
      else none
    | .timeout => some (s.setTask i (.saveDone .timeout))
    | .cancelled =>
      if s.shutdown.quiesce then some (s.setTask i (.saveDone .shuttingDown)) else none
    | _ => none
  | .removeFind uuid =>
    match s.registry.find uuid with
    | some entry => some (s.setTask i (.removeLookup entry))
    | none => some (s.setTask i .removeDone)
  | .removeLookup entry =>
    if s.shutdown.sessionOpen then
      match s.session.findTorrentByToken entry.token with
      | some k => some (s.setTask i (.removePost k))
      | none => some (s.setTask i .removeDone)
    else some (s.setTask i .removeDone)
  | .removePost k =>
    -- the wait for the removal's event changes nothing
    if s.shutdown.quiesce then some (s.setTask i .removeDone)
    else some ({ s with session := s.session.remove k }.setTask i .removeDone)
  | .flushList final =>
    match c with
    | .order entries =>
      if final && !s.shutdown.sessionOpen then some (s.setTask i .waitCreate)
      else if entries.Perm s.registry.list then some (s.setTask i (.flushNext final entries))
      else none
    | _ => none
  | .flushNext final [] => some (s.setTask i (afterFlush final))
  | .flushNext final (entry :: todo) =>
    match s.session.findTorrentByToken entry.token with
    | some k => some (s.setTask i (.flushNeed final k entry.uuid todo))
    | none => some (s.setTask i (.flushNext final todo))
  | .flushNeed final k uuid todo =>
    match c with
    | .need modified =>
      if (modified && s.session.alive k) || (final && decide (uuid ∈ s.dirty)) then
        some (s.setTask i (.flushInc final k todo))
      else some (s.setTask i (.flushNext final todo))
    | _ => none
  | .flushInc final k todo =>
    some ({ s with inflight := s.inflight.inc }.setTask i (.flushPost final k todo))
  | .flushPost final k todo =>
    match s.session.saveResumeData k with
    | (session, true) => some ({ s with session }.setTask i (.flushNext final todo))
    | (session, false) => some ({ s with session }.setTask i (.flushUndo final todo))
  | .flushUndo final todo => some (s.dec.setTask i (.flushNext final todo))
  | .waitCreate => some (s.setTask i (.waitLoad s.inflight.notifies))
  | .waitLoad since =>
    if s.inflight.count = 0 then some (s.setTask i .waitReturned)
    else some (s.setTask i (.waitPark since))
  | .waitPark since =>
    match c with
    | .next => if since < s.inflight.notifies then some (s.setTask i .waitCreate) else none
    | .timeout => some (s.setTask i .waitTimedOut)
    | _ => none

/-- The awaits of the calls, where a caller can drop the future. -/
def Task.awaits : Task → Bool
  | .saveWait _ _ _ => true
  | _ => false

/-- Where a call, a sweep tick or a checkpoint begins. -/
def Task.initial : Task → Bool
  | .saveFind _ | .removeFind _ | .flushList _ => true
  | _ => false

/-! ## The engine -/

inductive Action where
  | session (a : SessionAction)
  | pump (c : PumpChoice)
  | persister (ok : Bool)
  | add (k : Nat) (ok : Bool)
  | task (i : Nat) (c : TaskChoice)
  /-- The second half of a `dec` that reached zero. -/
  | notify
  /-- A client calls `add_torrent`; libtorrent may refuse the post. -/
  | startAdd (accepted : Bool)
  | startTask (task : Task)
  /-- A settings write or a checkpoint enqueues a session state. -/
  | sendSessionState
  /-- The next step of `shutdown_with`. -/
  | shutdown
  /-- `shutdown_with` aborts a pump that has not stopped by the deadline. -/
  | abortPump
  | dropAdd (k : Nat)
  | dropTask (i : Nat)

/-- The call is over, or was never made. -/
def AddPc.finished : AddPc → Bool
  | .restored | .done _ | .dropped => true
  | _ => false

/-- Nothing is left that uses the session: `Session::close` can run. -/
def Engine.released (s : Engine) : Bool := s.adds.all AddPc.finished

def PumpPc.selecting : PumpPc → Bool
  | .select => true
  | _ => false

def shutdownStep (s : Engine) : Option Engine :=
  match s.shutdown with
  | .running => some { s with shutdown := .quiescing }
  | .quiescing => some { s with shutdown := .sessionTaken }
  | .sessionTaken =>
    -- the pump stops at its `select!`
    if s.pump.pc.selecting then some { s with shutdown := .persistTaken } else none
  | .persistTaken =>
    if s.released then some { s with shutdown := .closed, session := s.session.close } else none
  | .closed => none

/-- The abort takes effect at an await: at its `select!` the pump stops by itself,
in a persist send (queue full or not) it is dropped. -/
def abortPumpStep (s : Engine) : Option Engine :=
  match s.shutdown, s.pump.pc, s.pump.ops with
  | .sessionTaken, .send, _ :: _ => some s.abortPump
  | _, _, _ => none

def Engine.step (s : Engine) (a : Action) : Option Engine :=
  if s.fatal then none
  else match a with
    | .session a => (s.session.step a).map fun session => { s with session }
    | .pump c => if s.shutdown.persistOpen then pumpStep s c else none
    | .persister ok => persisterStep s ok
    | .add k ok => s.adds[k]?.bind (addStep s k ok)
    | .task i c => s.tasks[i]?.bind (taskStep s i c)
    | .notify => s.inflight.notifyWaiters.map fun inflight => { s with inflight }
    | .startAdd accepted =>
      if s.shutdown.sessionOpen then
        some
          { s with
            session := s.session.addTorrent accepted
            adds := s.adds ++ [if accepted then .awaitAdd else .done .refused] }
      else none
    | .startTask task =>
      if task.initial then some { s with tasks := s.tasks ++ [task] } else none
    | .sendSessionState =>
      if s.shutdown.persistOpen && decide (s.queue.length < persistQueueCapacity) then
        some (s.enqueue (.writeSessionState () none))
      else none
    | .shutdown => shutdownStep s
    | .abortPump => abortPumpStep s
    | .dropAdd k =>
      s.adds[k]?.bind fun pc => if pc.awaits then some (s.setAdd k .dropped) else none
    | .dropTask i =>
      s.tasks[i]?.bind fun task => if task.awaits then some (s.setTask i .dropped) else none

/-- A run of the engine from `Engine::start` with `restored` torrents. -/
abbrev EngineRun (ok : Engine → Action → Prop) (restored : Nat) : Engine → Prop :=
  Run Engine.step ok (Engine.start restored)

/-! ## Rest -/

def PersisterPc.waiting : PersisterPc → Bool
  | .idle => true
  | _ => false

/-- The task is over, or only waits in `wait_zero`. -/
def Task.settled : Task → Bool
  | .saveDone _ | .removeDone | .sweepDone | .dropped | .waitCreate | .waitLoad _ | .waitPark _
  | .waitReturned | .waitTimedOut => true
  | _ => false

namespace Engine

/-- No task is in the middle of anything: every operation is processed, and no
call is running. -/
structure Drained (s : Engine) : Prop where
  pump : s.pump.pc.selecting = true
  ops : s.pump.ops = []
  queue : s.queue = []
  persister : s.persister.waiting = true
  adds : s.adds.all AddPc.finished = true
  tasks : s.tasks.all Task.settled = true

/-- Drained, with every post answered and every alert handled. -/
structure Settled (s : Engine) : Prop extends Drained s where
  saves : s.session.saves = []
  alerts : s.session.alerts = []

/-- Drained, and there is no alert to handle, no removal to perform, no dirty
torrent to retry and no shutdown in progress. -/
structure Quiescent (s : Engine) : Prop extends Drained s where
  session : s.shutdown = .closed ∨
    s.session.saves = [] ∧ s.session.removes = [] ∧ s.session.alerts = []
  clean : s.dirty = ∅ ∨ s.shutdown.quiesce = true
  shutdown : s.shutdown = .running ∨ s.shutdown = .closed

theorem Drained.select {s : Engine} (drained : s.Drained) : s.pump.pc = .select := by
  have := drained.pump
  cases pc : s.pump.pc <;> simp [PumpPc.selecting, pc] at this ⊢

theorem Drained.idle {s : Engine} (drained : s.Drained) : s.persister = .idle := by
  have := drained.persister
  cases pc : s.persister <;> simp [PersisterPc.waiting, pc] at this ⊢

theorem Drained.finished {s : Engine} (drained : s.Drained) {k : Nat} {pc : AddPc}
    (call : s.adds[k]? = some pc) : pc.finished = true :=
  List.all_eq_true.mp drained.adds pc (List.mem_of_getElem? call)

instance (s : Engine) : Decidable s.Drained :=
  decidable_of_iff
    (s.pump.pc.selecting = true ∧ s.pump.ops = [] ∧ s.queue = [] ∧
      s.persister.waiting = true ∧ s.adds.all AddPc.finished = true ∧
      s.tasks.all Task.settled = true)
    ⟨fun ⟨pump, ops, queue, persister, adds, tasks⟩ => ⟨pump, ops, queue, persister, adds, tasks⟩,
      fun ⟨pump, ops, queue, persister, adds, tasks⟩ => ⟨pump, ops, queue, persister, adds, tasks⟩⟩

instance (s : Engine) : Decidable s.Settled :=
  decidable_of_iff (s.Drained ∧ s.session.saves = [] ∧ s.session.alerts = [])
    ⟨fun ⟨drained, saves, alerts⟩ => ⟨drained, saves, alerts⟩,
      fun ⟨drained, saves, alerts⟩ => ⟨drained, saves, alerts⟩⟩

instance (s : Engine) : Decidable s.Quiescent :=
  decidable_of_iff
    (s.Drained ∧ (s.shutdown = .closed ∨
        s.session.saves = [] ∧ s.session.removes = [] ∧ s.session.alerts = []) ∧
      (s.dirty = ∅ ∨ s.shutdown.quiesce = true) ∧ (s.shutdown = .running ∨ s.shutdown = .closed))
    ⟨fun ⟨drained, session, clean, shutdown⟩ => ⟨drained, session, clean, shutdown⟩,
      fun ⟨drained, session, clean, shutdown⟩ => ⟨drained, session, clean, shutdown⟩⟩

end Engine

end Rsbtd
