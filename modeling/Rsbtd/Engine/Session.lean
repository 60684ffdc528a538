import Mathlib.Logic.Function.Basic
import Rsbtd.Engine.Registry

/-!
# The libtorrent session behind the bindings

libtorrent itself is not part of the repository.  `Session` keeps what the
engine observes of it: per add attempt the torrent's phase, the posts it has
accepted and not yet acted on, and the alert queue.  The two maps of the
bindings' request registry (`client_data`, `handles`) are the flags
`clientData` and `handle` of the torrent they belong to.

The `k`-th add attempt is numbered `k`.  Its client-data token and its torrent
id are `k + 1` (both counters start at one, zero means "expired"), and the uuid
minted for it is `k`: `entryOf` is the only entry it can be registered under.
-/

namespace Rsbtd

/-- The registry entry of the `k`-th torrent. -/
def entryOf (k : Nat) : TorrentEntry := ⟨k + 1, k + 1, k⟩

theorem distinct_entryOf : Registry.Distinct entryOf where
  uuid _ := rfl
  id u v h := by simpa [entryOf] using h
  token u v h := by simpa [entryOf] using h

/-- A serialized resume record: the torrent state it was generated from (the
number of changes applied to the torrent by then) and its place among the
records generated for the torrent, the initial one being the `0`-th. -/
structure ResumeData where
  state : Nat
  seq : Nat
deriving DecidableEq, Repr

/-- The record `Engine::add_torrent` writes from the original params. -/
def initialRecord : ResumeData := ⟨0, 0⟩

inductive Phase where
  | absent
  /-- `async_add_torrent` was posted, libtorrent has not answered. -/
  | posted
  | rejected
  | attached
  /-- Out of the session, but the torrent object is still alive. -/
  | removed
  /-- The torrent object is gone: its handles are expired. -/
  | expired
deriving DecidableEq, Repr

/-- The alerts after which the pump initiates a resume save. -/
inductive Trigger where
  | torrentFinished
  | storageMoved
  | metadataReceived
deriving DecidableEq, Repr

inductive Alert where
  | addTorrent (k : Nat) (ok : Bool)
  | torrentRemoved (k : Nat)
  | trigger (kind : Trigger) (k : Nat)
  | saveResumeData (k : Nat) (bytes : ResumeData)
  | saveResumeDataFailed (k : Nat)
deriving DecidableEq, Repr

namespace Alert

/-- The torrent an alert is about. -/
def torrent : Alert → Nat
  | addTorrent k _ | torrentRemoved k | trigger _ k | saveResumeData k _
  | saveResumeDataFailed k => k

/-- Answers to an accepted `save_resume_data` post. -/
def isSaveReply : Alert → Bool
  | saveResumeData _ _ | saveResumeDataFailed _ => true
  | _ => false

end Alert

structure Torrent where
  phase : Phase
  state : Nat
  /-- The newest record generated for the torrent. -/
  latest : ResumeData
  clientData : Bool
  handle : Bool
  /-- What the pending add future was resolved with. -/
  reply : Option Bool
deriving DecidableEq, Repr

def Torrent.absent : Torrent := ⟨.absent, 0, initialRecord, false, false, none⟩

/-- A torrent re-added by `Engine::restore`. -/
def Torrent.restored : Torrent := ⟨.attached, 0, initialRecord, true, true, some true⟩

structure Session where
  next : Nat
  torrents : Nat → Torrent
  /-- Accepted `save_resume_data` posts that are not answered yet. -/
  saves : List Nat
  /-- Posted removals that libtorrent has not performed yet. -/
  removes : List Nat
  alerts : List Alert

namespace Session

variable (s : Session)

def start (restored : Nat) : Session where
  next := restored
  torrents k := if k < restored then .restored else .absent
  saves := []
  removes := []
  alerts := []

def modify (k : Nat) (f : Torrent → Torrent) : Session :=
  { s with torrents := Function.update s.torrents k (f (s.torrents k)) }

def post (alert : Alert) : Session := { s with alerts := s.alerts ++ [alert] }

/-- The torrent object exists, so its handles are not expired. -/
def alive (k : Nat) : Bool :=
  (s.torrents k).phase = .attached || (s.torrents k).phase = .removed

/-- `TorrentHandle::id`: zero for an expired handle. -/
def handleId (k : Nat) : TorrentId := if s.alive k then (entryOf k).id else 0

/-- `TorrentHandle::client_data_as`, down to the uuid it carries. -/
def clientDataUuid (k : Nat) : Option Uuid :=
  if s.alive k && (s.torrents k).clientData then some (entryOf k).uuid else none

/-- `Session::find_torrent_by_token`, as the number of the torrent found. -/
def findTorrentByToken : Token → Option Nat
  | 0 => none
  | k + 1 => if (s.torrents k).handle then some k else none

/-- `TorrentHandle::save_resume_data`: refused by an expired handle. -/
def saveResumeData (k : Nat) : Session × Bool :=
  if s.alive k then ({ s with saves := s.saves ++ [k] }, true) else (s, false)

/-- `TorrentHandle::remove`: a no-op on an expired handle. -/
def remove (k : Nat) : Session :=
  if s.alive k then { s with removes := s.removes ++ [k] } else s

/-- `Session::add_torrent` up to its first await: the client data is stored with
the token, and reclaimed again when the post is refused. -/
def addTorrent (accepted : Bool) : Session :=
  let torrent : Torrent :=
    { Torrent.absent with
      phase := if accepted then .posted else .rejected
      clientData := accepted }
  { s with
    next := s.next + 1
    torrents := Function.update s.torrents s.next torrent }

/-- The bindings' `Registry::process` on one popped alert. -/
def process : Alert → Session
  | .addTorrent k true =>
    -- the data survives only if the torrent is attached under this token
    if s.alive k then s.modify k fun t => { t with handle := true, reply := some true }
    else s.modify k fun t => { t with clientData := false, reply := some true }
  | .addTorrent k false => s.modify k fun t => { t with clientData := false, reply := some false }
  | .torrentRemoved k => s.modify k fun t => { t with clientData := false, handle := false }
  | .trigger _ _ | .saveResumeData _ _ | .saveResumeDataFailed _ => s

@[simp] theorem modify_self (k : Nat) (f : Torrent → Torrent) :
    (s.modify k f).torrents k = f (s.torrents k) := by
  simp [modify]

theorem modify_other {j k : Nat} (other : j ≠ k) (f : Torrent → Torrent) :
    (s.modify k f).torrents j = s.torrents j := by
  simp [modify, other]

/-- Only an accepted post enters `saves`. -/
theorem saveResumeData_saves (k : Nat) :
    (s.saveResumeData k).1.saves.length = s.saves.length + (s.saveResumeData k).2.toNat ∧
      (s.saveResumeData k).1.alerts = s.alerts := by
  rw [Session.saveResumeData]
  split <;> simp

@[simp] theorem remove_saves (k : Nat) : (s.remove k).saves = s.saves := by
  rw [Session.remove]; split <;> rfl

@[simp] theorem remove_alerts (k : Nat) :
    (s.remove k).alerts = s.alerts := by
  rw [Session.remove]; split <;> rfl

@[simp] theorem remove_next (k : Nat) : (s.remove k).next = s.next := by
  rw [Session.remove]; split <;> rfl

@[simp] theorem remove_torrents (k : Nat) : (s.remove k).torrents = s.torrents := by
  rw [Session.remove]; split <;> rfl

@[simp] theorem saveResumeData_torrents (k : Nat) :
    (s.saveResumeData k).1.torrents = s.torrents := by
  rw [Session.saveResumeData]; split <;> rfl

@[simp] theorem saveResumeData_removes (k : Nat) :
    (s.saveResumeData k).1.removes = s.removes := by
  rw [Session.saveResumeData]; split <;> rfl

@[simp] theorem saveResumeData_next (k : Nat) : (s.saveResumeData k).1.next = s.next := by
  rw [Session.saveResumeData]; split <;> rfl

@[simp] theorem process_next (alert : Alert) : (s.process alert).next = s.next := by
  rw [Session.process.eq_def]
  split
  case h_1 k => split <;> rfl
  all_goals rfl

@[simp] theorem process_saves (alert : Alert) :
    (s.process alert).saves = s.saves := by
  rw [Session.process.eq_def]
  split
  case h_1 k => split <;> rfl
  all_goals rfl

@[simp] theorem process_removes (alert : Alert) :
    (s.process alert).removes = s.removes := by
  rw [Session.process.eq_def]
  split
  case h_1 k => split <;> rfl
  all_goals rfl

@[simp] theorem process_alerts (alert : Alert) :
    (s.process alert).alerts = s.alerts := by
  rw [Session.process.eq_def]
  split
  case h_1 k => split <;> rfl
  all_goals rfl

/-- The bindings touch the client data, the handle and the reply only. -/
theorem process_keeps (alert : Alert) (k : Nat) :
    ((s.process alert).torrents k).phase = (s.torrents k).phase ∧
      ((s.process alert).torrents k).state = (s.torrents k).state ∧
      ((s.process alert).torrents k).latest = (s.torrents k).latest := by
  have modified : ∀ (j : Nat) (f : Torrent → Torrent),
      (∀ t, (f t).phase = t.phase ∧ (f t).state = t.state ∧ (f t).latest = t.latest) →
      ((s.modify j f).torrents k).phase = (s.torrents k).phase ∧
        ((s.modify j f).torrents k).state = (s.torrents k).state ∧
        ((s.modify j f).torrents k).latest = (s.torrents k).latest := by
    intro j f keeps
    by_cases same : k = j
    · subst same; rw [s.modify_self]; exact keeps _
    · rw [s.modify_other same]; exact ⟨rfl, rfl, rfl⟩
  rw [Session.process.eq_def]
  split
  case h_1 j => split <;> exact modified j _ fun _ => ⟨rfl, rfl, rfl⟩
  case h_2 j => exact modified j _ fun _ => ⟨rfl, rfl, rfl⟩
  case h_3 j => exact modified j _ fun _ => ⟨rfl, rfl, rfl⟩
  all_goals exact ⟨rfl, rfl, rfl⟩

/-! ## What libtorrent does on its own -/

/-- A posted add is decided. -/
def attach (k : Nat) (ok : Bool) : Option Session :=
  if (s.torrents k).phase = .posted then
    some <| (s.modify k fun t => { t with phase := if ok then .attached else .rejected }).post
      (.addTorrent k ok)
  else none

/-- A change of the torrent's own state. -/
def mutate (k : Nat) : Option Session :=
  if (s.torrents k).phase = .attached then
    some (s.modify k fun t => { t with state := t.state + 1 })
  else none

def emit (kind : Trigger) (k : Nat) : Option Session :=
  if (s.torrents k).phase = .attached then some (s.post (.trigger kind k)) else none

/-- An accepted save is answered, with a record of the state at that time or
with a failure. -/
def answer (k : Nat) (ok : Bool) : Option Session :=
  if k ∈ s.saves then
    let rest : Session := { s with saves := s.saves.erase k }
    if ok then
      let bytes : ResumeData := ⟨(s.torrents k).state, (s.torrents k).latest.seq + 1⟩
      some ((rest.modify k fun t => { t with latest := bytes }).post (.saveResumeData k bytes))
    else some (rest.post (.saveResumeDataFailed k))
  else none

/-- A posted removal is performed, unless the torrent is gone already. -/
def perform (k : Nat) : Option Session :=
  if k ∈ s.removes then
    let rest : Session := { s with removes := s.removes.erase k }
    if s.alive k then
      some ((rest.modify k fun t => { t with phase := .removed }).post (.torrentRemoved k))
    else some rest
  else none

/-- The last owner of a removed torrent object lets go of it. -/
def expire (k : Nat) : Option Session :=
  if (s.torrents k).phase = .removed then
    some (s.modify k fun t => { t with phase := .expired })
  else none

/-- `Session::close`: every torrent object is gone. -/
def close : Session :=
  { s with
    torrents := fun k =>
      match (s.torrents k).phase with
      | .absent => s.torrents k
      | _ => { s.torrents k with phase := .expired } }

end Session

/-- A step of libtorrent's network thread. -/
inductive SessionAction where
  | attach (k : Nat) (ok : Bool)
  | mutate (k : Nat)
  | emit (kind : Trigger) (k : Nat)
  | answer (k : Nat) (ok : Bool)
  | perform (k : Nat)
  | expire (k : Nat)
deriving DecidableEq, Repr

def Session.step (s : Session) : SessionAction → Option Session
  | .attach k ok => s.attach k ok
  | .mutate k => s.mutate k
  | .emit kind k => s.emit kind k
  | .answer k ok => s.answer k ok
  | .perform k => s.perform k
  | .expire k => s.expire k

end Rsbtd
