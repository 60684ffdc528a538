import Rsbtd.Engine.Frame
import Rsbtd.Transition.Pool

/-!
# The order of alerts

`Engine.stream` is the history of the alert queue: the alerts the pump has
begun to handle, the rest of its batch, and the alerts that are still queued.
Every step leaves it as it is or appends one alert to it, so facts about the
order of alerts are facts about the session alone.

The first alert of a torrent is its `AddTorrent`, and `TorrentRemoved` is only
posted for a torrent that has left the session.
-/

namespace Rsbtd

open Transition

variable {s s' : Engine}

/-! ## Batches -/

/-- The pump is not in the middle of a batch. -/
def PumpPc.betweenBatches : PumpPc → Bool
  | .select | .send | .retry | .retrySnapshot | .retryFind _ _ | .retryForget _ _ _
  | .retryLookup _ _ _ _ | .retryInc _ _ _ _ | .retryPost _ _ _ _ | .retryUndo _ _ _ => true
  | _ => false

/-- A batch is handled to its end. -/
def Pump.BatchDone (pump : Pump) : Prop := pump.pc.betweenBatches = true → pump.todo = []

theorem afterTorrentOf_inBatch (alert : Alert) (torrent : Option Uuid) :
    (afterTorrentOf alert torrent).betweenBatches = false := by
  rcases afterTorrentOf_cases alert torrent with
    pc | ⟨_, pc⟩ | ⟨_, _, pc⟩ | ⟨_, _, _, _, _, pc⟩ | ⟨_, _, _, _, pc⟩ <;> rw [pc] <;> rfl

theorem afterTorrentOf_ne_process (alert : Alert) (torrent : Option Uuid) (rest : List Alert) :
    afterTorrentOf alert torrent ≠ .process rest := by
  rcases afterTorrentOf_cases alert torrent with
    pc | ⟨_, pc⟩ | ⟨_, _, pc⟩ | ⟨_, _, _, _, _, pc⟩ | ⟨_, _, _, _, pc⟩ <;> rw [pc] <;> simp

theorem PumpMove.endsBatch (move : PumpMove s s') (done : s.pump.BatchDone) :
    s'.pump.BatchDone := by
  cases move with
  | batchDone pc todo => exact fun _ => todo
  | ofExpired | ofRegistered | ofData =>
    intro between
    simp [afterTorrentOf_inBatch] at between
  | retry pc | retryQuiesced pc | retryRunning pc | retrySnapshot pc | retryEnd pc
  | retryKnown pc | retryUnknown pc | retryForget pc | retrySpent pc | retryLive pc
  | retryGone pc | retryInc pc | retryPosted pc | retryRefused pc | sent pc | send pc =>
    exact fun _ => done (by rw [pc]; rfl)
  | retryUndo pc =>
    intro _
    simpa using done (by rw [pc]; rfl)
  | _ => exact fun between => by cases between

theorem Move.endsBatch {a : Action} (move : Move s a s') (done : s.pump.BatchDone) :
    s'.pump.BatchDone := by
  cases move with
  | pump move => exact move.endsBatch done
  | persister move => rw [move.frame.pump]; exact done
  | add _ move => rw [move.frame.pump]; exact done
  | task _ move => rw [move.frame.pump]; exact done
  | abortPump _ pc => exact fun _ => done (by rw [pc]; rfl)
  | _ => exact done

theorem batchDone_run {ok : Engine → Action → Prop} {restored : Nat}
    (run : EngineRun ok restored s) : s.pump.BatchDone :=
  run.invariant (I := fun s => s.pump.BatchDone) (fun _ => rfl)
    fun _ _ _ _ done _ stepped => (step_move stepped).2.endsBatch done

/-! ## The history of the alert queue -/

def Alert.isAdd : Alert → Bool
  | .addTorrent _ _ => true
  | _ => false

/-- libtorrent has decided the add. -/
def Torrent.Decided (t : Torrent) : Prop := t.phase ≠ .absent ∧ t.phase ≠ .posted

def Torrent.Gone (t : Torrent) : Prop := t.phase = .removed ∨ t.phase = .expired

/-- Torrent `k` against the history of the alert queue; `closed` says that
`Session::close` has run, which ends torrents without an alert. -/
structure Torrent.Ordered (t : Torrent) (k : Nat) (closed : Prop) (stream : List Alert) :
    Prop where
  decided : ∀ alert ∈ stream, alert.torrent = k → t.Decided
  added : t.phase = .attached ∨ t.phase = .removed → .addTorrent k true ∈ stream
  accepted : .addTorrent k true ∈ stream → t.phase ≠ .rejected
  rejected : .addTorrent k false ∈ stream → t.phase = .rejected ∨ t.phase = .expired
  /-- A torrent leaves the session with a `TorrentRemoved`. -/
  left : t.Gone → .torrentRemoved k ∈ stream ∨ closed
  gone : .torrentRemoved k ∈ stream → t.Gone
  replied : ∀ ok, t.reply = some ok → .addTorrent k ok ∈ stream
  handled : t.reply = some true → t.handle = true ∨ .torrentRemoved k ∈ stream ∨ closed
  owned : t.phase = .posted ∨ t.phase = .attached → t.clientData = true

/-- The session against the history of its alerts. -/
structure Session.Ordered (s : Session) (closed : Prop) (stream : List Alert) : Prop where
  /-- Torrents are numbered in the order of their adds. -/
  fresh : ∀ k, s.next ≤ k → s.torrents k = .absent
  saves : ∀ k ∈ s.saves, (s.torrents k).Decided
  removes : ∀ k ∈ s.removes, (s.torrents k).Decided
  /-- The first alert of a torrent is its `AddTorrent`. -/
  first : stream.Pairwise fun a b => b.isAdd = true → a.torrent ≠ b.torrent
  torrents : ∀ k, (s.torrents k).Ordered k closed stream

namespace Engine

/-- The alerts the pump has taken from the queue. -/
def taken (s : Engine) : List Alert := s.pump.handled ++ s.pump.todo

/-- All alerts, oldest first. -/
def stream (s : Engine) : List Alert := s.taken ++ s.session.alerts

end Engine

namespace Torrent.Ordered

variable {t : Torrent} {k : Nat} {closed : Prop} {stream : List Alert}

/-- An alert that neither adds nor removes torrent `k`. -/
theorem append (ordered : t.Ordered k closed stream) {alert : Alert}
    (add : ∀ ok, alert ≠ .addTorrent k ok) (removed : alert ≠ .torrentRemoved k)
    (decided : alert.torrent = k → t.Decided) : t.Ordered k closed (stream ++ [alert]) := by
  have member : ∀ other, other ≠ alert → (other ∈ stream ++ [alert] ↔ other ∈ stream) := by
    intro other different
    simp [different]
  obtain ⟨old, added, accepted, rejected, left, gone, replied, handled, owned⟩ := ordered
  have adds := fun ok => member (.addTorrent k ok) (add ok).symm
  have removes := member (.torrentRemoved k) removed.symm
  refine ⟨fun other found => ?_, ?_, ?_, ?_, ?_, ?_, ?_, ?_, owned⟩
  · rcases List.mem_append.mp found with before | now
    · exact old other before
    · rw [List.mem_singleton.mp now]; exact decided
  · rwa [adds]
  · rwa [adds]
  · rwa [adds]
  · rwa [removes]
  · rwa [removes]
  · intro ok; rw [adds]; exact replied ok
  · rwa [removes]

/-- `async_add_torrent` is answered. -/
theorem attach (ordered : t.Ordered k closed stream) (posted : t.phase = .posted) (ok : Bool) :
    ({ t with phase := if ok then .attached else .rejected } : Torrent).Ordered k closed
      (stream ++ [.addTorrent k ok]) := by
  have silent : ∀ alert ∈ stream, alert.torrent ≠ k := fun alert member same =>
    (ordered.decided alert member same).2 posted
  have owned := ordered.owned (.inl posted)
  constructor
  case decided => intro _ _ _; cases ok <;> simp [Decided]
  case added => cases ok <;> simp
  case accepted =>
    intro member
    cases ok with
    | true => simp
    | false => simp at member; exact absurd rfl (silent _ member)
  case rejected =>
    intro member
    cases ok with
    | true => simp at member; exact absurd rfl (silent _ member)
    | false => simp
  case left => cases ok <;> simp [Gone]
  case gone =>
    intro member
    simp at member
    exact absurd rfl (silent _ member)
  case replied => intro ok replied; exact absurd rfl (silent _ (ordered.replied ok replied))
  case handled => intro replied; exact absurd rfl (silent _ (ordered.replied true replied))
  case owned => intro _; exact owned

/-- A removal is performed. -/
theorem perform (ordered : t.Ordered k closed stream)
    (alive : t.phase = .attached ∨ t.phase = .removed) :
    ({ t with phase := .removed } : Torrent).Ordered k closed (stream ++ [.torrentRemoved k]) := by
  have added := ordered.added alive
  constructor
  case decided => simp [Decided]
  case added => simp [added]
  case accepted => simp
  case rejected =>
    intro member
    rcases ordered.rejected (by simpa using member) with phase | phase <;>
      rcases alive with now | now <;> simp [phase] at now
  case left => simp
  case gone => simp [Gone]
  case replied => intro ok replied; simp [ordered.replied ok replied]
  case handled => simp
  case owned => simp

theorem expire (ordered : t.Ordered k closed stream) (removed : t.phase = .removed) :
    ({ t with phase := .expired } : Torrent).Ordered k closed stream where
  decided := by simp [Decided]
  added := by simp
  accepted := by simp
  rejected := by simp
  left _ := ordered.left (.inl removed)
  gone := by simp [Gone]
  replied := ordered.replied
  handled := ordered.handled
  owned := by simp

end Torrent.Ordered

namespace Session.Ordered

variable {s : Session} {k : Nat} {closed : Prop} {stream : List Alert}

theorem known (ordered : s.Ordered closed stream) (decided : (s.torrents k).Decided) :
    k < s.next := by
  by_contra late
  exact decided.1 (by rw [ordered.fresh k (by omega)]; rfl)

theorem first_append (ordered : s.Ordered closed stream) {alert : Alert}
    (first : alert.isAdd = true → ∀ other ∈ stream, other.torrent ≠ alert.torrent) :
    (stream ++ [alert]).Pairwise fun a b => b.isAdd = true → a.torrent ≠ b.torrent := by
  rw [List.pairwise_append]
  refine ⟨ordered.first, List.pairwise_singleton _ _, fun other member last is_last add => ?_⟩
  obtain rfl := List.mem_singleton.mp is_last
  exact first add other member

/-- A change of torrent `k`, with the alert posted for it if there is one. -/
theorem modify (ordered : s.Ordered closed stream) {f : Torrent → Torrent} {after : List Alert}
    (known : k < s.next) (decided : (s.torrents k).Decided → (f (s.torrents k)).Decided)
    (first : after.Pairwise fun a b => b.isAdd = true → a.torrent ≠ b.torrent)
    (self : (f (s.torrents k)).Ordered k closed after)
    (other : ∀ j, j ≠ k → (s.torrents j).Ordered j closed after) :
    (s.modify k f).Ordered closed after := by
  have decides : ∀ j, (s.torrents j).Decided → ((s.modify k f).torrents j).Decided := by
    intro j before
    by_cases same : j = k
    · subst same; rw [s.modify_self]; exact decided before
    · rwa [s.modify_other same]
  constructor
  case fresh =>
    intro j late
    have different : j ≠ k := fun same => by
      have : s.next ≤ j := late
      omega
    rw [s.modify_other different]
    exact ordered.fresh j late
  case saves => exact fun j member => decides j (ordered.saves j member)
  case removes => exact fun j member => decides j (ordered.removes j member)
  case first => exact first
  case torrents =>
    intro j
    by_cases same : j = k
    · subst same; rw [s.modify_self]; exact self
    · rw [s.modify_other same]; exact other j same

/-- Torrent `k` changes in fields that the order of alerts does not depend on. -/
theorem modify_quiet (ordered : s.Ordered closed stream) {f : Torrent → Torrent}
    (known : k < s.next) (decided : (s.torrents k).Decided → (f (s.torrents k)).Decided)
    (self : (f (s.torrents k)).Ordered k closed stream) : (s.modify k f).Ordered closed stream :=
  ordered.modify known decided ordered.first self fun j _ => ordered.torrents j

theorem other (ordered : s.Ordered closed stream) {alert : Alert} {j : Nat}
    (different : j ≠ alert.torrent) : (s.torrents j).Ordered j closed (stream ++ [alert]) :=
  (ordered.torrents j).append (fun ok same => different (by rw [same]; rfl))
    (fun same => different (by rw [same]; rfl)) (fun same => absurd same.symm different)

/-- A post that adds and removes nothing. -/
theorem post (ordered : s.Ordered closed stream) {alert : Alert} (add : alert.isAdd = false)
    (removed : ∀ k, alert ≠ .torrentRemoved k) (decided : (s.torrents alert.torrent).Decided) :
    s.Ordered closed (stream ++ [alert]) where
  fresh := ordered.fresh
  saves := ordered.saves
  removes := ordered.removes
  first := ordered.first_append (by simp [add])
  torrents k :=
    (ordered.torrents k).append (fun ok same => by rw [same] at add; cases add) (removed k)
      (fun same => same ▸ decided)

theorem of_post {taken : List Alert} {alert : Alert}
    (ordered : s.Ordered closed (taken ++ s.alerts ++ [alert])) :
    (s.post alert).Ordered closed (taken ++ (s.post alert).alerts) := by
  have appended : taken ++ (s.post alert).alerts = taken ++ s.alerts ++ [alert] := by
    simp [Session.post]
  rw [appended]
  exact ⟨ordered.fresh, ordered.saves, ordered.removes, ordered.first, ordered.torrents⟩

/-- The posts that are pending change. -/
theorem pending (ordered : s.Ordered closed stream) {saves removes : List Nat}
    (saved : ∀ k ∈ saves, (s.torrents k).Decided)
    (removed : ∀ k ∈ removes, (s.torrents k).Decided) :
    ({ s with saves, removes } : Session).Ordered closed stream :=
  ⟨ordered.fresh, saved, removed, ordered.first, ordered.torrents⟩

theorem answered (ordered : s.Ordered closed stream) (k : Nat) :
    ({ s with saves := s.saves.erase k } : Session).Ordered closed stream :=
  ordered.pending (fun j member => ordered.saves j (List.mem_of_mem_erase member)) ordered.removes

theorem performed (ordered : s.Ordered closed stream) (k : Nat) :
    ({ s with removes := s.removes.erase k } : Session).Ordered closed stream :=
  ordered.pending ordered.saves fun j member => ordered.removes j (List.mem_of_mem_erase member)

end Session.Ordered

/-- Fields that the order of alerts does not depend on. -/
theorem Torrent.Ordered.congr {t t' : Torrent} {k : Nat} {closed : Prop} {stream : List Alert}
    (ordered : t.Ordered k closed stream) (phase : t'.phase = t.phase)
    (reply : t'.reply = t.reply) (handle : t'.handle = t.handle)
    (clientData : t'.clientData = t.clientData) : t'.Ordered k closed stream := by
  obtain ⟨old, added, accepted, rejected, left, gone, replied, handled, owned⟩ := ordered
  constructor <;> simpa only [Torrent.Decided, Torrent.Gone, phase, reply, handle, clientData]

theorem Session.alive_iff {s : Session} {k : Nat} :
    s.alive k = true ↔ (s.torrents k).phase = .attached ∨ (s.torrents k).phase = .removed := by
  simp [Session.alive]

theorem Session.decided_of_alive {s : Session} {k : Nat} (alive : s.alive k = true) :
    (s.torrents k).Decided := by
  rcases Session.alive_iff.mp alive with phase | phase <;> simp [Torrent.Decided, phase]

theorem SessionMove.next {s s' : Session} (move : SessionMove s s') : s'.next = s.next := by
  cases move <;> rfl

theorem SessionMove.ordered {s s' : Session} {closed : Prop} {taken : List Alert}
    (move : SessionMove s s') (ordered : s.Ordered closed (taken ++ s.alerts)) :
    s'.Ordered closed (taken ++ s'.alerts) := by
  cases move with
  | @attach k ok posted =>
    have silent : ∀ alert ∈ taken ++ s.alerts, alert.torrent ≠ k := fun alert member same =>
      ((ordered.torrents k).decided alert member same).2 posted
    have known : k < s.next := by
      by_contra late
      rw [ordered.fresh k (by omega)] at posted
      cases posted
    refine .of_post (ordered.modify known ?_ (ordered.first_append fun _ => silent)
      ((ordered.torrents k).attach posted ok) fun j different => ordered.other different)
    cases ok <;> simp [Torrent.Decided]
  | @mutate k attached =>
    have decided : (s.torrents k).Decided := by simp [Torrent.Decided, attached]
    exact ordered.modify_quiet (ordered.known decided) id
      ((ordered.torrents k).congr rfl rfl rfl rfl)
  | emit attached =>
    exact .of_post (ordered.post rfl (by simp) (by simp [Torrent.Decided, Alert.torrent, attached]))
  | @answer k pending =>
    have decided := ordered.saves k pending
    have changed : (({ s with saves := s.saves.erase k } : Session).modify k fun t =>
        { t with latest := ⟨t.state, t.latest.seq + 1⟩ }).Ordered closed (taken ++ s.alerts) :=
      (ordered.answered k).modify_quiet (ordered.known decided) id
        ((ordered.torrents k).congr rfl rfl rfl rfl)
    exact .of_post (changed.post rfl (by simp)
      (by simpa [Alert.torrent, Torrent.Decided] using decided))
  | @answerFailed k pending =>
    exact .of_post ((ordered.answered k).post rfl (by simp) (ordered.saves k pending))
  | @perform k pending alive =>
    have decided := ordered.removes k pending
    refine .of_post ((ordered.performed k).modify (ordered.known decided) (by simp [Torrent.Decided])
      (ordered.first_append (by simp [Alert.isAdd]))
      ((ordered.torrents k).perform (Session.alive_iff.mp alive))
      fun j different => ordered.other different)
  | performGone pending gone => exact ordered.performed _
  | @expire k removed =>
    have decided : (s.torrents k).Decided := by simp [Torrent.Decided, removed]
    exact ordered.modify_quiet (ordered.known decided) (by simp [Torrent.Decided])
      ((ordered.torrents k).expire removed)

/-! ## What the engine does to the session -/

namespace Session.Ordered

variable {s : Session} {closed : Prop} {stream : List Alert}

theorem saveResumeData (ordered : s.Ordered closed stream) (k : Nat) :
    (s.saveResumeData k).1.Ordered closed stream := by
  rw [Session.saveResumeData]
  split
  case isTrue alive =>
    refine ordered.pending (fun j member => ?_) ordered.removes
    rcases List.mem_append.mp member with old | new
    · exact ordered.saves j old
    · rw [List.mem_singleton.mp new]; exact Session.decided_of_alive alive
  case isFalse => exact ordered

theorem remove (ordered : s.Ordered closed stream) (k : Nat) :
    (s.remove k).Ordered closed stream := by
  rw [Session.remove]
  split
  case isTrue alive =>
    refine ordered.pending ordered.saves fun j member => ?_
    rcases List.mem_append.mp member with old | new
    · exact ordered.removes j old
    · rw [List.mem_singleton.mp new]; exact Session.decided_of_alive alive
  case isFalse => exact ordered

theorem addTorrent (ordered : s.Ordered closed stream) (accepted : Bool) :
    (s.addTorrent accepted).Ordered closed stream := by
  have vacant : s.torrents s.next = .absent := ordered.fresh s.next (Nat.le_refl _)
  have silent : ∀ alert ∈ stream, alert.torrent ≠ s.next := fun alert member same =>
    ((ordered.torrents s.next).decided alert member same).1 (by rw [vacant]; rfl)
  have keeps : ∀ j, (s.torrents j).Decided → (s.addTorrent accepted).torrents j = s.torrents j := by
    intro j decided
    have different : j ≠ s.next := fun same => decided.1 (by rw [same, vacant]; rfl)
    simp [Session.addTorrent, different]
  constructor
  case fresh =>
    intro j late
    have different : j ≠ s.next := fun same => by
      have : s.next + 1 ≤ j := late
      omega
    simpa [Session.addTorrent, different] using ordered.fresh j (Nat.le_of_succ_le late)
  case saves =>
    intro j member
    rw [keeps j (ordered.saves j member)]
    exact ordered.saves j member
  case removes =>
    intro j member
    rw [keeps j (ordered.removes j member)]
    exact ordered.removes j member
  case first => exact ordered.first
  case torrents =>
    intro j
    by_cases same : j = s.next
    · subst same
      simp only [Session.addTorrent, Function.update_self]
      constructor
      case decided => exact fun alert member same => absurd same (silent alert member)
      case added => cases accepted <;> simp
      case accepted => exact fun member => absurd rfl (silent _ member)
      case rejected => exact fun member => absurd rfl (silent _ member)
      case left => cases accepted <;> simp [Torrent.Gone]
      case gone => exact fun member => absurd rfl (silent _ member)
      case replied => exact fun ok replied => by cases replied
      case handled => exact fun replied => by cases replied
      case owned => cases accepted <;> simp
    · simpa [Session.addTorrent, same] using ordered.torrents j

/-- The bindings process an alert of the batch. -/
theorem process (ordered : s.Ordered closed stream) {alert : Alert} (member : alert ∈ stream) :
    (s.process alert).Ordered closed stream := by
  cases alert with
  | addTorrent k ok =>
    have decided := (ordered.torrents k).decided _ member rfl
    have known := ordered.known decided
    obtain ⟨old, added, accepted, rejected, left, gone, replied, handled, owned⟩ :=
      ordered.torrents k
    cases ok with
    | true =>
      simp only [Session.process]
      split
      case isTrue alive =>
        refine ordered.modify_quiet known id
          ⟨old, added, accepted, rejected, left, gone, ?_, fun _ => .inl rfl, owned⟩
        rintro _ ⟨⟩
        exact member
      case isFalse dead =>
        rw [Session.alive_iff, not_or] at dead
        have expired : (s.torrents k).phase = .expired := by
          have notRejected := accepted member
          cases phase : (s.torrents k).phase <;> simp_all [Torrent.Decided]
        refine ordered.modify_quiet known id
          ⟨old, added, accepted, rejected, left, gone, ?_, fun _ => .inr (left (.inr expired)), ?_⟩
        · rintro _ ⟨⟩
          exact member
        · simp [expired]
    | false =>
      simp only [Session.process]
      refine ordered.modify_quiet known id
        ⟨old, added, accepted, rejected, left, gone, ?_, (by simp), ?_⟩
      · rintro _ ⟨⟩
        exact member
      · rcases rejected member with phase | phase <;> simp [phase]
  | torrentRemoved k =>
    have decided := (ordered.torrents k).decided _ member rfl
    obtain ⟨old, added, accepted, rejected, left, gone, replied, handled, owned⟩ :=
      ordered.torrents k
    simp only [Session.process]
    refine ordered.modify_quiet (ordered.known decided) id
      ⟨old, added, accepted, rejected, left, gone, replied, fun _ => .inr (.inl member), ?_⟩
    rcases gone member with phase | phase <;> simp [phase]
  | trigger | saveResumeData | saveResumeDataFailed => exact ordered

theorem close (ordered : s.Ordered closed stream) : s.close.Ordered True stream := by
  have ended : ∀ k, s.close.torrents k = s.torrents k ∧ (s.torrents k).phase = .absent ∨
      s.close.torrents k = { s.torrents k with phase := .expired } := by
    intro k
    simp only [Session.close]
    cases phase : (s.torrents k).phase <;> simp
  have decides : ∀ k, (s.torrents k).Decided → (s.close.torrents k).Decided := by
    intro k decided
    rcases ended k with ⟨_, phase⟩ | ended
    · exact absurd phase decided.1
    · simp [ended, Torrent.Decided]
  constructor
  case fresh =>
    intro k late
    have vacant := ordered.fresh k late
    simp [Session.close, vacant, Torrent.absent]
  case saves => exact fun k member => decides k (ordered.saves k member)
  case removes => exact fun k member => decides k (ordered.removes k member)
  case first => exact ordered.first
  case torrents =>
    intro k
    obtain ⟨old, added, accepted, rejected, left, gone, replied, handled, owned⟩ :=
      ordered.torrents k
    rcases ended k with ⟨same, phase⟩ | ended
    · rw [same]
      exact ⟨old, added, accepted, rejected, fun _ => .inr trivial, gone, replied,
        fun _ => .inr (.inr trivial), owned⟩
    · rw [ended]
      exact ⟨by simp [Torrent.Decided], by simp, by simp, by simp, fun _ => .inr trivial,
        by simp [Torrent.Gone], replied, fun _ => .inr (.inr trivial), by simp⟩

end Session.Ordered

theorem Session.Ordered.mono {s : Session} {closed closed' : Prop} {stream : List Alert}
    (ordered : s.Ordered closed stream) (later : closed → closed') : s.Ordered closed' stream where
  fresh := ordered.fresh
  saves := ordered.saves
  removes := ordered.removes
  first := ordered.first
  torrents k :=
    { ordered.torrents k with
      left := fun gone => ((ordered.torrents k).left gone).imp_right later
      handled := fun replied =>
        ((ordered.torrents k).handled replied).imp_right (Or.imp_right later) }

/-! ## Steps of the engine -/

/-- The alerts, the session and the add calls fit together. -/
structure Engine.AlertsOrdered (s : Engine) : Prop where
  batch : s.pump.BatchDone
  /-- The bindings process the batch that the pump is going to handle. -/
  processing : ∀ rest, s.pump.pc = .process rest → ∀ alert ∈ rest, alert ∈ s.pump.todo
  session : s.session.Ordered (s.shutdown = .closed) s.stream
  adds : s.adds.length = s.session.next

/-- The pump moves alerts through its batch; none is lost or reordered. -/
theorem PumpMove.stream (move : PumpMove s s') (done : s.pump.BatchDone) :
    s'.stream = s.stream := by
  cases move with
  | batch pc => simp [Engine.stream, Engine.taken, done (by rw [pc]; rfl)]
  | addRefused _ todo | addTorrent _ todo | removed _ todo | removedUnknown _ todo
  | metadata _ todo | trigger _ todo | saveData _ todo | saveDataFailed _ todo =>
    simp [Engine.stream, Engine.taken, todo]
  | process => simp [Engine.stream, Engine.taken, Session.process_alerts]
  | requestPosted | requestRefused | retryPosted | retryRefused =>
    simp [Engine.stream, Engine.taken, (Session.saveResumeData_saves _ _).2]
  | _ => simp [Engine.stream, Engine.taken]

theorem PumpMove.ordered {closed : Prop} (move : PumpMove s s')
    (processing : ∀ rest, s.pump.pc = .process rest → ∀ alert ∈ rest, alert ∈ s.pump.todo)
    (ordered : s.session.Ordered closed s.stream) : s'.session.Ordered closed s.stream := by
  cases move with
  | batch => exact ⟨ordered.fresh, ordered.saves, ordered.removes, ordered.first, ordered.torrents⟩
  | process pc =>
    refine ordered.process ?_
    simp [Engine.stream, Engine.taken, processing _ pc _ List.mem_cons_self]
  | requestPosted | requestRefused | retryPosted | retryRefused => exact ordered.saveResumeData _
  | dropped | droppedLoud | saveFailed | requestUndo | retryUndo => simpa using ordered
  | _ => exact ordered

theorem PumpMove.processing (move : PumpMove s s')
    (before : ∀ rest, s.pump.pc = .process rest → ∀ alert ∈ rest, alert ∈ s.pump.todo) :
    ∀ rest, s'.pump.pc = .process rest → ∀ alert ∈ rest, alert ∈ s'.pump.todo := by
  cases move with
  | batch =>
    rintro _ ⟨⟩
    exact fun _ => id
  | process pc =>
    rintro _ ⟨⟩
    exact fun alert member => before _ pc alert (List.mem_cons_of_mem _ member)
  | send pc => exact before
  | ofExpired | ofRegistered | ofData =>
    exact fun rest now => absurd now (afterTorrentOf_ne_process _ _ rest)
  | _ => exact fun rest now => by cases now

theorem Engine.AlertsOrdered.of_session (before : s.AlertsOrdered) (pump : s'.pump = s.pump)
    (adds : s'.adds.length = s'.session.next)
    (session : s'.session.Ordered (s'.shutdown = .closed) (s.taken ++ s'.session.alerts)) :
    s'.AlertsOrdered where
  batch := pump ▸ before.batch
  processing := pump ▸ before.processing
  session := by rw [stream, taken, pump]; exact session
  adds := adds

theorem PumpMove.next (move : PumpMove s s') : s'.session.next = s.session.next := by
  cases move <;> simp

theorem Move.ordered {a : Action} (move : Move s a s') (before : s.AlertsOrdered) :
    s'.AlertsOrdered := by
  have ordered := before.session
  cases move with
  | pump move =>
    refine ⟨move.endsBatch before.batch, move.processing before.processing, ?_, ?_⟩
    · rw [move.stream before.batch, move.frame.shutdown]
      exact move.ordered before.processing ordered
    · rw [move.frame.adds, move.next, before.adds]
  | persister move =>
    obtain ⟨session, adds, _, _, pump, shutdown⟩ := move.frame
    refine before.of_session pump (by rw [adds, session, before.adds]) ?_
    rw [session, shutdown]
    exact ordered
  | add call move =>
    obtain ⟨pc, adds⟩ := move.frame.call
    rcases move.frame.session with same | ⟨torrent, removed⟩
    · refine before.of_session move.frame.pump (by simp [adds, same, before.adds]) ?_
      rw [same, move.frame.shutdown]
      exact ordered
    · refine before.of_session move.frame.pump (by simp [adds, removed, before.adds]) ?_
      rw [removed, move.frame.shutdown, Session.remove_alerts]
      exact ordered.remove torrent
  | task call move =>
    have adds := move.frame.adds
    rcases move.frame.session with same | ⟨torrent, removed⟩ | ⟨torrent, posted⟩
    · refine before.of_session move.frame.pump (by simp [adds, same, before.adds]) ?_
      rw [same, move.frame.shutdown]
      exact ordered
    · refine before.of_session move.frame.pump (by simp [adds, removed, before.adds]) ?_
      rw [removed, move.frame.shutdown, Session.remove_alerts]
      exact ordered.remove torrent
    · refine before.of_session move.frame.pump (by simp [adds, posted, before.adds]) ?_
      rw [posted, move.frame.shutdown, (Session.saveResumeData_saves _ _).2]
      exact ordered.saveResumeData torrent
  | session move =>
    exact before.of_session rfl (by rw [move.next]; exact before.adds) (move.ordered ordered)
  | @startAdd accepted =>
    refine before.of_session rfl ?_ (ordered.addTorrent accepted)
    simp [Session.addTorrent, before.adds]
  | quiesce running | takeSession running | takePersist running =>
    exact before.of_session rfl before.adds (ordered.mono (by simp [running]))
  | abortPump taken pc =>
    have closes : ¬ s.shutdown = .closed := by rw [taken]; exact nofun
    exact ⟨fun _ => before.batch (by rw [pc]; rfl), nofun,
      ordered.mono fun closed => absurd closed closes, before.adds⟩
  | close => exact before.of_session rfl before.adds (ordered.close.mono fun _ => rfl)
  | dropAdd => exact before.of_session rfl (by simpa using before.adds) ordered
  | dropTask | startTask | sendSessionState | notify => exact before.of_session rfl before.adds ordered

theorem Session.ordered_start (restored : Nat) :
    (Session.start restored).Ordered False ((List.range restored).map (.addTorrent · true)) := by
  constructor
  case fresh =>
    intro k late
    have : ¬ k < restored := by simpa [Session.start] using late
    simp [Session.start, this]
  case saves => simp [Session.start]
  case removes => simp [Session.start]
  case first =>
    rw [List.pairwise_map]
    refine List.Pairwise.imp ?_ List.nodup_range
    intro a b different _
    exact different
  case torrents =>
    intro k
    by_cases known : k < restored
    · constructor <;> simp [Session.start, known, Torrent.restored, Torrent.Decided, Torrent.Gone]
    · constructor <;>
        simp [Session.start, known, Torrent.absent, Torrent.Decided, Torrent.Gone, Alert.torrent]
      omega

theorem ordered_run {ok : Engine → Action → Prop} {restored : Nat}
    (run : EngineRun ok restored s) : s.AlertsOrdered := by
  refine run.invariant ⟨fun _ => rfl, fun _ now => (by cases now), ?_, ?_⟩
    fun _ _ _ _ ordered _ stepped => (step_move stepped).2.ordered ordered
  · have start := Session.ordered_start restored
    simpa [Engine.stream, Engine.taken, Engine.start, Session.start] using
      start.mono False.elim
  · simp [Engine.start, Session.start]

/-! ## The alert the pump handles -/

/-- The pump handles the `AddTorrent` of torrent `k`. -/
def PumpPc.Adding (k : Nat) (pc : PumpPc) : Prop := pc = .addTorrent k ∨ pc = .addTorrentUpsert k

/-- While the pump handles an `AddTorrent`, the torrent's removal is not handled. -/
def Pump.AddFirst (pump : Pump) : Prop :=
  ∀ k, pump.pc.Adding k → .addTorrent k true ∈ pump.handled ∧ .torrentRemoved k ∉ pump.handled

theorem afterTorrentOf_not_adding (alert : Alert) (torrent : Option Uuid) (k : Nat) :
    ¬ (afterTorrentOf alert torrent).Adding k := by
  rcases afterTorrentOf_cases alert torrent with
    pc | ⟨_, pc⟩ | ⟨_, _, pc⟩ | ⟨_, _, _, _, _, pc⟩ | ⟨_, _, _, _, pc⟩ <;> simp [pc, PumpPc.Adding]

/-- No alert of a torrent is handled before its `AddTorrent`. -/
theorem Engine.AlertsOrdered.first (ordered : s.AlertsOrdered) {k : Nat} {ok : Bool}
    {rest : List Alert} (todo : s.pump.todo = .addTorrent k ok :: rest) :
    ∀ alert ∈ s.pump.handled, alert.torrent ≠ k := by
  intro alert member
  have pairs := ordered.session.first
  rw [stream, taken, todo, List.append_assoc] at pairs
  exact (List.pairwise_append.mp pairs).2.2 alert member (.addTorrent k ok) (by simp) rfl

theorem PumpMove.addFirst (move : PumpMove s s') (ordered : s.AlertsOrdered)
    (before : s.pump.AddFirst) : s'.pump.AddFirst := by
  cases move with
  | addTorrent pc todo =>
    rintro k (same | same) <;> cases same
    have first := ordered.first todo
    exact ⟨by simp, by simpa using fun member => first _ member rfl⟩
  | addKnown pc =>
    rintro k (same | same) <;> cases same
    exact before _ (.inl pc)
  | ofExpired | ofRegistered | ofData =>
    exact fun k adding => absurd adding (afterTorrentOf_not_adding _ _ k)
  | send pc => exact before
  | _ => rintro k (same | same) <;> cases same

theorem addFirst_run {ok : Engine → Action → Prop} {restored : Nat}
    (run : EngineRun ok restored s) : s.pump.AddFirst := by
  refine run.invariant (I := fun s => s.pump.AddFirst) ?_ fun t a u reached before _ stepped => ?_
  · rintro k (same | same) <;> cases same
  · cases (step_move stepped).2 with
    | pump move => exact move.addFirst (ordered_run reached) before
    | persister move => rw [move.frame.pump]; exact before
    | add _ move => rw [move.frame.pump]; exact before
    | task _ move => rw [move.frame.pump]; exact before
    | abortPump => rintro k (same | same) <;> cases same
    | _ => exact before

end Rsbtd
