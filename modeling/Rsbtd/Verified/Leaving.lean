import Rsbtd.Verified.Alerts
import Rsbtd.Verified.Registered

/-!
# Leaving the session

A torrent that has left the session does not come back, and the torrent of a
failed add is on its way out: `Engine.Leaving`.
-/

namespace Rsbtd

open Transition

variable {s s' : Engine}

/-- The torrent is in the session, or going to be. -/
def Session.Holds (s : Session) (k : Nat) : Prop :=
  (s.torrents k).phase = .posted ∨ (s.torrents k).phase = .attached

/-! ## Out of the session -/

theorem Session.Ordered.not_held_of_removed {s : Session} {k : Nat} {closed : Prop}
    {stream : List Alert} (ordered : s.Ordered closed stream)
    (removed : .torrentRemoved k ∈ stream) : ¬ s.Holds k := by
  rcases (ordered.torrents k).gone removed with phase | phase <;> simp [Session.Holds, phase]

/-- The two alerts are not both answers to one add. -/
def Alert.AddsApart (a b : Alert) : Prop :=
  a.isAdd = true → b.isAdd = true → a.torrent ≠ b.torrent

instance : Std.Symm Alert.AddsApart where
  symm _ _ apart first second := (apart second first).symm

/-- libtorrent answers an add once. -/
theorem Session.Ordered.replied_once {s : Session} {k : Nat} {closed : Prop} {stream : List Alert}
    (ordered : s.Ordered closed stream) (accepted : .addTorrent k true ∈ stream) :
    .addTorrent k false ∉ stream := by
  intro refused
  have pairs : stream.Pairwise Alert.AddsApart :=
    ordered.first.imp fun first _ second => first second
  exact pairs.forall accepted refused (by simp) rfl rfl rfl

theorem Session.Ordered.process_reply {s : Session} {k : Nat} {closed : Prop}
    {stream : List Alert} (ordered : s.Ordered closed stream) {alert : Alert}
    (member : alert ∈ stream) (replied : (s.torrents k).reply = some true) :
    ((s.process alert).torrents k).reply = some true := by
  rw [Session.process.eq_def]
  split
  case h_1 j => split <;> by_cases same : k = j <;> simp [Session.modify, same, ← replied]
  case h_2 j =>
    have different : k ≠ j := by
      rintro rfl
      exact ordered.replied_once ((ordered.torrents k).replied true replied) member
    rwa [s.modify_other different]
  case h_3 j => by_cases same : k = j <;> simp [Session.modify, same, ← replied]
  all_goals exact replied

theorem SessionMove.reply {s s' : Session} (move : SessionMove s s') (k : Nat) :
    (s'.torrents k).reply = (s.torrents k).reply := by
  cases move with
  | @attach j | @mutate j | @answer j | @perform j | @expire j =>
    by_cases same : k = j <;> simp [Session.modify, Session.post, same]
  | _ => rfl

/-- A torrent that is not held does not come back. -/
theorem SessionMove.holds {s s' : Session} (move : SessionMove s s') {k : Nat}
    (holds : s'.Holds k) : s.Holds k := by
  cases move with
  | @attach j _ phase | @mutate j phase | @answer j phase | @perform j _ phase | @expire j phase =>
    by_cases same : k = j
    · subst same
      simp_all [Session.Holds, Session.post, Session.modify]
    · simpa [Session.Holds, Session.modify, Session.post, same] using holds
  | _ => exact holds

theorem PumpMove.removes_eq (move : PumpMove s s') : s'.session.removes = s.session.removes := by
  cases move <;> simp

theorem PumpMove.reply (move : PumpMove s s') (ordered : s.AlertsOrdered) {k : Nat}
    (replied : (s.session.torrents k).reply = some true) :
    (s'.session.torrents k).reply = some true := by
  cases move with
  | process pc =>
    refine ordered.session.process_reply ?_ replied
    simp [Engine.stream, Engine.taken, ordered.processing _ pc _ List.mem_cons_self]
  | _ => simpa using replied

theorem Session.close_phase (s : Session) (k : Nat) :
    (s.close.torrents k).phase = .absent ∨ (s.close.torrents k).phase = .expired := by
  simp only [Session.close]
  cases phase : (s.torrents k).phase <;> simp [phase]

/-- A step of an open session gives it a torrent only by an add. -/
theorem Move.holds_of_old {a : Action} (ordered : s.AlertsOrdered) (move : Move s a s') {k : Nat}
    (old : k < s.adds.length ∨ s.shutdown.sessionOpen = false) (held : s'.session.Holds k) :
    s.session.Holds k := by
  cases move with
  | session move => exact move.holds held
  | pump move => simpa only [Session.Holds, (move.torrent k).1] using held
  | persister move => exact move.frame.session ▸ held
  | add _ move =>
    rcases move.frame.session with same | ⟨torrent, same⟩ <;> rw [same] at held
    · exact held
    · simpa only [Session.Holds, Session.remove_torrents] using held
  | task _ move =>
    rcases move.frame.session with same | ⟨torrent, same⟩ | ⟨torrent, same⟩ <;> rw [same] at held
    · exact held
    · simpa only [Session.Holds, Session.remove_torrents] using held
    · simpa only [Session.Holds, Session.saveResumeData_torrents] using held
  | @startAdd accepted isOpen =>
    have known := old.resolve_right (by simp [isOpen])
    have different : k ≠ s.session.next := by rw [← ordered.adds]; omega
    simpa [Session.Holds, Session.addTorrent, different] using held
  | close =>
    rcases s.session.close_phase k with phase | phase <;> simp [Session.Holds, phase] at held
  | notify | startTask | sendSessionState | quiesce | takeSession | takePersist | abortPump
  | dropAdd | dropTask => exact held

/-- A torrent that the session does not hold does not come back. -/
theorem Move.holds {a : Action} (ordered : s.AlertsOrdered) (move : Move s a s') {k : Nat}
    (known : k < s.adds.length) (held : s'.session.Holds k) : s.session.Holds k :=
  move.holds_of_old ordered (.inl known) held

theorem Move.shutdown_closed {a : Action} (move : Move s a s') (closed : s'.shutdown = .closed) :
    s.shutdown = .closed ∨ s'.session = s.session.close := by
  cases move with
  | pump move => exact .inl (move.frame.shutdown ▸ closed)
  | persister move => exact .inl (move.frame.shutdown ▸ closed)
  | add _ move => exact .inl (move.frame.shutdown ▸ closed)
  | task _ move => exact .inl (move.frame.shutdown ▸ closed)
  | close => exact .inr rfl
  | quiesce | takeSession | takePersist | abortPump => cases closed
  | _ => exact .inl closed

/-- A closed session holds nothing. -/
theorem closed_run {ok : Engine → Action → Prop} {restored : Nat} (run : EngineRun ok restored s) :
    s.shutdown = .closed → ∀ k, ¬ s.session.Holds k := by
  refine run.invariant (I := fun s => s.shutdown = .closed → ∀ k, ¬ s.session.Holds k)
    (fun closed => by cases closed) fun t a u reached before _ stepped closed k held => ?_
  have move := (step_move stepped).2
  rcases move.shutdown_closed closed with already | closes
  · exact before already k
      (move.holds_of_old (ordered_run reached) (.inr (by rw [already]; rfl)) held)
  · rw [closes] at held
    rcases t.session.close_phase k with phase | phase <;> simp [Session.Holds, phase] at held

/-! ## The torrent of a failed add -/

/-- libtorrent has accepted the add, and the call has not succeeded or been dropped since. -/
def AddPc.accepted : AddPc → Bool
  | .restored | .awaitAdd | .dropped => false
  | .done result => result.failed
  | _ => true

structure Engine.Leaving (s : Engine) : Prop where
  replied : ∀ (k : Nat) (pc : AddPc), s.adds[k]? = some pc → pc.accepted = true →
    (s.session.torrents k).reply = some true
  leaving : ∀ (k : Nat) (result : AddResult), s.adds[k]? = some (.done result) →
    result.failed = true →
    k ∈ s.session.removes ∨ ¬ s.session.Holds k ∨ s.shutdown.sessionOpen = false

namespace Engine.Leaving

/-- Steps that leave the add calls alone. -/
theorem mono (leaving : s.Leaving) (adds : s'.adds = s.adds)
    (replied : ∀ k, (s.session.torrents k).reply = some true →
      (s'.session.torrents k).reply = some true)
    (removes : ∀ k ∈ s.session.removes, k < s.adds.length →
      k ∈ s'.session.removes ∨ ¬ s'.session.Holds k)
    (holds : ∀ k, k < s.adds.length → s'.session.Holds k → s.session.Holds k)
    (shut : s.shutdown.sessionOpen = false → s'.shutdown.sessionOpen = false) : s'.Leaving where
  replied k pc call accepted := replied k (leaving.replied k pc (adds ▸ call) accepted)
  leaving k result call failed := by
    rw [adds] at call
    have known := (List.getElem?_eq_some_iff.mp call).1
    rcases leaving.leaving k result call failed with pending | out | closed
    · exact (removes k pending known).imp_right .inl
    · exact .inr (.inl fun held => out (holds k known held))
    · exact .inr (.inr (shut closed))

end Engine.Leaving

theorem Session.remove_mem (s : Session) {j k : Nat} (pending : j ∈ s.removes) :
    j ∈ (s.remove k).removes := by
  rw [Session.remove]
  split
  · exact List.mem_append_left _ pending
  · exact pending

/-- A step of the call that adds torrent `k`. -/
theorem Engine.Leaving.call (leaving : s.Leaving) {k : Nat} {next : AddPc}
    (frame : AddFrame s s' k) (adds : s'.adds = s.adds.set k next)
    (replied : next.accepted = true → (s.session.torrents k).reply = some true)
    (left : ∀ result, next = .done result → result.failed = true →
      k ∈ s'.session.removes ∨ ¬ s.session.Holds k ∨ s.shutdown.sessionOpen = false) :
    s'.Leaving := by
  have torrents : s'.session.torrents = s.session.torrents := by
    rcases frame.session with same | ⟨torrent, same⟩ <;> simp [same]
  have pending : ∀ j ∈ s.session.removes, j ∈ s'.session.removes := by
    intro j member
    rcases frame.session with same | ⟨torrent, same⟩ <;> rw [same]
    · exact member
    · exact s.session.remove_mem member
  refine ⟨fun j now entry accepted => ?_, fun j result entry failed => ?_⟩
  · rw [torrents]
    rcases get_set (adds ▸ entry) with ⟨rfl, rfl⟩ | ⟨_, old⟩
    · exact replied accepted
    · exact leaving.replied j now old accepted
  · rw [Session.Holds, torrents, frame.shutdown]
    rcases get_set (adds ▸ entry) with ⟨rfl, same⟩ | ⟨_, old⟩
    · exact left result same.symm failed
    · exact (leaving.leaving j result old failed).imp_left (pending j)

theorem AddMove.leaving {k : Nat} {ok : Bool} {pc : AddPc} (registered : s.Registered)
    (ordered : s.AlertsOrdered) (call : s.adds[k]? = some pc) (move : AddMove s k ok pc s')
    (leaving : s.Leaving) : s'.Leaving := by
  have about := registered.calls k pc call
  have frame := move.frame
  have mine : pc.accepted = true → (s.session.torrents k).reply = some true :=
    leaving.replied k pc call
  have order := ordered.session.torrents k
  cases move with
  | added reply => exact leaving.call frame rfl (fun _ => reply) (by simp)
  | refused => exact leaving.call frame rfl (fun h => by cases h) (by rintro _ ⟨⟩ ⟨⟩)
  | removeVanished | present | compensateShut | compensateSend =>
    exact leaving.call frame rfl (fun _ => mine rfl) (by rintro _ ⟨⟩ ⟨⟩)
  | unwindShut shut =>
    exact leaving.call frame rfl (fun _ => mine rfl) (fun _ _ _ => .inr (.inr shut))
  | @unwindGone entry result ok isOpen gone =>
    obtain rfl : entry = entryOf k := about.1
    refine leaving.call frame rfl (fun _ => mine rfl) (fun _ _ _ => .inr ?_)
    have unhandled : (s.session.torrents k).handle = false := by
      simpa [Session.findTorrentByToken, entryOf] using gone
    rcases order.handled (mine rfl) with live | removed | closed
    · rw [unhandled] at live; cases live
    · exact .inl (ordered.session.not_held_of_removed removed)
    · exact .inr (by rw [closed]; rfl)
  | @unwindRemove torrent result =>
    obtain rfl : torrent = k := about.1
    refine leaving.call frame rfl (fun _ => mine rfl) (fun _ _ _ => ?_)
    show torrent ∈ (s.session.remove torrent).removes ∨ _
    rw [Session.remove]
    split
    case isTrue => exact .inl (by simp)
    case isFalse dead =>
      rw [Session.alive_iff, not_or] at dead
      have decided := order.decided _ (order.replied true (mine rfl)) rfl
      exact .inr (.inl fun held => held.elim decided.2 dead.1)
  | @release entry =>
    have released : (s.dec.setAdd k (.unwind entry .shuttingDown)).adds =
      s.adds.set k (.unwind entry .shuttingDown) := by simp
    exact leaving.call frame released (fun _ => mine rfl) (by simp)
  | _ => exact leaving.call frame rfl (fun _ => mine rfl) (by simp)

theorem SessionMove.removes {s s' : Session} {closed : Prop} {stream : List Alert}
    (ordered : s.Ordered closed stream) (move : SessionMove s s') {j : Nat}
    (pending : j ∈ s.removes) : j ∈ s'.removes ∨ ¬ s'.Holds j := by
  cases move with
  | @perform k =>
    by_cases same : j = k
    · subst same
      exact .inr (by simp [Session.Holds, Session.post, Session.modify])
    · exact .inl ((List.mem_erase_of_ne same).mpr pending)
  | @performGone k _ dead =>
    by_cases same : j = k
    · subst same
      have out : ¬ s.alive j = true := by simp [dead]
      rw [Session.alive_iff, not_or] at out
      exact .inr fun held => held.elim (ordered.removes j pending).2 out.1
    · exact .inl ((List.mem_erase_of_ne same).mpr pending)
  | _ => exact .inl pending

theorem Session.close_reply (s : Session) (k : Nat) :
    (s.close.torrents k).reply = (s.torrents k).reply := by
  simp only [Session.close]
  split <;> rfl

theorem Move.leaving {a : Action} (registered : s.Registered) (ordered : s.AlertsOrdered)
    (move : Move s a s') (leaving : s.Leaving) : s'.Leaving := by
  have holds : ∀ k, k < s.adds.length → s'.session.Holds k → s.session.Holds k :=
    fun _ => move.holds ordered
  cases move with
  | session move =>
    exact leaving.mono rfl (fun k replied => (move.reply k).trans replied)
      (fun k pending _ => move.removes ordered.session pending) holds id
  | pump move =>
    exact leaving.mono move.frame.adds (fun k => move.reply ordered)
      (fun k pending _ => .inl (move.removes_eq ▸ pending)) holds
      (fun shut => move.frame.shutdown ▸ shut)
  | persister move =>
    obtain ⟨session, adds, _, _, _, shutdown⟩ := move.frame
    exact leaving.mono adds (fun _ => session ▸ id) (fun _ pending _ => .inl (session ▸ pending))
      holds (fun shut => shutdown ▸ shut)
  | add call move => exact move.leaving registered ordered call leaving
  | task call move =>
    have frame := move.frame
    have torrents : s'.session.torrents = s.session.torrents := by
      rcases frame.session with same | ⟨torrent, same⟩ | ⟨torrent, same⟩ <;> simp [same]
    refine leaving.mono frame.adds (fun _ => torrents ▸ id) (fun k pending _ => .inl ?_) holds
      (fun shut => frame.shutdown ▸ shut)
    rcases frame.session with same | ⟨torrent, same⟩ | ⟨torrent, same⟩ <;> rw [same]
    · exact pending
    · exact s.session.remove_mem pending
    · simpa using pending
  | @startAdd accepted =>
    have other : ∀ k, k < s.adds.length →
        (s.session.addTorrent accepted).torrents k = s.session.torrents k := by
      intro k known
      have different : k ≠ s.session.next := by rw [← ordered.adds]; omega
      simp [Session.addTorrent, different]
    refine ⟨fun k pc entry was => ?_, fun k result entry failed => ?_⟩
    · rcases get_append entry with old | ⟨_, rfl⟩
      · have known := (List.getElem?_eq_some_iff.mp old).1
        exact (congrArg _ (other k known)).trans (leaving.replied k pc old was)
      · cases accepted <;> cases was
    · rcases get_append entry with old | ⟨_, same⟩
      · have known := (List.getElem?_eq_some_iff.mp old).1
        show k ∈ s.session.removes ∨ _
        simpa only [Session.Holds, other k known] using leaving.leaving k result old failed
      · cases accepted <;> cases same
        cases failed
  | close =>
    exact leaving.mono rfl (fun k replied => (s.session.close_reply k).trans replied)
      (fun _ pending _ => .inl pending) holds (fun _ => rfl)
  | @dropAdd k pc call =>
    refine ⟨fun j now entry was => ?_, fun j result entry failed => ?_⟩
    · rcases get_set entry with ⟨_, rfl⟩ | ⟨_, old⟩
      · cases was
      · exact leaving.replied j now old was
    · rcases get_set entry with ⟨_, same⟩ | ⟨_, old⟩
      · cases same
      · exact leaving.leaving j result old failed
  | quiesce was | takeSession was | takePersist was | abortPump was =>
    exact leaving.mono rfl (fun _ => id) (fun _ pending _ => .inl pending) holds
      (by simp [was, Shutdown.sessionOpen])
  | notify | startTask | sendSessionState | dropTask =>
    exact leaving.mono rfl (fun _ => id) (fun _ pending _ => .inl pending) holds id

theorem leaving_run {ok : Engine → Action → Prop} {restored : Nat}
    (run : EngineRun ok restored s) : s.Leaving := by
  have calls : ∀ (k : Nat) (pc : AddPc), (Engine.start restored).adds[k]? = some pc →
      pc = .restored := by
    intro k pc entry
    have member := List.mem_of_getElem? entry
    rw [Engine.start] at member
    exact List.eq_of_mem_replicate member
  refine run.invariant ⟨fun k pc entry accepted => ?_, fun k result entry _ => ?_⟩
    fun _ _ _ reached leaving _ stepped =>
      (step_move stepped).2.leaving (registered_run reached) (ordered_run reached) leaving
  · rw [calls k pc entry] at accepted
    cases accepted
  · cases calls k _ entry

end Rsbtd
