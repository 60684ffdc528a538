import Rsbtd.Verified.Present

/-!
# Torrents the engine has registered

A torrent is known once it was registered.  It is registered from then on, until
it has left: either libtorrent has dropped it, or the call that added it has
failed and takes it back.
-/

namespace Rsbtd

open Transition

variable {s s' : Engine} {k : Nat}

/-- The call has failed: `unwind_failed_add` takes its torrent back. -/
def AddPc.failing : AddPc → Bool
  | .unwind _ _ | .unwindRegistry _ _ | .unwindFind _ _ | .unwindRemove _ _ => true
  | .done result => result.failed
  | _ => false

namespace Engine

/-- The torrent has left the session, or its failed add is taken back. -/
def Left (s : Engine) (k : Nat) : Prop :=
  ¬ s.session.Holds k ∨ s.adds[k]?.any AddPc.failing = true

/-- The torrent was added once, and has left. -/
def Gone (s : Engine) (k : Nat) : Prop := k < s.adds.length ∧ s.Left k

/-- The torrent was registered once. -/
def Known (s : Engine) (k : Nat) : Prop := s.Gone k ∨ s.registry.find k ≠ none

end Engine

/-! ## Torrents that have left -/

theorem AddMove.failing {ok : Bool} {pc : AddPc} (registered : s.Registered)
    (call : s.adds[k]? = some pc) (move : AddMove s k ok pc s') (failing : pc.failing = true) :
    s'.adds[k]?.any AddPc.failing = true := by
  have about := registered.calls k pc call
  have next : ∀ now, (s.adds.set k now)[k]? = some now := get_set_self call
  cases move with
  | unwind | unwindRegistry | unwindFind => simp [next, AddPc.failing]
  | unwindShut | unwindGone | unwindRemove => simp [next, AddPc.failing, about.2]
  | _ => cases failing

theorem AddPc.not_failing_of_awaits {pc : AddPc} (awaits : pc.awaits = true) :
    pc.failing = false := by
  cases pc <;> first | rfl | cases awaits

/-- A call that has failed stays failed. -/
theorem Move.failing {a : Action} (registered : s.Registered) (move : Move s a s')
    (failing : s.adds[k]?.any AddPc.failing = true) : s'.adds[k]?.any AddPc.failing = true := by
  cases move with
  | pump move => rwa [move.frame.adds]
  | persister move => rwa [move.frame.adds]
  | task _ move => rwa [move.frame.adds]
  | @add j ok pc _ call move =>
    obtain ⟨next, adds⟩ := move.frame.call
    by_cases own : k = j
    · subst own
      rw [call] at failing
      exact move.failing registered call failing
    · rwa [adds, List.getElem?_set_ne (Ne.symm own)]
  | startAdd =>
    have known : k < s.adds.length := by
      by_contra late
      rw [List.getElem?_eq_none (Nat.le_of_not_lt late)] at failing
      cases failing
    rwa [List.getElem?_append_left known]
  | @dropAdd j pc call awaits =>
    have other : k ≠ j := by
      rintro rfl
      rw [call, Option.any_some, AddPc.not_failing_of_awaits awaits] at failing
      cases failing
    rwa [Engine.setAdd, List.getElem?_set_ne (Ne.symm other)]
  | _ => exact failing

theorem Move.left {a : Action} (registered : s.Registered) (ordered : s.AlertsOrdered)
    (move : Move s a s') (added : k < s.adds.length) (left : s.Left k) : s'.Left k :=
  left.imp (fun out held => out (move.holds ordered added held)) (move.failing registered)

theorem Move.gone {a : Action} (registered : s.Registered) (ordered : s.AlertsOrdered)
    (move : Move s a s') (gone : s.Gone k) : s'.Gone k :=
  ⟨Nat.lt_of_lt_of_le gone.1 move.adds_length, move.left registered ordered gone.1 gone.2⟩

/-- A torrent whose removal was announced has left. -/
theorem Engine.AlertsOrdered.gone (ordered : s.AlertsOrdered)
    (removed : .torrentRemoved k ∈ s.stream) : s.Gone k :=
  ⟨ordered.known ((ordered.session.torrents k).decided _ removed rfl),
    .inl (ordered.session.not_held_of_removed removed)⟩

/-! ## Torrents that are known -/

theorem PumpMove.known (registered : s.Registered) (ordered : s.AlertsOrdered)
    (move : PumpMove s s') (found : s.registry.find k ≠ none) : s'.Known k := by
  cases move.pipeline registered with
  | still registry | send _ registry | hold _ _ _ registry | discard _ _ registry =>
    exact .inr (by rwa [registry])
  | register j _ registry =>
    refine .inr ?_
    rw [registry]
    split
    · simp
    · exact found
  | remove j handled registry =>
    by_cases own : k = j
    · subst own
      have stream := Engine.handled_stream handled
      rw [move.stream ordered.batch] at stream
      have gone := ordered.gone stream
      refine .inl ⟨by rw [move.frame.adds]; exact gone.1, .inl ?_⟩
      rw [Session.Holds, (move.torrent k).1]
      exact ordered.session.not_held_of_removed stream
    · exact .inr (by rwa [registry, if_neg own])

/-- Of the call that adds a torrent, only `unwind_failed_add` unregisters it. -/
theorem AddMove.known {j : Nat} {ok : Bool} {pc : AddPc} (registered : s.Registered)
    (call : s.adds[j]? = some pc) (move : AddMove s j ok pc s')
    (found : s.registry.find k ≠ none) : s'.Known k := by
  by_cases own : k = j
  case neg => exact .inr (by rwa [(move.elsewhere registered call).registry k own])
  subst own
  cases move with
  | upsert => exact .inr (by simp [registered.upsert_find])
  | unwindRegistry =>
    refine .inl ⟨?_, .inr ?_⟩
    · simpa using (List.getElem?_eq_some_iff.mp call).1
    · simp [get_set_self call, AddPc.failing]
  | release => exact .inr (by simpa using found)
  | _ => exact .inr found

theorem Move.known {a : Action} (registered : s.Registered) (ordered : s.AlertsOrdered)
    (move : Move s a s') (known : s.Known k) : s'.Known k := by
  rcases known with gone | found
  · exact .inl (move.gone registered ordered gone)
  cases move with
  | pump move => exact move.known registered ordered found
  | add call move => exact move.known registered call found
  | persister move => exact .inr (by rwa [move.frame.registry])
  | task _ move => exact .inr (by rwa [move.frame.registry])
  | _ => exact .inr found

/-! ## Adds that were answered -/

namespace Engine

/-- The bindings have resolved the add of every `AddTorrent` that the pump has
taken, up to those it is processing. -/
def Replied (s : Engine) : Prop :=
  ∀ k, .addTorrent k true ∈ s.taken →
    (∃ rest, s.pump.pc = .process rest ∧ .addTorrent k true ∈ rest) ∨
      (s.session.torrents k).reply = some true

/-- The torrent behind an entry of the registry was added. -/
def RegistersAdded (s : Engine) : Prop :=
  ∀ k, s.registry.find k ≠ none →
    k < s.adds.length ∧ (s.session.torrents k).reply = some true

end Engine

theorem Session.process_addTorrent (s : Session) (k : Nat) :
    ((s.process (.addTorrent k true)).torrents k).reply = some true := by
  simp only [Session.process]
  split <;> simp

theorem PumpMove.replies (ordered : s.AlertsOrdered) (move : PumpMove s s')
    (replied : s.Replied) : s'.Replied := by
  intro k taken
  have carried : (∀ rest, s.pump.pc ≠ .process rest) → .addTorrent k true ∈ s.taken →
      (s'.session.torrents k).reply = some true := by
    intro idle member
    refine move.reply ordered ((replied k member).resolve_left ?_)
    rintro ⟨rest, pc, _⟩
    exact idle rest pc
  cases move with
  | batch pc =>
    rcases List.mem_append.mp taken with handled | fetched
    · exact .inr (carried (by simp [pc]) (List.mem_append_left _ handled))
    · exact .inl ⟨_, rfl, fetched⟩
  | processed pc =>
    refine (replied k taken).imp ?_ id
    rintro ⟨rest, now, member⟩
    cases pc.symm.trans now
    cases member
  | @process alert rest pc =>
    rcases replied k taken with ⟨_, now, member⟩ | done
    · cases pc.symm.trans now
      rcases List.mem_cons.mp member with rfl | later
      · exact .inr (s.session.process_addTorrent k)
      · exact .inl ⟨rest, rfl, later⟩
    · refine .inr (ordered.session.process_reply ?_ done)
      simp [Engine.stream, Engine.taken, ordered.processing _ pc _ List.mem_cons_self]
  | addRefused pc todo | addTorrent pc todo | removed pc todo | removedUnknown pc todo
  | metadata pc todo | trigger pc todo | saveData pc todo | saveDataFailed pc todo =>
    exact .inr (carried (by simp [pc]) (by simpa [Engine.taken, todo] using taken))
  | dropped pc | droppedLoud pc | saveFailed pc | requestUndo pc | retryUndo pc =>
    exact .inr (carried (by simp [pc]) (by simpa [Engine.taken] using taken))
  | _ pc => exact .inr (carried (by simp [pc]) taken)

/-- What the bindings have resolved stays resolved. -/
theorem Move.reply {a : Action} (ordered : s.AlertsOrdered) (move : Move s a s')
    (added : k < s.adds.length) (replied : (s.session.torrents k).reply = some true) :
    (s'.session.torrents k).reply = some true := by
  cases move with
  | session move => rwa [move.reply]
  | pump move => exact move.reply ordered replied
  | persister move => rwa [move.frame.session]
  | add _ move =>
    rcases move.frame.session with same | ⟨torrent, same⟩ <;> simpa [same] using replied
  | task _ move =>
    rcases move.frame.session with same | ⟨torrent, same⟩ | ⟨torrent, same⟩ <;>
      simpa [same] using replied
  | startAdd =>
    have other : k ≠ s.session.next := by
      have next := ordered.adds
      omega
    simpa [Session.addTorrent, other] using replied
  | close => rwa [s.session.close_reply]
  | _ => exact replied

theorem Move.replies {a : Action} (ordered : s.AlertsOrdered) (move : Move s a s')
    (replied : s.Replied) : s'.Replied := by
  have still : s'.pump = s.pump → s'.Replied := by
    intro pump k taken
    rw [Engine.taken, pump] at taken
    rw [pump]
    have member : .addTorrent k true ∈ s.stream := List.mem_append_left _ taken
    have added := ordered.known ((ordered.session.torrents k).decided _ member rfl)
    exact (replied k taken).imp_right (move.reply ordered added)
  cases move with
  | pump move => exact move.replies ordered replied
  | persister move => exact still move.frame.pump
  | add _ move => exact still move.frame.pump
  | task _ move => exact still move.frame.pump
  | abortPump _ pc =>
    exact fun k taken => .inr ((replied k taken).resolve_left (by simp [pc]))
  | _ => exact still rfl

theorem replied_run {ok : Engine → Action → Prop} {restored : Nat} (run : EngineRun ok restored s) :
    s.Replied := by
  refine run.invariant (I := Engine.Replied) (fun k taken => ?_)
    fun _ _ _ reached replied _ stepped =>
      (step_move stepped).2.replies (ordered_run reached) replied
  have known : k < restored := by simpa [Engine.taken, Engine.start] using taken
  exact .inr (by simp [Engine.start, Session.start, known, Torrent.restored])

/-- The add of a torrent whose `AddTorrent` is handled is resolved. -/
theorem Engine.Replied.handled (replied : s.Replied) (ordered : s.AlertsOrdered)
    (handled : .addTorrent k true ∈ s.pump.handled) :
    (s.session.torrents k).reply = some true := by
  refine (replied k (List.mem_append_left _ handled)).resolve_left ?_
  rintro ⟨rest, pc, member⟩
  have later := ordered.processing rest pc _ member
  have pairs := ordered.session.first
  rw [Engine.stream, Engine.taken, List.append_assoc] at pairs
  exact (List.pairwise_append.mp pairs).2.2 _ handled _ (List.mem_append_left _ later) rfl rfl

/-! ## Entries of the registry -/

theorem Move.registersAdded {a : Action} (registered : s.Registered) (ordered : s.AlertsOrdered)
    (first : s.pump.AddFirst) (leaving : s.Leaving) (replied : s.Replied) (move : Move s a s')
    (registers : s.RegistersAdded) : s'.RegistersAdded := by
  intro k found
  have old : k < s.adds.length ∧ (s.session.torrents k).reply = some true →
      k < s'.adds.length ∧ (s'.session.torrents k).reply = some true := fun before =>
    ⟨Nat.lt_of_lt_of_le before.1 move.adds_length, move.reply ordered before.1 before.2⟩
  have still : s'.registry = s.registry →
      k < s'.adds.length ∧ (s'.session.torrents k).reply = some true := fun registry =>
    old (registers k (registry ▸ found))
  cases move with
  | pump move =>
    cases move.pipeline registered with
    | still registry | send _ registry | hold _ _ _ registry | discard _ _ registry =>
      exact still registry
    | register j pc registry =>
      by_cases own : k = j
      · subst own
        have handled := (first k (.inr pc)).1
        have member := Engine.handled_stream handled
        exact old ⟨ordered.known ((ordered.session.torrents k).decided _ member rfl),
          replied.handled ordered handled⟩
      · rw [registry, if_neg own] at found
        exact old (registers k found)
    | remove j _ registry =>
      rw [registry] at found
      split at found
      · exact absurd rfl found
      · exact old (registers k found)
  | @add j ok pc _ call move =>
    have elsewhere := move.elsewhere registered call
    by_cases own : k = j
    case neg => exact old (registers k (elsewhere.registry k own ▸ found))
    subst own
    have about := registered.calls k pc call
    have accepted := leaving.replied k pc call
    cases move with
    | upsert => exact old ⟨(List.getElem?_eq_some_iff.mp call).1, accepted rfl⟩
    | @unwindRegistry entry =>
      obtain rfl : entry = entryOf k := about.1
      have removed : (s.registry.removeById (entryOf k).id).1.find k = none := by
        rw [registered.removeById, Registry.remove_find, if_pos rfl]
      exact absurd removed found
    | release => exact still (by simp)
    | _ => exact still rfl
  | persister move => exact still move.frame.registry
  | task _ move => exact still move.frame.registry
  | _ => exact still rfl

theorem registersAdded_run {ok : Engine → Action → Prop} {restored : Nat}
    (run : EngineRun ok restored s) : s.RegistersAdded := by
  refine run.invariant (I := Engine.RegistersAdded) (fun k found => ?_)
    fun _ _ _ reached registers _ stepped => (step_move stepped).2.registersAdded
      (registered_run reached) (ordered_run reached) (addFirst_run reached) (leaving_run reached)
      (replied_run reached) registers
  have known : k < restored := by
    by_contra late
    have none_ := restored_find restored k
    rw [if_neg late] at none_
    exact found none_
  simp [Engine.start, Session.start, known, Torrent.restored]

/-! ## Torrents the session has lost -/

/-- A torrent that is known, but not found by its token, has left. -/
theorem Engine.RegistersAdded.gone_of_notFound (registers : s.RegistersAdded)
    (ordered : s.AlertsOrdered) (closed : s.shutdown = .closed → ¬ s.session.Holds k)
    (known : s.Known k) (lost : s.session.findTorrentByToken (entryOf k).token = none) :
    s.Gone k := by
  rcases known with gone | found
  · exact gone
  obtain ⟨added, replied⟩ := registers k found
  have unhandled : (s.session.torrents k).handle = false := by
    simpa [Session.findTorrentByToken, entryOf] using lost
  refine ⟨added, .inl ?_⟩
  rcases (ordered.session.torrents k).handled replied with live | removed | shut
  · rw [unhandled] at live
    cases live
  · exact ordered.session.not_held_of_removed removed
  · exact closed shut

/-- A torrent that is known, but whose handle has expired, has left. -/
theorem Engine.RegistersAdded.gone_of_dead (registers : s.RegistersAdded)
    (ordered : s.AlertsOrdered) (known : s.Known k) (dead : s.session.alive k = false) :
    s.Gone k := by
  rcases known with gone | found
  · exact gone
  obtain ⟨added, replied⟩ := registers k found
  have order := ordered.session.torrents k
  have decided := order.decided _ (order.replied true replied) rfl
  have out : ¬ s.session.alive k = true := by simp [dead]
  rw [Session.alive_iff, not_or] at out
  exact ⟨added, .inl fun held => held.elim decided.2 out.1⟩

/-! ## Torrents the pump has added -/

/-- The pump knows a torrent once it has handled its `AddTorrent`. -/
def Engine.AddedKnown (s : Engine) : Prop := ∀ k, s.pump.Added k → s.Known k

theorem Move.addedKnown {a : Action} (registered : s.Registered) (ordered : s.AlertsOrdered)
    (first : s.pump.AddFirst) (move : Move s a s') (adds : s.AddedKnown) : s'.AddedKnown := by
  intro k added
  have still : s'.pump = s.pump → s'.Known k := fun pump =>
    move.known registered ordered (adds k (pump ▸ added))
  have whole := move
  cases move with
  | pump move =>
    rcases move.added registered first added with before | found | ⟨unowned, handled⟩
    · exact whole.known registered ordered (adds k before)
    · exact .inr found
    · have member := Engine.handled_stream handled
      have gone : s.Gone k := by
        refine ⟨ordered.known ((ordered.session.torrents k).decided _ member rfl), .inl ?_⟩
        intro held
        cases (ordered.session.owned member rfl held).symm.trans unowned
      exact .inl (whole.gone registered ordered gone)
  | persister move => exact still move.frame.pump
  | add _ move => exact still move.frame.pump
  | task _ move => exact still move.frame.pump
  | abortPump _ pc => exact whole.known registered ordered (adds k (Engine.abortPump_added pc added))
  | _ => exact still rfl

theorem addedKnown_run {ok : Engine → Action → Prop} {restored : Nat}
    (run : EngineRun ok restored s) : s.AddedKnown := by
  refine run.invariant (I := Engine.AddedKnown) (fun k added => .inr ?_)
    fun _ _ _ reached adds _ stepped => (step_move stepped).2.addedKnown (registered_run reached)
      (ordered_run reached) (addFirst_run reached) adds
  have known : k < restored := by simpa [Engine.start] using added.1
  have found := restored_find restored k
  rw [if_pos known] at found
  show (Engine.restoredRegistry restored).find k ≠ none
  simp [found]

end Rsbtd
