import Rsbtd.Engine.Deletion
import Rsbtd.Transition.Pool

/-!
# Which torrent a deletion alert is attributed to

`misleads` is the step that lets the list lead astray: the hashes of a parked
entry come to overlap those of another torrent's outstanding deletion, or fail
to overlap those of their own.  Without such a step the first overlapping entry
always belongs to the torrent whose files were deleted, wherever
`swap_remove` has put it, and a call that waits for its deletion finds it there.
`misses` is the step with which such a call still does not hear of it.
-/

namespace Rsbtd.Deletion

open Transition

/-- Overlap gives a wrong answer about this entry and this deletion. -/
def confuses (entry : Entry) (d : FilesDeletion) : Bool :=
  entry.1.overlaps d.hashes != (entry.2 == d.torrent)

/-- An entry is parked, or a removal with deletion is performed, that overlap
confuses with an outstanding deletion or a parked entry. -/
def State.misleads (s : State) : Action → Bool
  | .next c locks =>
    match s.calls[c]? with
    | some ⟨torrent, _, .park⟩ =>
      s.outstanding.any (confuses (s.infoHashes torrent locks, torrent))
    | _ => false
  | .perform =>
    match s.removes with
    | (c, torrent, true) :: _ =>
      match s.torrents[torrent]? with
      | some ⟨hashes, .registered⟩ => s.pendingDeletes.any (confuses · ⟨torrent, c, hashes⟩)
      | _ => false
    | _ => false
  | _ => false

/-- Call `c` waits, and has not read one of `events` that answers it. -/
def State.unread (s : State) (c : Nat) (events : List Event) : Bool :=
  s.calls[c]?.any fun call => match call.pc with
    | .wait cursor => (events.drop cursor).any fun event => (call.matcher event).isSome
    | _ => false

/-- A waiting call lags past an event that answers it, or its deadline elapses
before it has read one that is published. -/
def State.misses (s : State) : Action → Bool
  | .lag c later => s.unread c (s.events.take later)
  | .timeout c => s.unread c s.events
  | _ => false

variable {s s' : State} {c : Nat} {call : Call} {a : Action}

/-- What a call that misses nothing has not read does not answer it. -/
theorem State.unread_matcher {events : List Event} {cursor i : Nat} {event : Event}
    (current : s.calls[c]? = some call) (pc : call.pc = .wait cursor)
    (read : s.unread c events = false) (later : cursor ≤ i) (found : events[i]? = some event) :
    call.matcher event = none := by
  simp only [State.unread, current, Option.any_some, pc, List.any_eq_false] at read
  have member : event ∈ events.drop cursor := by
    refine List.mem_iff_getElem?.mpr ⟨i - cursor, ?_⟩
    rw [List.getElem?_drop, Nat.add_sub_cancel' later, found]
  simpa using read event member

/-! ## `swap_remove` -/

theorem swapRemove_perm {α : Type} {entries : List α} {i : Nat} {x : α}
    (found : entries[i]? = some x) : (x :: swapRemove entries i).Perm entries := by
  obtain rfl | ⟨front, last, rfl⟩ := List.eq_nil_or_concat' entries
  · cases found
  · have swapped : swapRemove (front ++ [last]) i = ((front ++ [last]).set i last).dropLast := by
      simp [swapRemove]
    have rotated := List.perm_append_singleton last front
    rw [swapped]
    by_cases inside : i < front.length
    · rw [List.getElem?_append_left inside, List.getElem?_eq_getElem inside,
        Option.some.injEq] at found
      subst found
      rw [List.set_append_left _ _ inside, List.dropLast_concat]
      -- the last element has taken the place of the removed one
      have placed := List.set_perm_cons_eraseIdx inside last
      have removed := List.getElem_cons_eraseIdx_perm inside
      exact (placed.cons _).trans (.trans (.swap _ _ _) ((removed.cons _).trans rotated.symm))
    · rw [List.getElem?_append_right (Nat.le_of_not_lt inside), List.getElem?_singleton,
        Option.ite_none_right_eq_some] at found
      obtain ⟨at_end, same⟩ := found
      cases same
      have here : i = front.length := by omega
      subst here
      simpa using rotated.symm

theorem mem_of_swapRemove {α : Type} {entries : List α} {i : Nat} {x y : α}
    (found : entries[i]? = some x) (kept : y ∈ swapRemove entries i) : y ∈ entries :=
  (swapRemove_perm found).subset (List.mem_cons_of_mem x kept)

theorem countP_swapRemove {α : Type} (p : α → Bool) {entries : List α} {i : Nat} {x : α}
    (found : entries[i]? = some x) :
    (p x).toNat + (swapRemove entries i).countP p = entries.countP p := by
  rw [← (swapRemove_perm found).countP_eq p, countP_cons]

/-! ## The steps -/

/-- One step of call `c`. -/
inductive CallMove (s : State) (a : Action) (c : Nat) (call : Call) : State → Prop where
  | found (pc : call.pc = .find) : CallMove s a c call (s.goto c call .lookup)
  | notFound (early : call.pc = .find ∨ call.pc = .lookup) :
      CallMove s a c call (s.goto c call (.done .notFound))
  | shut (pc : call.pc = .lookup) (closed : s.sessionOpen = false) :
      CallMove s a c call (s.goto c call (.done .shuttingDown))
  | looked (pc : call.pc = .lookup) :
      CallMove s a c call (s.goto c call (if call.deleteFiles then .park else .check))
  | park {locks : Bool} (pc : call.pc = .park) (action : a = .next c locks) :
      CallMove s a c call
        { s with
          pendingDeletes := s.pendingDeletes ++ [(s.infoHashes call.torrent locks, call.torrent)]
          calls := s.calls.set c { call with pc := .check } }
  | checked (pc : call.pc = .check) : CallMove s a c call (s.goto c call .subscribe)
  | subscribe (pc : call.pc = .subscribe) :
      CallMove s a c call (s.goto c call (.post s.events.length))
  | post {cursor : Nat} (pc : call.pc = .post cursor) :
      CallMove s a c call
        { s with
          removes := s.removes ++ [(c, call.torrent, call.deleteFiles)]
          calls := s.calls.set c { call with pc := .wait cursor } }
  | read {cursor : Nat} {event : Event} (pc : call.pc = .wait cursor)
      (read : s.events[cursor]? = some event) (other : call.matcher event = none) :
      CallMove s a c call (s.goto c call (.wait (cursor + 1)))
  | reply {cursor : Nat} {event : Event} {result : Except String Unit}
      (pc : call.pc = .wait cursor) (read : s.events[cursor]? = some event)
      (matched : call.matcher event = some result) :
      CallMove s a c call (s.goto c call (call.returned (.reply result event)))
  | lagged {cursor later : Nat} (pc : call.pc = .wait cursor) (action : a = .lag c later)
      (known : later ≤ s.events.length) : CallMove s a c call (s.goto c call (.wait later))
  | timeout {cursor : Nat} (pc : call.pc = .wait cursor) (action : a = .timeout c) :
      CallMove s a c call (s.goto c call (call.returned (.timeout s.events.length)))
  | cancelled (pc : call.pc = .check ∨ ∃ cursor, call.pc = .wait cursor)
      (shut : s.isCancelled = true) :
      CallMove s a c call (s.goto c call (call.returned .shuttingDown))
  | dropped {cursor : Nat} (pc : call.pc = .wait cursor) :
      CallMove s a c call (s.goto c call .dropped)
  | sweep {outcome : Outcome} (pc : call.pc = .sweep outcome) :
      CallMove s a c call
        { s with
          pendingDeletes := s.sweepPendingDelete call.torrent
          calls := s.calls.set c { call with pc := .done outcome } }

theorem next_move {locks : Bool} (stepped : s.next c call locks = some s') :
    CallMove s (.next c locks) c call s' := by
  unfold State.next at stepped
  split at stepped
  case h_1 pc =>
    split at stepped
    case h_1 | h_2 =>
      cases stepped
      exact .notFound (.inl pc)
    case h_3 | h_4 | h_5 =>
      cases stepped
      exact .found pc
  case h_2 pc =>
    split at stepped
    case isTrue closed =>
      cases stepped
      exact .shut pc (by simpa using closed)
    case isFalse =>
      split at stepped
      case isTrue =>
        cases stepped
        exact .looked pc
      case isFalse =>
        cases stepped
        exact .notFound (.inr pc)
  case h_3 pc =>
    cases stepped
    exact .park pc rfl
  case h_4 pc =>
    split at stepped
    case isTrue shut =>
      cases stepped
      exact .cancelled (.inl pc) shut
    case isFalse =>
      cases stepped
      exact .checked pc
  case h_5 pc =>
    cases stepped
    exact .subscribe pc
  case h_6 cursor pc =>
    cases stepped
    exact .post pc
  case h_7 cursor pc =>
    obtain ⟨event, read, rfl⟩ := Option.map_eq_some_iff.mp stepped
    split
    case h_1 result matched => exact .reply pc read matched
    case h_2 other => exact .read pc read other
  case h_8 outcome pc =>
    cases stepped
    exact .sweep pc
  case h_9 | h_10 => cases stepped

theorem lag_move {later : Nat} (stepped : s.lag c call later = some s') :
    CallMove s (.lag c later) c call s' := by
  unfold State.lag at stepped
  split at stepped
  case h_1 cursor pc =>
    obtain ⟨⟨_, known⟩, ⟨⟩⟩ := Option.ite_none_right_eq_some.mp stepped
    exact .lagged pc rfl known
  case h_2 => cases stepped

theorem timeout_move (stepped : s.timeout c call = some s') :
    CallMove s (.timeout c) c call s' := by
  unfold State.timeout at stepped
  split at stepped
  case h_1 cursor pc =>
    cases stepped
    exact .timeout pc rfl
  case h_2 => cases stepped

theorem cancelled_move (stepped : s.cancelled c call = some s') : CallMove s a c call s' := by
  unfold State.cancelled at stepped
  split at stepped
  case h_1 cursor pc =>
    obtain ⟨shut, ⟨⟩⟩ := Option.ite_none_right_eq_some.mp stepped
    exact .cancelled (.inr ⟨cursor, pc⟩) shut
  case h_2 => cases stepped

theorem drop_move (stepped : s.drop c call = some s') : CallMove s a c call s' := by
  unfold State.drop at stepped
  split at stepped
  case h_1 cursor pc =>
    cases stepped
    exact .dropped pc
  case h_2 => cases stepped

/-- One step of libtorrent, the bindings, the pump or `shutdown_with`, or the
entry of a new call. -/
inductive OutsideMove (s : State) (a : Action) : State → Prop where
  | called (torrent : Uuid) (deleteFiles : Bool) :
      OutsideMove s a { s with calls := s.calls ++ [⟨torrent, deleteFiles, .find⟩] }
  | added (hashes : InfoHash) :
      OutsideMove s a { s with torrents := s.torrents ++ [⟨hashes, .registered⟩] }
  | widened {torrent : Uuid} {old : InfoHash} (hashes : InfoHash)
      (current : s.torrents[torrent]? = some ⟨old, .registered⟩) :
      OutsideMove s a { s with torrents := s.torrents.set torrent ⟨hashes, .registered⟩ }
  | performed {c : Nat} {torrent : Uuid} {deleteFiles : Bool}
      {rest : List (Nat × Uuid × Bool)} {hashes : InfoHash} (action : a = .perform)
      (next : s.removes = (c, torrent, deleteFiles) :: rest)
      (live : s.torrents[torrent]? = some ⟨hashes, .registered⟩) :
      OutsideMove s a
        { s with
          removes := rest
          torrents := s.setStage torrent .removed
          alerts := s.alerts ++ [.torrentRemoved torrent]
          deleting :=
            if deleteFiles then s.deleting ++ [⟨torrent, c, hashes⟩] else s.deleting }
  | ignored {first : Nat × Uuid × Bool} {rest : List (Nat × Uuid × Bool)}
      (next : s.removes = first :: rest) : OutsideMove s a { s with removes := rest }
  | completed {i : Nat} {d : FilesDeletion} (result : Deleted) (done : s.deleting[i]? = some d) :
      OutsideMove s a
        { s with
          deleting := s.deleting.eraseIdx i
          alerts := s.alerts ++ [.deletion d result] }
  | processed {alert : Alert} {rest : List Alert} (torrents : List Torrent)
      (next : s.alerts = alert :: rest)
      (stages : torrents = s.torrents ∨ ∃ torrent, torrents = s.setStage torrent .reclaimed) :
      OutsideMove s a { s with alerts := rest, batch := s.batch ++ [alert], torrents }
  | unregistered {torrent : Uuid} {rest : List Alert}
      (next : s.batch = .torrentRemoved torrent :: rest) :
      OutsideMove s a
        { s with
          batch := rest
          torrents := s.setStage torrent .unregistered
          events := s.events ++ [⟨some torrent, .torrentRemoved, none⟩] }
  | deleted {d : FilesDeletion} {result : Deleted} {rest : List Alert}
      (next : s.batch = .deletion d result :: rest) :
      OutsideMove s a
        { s with
          batch := rest
          pendingDeletes := (s.takePendingDelete d.hashes).1
          events := s.events ++ [⟨(s.takePendingDelete d.hashes).2, result.kind, some d⟩] }
  | cancel : OutsideMove s a { s with isCancelled := true }
  | close (shut : s.isCancelled = true) : OutsideMove s a { s with sessionOpen := false }

theorem perform_move (stepped : s.perform = some s') : OutsideMove s .perform s' := by
  unfold State.perform at stepped
  split at stepped
  case h_1 => cases stepped
  case h_2 c torrent deleteFiles rest next =>
    split at stepped
    case h_1 hashes live =>
      cases stepped
      exact .performed rfl next live
    case h_2 =>
      cases stepped
      exact .ignored next

theorem process_move (stepped : s.process = some s') : OutsideMove s a s' := by
  unfold State.process at stepped
  split at stepped
  case h_1 => cases stepped
  case h_2 torrent rest next =>
    cases stepped
    exact .processed _ next (.inr ⟨torrent, rfl⟩)
  case h_3 alert rest _ next =>
    cases stepped
    exact .processed _ next (.inl rfl)

theorem handle_move (stepped : s.handle = some s') : OutsideMove s a s' := by
  unfold State.handle at stepped
  split at stepped
  case h_1 => cases stepped
  case h_2 torrent rest next =>
    cases stepped
    exact .unregistered next
  case h_3 d result rest next =>
    cases stepped
    exact .deleted next

/-- Every step is one of a call, or one outside the calls. -/
theorem step_move (stepped : s.step a = some s') :
    (∃ c call, s.calls[c]? = some call ∧ CallMove s a c call s') ∨ OutsideMove s a s' := by
  cases a with
  | call torrent deleteFiles =>
    cases stepped
    exact .inr (.called torrent deleteFiles)
  | next c locks =>
    obtain ⟨call, current, stepped⟩ := Option.bind_eq_some_iff.mp stepped
    exact .inl ⟨c, call, current, next_move stepped⟩
  | lag c later =>
    obtain ⟨call, current, stepped⟩ := Option.bind_eq_some_iff.mp stepped
    exact .inl ⟨c, call, current, lag_move stepped⟩
  | timeout c =>
    obtain ⟨call, current, stepped⟩ := Option.bind_eq_some_iff.mp stepped
    exact .inl ⟨c, call, current, timeout_move stepped⟩
  | cancelled c =>
    obtain ⟨call, current, stepped⟩ := Option.bind_eq_some_iff.mp stepped
    exact .inl ⟨c, call, current, cancelled_move stepped⟩
  | drop c =>
    obtain ⟨call, current, stepped⟩ := Option.bind_eq_some_iff.mp stepped
    exact .inl ⟨c, call, current, drop_move stepped⟩
  | add hashes =>
    obtain ⟨_, ⟨⟩⟩ := Option.ite_none_right_eq_some.mp stepped
    exact .inr (.added hashes)
  | widen torrent hashes =>
    simp only [State.step] at stepped
    split at stepped
    case h_1 old current =>
      obtain ⟨_, ⟨⟩⟩ := Option.ite_none_right_eq_some.mp stepped
      exact .inr (.widened hashes current)
    case h_2 => cases stepped
  | perform => exact .inr (perform_move stepped)
  | complete i result =>
    obtain ⟨d, done, rfl⟩ := Option.map_eq_some_iff.mp stepped
    exact .inr (.completed result done)
  | process => exact .inr (process_move stepped)
  | handle => exact .inr (handle_move stepped)
  | cancel =>
    cases stepped
    exact .inr .cancel
  | close =>
    obtain ⟨shut, ⟨⟩⟩ := Option.ite_none_right_eq_some.mp stepped
    exact .inr (.close shut)

end Rsbtd.Deletion
