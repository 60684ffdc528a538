import Rsbtd.Engine.Correlate
import Rsbtd.Transition.Pool

/-!
# One guard for each torrent and class

`op_lock` prunes the mutexes nobody refers to and hands out the one in the map,
or a fresh one.  `CallMove` lists what a call or its drainer can do in one step,
and `Locks` follows the guard through all of it: two tasks never hold guards of
one key.
-/

namespace Rsbtd.Correlate

open Transition

variable {s s' : State} {c : Nat} {call : Call} {a : Action}

/-- One step of call `c` or of its drainer. -/
inductive CallMove (s : State) (a : Action) (c : Nat) (call : Call) : State → Prop where
  | opLock (pc : call.pc = .opLock) :
      CallMove s a c call ((s.opLock call.key).1.goto c call (.lockOwned (s.opLock call.key).2))
  | acquire {lock : Nat} (pc : call.pc = .lockOwned lock) (free : s.isLocked lock = false) :
      CallMove s a c call
        ({ s with isLocked := Function.update s.isLocked lock true }.goto c call (.locked lock))
  | found {lock : Nat} (pc : call.pc = .locked lock) (handle : s.hasHandle call.torrent = true) :
      CallMove s a c call (s.goto c call (.found lock))
  | running {lock : Nat} (pc : call.pc = .found lock) (live : s.isCancelled = false) :
      CallMove s a c call (s.goto c call (.running lock))
  | subscribed {lock : Nat} (pc : call.pc = .running lock) :
      CallMove s a c call (s.goto c call (.subscribed lock s.events.length))
  | posted {lock cursor : Nat} (pc : call.pc = .subscribed lock cursor) :
      CallMove s a c call
        ({ s with outstanding := s.outstanding ++ [c] }.goto c call (.waiting lock cursor))
  | ignored {lock cursor : Nat} (pc : call.pc = .subscribed lock cursor) :
      CallMove s a c call (s.goto c call (.waiting lock cursor))
  | skipped {lock cursor : Nat} (pc : call.pc = .waiting lock cursor) :
      CallMove s a c call (s.goto c call (.waiting lock (cursor + 1)))
  | drained {lock cursor : Nat} (pc : call.pc = .draining lock cursor) :
      CallMove s a c call (s.goto c call (.draining lock (cursor + 1)))
  | timeout {lock cursor : Nat} (pc : call.pc = .waiting lock cursor) :
      CallMove s a c call (s.goto c call (.draining lock cursor))
  | reply {lock cursor : Nat} {event : Event} {result : Reply}
      (pc : call.pc = .waiting lock cursor) (read : s.events[cursor]? = some event)
      (matched : call.op.matcher call.torrent event = some result) :
      CallMove s a c call (s.finish c call lock (.reply event.answers result))
  | late {lock cursor : Nat} {event : Event} {result : Reply}
      (pc : call.pc = .draining lock cursor) (read : s.events[cursor]? = some event)
      (matched : call.op.matcher call.torrent event = some result) :
      CallMove s a c call (s.finish c call lock .timeout)
  | vanished {lock cursor : Nat} {event : Event} (pc : call.pc = .draining lock cursor)
      (read : s.events[cursor]? = some event) (torrent : event.torrent = some call.torrent)
      (kind : event.kind = .torrentRemoved) :
      CallMove s a c call (s.finish c call lock .timeout)
  | cancelled {lock : Nat} {outcome : Outcome} (waits : call.pc.guard = some lock)
      (plain : outcome = .shuttingDown ∨ outcome = .timeout) (shut : s.isCancelled = true) :
      CallMove s a c call (s.finish c call lock outcome)
  /-- Before the post: an error return. -/
  | failed {lock : Nat} {outcome : Outcome} (holds : call.pc.guard = some lock)
      (early : call.pc.cursor = none)
      (plain : outcome = .shuttingDown ∨ outcome = .notFound ∨ outcome = .invalid) :
      CallMove s a c call (s.finish c call lock outcome)
  | left (free : call.pc.guard = none) (early : call.pc.cursor = none) :
      CallMove s a c call (s.goto c call (.done .dropped))
  | dropped {lock cursor : Nat} (pc : call.pc = .waiting lock cursor) (action : a = .drop c) :
      CallMove s a c call (s.finish c call lock .dropped)

theorem next_move (stepped : s.next c call = some s') : CallMove s a c call s' := by
  unfold State.next at stepped
  split at stepped
  case h_1 pc =>
    cases stepped
    exact .opLock pc
  case h_2 lock pc =>
    split at stepped
    case isTrue => cases stepped
    case isFalse free =>
      cases stepped
      exact .acquire pc (Bool.eq_false_iff.mpr free)
  case h_3 lock pc =>
    split at stepped
    case isTrue =>
      cases stepped
      exact .failed (by rw [pc]; rfl) (by rw [pc]; rfl) (.inl rfl)
    case isFalse =>
      split at stepped
      case isTrue =>
        cases stepped
        exact .failed (by rw [pc]; rfl) (by rw [pc]; rfl) (.inr (.inl rfl))
      case isFalse handle =>
        cases stepped
        exact .found pc (by simpa using handle)
  case h_4 lock pc =>
    split at stepped
    case isTrue =>
      cases stepped
      exact .failed (by rw [pc]; rfl) (by rw [pc]; rfl) (.inl rfl)
    case isFalse live =>
      cases stepped
      exact .running pc (Bool.eq_false_iff.mpr live)
  case h_5 lock pc =>
    cases stepped
    exact .subscribed pc
  case h_6 lock cursor pc =>
    cases stepped
    exact .posted pc
  case h_7 lock cursor pc =>
    obtain ⟨event, read, rfl⟩ := Option.map_eq_some_iff.mp stepped
    unfold State.recvReply
    split
    case h_1 result matched => exact .reply pc read matched
    case h_2 => exact .skipped pc
  case h_8 lock cursor pc =>
    obtain ⟨event, read, rfl⟩ := Option.map_eq_some_iff.mp stepped
    unfold State.recvDrain
    split
    case isTrue matched =>
      obtain ⟨result, matched⟩ := Option.isSome_iff_exists.mp matched
      exact .late pc read matched
    case isFalse =>
      split
      case isTrue removed => exact .vanished pc read removed.1 removed.2
      case isFalse => exact .drained pc
  case h_9 => cases stepped

theorem refuse_move (stepped : s.refuse c call = some s') : CallMove s a c call s' := by
  unfold State.refuse at stepped
  split at stepped
  case h_1 lock _ _ pc =>
    cases stepped
    exact .failed (by rw [pc]; rfl) (by rw [pc]; rfl) (.inr (.inr rfl))
  case h_2 => cases stepped

theorem ignore_move (stepped : s.ignore c call = some s') : CallMove s a c call s' := by
  unfold State.ignore at stepped
  split at stepped
  case h_1 lock cursor pc =>
    split at stepped
    case isTrue => cases stepped
    case isFalse =>
      cases stepped
      exact .ignored pc
  case h_2 => cases stepped

theorem timeout_move (stepped : s.timeout c call = some s') : CallMove s a c call s' := by
  unfold State.timeout at stepped
  split at stepped
  case h_1 lock cursor pc =>
    cases stepped
    exact .timeout pc
  case h_2 => cases stepped

theorem cancelled_move (stepped : s.cancelled c call = some s') : CallMove s a c call s' := by
  unfold State.cancelled at stepped
  split at stepped
  case isFalse => cases stepped
  case isTrue shut =>
    split at stepped
    case h_1 lock cursor pc =>
      cases stepped
      exact .cancelled (by rw [pc]; rfl) (.inl rfl) shut
    case h_2 lock cursor pc =>
      cases stepped
      exact .cancelled (by rw [pc]; rfl) (.inr rfl) shut
    case h_3 => cases stepped

theorem drop_move (stepped : s.drop c call = some s') : CallMove s (.drop c) c call s' := by
  unfold State.drop at stepped
  split at stepped
  case h_1 pc =>
    cases stepped
    exact .left (by rw [pc]; rfl) (by rw [pc]; rfl)
  case h_2 lock pc =>
    cases stepped
    exact .left (by rw [pc]; rfl) (by rw [pc]; rfl)
  case h_3 lock cursor pc =>
    cases stepped
    exact .dropped pc rfl
  case h_4 => cases stepped

/-- One step of libtorrent, the bindings, the pump or `shutdown_with`, or the
entry of a new call. -/
inductive OutsideMove (s : State) : State → Prop where
  | called (torrent : Uuid) (op : Operation) :
      OutsideMove s { s with calls := s.calls ++ [⟨torrent, op, .opLock⟩] }
  | answered {c : Nat} {call : Call} (result : Reply) (current : s.calls[c]? = some call)
      (posted : c ∈ s.outstanding) :
      OutsideMove s
        { s with
          outstanding := s.outstanding.erase c
          alerts := s.alerts ++ [.reply c (call.op.answer result)] }
  | lost (c : Nat) : OutsideMove s { s with outstanding := s.outstanding.erase c }
  | added {torrent : Uuid} (fresh : s.torrents torrent = .absent) :
      OutsideMove s { s with torrents := Function.update s.torrents torrent .registered }
  | removed {torrent : Uuid} (live : s.torrents torrent = .registered) :
      OutsideMove s
        { s with
          torrents := Function.update s.torrents torrent .removed
          alerts := s.alerts ++ [.torrentRemoved torrent] }
  | posted : OutsideMove s { s with alerts := s.alerts ++ [.unrelated] }
  | processed {alert : Alert} {rest : List Alert} (next : s.alerts = alert :: rest)
      (torrents : Uuid → Stage)
      (forgets : ∀ u, (s.torrents u).isForgotten = true → (torrents u).isForgotten = true) :
      OutsideMove s { s with alerts := rest, batch := s.batch ++ [alert], torrents }
  | replied {c : Nat} {kind : EventKind} {rest : List Alert} (torrent : Option Uuid)
      (next : s.batch = .reply c kind :: rest)
      (same : torrent = none ∨ torrent = s.calls[c]?.map Call.torrent) :
      OutsideMove s
        { s with batch := rest, events := s.events ++ [⟨torrent, kind, some c⟩] }
  | unregistered {torrent : Uuid} {rest : List Alert}
      (next : s.batch = .torrentRemoved torrent :: rest) :
      OutsideMove s
        { s with
          batch := rest
          torrents := Function.update s.torrents torrent .unregistered
          events := s.events ++ [⟨some torrent, .torrentRemoved, none⟩] }
  | published {rest : List Alert} (next : s.batch = .unrelated :: rest) :
      OutsideMove s { s with batch := rest, events := s.events ++ [⟨none, .unrelated, none⟩] }
  | cancel : OutsideMove s { s with isCancelled := true }
  | close : OutsideMove s { s with sessionOpen := false }

theorem process_move (stepped : s.process = some s') : OutsideMove s s' := by
  unfold State.process at stepped
  split at stepped
  case h_1 => cases stepped
  case h_2 alert rest next =>
    split at stepped
    case h_1 torrent =>
      cases stepped
      refine .processed next _ fun u forgotten => ?_
      by_cases same : u = torrent
      · rw [same, Function.update_self]
        rfl
      · rwa [Function.update_of_ne same]
    case h_2 =>
      cases stepped
      exact .processed next s.torrents fun _ forgotten => forgotten

theorem handle_move {locks : Bool} (stepped : s.handle locks = some s') : OutsideMove s s' := by
  unfold State.handle at stepped
  split at stepped
  case h_1 => cases stepped
  case h_2 alert rest next =>
    cases alert with
    | reply c kind =>
      cases stepped
      refine .replied _ next ?_
      cases entry : s.calls[c]? with
      | none => exact .inl rfl
      | some call =>
        -- `torrent_of` finds the torrent itself, or nothing
        simp only [Option.map_some, Option.bind_some, State.torrentOf]
        split <;> simp
    | torrentRemoved torrent =>
      cases stepped
      exact .unregistered next
    | unrelated =>
      cases stepped
      exact .published next

/-- Every step is one of a call, or one outside the calls. -/
theorem step_move (stepped : s.step a = some s') :
    (∃ c call, s.calls[c]? = some call ∧ CallMove s a c call s') ∨ OutsideMove s s' := by
  cases a with
  | call torrent op =>
    cases stepped
    exact .inr (.called torrent op)
  | next c =>
    obtain ⟨call, current, stepped⟩ := Option.bind_eq_some_iff.mp stepped
    exact .inl ⟨c, call, current, next_move stepped⟩
  | refuse c =>
    obtain ⟨call, current, stepped⟩ := Option.bind_eq_some_iff.mp stepped
    exact .inl ⟨c, call, current, refuse_move stepped⟩
  | ignore c =>
    obtain ⟨call, current, stepped⟩ := Option.bind_eq_some_iff.mp stepped
    exact .inl ⟨c, call, current, ignore_move stepped⟩
  | timeout c =>
    obtain ⟨call, current, stepped⟩ := Option.bind_eq_some_iff.mp stepped
    exact .inl ⟨c, call, current, timeout_move stepped⟩
  | cancelled c =>
    obtain ⟨call, current, stepped⟩ := Option.bind_eq_some_iff.mp stepped
    exact .inl ⟨c, call, current, cancelled_move stepped⟩
  | drop c =>
    obtain ⟨call, current, stepped⟩ := Option.bind_eq_some_iff.mp stepped
    exact .inl ⟨c, call, current, drop_move stepped⟩
  | answer c result =>
    obtain ⟨call, current, stepped⟩ := Option.bind_eq_some_iff.mp stepped
    unfold State.answer at stepped
    split at stepped
    case isFalse => cases stepped
    case isTrue oldest =>
      cases stepped
      exact .inr (.answered result current (List.mem_of_find?_eq_some oldest))
  | lose c =>
    obtain ⟨call, current, stepped⟩ := Option.bind_eq_some_iff.mp stepped
    split at stepped
    case isTrue => cases stepped
    case isFalse =>
      cases stepped
      exact .inr (.lost c)
  | add torrent =>
    obtain ⟨fresh, ⟨⟩⟩ := Option.ite_none_right_eq_some.mp stepped
    exact .inr (.added fresh)
  | remove torrent =>
    obtain ⟨live, ⟨⟩⟩ := Option.ite_none_right_eq_some.mp stepped
    exact .inr (.removed live)
  | post =>
    cases stepped
    exact .inr .posted
  | process => exact .inr (process_move stepped)
  | handle locks => exact .inr (handle_move stepped)
  | cancel =>
    cases stepped
    exact .inr .cancel
  | close =>
    obtain ⟨_, ⟨⟩⟩ := Option.ite_none_right_eq_some.mp stepped
    exact .inr .close

/-- The `op_locks` map and the guards. -/
structure State.Locks (s : State) : Prop where
  /-- A mutex somebody refers to is the one of its key in the map. -/
  mapped : ∀ (c : Nat) (call : Call) (lock : Nat), s.calls[c]? = some call →
    call.pc.lock = some lock → (call.key, lock) ∈ s.opLocks
  functional : ∀ key lock lock', (key, lock) ∈ s.opLocks → (key, lock') ∈ s.opLocks →
    lock = lock'
  held : ∀ (c : Nat) (call : Call) (lock : Nat), s.calls[c]? = some call →
    call.pc.guard = some lock → s.isLocked lock = true
  unique : ∀ (c c' : Nat) (call call' : Call) (lock : Nat), s.calls[c]? = some call →
    s.calls[c']? = some call' → call.pc.guard = some lock → call'.pc.guard = some lock → c = c'

theorem CallPc.lock_of_guard {pc : CallPc} {lock : Nat} (holds : pc.guard = some lock) :
    pc.lock = some lock := by
  cases pc <;> first | exact holds | cases holds

/-- Two tasks that hold guards of one key are the same. -/
theorem State.Locks.exclusive {c' lock lock' : Nat} {call' : Call} (locks : s.Locks)
    (current : s.calls[c]? = some call) (current' : s.calls[c']? = some call')
    (key : call.key = call'.key) (holds : call.pc.guard = some lock)
    (holds' : call'.pc.guard = some lock') : c = c' := by
  have mine := locks.mapped c call lock current (CallPc.lock_of_guard holds)
  have other := locks.mapped c' call' lock' current' (CallPc.lock_of_guard holds')
  rw [← key] at other
  obtain rfl := locks.functional _ _ _ mine other
  exact locks.unique c c' call call' lock current current' holds holds'

/-- A step that moves no guard and no mutex. -/
theorem State.Locks.keep {pc : CallPc} (locks : s.Locks) (current : s.calls[c]? = some call)
    (calls : s'.calls = s.calls.set c { call with pc }) (opLocks : s'.opLocks = s.opLocks)
    (isLocked : s'.isLocked = s.isLocked) (lock : ∀ l, pc.lock = some l → call.pc.lock = some l)
    (guard : ∀ l, pc.guard = some l → call.pc.guard = some l) : s'.Locks where
  mapped d other l entry refers := by
    rw [calls] at entry
    rw [opLocks]
    obtain ⟨rfl, rfl⟩ | ⟨_, before⟩ := get_set entry
    · exact locks.mapped d call l current (lock l refers)
    · exact locks.mapped d other l before refers
  functional := by
    rw [opLocks]
    exact locks.functional
  held d other l entry holds := by
    rw [calls] at entry
    rw [isLocked]
    obtain ⟨rfl, rfl⟩ | ⟨_, before⟩ := get_set entry
    · exact locks.held d call l current (guard l holds)
    · exact locks.held d other l before holds
  unique d d' other other' l entry entry' holds holds' := by
    rw [calls] at entry entry'
    obtain ⟨rfl, rfl⟩ | ⟨_, before⟩ := get_set entry
    · obtain ⟨rfl, rfl⟩ | ⟨_, before'⟩ := get_set entry'
      · rfl
      · exact locks.unique d d' call other' l current before' (guard l holds) holds'
    · obtain ⟨rfl, rfl⟩ | ⟨_, before'⟩ := get_set entry'
      · exact locks.unique d d' other call l before current holds (guard l holds')
      · exact locks.unique d d' other other' l before before' holds holds'

/-- Dropping the guard unlocks a mutex nobody else has locked. -/
theorem State.Locks.finish {lock : Nat} {outcome : Outcome} (locks : s.Locks)
    (current : s.calls[c]? = some call) (holds : call.pc.guard = some lock) :
    (s.finish c call lock outcome).Locks where
  mapped d other l entry refers := by
    obtain ⟨rfl, rfl⟩ | ⟨_, before⟩ := get_set entry
    · cases refers
    · exact locks.mapped d other l before refers
  functional := locks.functional
  held d other l entry guards := by
    obtain ⟨rfl, rfl⟩ | ⟨different, before⟩ := get_set entry
    · cases guards
    · have apart : l ≠ lock := by
        rintro rfl
        exact different (locks.unique d c other call l before current guards holds)
      show Function.update s.isLocked lock false l = true
      rw [Function.update_of_ne apart]
      exact locks.held d other l before guards
  unique d d' other other' l entry entry' guards guards' := by
    obtain ⟨rfl, rfl⟩ | ⟨_, before⟩ := get_set entry
    · cases guards
    · obtain ⟨rfl, rfl⟩ | ⟨_, before'⟩ := get_set entry'
      · cases guards'
      · exact locks.unique d d' other other' l before before' guards guards'

/-- `lock_owned` returns: nobody held the mutex. -/
theorem State.Locks.acquire {lock : Nat} (locks : s.Locks) (current : s.calls[c]? = some call)
    (pc : call.pc = .lockOwned lock) (free : s.isLocked lock = false) :
    ({ s with isLocked := Function.update s.isLocked lock true }.goto c call
      (.locked lock)).Locks where
  mapped d other l entry refers := by
    obtain ⟨rfl, rfl⟩ | ⟨_, before⟩ := get_set entry
    · exact locks.mapped d call l current (by rw [pc]; exact refers)
    · exact locks.mapped d other l before refers
  functional := locks.functional
  held d other l entry guards := by
    show Function.update s.isLocked lock true l = true
    by_cases same : l = lock
    · rw [same, Function.update_self]
    · rw [Function.update_of_ne same]
      obtain ⟨rfl, rfl⟩ | ⟨_, before⟩ := get_set entry
      · exact absurd (Option.some.inj guards).symm same
      · exact locks.held d other l before guards
  unique d d' other other' l entry entry' guards guards' := by
    -- a second holder would have found the mutex locked
    have alone : ∀ (e : Nat) (call' : Call), s.calls[e]? = some call' →
        call'.pc.guard ≠ some lock := by
      intro e call' before held
      rw [locks.held e call' lock before held] at free
      cases free
    obtain ⟨rfl, rfl⟩ | ⟨_, before⟩ := get_set entry
    · obtain ⟨rfl, rfl⟩ | ⟨_, before'⟩ := get_set entry'
      · rfl
      · cases guards
        exact absurd guards' (alone d' other' before')
    · obtain ⟨rfl, rfl⟩ | ⟨_, before'⟩ := get_set entry'
      · cases guards'
        exact absurd guards (alone d other before)
      · exact locks.unique d d' other other' l before before' guards guards'

/-- `op_lock` keeps every mutex that is referred to, and has one for the key. -/
theorem opLock_spec (locks : s.Locks) (key : LockKey) :
    (∀ entry ∈ s.opLocks, s.strong entry.2 = true → entry ∈ (s.opLock key).1.opLocks) ∧
    (key, (s.opLock key).2) ∈ (s.opLock key).1.opLocks ∧
    (∀ k lock lock', (k, lock) ∈ (s.opLock key).1.opLocks →
      (k, lock') ∈ (s.opLock key).1.opLocks → lock = lock') := by
  unfold State.opLock
  simp only
  split
  case h_1 lock found =>
    obtain ⟨before, after, split, _⟩ := List.lookup_eq_some_iff.mp found
    refine ⟨fun entry old strong => List.mem_filter.mpr ⟨old, strong⟩, ?_, ?_⟩
    · rw [split]
      simp
    · intro k l l' first second
      exact locks.functional k l l' (List.mem_of_mem_filter first) (List.mem_of_mem_filter second)
  case h_2 missing =>
    have unmapped := List.lookup_eq_none_iff.mp missing
    refine ⟨fun entry old strong => ?_, List.mem_cons_self, ?_⟩
    · exact List.mem_cons_of_mem _ (List.mem_filter.mpr ⟨old, strong⟩)
    · intro k l l' first second
      simp only [List.mem_cons, Prod.mk.injEq] at first second
      obtain ⟨rfl, rfl⟩ | first := first
      · obtain ⟨_, rfl⟩ | second := second
        · rfl
        · simpa using unmapped _ second
      · obtain ⟨rfl, rfl⟩ | second := second
        · simpa using unmapped _ first
        · exact locks.functional k l l' (List.mem_of_mem_filter first)
            (List.mem_of_mem_filter second)

theorem opLock_frame (s : State) (key : LockKey) :
    (s.opLock key).1 = { s with
      opLocks := (s.opLock key).1.opLocks, nextLock := (s.opLock key).1.nextLock } := by
  unfold State.opLock
  simp only
  split <;> rfl

theorem State.Locks.opLock (locks : s.Locks) (current : s.calls[c]? = some call) :
    ((s.opLock call.key).1.goto c call (.lockOwned (s.opLock call.key).2)).Locks := by
  obtain ⟨kept, mine, functional⟩ := opLock_spec locks call.key
  rw [opLock_frame s call.key]
  refine ⟨fun d other l entry refers => ?_, functional, fun d other l entry guards => ?_,
    fun d d' other other' l entry entry' guards guards' => ?_⟩
  · obtain ⟨rfl, rfl⟩ | ⟨_, before⟩ := get_set entry
    · cases refers
      exact mine
    · apply kept _ (locks.mapped d other l before refers)
      exact List.any_eq_true.mpr ⟨other, List.mem_of_getElem? before, by simp [refers]⟩
  · obtain ⟨rfl, rfl⟩ | ⟨_, before⟩ := get_set entry
    · cases guards
    · exact locks.held d other l before guards
  · obtain ⟨rfl, rfl⟩ | ⟨_, before⟩ := get_set entry
    · cases guards
    · obtain ⟨rfl, rfl⟩ | ⟨_, before'⟩ := get_set entry'
      · cases guards'
      · exact locks.unique d d' other other' l before before' guards guards'

theorem CallMove.locks (locks : s.Locks) (current : s.calls[c]? = some call)
    (move : CallMove s a c call s') : s'.Locks := by
  cases move with
  | opLock => exact locks.opLock current
  | acquire pc free => exact locks.acquire current pc free
  | found pc | running pc | subscribed pc | posted pc | ignored pc | skipped pc | drained pc
  | timeout pc =>
    refine locks.keep current rfl rfl rfl ?_ ?_
    · rw [pc]
      exact fun _ refers => refers
    · rw [pc]
      exact fun _ holds => holds
  | left =>
    refine locks.keep current rfl rfl rfl ?_ ?_
    · intro _ refers
      cases refers
    · intro _ holds
      cases holds
  | reply pc | late pc | vanished pc | dropped pc => exact locks.finish current (by rw [pc]; rfl)
  | cancelled holds | failed holds => exact locks.finish current holds

theorem OutsideMove.locks (locks : s.Locks) (move : OutsideMove s s') : s'.Locks := by
  cases move with
  | called torrent op =>
    -- the new call refers to no mutex yet
    have old : ∀ (d : Nat) (other : Call) (lock : Nat),
        (s.calls ++ [⟨torrent, op, .opLock⟩])[d]? = some other → other.pc.lock = some lock →
        s.calls[d]? = some other := by
      intro d other lock entry refers
      obtain before | ⟨_, rfl⟩ := get_append entry
      · exact before
      · cases refers
    refine ⟨fun d other l entry refers => ?_, locks.functional, fun d other l entry guards => ?_,
      fun d d' other other' l entry entry' guards guards' => ?_⟩
    · exact locks.mapped d other l (old d other l entry refers) refers
    · exact locks.held d other l (old d other l entry (CallPc.lock_of_guard guards)) guards
    · exact locks.unique d d' other other' l (old d other l entry (CallPc.lock_of_guard guards))
        (old d' other' l entry' (CallPc.lock_of_guard guards')) guards guards'
  | _ => exact ⟨locks.mapped, locks.functional, locks.held, locks.unique⟩

theorem locks_run {ok : State → Action → Prop} (run : SerializedRun ok s) : s.Locks := by
  refine run.invariant (I := State.Locks) ⟨?_, ?_, ?_, ?_⟩ fun t a u _ locks _ stepped => ?_
  · simp [State.start]
  · simp [State.start]
  · simp [State.start]
  · simp [State.start]
  · obtain ⟨c, call, current, move⟩ | move := step_move stepped
    · exact move.locks locks current
    · exact move.locks locks

end Rsbtd.Correlate
