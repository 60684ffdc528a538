import Rsbtd.Verified.SerializedLocks

/-!
# A serialized call returns the reply to its own operation

The guard follows the operation: while an operation is unanswered its call, or
the drainer that inherited the guard, still waits.  The exceptions are the ends
of `drain` (the torrent is gone, so no call finds its handle again, and shutdown
is under way, so no call posts again) and the one the code does not handle: a
caller that drops the future in `request_serialized` drops the guard with it.
-/

namespace Rsbtd.Correlate

open Transition

/-- The caller of an unanswered operation goes away: the guard is dropped while
another call can still post. -/
def State.abandons (s : State) : Action → Bool
  | .drop c =>
    match s.calls[c]? with
    | some ⟨torrent, _, .waiting _ _⟩ =>
      s.unanswered c && !(s.torrents torrent).isForgotten && !s.isCancelled
    | _ => false
  | _ => false

namespace CallPc

/-- The call posted its operation, or never will. -/
def isPosted : CallPc → Bool
  | waiting _ _ | draining _ _ | done _ => true
  | _ => false

end CallPc

variable {s s' : State} {c : Nat} {call : Call} {a : Action}

/-! ## Matching -/

/-- The reply to another operation matches only within the torrent and class. -/
theorem matcher_answer {op other : Operation} {torrent : Uuid} {result found : Reply}
    {source : Option Uuid} {answers : Option Nat}
    (matched : op.matcher torrent ⟨source, other.answer result, answers⟩ = some found) :
    source = some torrent ∧ op.opClass = other.opClass := by
  unfold Operation.matcher at matched
  split at matched
  case isFalse => cases matched
  case isTrue same =>
    refine ⟨same, ?_⟩
    cases op <;> cases other <;> cases result <;> first | rfl | simp [Operation.answer] at matched

theorem matcher_unanswered {op : Operation} {torrent : Uuid} {event : Event}
    (kind : event.kind = .torrentRemoved ∨ event.kind = .unrelated) :
    op.matcher torrent event = none := by
  unfold Operation.matcher
  split
  case isFalse => rfl
  case isTrue =>
    obtain kind | kind := kind <;> rw [kind] <;> cases op <;> rfl

/-! ## How often an operation is around -/

/-- How often call `c`'s operation is posted and not answered, or its reply not published. -/
def State.flight (s : State) (c : Nat) : Nat :=
  s.outstanding.count c + (s.alerts ++ s.batch).countP (·.answers == some c)

/-- The published replies as well. -/
def State.tally (s : State) (c : Nat) : Nat :=
  s.flight c + s.events.countP (·.answers == some c)

theorem State.unanswered_iff : s.unanswered c = true ↔ 0 < s.flight c := by
  rw [State.unanswered, State.flight, Bool.or_eq_true, List.contains_iff_mem, List.any_eq_true,
    Nat.add_pos_iff_pos_or_pos, List.count_pos_iff, List.countP_pos_iff]

theorem State.unanswered_mono (fewer : s'.flight c ≤ s.flight c)
    (pending : s'.unanswered c = true) : s.unanswered c = true := by
  rw [State.unanswered_iff] at pending ⊢
  omega

/-- A published reply was the only one. -/
theorem State.answered_of_event {event : Event} (once : s.tally c ≤ 1) (known : event ∈ s.events)
    (answers : event.answers = some c) : s.unanswered c = false := by
  by_contra pending
  have := State.unanswered_iff.mp (Bool.not_eq_false _ ▸ pending)
  have : 0 < s.events.countP (·.answers == some c) :=
    List.countP_pos_iff.mpr ⟨event, known, by simp [answers]⟩
  unfold State.tally at once
  omega

/-! ## The invariant -/

/-- Every event the receiver has yet to deliver and that matches is the call's own. -/
def State.OwnEvents (s : State) (c : Nat) (call : Call) (cursor : Nat) : Prop :=
  ∀ i event result, cursor ≤ i → s.events[i]? = some event →
    call.op.matcher call.torrent event = some result → event.answers = some c

/-- What a call knows about the operations of its torrent and class. -/
def State.Sound (s : State) (c : Nat) (call : Call) : Prop :=
  match call.pc with
  | .found _ => ∀ other, s.unanswered other = true → s.key other = some call.key →
      s.isCancelled = true
  | .running _ => ∀ other, s.unanswered other = true → s.key other ≠ some call.key
  | .subscribed _ cursor =>
    (∀ other, s.unanswered other = true → s.key other ≠ some call.key) ∧
      s.OwnEvents c call cursor
  | .waiting _ cursor | .draining _ cursor =>
    (∀ other, s.unanswered other = true → s.key other = some call.key → other = c) ∧
      s.OwnEvents c call cursor
  | .done (.reply answers _) => answers = some c
  | _ => True

structure State.Replies (s : State) : Prop where
  sound : ∀ c call, s.calls[c]? = some call → s.Sound c call
  /-- An operation in flight is waited for, or nothing is posted behind it. -/
  owned : ∀ c, s.unanswered c = true → ∃ call, s.calls[c]? = some call ∧
    (call.pc.cursor.isSome = true ∨ (s.torrents call.torrent).isForgotten = true ∨
      s.isCancelled = true)
  single : ∀ c d, s.unanswered c = true → s.unanswered d = true → s.key c = s.key d → c = d
  once : ∀ c, s.tally c ≤ (s.calls[c]?.any (·.pc.isPosted)).toNat
  replies : ∀ c kind, .reply c kind ∈ s.alerts ++ s.batch →
    ∃ call result, s.calls[c]? = some call ∧ kind = call.op.answer result
  gone : ∀ event ∈ s.events, event.kind = .torrentRemoved → ∀ torrent,
    event.torrent = some torrent → (s.torrents torrent).isForgotten = true

theorem State.Replies.tally_le (replies : s.Replies) (c : Nat) : s.tally c ≤ 1 :=
  Nat.le_trans (replies.once c) (Bool.toNat_le _)

/-- A step between `s` and `s'` that posts nothing of this key, and publishes of
it only replies to operations in flight. -/
theorem State.Sound.mono (sound : s.Sound c call)
    (keys : ∀ d, s'.unanswered d = true → s'.key d = s.key d)
    (unanswered : ∀ lock, call.pc.guard = some lock → ∀ d, s'.unanswered d = true →
      s.key d = some call.key → s.unanswered d = true)
    (cancelled : s.isCancelled = true → s'.isCancelled = true)
    (events : ∀ (i : Nat) (event : Event), s'.events[i]? = some event → s.events[i]? = some event ∨
      ∀ result, call.op.matcher call.torrent event = some result →
        ∃ d, s.unanswered d = true ∧ s.key d = some call.key ∧ event.answers = some d) :
    s'.Sound c call := by
  unfold State.Sound at sound ⊢
  cases pc : call.pc with
  | found lock =>
    simp only [pc] at sound ⊢
    intro d pending same
    rw [keys d pending] at same
    exact cancelled (sound d (unanswered lock (by rw [pc]; rfl) d pending same) same)
  | running lock =>
    simp only [pc] at sound ⊢
    intro d pending same
    rw [keys d pending] at same
    exact sound d (unanswered lock (by rw [pc]; rfl) d pending same) same
  | subscribed lock cursor =>
    simp only [pc] at sound ⊢
    obtain ⟨alone, own⟩ := sound
    refine ⟨fun d pending same => ?_, fun i event result after read matched => ?_⟩
    · rw [keys d pending] at same
      exact alone d (unanswered lock (by rw [pc]; rfl) d pending same) same
    · obtain old | fresh := events i event read
      · exact own i event result after old matched
      · obtain ⟨d, pending, same, _⟩ := fresh result matched
        exact absurd same (alone d pending)
  | waiting lock cursor | draining lock cursor =>
    simp only [pc] at sound ⊢
    obtain ⟨alone, own⟩ := sound
    refine ⟨fun d pending same => ?_, fun i event result after read matched => ?_⟩
    · rw [keys d pending] at same
      exact alone d (unanswered lock (by rw [pc]; rfl) d pending same) same
    · obtain old | fresh := events i event read
      · exact own i event result after old matched
      · obtain ⟨d, pending, same, answers⟩ := fresh result matched
        rw [answers, alone d pending same]
  | done outcome =>
    cases outcome with
    | reply answers result =>
      simp only [pc] at sound ⊢
      exact sound
    | _ => trivial
  | opLock | lockOwned | locked => trivial

theorem State.key_eq (current : s.calls[c]? = some call) : s.key c = some call.key := by
  rw [State.key, current]
  rfl

/-- A step outside the calls: `new` are the events it publishes. -/
structure State.Quiet (s s' : State) (new : List Event) : Prop where
  calls : s'.calls = s.calls := by rfl
  flight : ∀ d, s'.flight d ≤ s.flight d := by exact fun _ => Nat.le_refl _
  tally : ∀ d, s'.tally d ≤ s.tally d := by exact fun _ => Nat.le_refl _
  cancelled : s.isCancelled = true → s'.isCancelled = true := by exact fun shut => shut
  forgotten : ∀ torrent, (s.torrents torrent).isForgotten = true →
    (s'.torrents torrent).isForgotten = true := by exact fun _ gone => gone
  alerts : ∀ d kind, .reply d kind ∈ s'.alerts ++ s'.batch →
    .reply d kind ∈ s.alerts ++ s.batch ∨
      ∃ call result, s.calls[d]? = some call ∧ kind = call.op.answer result := by
    exact fun _ _ known => .inl known
  events : s'.events = s.events ++ new := by simp
  matched : ∀ event ∈ new, ∀ (call : Call) result,
    call.op.matcher call.torrent event = some result →
      ∃ d, s.unanswered d = true ∧ s.key d = some call.key ∧ event.answers = some d := by
    simp
  removed : ∀ event ∈ new, event.kind = .torrentRemoved → ∀ torrent,
    event.torrent = some torrent → (s'.torrents torrent).isForgotten = true := by
    simp

theorem State.Replies.quiet (replies : s.Replies) (new : List Event)
    (quiet : s.Quiet s' new) :
    s'.Replies := by
  have keys : ∀ d, s'.key d = s.key d := fun d => by rw [State.key, quiet.calls]; rfl
  have fewer : ∀ d, s'.unanswered d = true → s.unanswered d = true :=
    fun d => State.unanswered_mono (quiet.flight d)
  constructor
  case sound =>
    intro d call entry
    rw [quiet.calls] at entry
    refine (replies.sound d call entry).mono (fun e _ => keys e)
      (fun _ _ e pending _ => fewer e pending)
      quiet.cancelled fun i event read => ?_
    rw [quiet.events] at read
    by_cases old : i < s.events.length
    · rw [List.getElem?_append_left old] at read
      exact .inl read
    · rw [List.getElem?_append_right (Nat.le_of_not_lt old)] at read
      exact .inr (quiet.matched event (List.mem_of_getElem? read) call)
  case owned =>
    intro d pending
    obtain ⟨call, entry, holds⟩ := replies.owned d (fewer d pending)
    rw [quiet.calls]
    exact ⟨call, entry, holds.imp_right (Or.imp (quiet.forgotten _) quiet.cancelled)⟩
  case single =>
    intro d e first second same
    rw [keys, keys] at same
    exact replies.single d e (fewer d first) (fewer e second) same
  case once =>
    intro d
    rw [quiet.calls]
    exact Nat.le_trans (quiet.tally d) (replies.once d)
  case replies =>
    intro d kind alert
    rw [quiet.calls]
    obtain old | fresh := quiet.alerts d kind alert
    · exact replies.replies d kind old
    · exact fresh
  case gone =>
    intro event known removal torrent source
    rw [quiet.events] at known
    obtain old | fresh := List.mem_append.mp known
    · exact quiet.forgotten torrent (replies.gone event old removal torrent source)
    · exact quiet.removed event fresh removal torrent source

/-- The update of one torrent forgets none of the others. -/
theorem forgotten_update {torrents : Uuid → Stage} {torrent : Uuid} {stage : Stage}
    (kept : (torrents torrent).isForgotten = true → stage.isForgotten = true) (u : Uuid)
    (gone : (torrents u).isForgotten = true) :
    (Function.update torrents torrent stage u).isForgotten = true := by
  by_cases same : u = torrent
  · rw [same, Function.update_self]
    exact kept (same ▸ gone)
  · rwa [Function.update_of_ne same]

/-- An answer moves the operation from one list to the other. -/
theorem count_erase_add {posted : List Nat} (known : c ∈ posted) (d : Nat) :
    (posted.erase c).count d + (if c = d then 1 else 0) = posted.count d := by
  by_cases same : c = d
  · subst same
    have : 0 < posted.count c := List.count_pos_iff.mpr known
    rw [List.count_erase_self, if_pos rfl]
    omega
  · rw [List.count_erase_of_ne (Ne.symm same), if_neg same, Nat.add_zero]

/-- An alert that answers no operation is posted. -/
theorem State.flight_post (s : State) (alert : Alert) (unrelated : alert.answers = none)
    (torrents : Uuid → Stage) (d : Nat) :
    ({ s with alerts := s.alerts ++ [alert], torrents } : State).flight d = s.flight d := by
  simp [State.flight, unrelated]

/-- An alert that answers no operation is handled. -/
theorem State.flight_handle (s : State) {alert : Alert} {rest : List Alert}
    (next : s.batch = alert :: rest) (unrelated : alert.answers = none)
    (torrents : Uuid → Stage) (event : Event) (d : Nat) :
    ({ s with batch := rest, torrents, events := s.events ++ [event] } : State).flight d =
      s.flight d := by
  simp [State.flight, next, unrelated]

/-- A call that entered has posted nothing, and nothing else changed. -/
theorem State.Replies.called (replies : s.Replies) (torrent : Uuid) (op : Operation) :
    ({ s with calls := s.calls ++ [⟨torrent, op, .opLock⟩] } : State).Replies := by
  have old : ∀ d call, s.calls[d]? = some call →
      (s.calls ++ [⟨torrent, op, .opLock⟩])[d]? = some call :=
    fun d call entry => get_append_of_get entry _
  have keys : ∀ d, s.unanswered d = true →
      ({ s with calls := s.calls ++ [⟨torrent, op, .opLock⟩] } : State).key d = s.key d := by
    intro d pending
    obtain ⟨call, entry, _⟩ := replies.owned d pending
    rw [State.key_eq entry, State.key_eq (old d call entry)]
  constructor
  case sound =>
    intro d call entry
    obtain before | ⟨_, rfl⟩ := get_append entry
    · exact (replies.sound d call before).mono keys (fun _ _ _ pending _ => pending)
        (fun shut => shut) fun _ _ read => .inl read
    · trivial
  case owned =>
    intro d pending
    obtain ⟨call, entry, holds⟩ := replies.owned d pending
    exact ⟨call, old d call entry, holds⟩
  case single =>
    intro d e first second same
    rw [keys d first, keys e second] at same
    exact replies.single d e first second same
  case once =>
    intro d
    refine Nat.le_trans (replies.once d) ?_
    cases entry : s.calls[d]? with
    | none => exact Nat.zero_le _
    | some call => rw [old d call entry]
  case replies =>
    intro d kind alert
    obtain ⟨call, result, entry, same⟩ := replies.replies d kind alert
    exact ⟨call, result, old d call entry, same⟩
  case gone => exact replies.gone

theorem OutsideMove.replies (replies : s.Replies) (move : OutsideMove s s') : s'.Replies := by
  cases move with
  | called torrent op => exact replies.called torrent op
  | @answered c call result current posted =>
    -- the operation becomes an alert: in flight as before
    have flight : ∀ d, ({ s with
        outstanding := s.outstanding.erase c
        alerts := s.alerts ++ [.reply c (call.op.answer result)] } : State).flight d =
        s.flight d := by
      intro d
      have := count_erase_add posted d
      simp only [State.flight, List.countP_append, List.countP_cons, List.countP_nil,
        Alert.answers, beq_iff_eq, Option.some.injEq]
      omega
    refine replies.quiet []
      { flight := fun d => Nat.le_of_eq (flight d)
        tally := fun d => by rw [State.tally, flight, State.tally]
        alerts := fun d kind known => ?_ }
    simp only [List.append_assoc, List.singleton_append, List.mem_append, List.mem_cons,
      Alert.reply.injEq] at known ⊢
    obtain old | ⟨rfl, rfl⟩ | old := known
    · exact .inl (.inl old)
    · exact .inr ⟨call, result, current, rfl⟩
    · exact .inl (.inr old)
  | lost c =>
    -- an alert that was dropped leaves its call unanswered for ever
    have flight : ∀ d, ({ s with outstanding := s.outstanding.erase c } : State).flight d ≤
        s.flight d := fun d => Nat.add_le_add_right (List.erase_sublist.count_le d) _
    exact replies.quiet []
      { flight, tally := fun d => Nat.add_le_add_right (flight d) _ }
  | @added torrent fresh =>
    exact replies.quiet [] { forgotten := forgotten_update (by simp [fresh, Stage.isForgotten]) }
  | @removed torrent live =>
    have flight := State.flight_post s (.torrentRemoved torrent) rfl
      (Function.update s.torrents torrent .removed)
    exact replies.quiet []
      { flight := fun d => Nat.le_of_eq (flight d)
        tally := fun d => by rw [State.tally, flight, State.tally]
        forgotten := forgotten_update (by simp [live, Stage.isForgotten])
        alerts := fun d kind known => .inl (by simpa using known) }
  | posted =>
    have flight := State.flight_post s .unrelated rfl s.torrents
    exact replies.quiet []
      { flight := fun d => Nat.le_of_eq (flight d)
        tally := fun d => by rw [State.tally, flight, State.tally]
        alerts := fun d kind known => .inl (by simpa using known) }
  | @processed alert rest next torrents forgets =>
    have flight : ∀ d, ({ s with
        alerts := rest, batch := s.batch ++ [alert], torrents } : State).flight d =
        s.flight d := by
      intro d
      simp only [State.flight, next, List.countP_append, List.countP_cons, List.countP_nil]
      omega
    refine replies.quiet []
      { flight := fun d => Nat.le_of_eq (flight d)
        tally := fun d => by rw [State.tally, flight, State.tally]
        forgotten := forgets
        alerts := fun d kind known => .inl ?_ }
    simp only [next, List.mem_append, List.mem_cons, List.not_mem_nil, or_false] at known ⊢
    tauto
  | @replied c kind rest torrent next same =>
    -- the alert becomes an event, which answers its call: the tally keeps the sum
    have flight : ∀ d, ({ s with
        batch := rest, events := s.events ++ [⟨torrent, kind, some c⟩] } : State).flight d +
        (if c = d then 1 else 0) = s.flight d := by
      intro d
      simp only [State.flight, next, List.countP_append, List.countP_cons, Alert.answers,
        beq_iff_eq, Option.some.injEq]
      omega
    have posted : .reply c kind ∈ s.alerts ++ s.batch := by simp [next]
    refine replies.quiet [⟨torrent, kind, some c⟩]
      { flight := fun d => by have := flight d; omega
        tally := fun d => ?_
        alerts := fun d other known => .inl ?_
        matched := ?_
        removed := ?_ }
    · have := flight d
      simp only [State.tally, List.countP_append, List.countP_cons, List.countP_nil, beq_iff_eq,
        Option.some.injEq] at this ⊢
      omega
    · simp only [next, List.mem_append, List.mem_cons] at known ⊢
      tauto
    · intro event fresh other found matched
      obtain rfl := List.mem_singleton.mp fresh
      obtain ⟨call, result, current, rfl⟩ := replies.replies c kind posted
      obtain ⟨source, opClass⟩ := matcher_answer matched
      refine ⟨c, ?_, ?_, rfl⟩
      · rw [State.unanswered_iff]
        have := flight c
        rw [if_pos rfl] at this
        omega
      · obtain rfl | rfl := same
        · cases source
        · rw [current] at source
          rw [Option.map_some, Option.some.injEq] at source
          rw [State.key_eq current, Call.key, Call.key, source, opClass]
    · intro event fresh removal
      obtain rfl := List.mem_singleton.mp fresh
      obtain ⟨call, result, current, rfl⟩ := replies.replies c kind posted
      cases op : call.op <;> cases result <;> simp [op, Operation.answer] at removal
  | @unregistered torrent rest next =>
    have flight := State.flight_handle s next rfl (Function.update s.torrents torrent .unregistered)
      ⟨some torrent, .torrentRemoved, none⟩
    refine replies.quiet [⟨some torrent, .torrentRemoved, none⟩]
      { flight := fun d => Nat.le_of_eq (flight d)
        tally := fun d => by rw [State.tally, flight, State.tally]; simp
        forgotten := forgotten_update fun _ => rfl
        alerts := fun d kind known => .inl ?_
        matched := ?_
        removed := ?_ }
    · simp only [next, List.mem_append, List.mem_cons] at known ⊢
      tauto
    · intro event fresh call result matched
      obtain rfl := List.mem_singleton.mp fresh
      rw [matcher_unanswered (.inl rfl)] at matched
      cases matched
    · intro event fresh _ u source
      obtain rfl := List.mem_singleton.mp fresh
      cases source
      show (Function.update s.torrents torrent .unregistered torrent).isForgotten = true
      rw [Function.update_self]
      rfl
  | @published rest next =>
    have flight := State.flight_handle s next rfl s.torrents ⟨none, .unrelated, none⟩
    refine replies.quiet [⟨none, .unrelated, none⟩]
      { flight := fun d => Nat.le_of_eq (flight d)
        tally := fun d => by rw [State.tally, flight, State.tally]; simp
        alerts := fun d kind known => .inl ?_
        matched := ?_ }
    · simp only [next, List.mem_append, List.mem_cons] at known ⊢
      tauto
    · intro event fresh call result matched
      obtain rfl := List.mem_singleton.mp fresh
      rw [matcher_unanswered (.inr rfl)] at matched
      cases matched
  | cancel => exact replies.quiet [] { cancelled := fun _ => rfl }
  | close => exact replies.quiet [] {}

theorem State.key_goto (current : s.calls[c]? = some call) (pc : CallPc) (d : Nat) :
    (s.goto c call pc).key d = s.key d := by
  unfold State.key State.goto
  rw [List.getElem?_set]
  split
  case isTrue same =>
    subst same
    split
    case isTrue =>
      rw [current]
      rfl
    case isFalse short =>
      exact absurd (List.getElem?_eq_some_iff.mp current).1 short
  case isFalse => rfl

/-- A step of call `c` that posts nothing. -/
theorem State.Replies.goto {pc : CallPc} (replies : s.Replies)
    (current : s.calls[c]? = some call) (opLocks : List (LockKey × Nat)) (nextLock : Nat)
    (isLocked : Nat → Bool) (sound : s.Sound c { call with pc })
    (owned : s.unanswered c = true → pc.cursor.isSome = true ∨
      (s.torrents call.torrent).isForgotten = true ∨ s.isCancelled = true)
    (posted : call.pc.isPosted = true → pc.isPosted = true) :
    ({ s with opLocks, nextLock, isLocked }.goto c call pc).Replies := by
  have keys := State.key_goto (s := { s with opLocks, nextLock, isLocked }) current pc
  have other : ∀ (d : Nat) (found : Call), s.calls[d]? = some found → d ≠ c →
      (s.calls.set c { call with pc })[d]? = some found := by
    intro d found entry different
    rwa [List.getElem?_set_ne (Ne.symm different)]
  have self : (s.calls.set c { call with pc })[c]? = some { call with pc } :=
    get_set_self current _
  constructor
  case sound =>
    intro d found entry
    have same : s.Sound d found := by
      obtain ⟨rfl, rfl⟩ | ⟨_, before⟩ := get_set entry
      · exact sound
      · exact replies.sound d found before
    exact same.mono (fun e _ => keys e) (fun _ _ _ pending _ => pending) (fun shut => shut)
      fun _ _ read => .inl read
  case owned =>
    intro d pending
    by_cases same : d = c
    · subst same
      exact ⟨_, self, owned pending⟩
    · obtain ⟨found, entry, holds⟩ := replies.owned d pending
      exact ⟨found, other d found entry same, holds⟩
  case single =>
    intro d e first second same
    rw [keys, keys] at same
    exact replies.single d e first second same
  case once =>
    intro d
    refine Nat.le_trans (replies.once d) ?_
    show _ ≤ ((s.calls.set c { call with pc })[d]?.any (·.pc.isPosted)).toNat
    by_cases same : d = c
    · subst same
      rw [self, current, Option.any_some, Option.any_some]
      cases before : call.pc.isPosted with
      | false => exact Nat.zero_le _
      | true => rw [posted before]
    · rw [List.getElem?_set_ne (Ne.symm same)]
  case replies =>
    intro d kind alert
    obtain ⟨found, result, entry, same⟩ := replies.replies d kind alert
    by_cases here : d = c
    · subst here
      obtain rfl := Option.some.inj (current.symm.trans entry)
      exact ⟨_, result, self, same⟩
    · exact ⟨found, result, other d found entry here, same⟩
  case gone => exact replies.gone

/-- A call posts its operation, behind no other of the torrent and class. -/
theorem State.Replies.posted {lock cursor : Nat} (replies : s.Replies) (locks : s.Locks)
    (current : s.calls[c]? = some call) (pc : call.pc = .subscribed lock cursor) :
    ({ s with outstanding := s.outstanding ++ [c] }.goto c call (.waiting lock cursor)).Replies := by
  have sound := replies.sound c call current
  simp only [State.Sound, pc] at sound
  obtain ⟨alone, own⟩ := sound
  let s' := { s with outstanding := s.outstanding ++ [c] }.goto c call (.waiting lock cursor)
  have flight : ∀ d, s'.flight d = s.flight d + if c = d then 1 else 0 := by
    intro d
    show (s.outstanding ++ [c]).count d + (s.alerts ++ s.batch).countP _ = _
    rw [List.count_append, List.count_singleton, State.flight]
    simp only [beq_iff_eq]
    omega
  have pendings : ∀ d, s'.unanswered d = true → d ≠ c → s.unanswered d = true := by
    intro d pending different
    rw [State.unanswered_iff, flight, if_neg (Ne.symm different)] at pending
    exact State.unanswered_iff.mpr pending
  have keys : ∀ d, s'.key d = s.key d :=
    State.key_goto (s := { s with outstanding := s.outstanding ++ [c] }) current _
  have self : s'.calls[c]? = some { call with pc := .waiting lock cursor } :=
    get_set_self current _
  have other : ∀ d, d ≠ c → s'.calls[d]? = s.calls[d]? :=
    fun d different => List.getElem?_set_ne (Ne.symm different)
  constructor
  case sound =>
    intro d found entry
    obtain ⟨rfl, rfl⟩ | ⟨different, before⟩ := get_set entry
    · refine ⟨fun e pending same => ?_, own⟩
      by_contra different
      rw [keys] at same
      exact alone e (pendings e pending different) same
    · refine (replies.sound d found before).mono (fun e _ => keys e) (fun l holds e pending same => ?_)
        (fun shut => shut) fun _ _ read => .inl read
      apply pendings e pending
      -- a second guard of the key would be needed to know of this operation
      rintro rfl
      rw [State.key_eq current, Option.some.injEq] at same
      exact different (locks.exclusive before current same.symm holds (by rw [pc]; rfl))
  case owned =>
    intro d pending
    by_cases same : d = c
    · subst same
      exact ⟨_, self, .inl rfl⟩
    · rw [other d same]
      exact replies.owned d (pendings d pending same)
  case single =>
    intro d e first second same
    rw [keys, keys] at same
    by_cases mine : d = c
    · by_contra different
      rw [mine, State.key_eq current] at same
      exact alone e (pendings e second (by rintro rfl; exact different mine)) same.symm
    · have old := pendings d first mine
      by_cases mine' : e = c
      · rw [mine', State.key_eq current] at same
        exact absurd same (alone d old)
      · exact replies.single d e old (pendings e second mine') same
  case once =>
    intro d
    have before := replies.once d
    show s'.flight d + _ ≤ _
    rw [flight]
    unfold State.tally at before
    by_cases same : d = c
    · subst same
      rw [current, Option.any_some, pc] at before
      rw [self, Option.any_some, if_pos rfl]
      show _ ≤ 1
      have : (CallPc.isPosted (.subscribed lock cursor)).toNat = 0 := rfl
      show s.flight d + 1 + s.events.countP _ ≤ 1
      omega
    · rw [other d same, if_neg (Ne.symm same)]
      exact before
  case replies =>
    intro d kind alert
    obtain ⟨found, result, entry, same⟩ := replies.replies d kind alert
    by_cases here : d = c
    · subst here
      obtain rfl := Option.some.inj (current.symm.trans entry)
      exact ⟨_, result, self, same⟩
    · exact ⟨found, result, (other d here).trans entry, same⟩
  case gone => exact replies.gone

theorem CallPc.guard_of_cursor {pc : CallPc} (waits : pc.cursor.isSome = true) :
    ∃ lock, pc.guard = some lock := by
  cases pc with
  | waiting lock cursor | draining lock cursor => exact ⟨lock, rfl⟩
  | _ => cases waits

theorem CallMove.replies (locks : s.Locks) (replies : s.Replies)
    (kept : s.abandons a = false) (current : s.calls[c]? = some call)
    (move : CallMove s a c call s') : s'.Replies := by
  have sound := replies.sound c call current
  have idle : call.pc.cursor = none → s.unanswered c = true →
      (s.torrents call.torrent).isForgotten = true ∨ s.isCancelled = true := by
    intro early pending
    obtain ⟨found, entry, holds⟩ := replies.owned c pending
    obtain rfl := Option.some.inj (current.symm.trans entry)
    exact holds.resolve_left (by simp [early])
  cases move with
  | opLock pc =>
    rw [opLock_frame s call.key]
    exact replies.goto current _ _ _ trivial (fun pending => .inr (idle (by rw [pc]; rfl) pending))
      (by simp [pc, CallPc.isPosted])
  | acquire pc =>
    exact replies.goto current _ _ _ trivial (fun pending => .inr (idle (by rw [pc]; rfl) pending))
      (by simp [pc, CallPc.isPosted])
  | @found lock pc handle =>
    refine replies.goto current _ _ _ (fun d pending same => ?_)
      (fun pending => .inr (idle (by rw [pc]; rfl) pending)) (by simp [pc, CallPc.isPosted])
    obtain ⟨found, entry, waits | gone | shut⟩ := replies.owned d pending
    · -- its task would hold the guard this call holds
      rw [State.key_eq entry, Option.some.injEq] at same
      obtain ⟨l, holds⟩ := CallPc.guard_of_cursor waits
      obtain rfl := locks.exclusive entry current same holds (by rw [pc]; rfl)
      obtain rfl := Option.some.inj (current.symm.trans entry)
      simp [pc, CallPc.cursor] at waits
    · rw [State.key_eq entry, Option.some.injEq] at same
      have torrent : found.torrent = call.torrent := congrArg Prod.fst same
      rw [torrent] at gone
      unfold State.hasHandle at handle
      cases stage : s.torrents call.torrent <;>
        simp [stage, Stage.hasHandle, Stage.isForgotten] at handle gone
    · exact shut
  | running pc live =>
    refine replies.goto current _ _ _ (fun d pending same => ?_)
      (fun pending => .inr (idle (by rw [pc]; rfl) pending)) (by simp [pc, CallPc.isPosted])
    simp only [State.Sound, pc] at sound
    rw [sound d pending same] at live
    cases live
  | subscribed pc =>
    simp only [State.Sound, pc] at sound
    refine replies.goto current _ _ _ ⟨sound, fun i event result after read _ => ?_⟩
      (fun pending => .inr (idle (by rw [pc]; rfl) pending)) (by simp [pc, CallPc.isPosted])
    rw [List.getElem?_eq_none after] at read
    cases read
  -- the guard excludes that another operation of the key is in flight
  | posted pc => exact replies.posted locks current pc
  | ignored pc =>
    simp only [State.Sound, pc] at sound
    exact replies.goto current _ _ _ ⟨fun d pending same => absurd same (sound.1 d pending), sound.2⟩
      (fun _ => .inl rfl) (fun _ => rfl)
  | skipped pc | drained pc =>
    -- the events still to be read are among those to be read before
    simp only [State.Sound, pc] at sound
    exact replies.goto current _ _ _ ⟨sound.1, fun i event result after =>
      sound.2 i event result (by omega)⟩ (fun _ => .inl rfl) (fun _ => rfl)
  | timeout pc =>
    simp only [State.Sound, pc] at sound
    exact replies.goto current _ _ _ sound (fun _ => .inl rfl) (fun _ => rfl)
  | @reply lock cursor event result pc read matched =>
    -- the event matched is of this call, so nothing of it is in flight any more
    simp only [State.Sound, pc] at sound
    have mine := sound.2 cursor event result (Nat.le_refl _) read matched
    refine replies.goto current _ _ _ mine (fun pending => ?_) (fun _ => rfl)
    rw [State.answered_of_event (replies.tally_le c) (List.mem_of_getElem? read) mine] at pending
    cases pending
  | @late lock cursor event result pc read matched =>
    simp only [State.Sound, pc] at sound
    have mine := sound.2 cursor event result (Nat.le_refl _) read matched
    refine replies.goto current _ _ _ trivial (fun pending => ?_) (fun _ => rfl)
    rw [State.answered_of_event (replies.tally_le c) (List.mem_of_getElem? read) mine] at pending
    cases pending
  | vanished pc read torrent kind =>
    -- the guard goes, but no later call finds the torrent
    have gone := replies.gone _ (List.mem_of_getElem? read) kind _ torrent
    exact replies.goto current _ _ _ trivial (fun _ => .inr (.inl gone)) (fun _ => rfl)
  | cancelled _ plain shut =>
    obtain rfl | rfl := plain <;>
      exact replies.goto current _ _ _ trivial (fun _ => .inr (.inr shut)) (fun _ => rfl)
  | failed _ early plain =>
    obtain rfl | rfl | rfl := plain <;>
      exact replies.goto current _ _ _ trivial (fun pending => .inr (idle early pending))
        (fun _ => rfl)
  | left _ early =>
    exact replies.goto current _ _ _ trivial (fun pending => .inr (idle early pending))
      (fun _ => rfl)
  | dropped pc action =>
    -- the one end that `abandons` is about
    subst action
    refine replies.goto current _ _ _ trivial (fun pending => .inr ?_) (fun _ => rfl)
    obtain ⟨torrent, op, _⟩ := call
    cases pc
    simp only [State.abandons, current, pending, Bool.true_and, Bool.and_eq_false_iff,
      Bool.not_eq_false'] at kept
    exact kept

theorem replies_run (run : SerializedRun (fun s a => s.abandons a = false) s) : s.Replies := by
  refine run.invariant (I := State.Replies) ?_ fun t a u reached replies kept stepped => ?_
  · constructor <;> simp [State.start, State.unanswered, State.tally, State.flight]
  · obtain ⟨c, call, current, move⟩ | move := step_move stepped
    · exact move.replies (locks_run reached) replies kept current
    · exact move.replies replies

/-! ## What a caller gets -/

/-- A call that returned a reply returned its own operation's, and no two
operations of a torrent and class are unanswered at once. -/
structure State.Serialized (s : State) : Prop where
  own : ∀ (c : Nat) (call : Call) (answers : Option Nat) (result : Reply),
    s.calls[c]? = some call → call.pc = .done (.reply answers result) → answers = some c
  alone : ∀ c d, s.unanswered c = true → s.unanswered d = true → s.key c = s.key d → c = d

theorem serialized_own_reply (run : SerializedRun (fun s a => s.abandons a = false) s) :
    s.Serialized := by
  have replies := replies_run run
  refine ⟨fun c call answers result current done => ?_, replies.single⟩
  have sound := replies.sound c call current
  simpa only [State.Sound, done] using sound

/-- The first move times out, its drainer reads the late reply, and the second
move, posted after that, returns its own. -/
theorem serialized_own_reply_timeout :
    ∃ s, SerializedRun (fun s a => s.abandons a = false) s ∧
      s.calls[1]? = some ⟨0, .moveStorage "b" 0, .done (.reply (some 1) (.ok "b"))⟩ ∧
      s.Serialized := by
  have replayed : (exec State.step (fun s a => !s.abandons a) .start
      [[.add 0, .call 0 (.moveStorage "a" 0), .call 0 (.moveStorage "b" 0)],
        List.replicate 6 (.next 0), [.timeout 0, .next 1, .answer 0 (.ok "a"), .process,
        .handle true, .next 0], List.replicate 5 (.next 1), [.answer 1 (.ok "b"), .process,
        .handle true, .next 1]].flatten).map
      (fun s => decide (s.calls[1]? =
        some ⟨0, .moveStorage "b" 0, .done (.reply (some 1) (.ok "b"))⟩)) = some true := by
    decide +kernel
  obtain ⟨s, run, reached⟩ := exists_run_of_exec replayed
  have kept : SerializedRun (fun s a => s.abandons a = false) s := run.mono (by simp)
  exact ⟨s, kept, of_decide_eq_true reached, serialized_own_reply kept⟩

/-- The caller of the first move goes away while its operation is in flight: the
second move posts behind it and returns the first one's reply. -/
theorem abandoned_move_answers : ¬ ∀ s, SerializedRun (fun _ _ => True) s → s.Serialized := by
  intro claim
  have replayed : (exec State.step (fun _ _ => true) .start
      [[.add 0, .call 0 (.moveStorage "a" 0), .call 0 (.moveStorage "b" 0)],
        List.replicate 6 (.next 0), [.drop 0], List.replicate 6 (.next 1),
        [.answer 0 (.ok "a"), .process, .handle true, .next 1]].flatten).map
      (fun s => decide (s.calls[1]? =
        some ⟨0, .moveStorage "b" 0, .done (.reply (some 0) (.ok "a"))⟩)) = some true := by
    decide +kernel
  obtain ⟨s, run, reached⟩ := exists_run_of_exec replayed
  have mine := (claim s (run.mono fun _ _ _ => trivial)).own 1 _ _ _ (of_decide_eq_true reached) rfl
  cases mine

end Rsbtd.Correlate
