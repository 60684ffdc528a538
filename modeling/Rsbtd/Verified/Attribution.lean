import Rsbtd.Verified.Deletions

/-!
# Deletion events name the right torrent

The run lemma behind it counts: until a torrent's deletion alert is handled, it
has at least one parked entry for each call on it that still waits, and all
entries that overlap the alert's hashes are entries of that torrent.
-/

namespace Rsbtd.Deletion

open Transition
open Correlate (Stage)

variable {s s' : State} {c : Nat} {call : Call} {a : Action}

/-! ## What the calls know -/

namespace CallPc

/-- The call posted its removal. -/
def isPosted : CallPc → Bool
  | wait _ | dropped => true
  | sweep outcome | done outcome => outcome != .notFound
  | _ => false

/-- The call's entry is parked and not swept. -/
def isParked : CallPc → Bool
  | check | subscribe | post _ | wait _ | sweep _ => true
  | _ => false

/-- The position of a receiver. -/
def cursor : CallPc → Option Nat
  | post cursor | wait cursor => some cursor
  | _ => none

end CallPc

def Call.parks (torrent : Uuid) (call : Call) : Bool :=
  call.torrent == torrent && call.deleteFiles && call.pc.isParked

/-- Every deletion libtorrent started, the handled ones as well. -/
def State.deletions (s : State) : List FilesDeletion :=
  s.outstanding ++ s.events.filterMap (·.deletion)

def State.isSpent (s : State) (torrent : Uuid) : Bool :=
  s.torrents[torrent]?.any (·.stage != .registered)

/-- What an outcome says about the events. -/
def State.Returned (s : State) (c : Nat) (call : Call) : Outcome → Prop
  | .notFound => True
  | .shuttingDown => s.isCancelled = true
  | .reply result event => event ∈ s.events ∧ call.matcher event = some result
  | .timeout n => n ≤ s.events.length ∧ ∀ (i : Nat) (event : Event) (d : FilesDeletion), i < n →
      s.events[i]? = some event → event.deletion = some d → d.call ≠ c

def State.Sound (s : State) (c : Nat) (call : Call) : Prop :=
  match call.pc with
  | .post cursor => cursor ≤ s.events.length
  | .wait cursor => cursor ≤ s.events.length ∧ ∀ (i : Nat) (event : Event), i < cursor →
      s.events[i]? = some event → call.matcher event = none ∨
        ∀ d, event.deletion = some d → d.call ≠ c
  | .sweep outcome => call.deleteFiles = true ∧ s.Returned c call outcome
  | .done outcome => s.Returned c call outcome
  | _ => True

/-- The call a removal was posted by. -/
def State.Asked (s : State) (c : Nat) (torrent : Uuid) (deleteFiles : Bool) : Prop :=
  ∃ call : Call, s.calls[c]? = some call ∧ call.torrent = torrent ∧
    call.deleteFiles = deleteFiles ∧ call.pc.isPosted = true

structure State.Attributed (s : State) : Prop where
  sound : ∀ c call, s.calls[c]? = some call → s.Sound c call
  told : ∀ entry ∈ s.pendingDeletes, ∀ d ∈ s.outstanding, confuses entry d = false
  own : ∀ event ∈ s.events, ∀ d, event.deletion = some d →
    event.torrent = none ∨ event.torrent = some d.torrent
  heard : ∀ event ∈ s.events, ∀ d, event.deletion = some d → ∀ (call : Call) (cursor : Nat),
    s.calls[d.call]? = some call → call.pc = .wait cursor → event.torrent = some d.torrent
  kinds : ∀ event ∈ s.events, match event.deletion with
    | some _ => ∃ result : Deleted, event.kind = result.kind
    | none => event.kind = .torrentRemoved
  once : (s.deletions.map (·.torrent)).Nodup
  spent : ∀ d ∈ s.deletions, s.isSpent d.torrent = true
  parked : ∀ torrent, (∀ event ∈ s.events, ∀ d, event.deletion = some d → d.torrent ≠ torrent) →
    s.calls.countP (·.parks torrent) ≤ s.pendingDeletes.countP (·.2 == torrent)
  posted : ∀ c torrent deleteFiles, (c, torrent, deleteFiles) ∈ s.removes →
    s.Asked c torrent deleteFiles
  asked : ∀ d ∈ s.deletions, s.Asked d.call d.torrent true
  closed : s.sessionOpen = false → s.isCancelled = true

/-! ## Steps of the calls -/

theorem State.Returned.mono {outcome : Outcome} (returned : s.Returned c call outcome)
    {new : List Event} (events : s'.events = s.events ++ new)
    (cancelled : s.isCancelled = true → s'.isCancelled = true) : s'.Returned c call outcome := by
  cases outcome with
  | notFound => trivial
  | shuttingDown => exact cancelled returned
  | reply result event =>
    obtain ⟨known, matched⟩ := returned
    refine ⟨?_, matched⟩
    rw [events]
    exact List.mem_append_left _ known
  | timeout n =>
    obtain ⟨old, silent⟩ := returned
    refine ⟨?_, fun i event d before read => ?_⟩
    · rw [events, List.length_append]
      omega
    · rw [events, List.getElem?_append_left (by omega)] at read
      exact silent i event d before read

theorem State.Sound.mono (sound : s.Sound c call) {new : List Event}
    (events : s'.events = s.events ++ new)
    (cancelled : s.isCancelled = true → s'.isCancelled = true) : s'.Sound c call := by
  unfold State.Sound at sound ⊢
  have longer : s.events.length ≤ s'.events.length := by
    rw [events, List.length_append]
    omega
  cases pc : call.pc with
  | post cursor =>
    simp only [pc] at sound ⊢
    omega
  | wait cursor =>
    simp only [pc] at sound ⊢
    obtain ⟨old, quiet⟩ := sound
    refine ⟨by omega, fun i event before read => ?_⟩
    rw [events, List.getElem?_append_left (by omega)] at read
    exact quiet i event before read
  | sweep outcome =>
    simp only [pc] at sound ⊢
    exact ⟨sound.1, sound.2.mono events cancelled⟩
  | done outcome =>
    simp only [pc] at sound ⊢
    exact sound.mono events cancelled
  | _ => trivial

theorem State.Asked.goto {d : Nat} {torrent : Uuid} {deleteFiles : Bool} {pc : CallPc}
    (asked : s.Asked d torrent deleteFiles) (current : s.calls[c]? = some call)
    (posted : call.pc.isPosted = true → pc.isPosted = true)
    (calls : s'.calls = s.calls.set c { call with pc }) : s'.Asked d torrent deleteFiles := by
  obtain ⟨other, entry, rfl, rfl, before⟩ := asked
  rw [State.Asked, calls]
  by_cases same : d = c
  · subst same
    obtain rfl := Option.some.inj (current.symm.trans entry)
    exact ⟨_, get_set_self current _, rfl, rfl, posted before⟩
  · exact ⟨other, by rwa [List.getElem?_set_ne (Ne.symm same)], rfl, rfl, before⟩

/-- A step of call `c`: what is left to check of it. -/
theorem State.Attributed.progress (attributed : s.Attributed)
    (current : s.calls[c]? = some call) (pc : CallPc) (pendingDeletes : List Entry)
    (removes : List (Nat × Uuid × Bool)) (sound : s.Sound c { call with pc })
    (told : ∀ entry ∈ pendingDeletes, ∀ d ∈ s.outstanding, confuses entry d = false)
    (parked : ∀ torrent, s.calls.countP (·.parks torrent) ≤
        s.pendingDeletes.countP (·.2 == torrent) →
      (s.calls.set c { call with pc }).countP (·.parks torrent) ≤
        pendingDeletes.countP (·.2 == torrent))
    (posted : call.pc.isPosted = true → pc.isPosted = true)
    (removed : ∀ first ∈ removes, first ∈ s.removes ∨
      first = (c, call.torrent, call.deleteFiles) ∧ pc.isPosted = true)
    (waits : ∀ cursor, pc = .wait cursor → (∃ cursor, call.pc = .wait cursor) ∨
      ∀ event ∈ s.events, ∀ d, event.deletion = some d → d.call ≠ c) :
    ({ s with pendingDeletes, removes }.goto c call pc).Attributed where
  sound d other entry := by
    obtain ⟨rfl, rfl⟩ | ⟨_, before⟩ := get_set entry
    · exact sound.mono (List.append_nil _).symm fun shut => shut
    · exact (attributed.sound d other before).mono (List.append_nil _).symm fun shut => shut
  told := told
  own := attributed.own
  heard event known d deletes other cursor entry waiting := by
    obtain ⟨same, rfl⟩ | ⟨_, before⟩ := get_set entry
    · obtain ⟨cursor, before⟩ | silent := waits cursor waiting
      · exact attributed.heard event known d deletes call cursor (same ▸ current) before
      · exact absurd same (silent event known d deletes)
    · exact attributed.heard event known d deletes other cursor before waiting
  kinds := attributed.kinds
  once := attributed.once
  spent := attributed.spent
  parked torrent fresh := parked torrent (attributed.parked torrent fresh)
  posted d torrent deleteFiles pending := by
    obtain old | ⟨new, now⟩ := removed _ pending
    · exact (attributed.posted d torrent deleteFiles old).goto current posted rfl
    · cases new
      exact ⟨_, get_set_self current _, rfl, rfl, now⟩
  asked d known := (attributed.asked d known).goto current posted rfl
  closed := attributed.closed

/-- The step changes no list, and the call's entry stays what it was. -/
theorem countP_parks_set {pc : CallPc} (current : s.calls[c]? = some call)
    (parks : call.deleteFiles = true → pc.isParked = true → call.pc.isParked = true)
    (torrent : Uuid) (n : Nat) (before : s.calls.countP (·.parks torrent) ≤ n) :
    (s.calls.set c { call with pc }).countP (·.parks torrent) ≤ n := by
  have moved := countP_set (·.parks torrent) current { call with pc }
  have fewer : (Call.parks torrent { call with pc }).toNat ≤ (call.parks torrent).toNat := by
    unfold Call.parks
    cases files : call.deleteFiles with
    | false => simp
    | true =>
      cases now : pc.isParked with
      | false => simp
      | true => simp [parks files now]
  omega

theorem State.Attributed.goto {pc : CallPc} (attributed : s.Attributed)
    (current : s.calls[c]? = some call) (sound : s.Sound c { call with pc })
    (parks : call.deleteFiles = true → pc.isParked = true → call.pc.isParked = true)
    (posted : call.pc.isPosted = true → pc.isPosted = true)
    (waits : ∀ cursor, pc = .wait cursor → ∃ cursor, call.pc = .wait cursor) :
    (s.goto c call pc).Attributed :=
  attributed.progress current pc s.pendingDeletes s.removes sound attributed.told
    (fun torrent => countP_parks_set current parks torrent _) posted (fun _ old => .inl old)
    fun cursor waiting => .inl (waits cursor waiting)

theorem State.Asked.posted_of {torrent : Uuid} {deleteFiles : Bool}
    (asked : s.Asked c torrent deleteFiles) (current : s.calls[c]? = some call) :
    call.torrent = torrent ∧ call.deleteFiles = deleteFiles ∧ call.pc.isPosted = true := by
  obtain ⟨other, entry, torrent, files, posted⟩ := asked
  obtain rfl := Option.some.inj (current.symm.trans entry)
  exact ⟨torrent, files, posted⟩

/-- The pc after `request`, and what it owes. -/
theorem State.Sound.returned {outcome : Outcome} (returned : s.Returned c call outcome) :
    s.Sound c { call with pc := call.returned outcome } := by
  unfold Call.returned
  split
  case isTrue files => exact ⟨files, by cases outcome <;> exact returned⟩
  case isFalse =>
    show s.Returned c _ outcome
    cases outcome <;> exact returned

theorem Call.isPosted_returned {outcome : Outcome} (known : outcome ≠ .notFound) :
    (call.returned outcome).isPosted = true := by
  unfold Call.returned
  split <;> simp [CallPc.isPosted, known]

theorem Call.returned_ne_wait {outcome : Outcome} (cursor : Nat) :
    call.returned outcome ≠ .wait cursor := by
  unfold Call.returned
  split <;> simp

/-- An event about a call's own deletion that names its torrent is one it matches. -/
theorem State.Attributed.matches_own {event : Event} {d : FilesDeletion} (attributed : s.Attributed)
    (known : event ∈ s.events) (deletes : event.deletion = some d)
    (named : event.torrent = some d.torrent) (current : s.calls[d.call]? = some call) :
    call.matcher event ≠ none := by
  have about := attributed.asked d (List.mem_append_right _
    (List.mem_filterMap.mpr ⟨event, known, deletes⟩))
  obtain ⟨torrent, files, _⟩ := about.posted_of current
  have kind := attributed.kinds event known
  rw [deletes] at kind
  obtain ⟨result, kind⟩ := kind
  unfold Call.matcher
  rw [named, torrent, if_pos rfl, kind, files]
  cases result <;> simp [Deleted.kind]

theorem CallMove.attributed (attributed : s.Attributed) (kept : s.misleads a = false)
    (reads : s.misses a = false) (current : s.calls[c]? = some call)
    (move : CallMove s a c call s') : s'.Attributed := by
  have sound := attributed.sound c call current
  cases move with
  | found pc =>
    exact attributed.goto current trivial (by simp [CallPc.isParked])
      (by simp [pc, CallPc.isPosted]) (by simp)
  | notFound early =>
    exact attributed.goto current trivial (by simp [CallPc.isParked])
      (by obtain pc | pc := early <;> simp [pc, CallPc.isPosted]) (by simp)
  | shut pc closed =>
    exact attributed.goto current (attributed.closed closed) (by simp [CallPc.isParked])
      (by simp [pc, CallPc.isPosted]) (by simp)
  | looked pc =>
    cases files : call.deleteFiles with
    | true =>
      exact attributed.goto current trivial (by simp [CallPc.isParked])
        (by simp [pc, CallPc.isPosted]) (by simp)
    | false =>
      exact attributed.goto current trivial (by simp [files]) (by simp [pc, CallPc.isPosted])
        (by simp)
  | @park locks pc action =>
    refine attributed.progress current .check
      (s.pendingDeletes ++ [(s.infoHashes call.torrent locks, call.torrent)]) s.removes trivial
      (fun entry known d outstanding => ?_) (fun torrent before => ?_)
      (by simp [pc, CallPc.isPosted]) (fun _ old => .inl old) (by simp)
    · obtain old | rfl := List.mem_append.mp known |>.imp_right List.mem_singleton.mp
      · exact attributed.told entry old d outstanding
      · subst action
        obtain ⟨torrent, files, _⟩ := call
        cases pc
        simp only [State.misleads, current, List.any_eq_false, Bool.not_eq_true] at kept
        exact kept d outstanding
    · -- one more call parks, and one more entry is there for it
      have moved := countP_set (·.parks torrent) current { call with pc := .check }
      have one : (Call.parks torrent { call with pc := .check }).toNat ≤
          (call.torrent == torrent).toNat := by
        unfold Call.parks
        cases call.torrent == torrent <;> simp [Bool.toNat_le]
      rw [countP_concat]
      show _ ≤ _ + (call.torrent == torrent).toNat
      omega
  | checked pc =>
    exact attributed.goto current trivial (by simp [pc, CallPc.isParked])
      (by simp [pc, CallPc.isPosted]) (by simp)
  | subscribe pc =>
    exact attributed.goto current (Nat.le_refl _) (by simp [pc, CallPc.isParked])
      (by simp [pc, CallPc.isPosted]) (by simp)
  | @post cursor pc =>
    -- no event is about a deletion that this call has not asked for yet
    have silent : ∀ event ∈ s.events, ∀ d, event.deletion = some d → d.call ≠ c := by
      rintro event known d deletes rfl
      have about := attributed.asked d (List.mem_append_right _
        (List.mem_filterMap.mpr ⟨event, known, deletes⟩))
      have posted := (about.posted_of current).2.2
      rw [pc] at posted
      cases posted
    simp only [State.Sound, pc] at sound
    refine attributed.progress current (.wait cursor) s.pendingDeletes
      (s.removes ++ [(c, call.torrent, call.deleteFiles)])
      ⟨sound, fun i event _ read => .inr ?_⟩ attributed.told
      (fun torrent => countP_parks_set current (by simp [pc, CallPc.isParked]) torrent _)
      (fun _ => rfl) (fun first known => ?_) fun _ _ => .inr silent
    · exact silent event (List.mem_of_getElem? read)
    · obtain old | new := List.mem_append.mp known
      · exact .inl old
      · exact .inr ⟨List.mem_singleton.mp new, rfl⟩
  | @read cursor event pc read other =>
    simp only [State.Sound, pc] at sound
    obtain ⟨_, quiet⟩ := sound
    refine attributed.goto current ⟨?_, fun i other before found => ?_⟩
      (by simp [pc, CallPc.isParked]) (by simp [pc, CallPc.isPosted]) fun _ _ => ⟨cursor, pc⟩
    · have := (List.getElem?_eq_some_iff.mp read).1
      omega
    · obtain earlier | rfl := Nat.lt_succ_iff_lt_or_eq.mp before
      · exact quiet i other earlier found
      · obtain rfl := Option.some.inj (read.symm.trans found)
        exact .inl ‹_›
  | @reply cursor event result pc read matched =>
    refine attributed.goto current (.returned ⟨List.mem_of_getElem? read, matched⟩)
      (by simp [pc, CallPc.isParked]) (fun _ => Call.isPosted_returned (by simp))
      fun _ waiting => absurd waiting (Call.returned_ne_wait _)
  | @lagged cursor later pc action known =>
    subst action
    simp only [State.Sound, pc] at sound
    obtain ⟨_, quiet⟩ := sound
    refine attributed.goto current ⟨known, fun i other before found => ?_⟩
      (by simp [pc, CallPc.isParked]) (by simp [pc, CallPc.isPosted]) fun _ _ => ⟨cursor, pc⟩
    by_cases earlier : i < cursor
    · exact quiet i other earlier found
    · have unread : (s.events.take later)[i]? = some other := by
        rw [List.getElem?_take_of_lt before, found]
      -- what it lagged past does not answer it
      have silent := State.unread_matcher current pc reads (Nat.le_of_not_lt earlier) unread
      exact .inl silent
  | @timeout cursor pc action =>
    subst action
    simp only [State.Sound, pc] at sound
    obtain ⟨_, quiet⟩ := sound
    refine attributed.goto current
      (.returned ⟨Nat.le_refl _, fun i event d before read deletes => ?_⟩)
      (by simp [pc, CallPc.isParked]) (fun _ => Call.isPosted_returned (by simp))
      fun _ waiting => absurd waiting (Call.returned_ne_wait _)
    -- an event about its own deletion would have been read, or be left to read
    rintro rfl
    have known := List.mem_of_getElem? read
    have named := attributed.heard event known d deletes call _ current pc
    have answers := attributed.matches_own known deletes named current
    by_cases earlier : i < cursor
    · obtain unmatched | other := quiet i event earlier read
      · exact answers unmatched
      · exact other d deletes rfl
    · exact answers (State.unread_matcher current pc reads (Nat.le_of_not_lt earlier) read)
  | cancelled pc shut =>
    refine attributed.goto current (.returned shut) ?_ (fun _ => Call.isPosted_returned (by simp))
      fun _ waiting => absurd waiting (Call.returned_ne_wait _)
    obtain pc | ⟨cursor, pc⟩ := pc <;> simp [pc, CallPc.isParked]
  | dropped pc =>
    exact attributed.goto current trivial (by simp [CallPc.isParked]) (fun _ => rfl) (by simp)
  | @sweep outcome pc =>
    simp only [State.Sound, pc] at sound
    obtain ⟨files, returned⟩ := sound
    have returned' : s.Sound c { call with pc := .done outcome } := by
      cases outcome <;> exact returned
    refine attributed.progress current (.done outcome) (s.sweepPendingDelete call.torrent) s.removes
      returned' (fun entry known => ?_) (fun torrent before => ?_)
      (by simp [pc, CallPc.isPosted]) (fun _ old => .inl old) (by simp)
    · apply attributed.told entry
      unfold State.sweepPendingDelete at known
      split at known
      case h_1 => exact known
      case h_2 i found =>
        obtain ⟨inside, _⟩ := List.findIdx?_eq_some_iff_getElem.mp found
        exact mem_of_swapRemove (List.getElem?_eq_getElem inside) known
    · -- the sweep takes an entry of this call's torrent, which the call no longer parks
      have moved := countP_set (·.parks torrent) current { call with pc := .done outcome }
      have mine : (call.parks torrent).toNat = (call.torrent == torrent).toNat := by
        simp [Call.parks, files, pc, CallPc.isParked]
      have left : (Call.parks torrent { call with pc := .done outcome }).toNat = 0 := by
        simp [Call.parks, CallPc.isParked]
      unfold State.sweepPendingDelete
      split
      case h_1 => omega
      case h_2 i found =>
        obtain ⟨inside, same, _⟩ := List.findIdx?_eq_some_iff_getElem.mp found
        have removed := countP_swapRemove (·.2 == torrent) (List.getElem?_eq_getElem inside)
        rw [eq_of_beq same] at removed
        omega

/-! ## Steps outside the calls -/

/-- A step outside the calls that starts no deletion and publishes `new`. -/
structure State.Keeps (s s' : State) (new : List Event) : Prop where
  calls : s'.calls = s.calls := by rfl
  events : s'.events = s.events ++ new := by simp
  pendingDeletes : ∀ entry ∈ s'.pendingDeletes, entry ∈ s.pendingDeletes := by
    exact fun _ known => known
  outstanding : ∀ d ∈ s'.outstanding, d ∈ s.outstanding := by exact fun _ known => known
  deletions : s'.deletions.Perm s.deletions := by exact .refl _
  spent : ∀ torrent, s.isSpent torrent = true → s'.isSpent torrent = true := by
    exact fun _ known => known
  removes : ∀ first ∈ s'.removes, first ∈ s.removes := by exact fun _ known => known
  cancelled : s.isCancelled = true → s'.isCancelled = true := by exact fun shut => shut
  closed : s'.sessionOpen = false → s.sessionOpen = false ∨ s'.isCancelled = true := by
    exact fun shut => .inl shut
  own : ∀ event ∈ new, ∀ d, event.deletion = some d →
    event.torrent = none ∨ event.torrent = some d.torrent := by simp
  heard : ∀ event ∈ new, ∀ d, event.deletion = some d → ∀ (call : Call) (cursor : Nat),
    s.calls[d.call]? = some call → call.pc = .wait cursor → event.torrent = some d.torrent := by
    simp
  kinds : ∀ event ∈ new, match event.deletion with
    | some _ => ∃ result : Deleted, event.kind = result.kind
    | none => event.kind = .torrentRemoved := by simp
  parked : ∀ torrent, (∀ event ∈ new, ∀ d, event.deletion = some d → d.torrent ≠ torrent) →
    s.pendingDeletes.countP (·.2 == torrent) ≤ s'.pendingDeletes.countP (·.2 == torrent) := by
    exact fun _ _ => Nat.le_refl _

theorem State.Attributed.outside (attributed : s.Attributed) (new : List Event)
    (keeps : s.Keeps s' new) : s'.Attributed := by
  have old : ∀ event ∈ s.events, event ∈ s'.events := by
    intro event known
    rw [keeps.events]
    exact List.mem_append_left _ known
  have either : ∀ event ∈ s'.events, event ∈ s.events ∨ event ∈ new := by
    intro event known
    rw [keeps.events] at known
    exact List.mem_append.mp known
  constructor
  case sound =>
    intro d call entry
    rw [keeps.calls] at entry
    exact (attributed.sound d call entry).mono keeps.events keeps.cancelled
  case told =>
    intro entry known d outstanding
    exact attributed.told entry (keeps.pendingDeletes entry known) d
      (keeps.outstanding d outstanding)
  case own =>
    intro event known
    obtain before | fresh := either event known
    · exact attributed.own event before
    · exact keeps.own event fresh
  case heard =>
    intro event known d deletes call cursor entry
    rw [keeps.calls] at entry
    obtain before | fresh := either event known
    · exact attributed.heard event before d deletes call cursor entry
    · exact keeps.heard event fresh d deletes call cursor entry
  case kinds =>
    intro event known
    obtain before | fresh := either event known
    · exact attributed.kinds event before
    · exact keeps.kinds event fresh
  case once => exact ((keeps.deletions.map _).nodup_iff).mpr attributed.once
  case spent =>
    intro d known
    exact keeps.spent _ (attributed.spent d (keeps.deletions.subset known))
  case parked =>
    intro torrent fresh
    rw [keeps.calls]
    have before := attributed.parked torrent fun event known => fresh event (old event known)
    refine Nat.le_trans before (keeps.parked torrent fun event known => ?_)
    apply fresh event
    rw [keeps.events]
    exact List.mem_append_right _ known
  case posted =>
    intro d torrent deleteFiles pending
    rw [State.Asked, keeps.calls]
    exact attributed.posted d torrent deleteFiles (keeps.removes _ pending)
  case asked =>
    intro d known
    rw [State.Asked, keeps.calls]
    exact attributed.asked d (keeps.deletions.subset known)
  case closed =>
    intro shut
    obtain before | now := keeps.closed shut
    · exact keeps.cancelled (attributed.closed before)
    · exact now

theorem State.isSpent_iff {torrent : Uuid} : s.isSpent torrent = true ↔
    ∃ t, s.torrents[torrent]? = some t ∧ t.stage ≠ .registered := by
  simp [State.isSpent, Option.any_eq_true]

theorem State.isSpent_setStage {torrent : Uuid} {stage : Stage} (gone : stage ≠ .registered)
    (u : Uuid) (spent : s.isSpent u = true) :
    ({ s with torrents := s.setStage torrent stage } : State).isSpent u = true := by
  rw [State.isSpent_iff] at spent ⊢
  obtain ⟨t, entry, left⟩ := spent
  simp only [State.setStage, List.getElem?_modify, entry]
  split
  · exact ⟨_, rfl, gone⟩
  · exact ⟨_, rfl, left⟩

/-- libtorrent starts to delete the files of a torrent that just left. -/
theorem State.Attributed.begin (attributed : s.Attributed) (d : FilesDeletion)
    (told : ∀ entry ∈ s.pendingDeletes, confuses entry d = false)
    (fresh : ∀ other ∈ s.deletions, other.torrent ≠ d.torrent)
    (spent : s.isSpent d.torrent = true) (asked : s.Asked d.call d.torrent true) :
    ({ s with deleting := s.deleting ++ [d] } : State).Attributed := by
  have outstanding : ({ s with deleting := s.deleting ++ [d] } : State).outstanding.Perm
      (d :: s.outstanding) := by
    simp [State.outstanding]
  have deletions : ({ s with deleting := s.deleting ++ [d] } : State).deletions.Perm
      (d :: s.deletions) := outstanding.append_right _
  have split : ∀ other ∈ ({ s with deleting := s.deleting ++ [d] } : State).deletions,
      other = d ∨ other ∈ s.deletions :=
    fun other known => List.mem_cons.mp (deletions.subset known)
  constructor
  case sound => exact attributed.sound
  case told =>
    intro entry known other pending
    obtain rfl | old := List.mem_cons.mp (outstanding.subset pending)
    · exact told entry known
    · exact attributed.told entry known other old
  case own => exact attributed.own
  case heard => exact attributed.heard
  case kinds => exact attributed.kinds
  case once =>
    rw [(deletions.map _).nodup_iff, List.map_cons, List.nodup_cons]
    refine ⟨fun known => ?_, attributed.once⟩
    obtain ⟨other, old, same⟩ := List.mem_map.mp known
    exact fresh other old same
  case spent =>
    intro other known
    obtain rfl | old := split other known
    · exact spent
    · exact attributed.spent other old
  case parked => exact attributed.parked
  case posted => exact attributed.posted
  case asked =>
    intro other known
    obtain rfl | old := split other known
    · exact asked
    · exact attributed.asked other old
  case closed => exact attributed.closed

/-- A call that entered has parked nothing. -/
theorem State.Attributed.called (attributed : s.Attributed) (torrent : Uuid) (deleteFiles : Bool) :
    ({ s with calls := s.calls ++ [⟨torrent, deleteFiles, .find⟩] } : State).Attributed := by
  have asked : ∀ {d : Nat} {t : Uuid} {files : Bool}, s.Asked d t files →
      ({ s with calls := s.calls ++ [⟨torrent, deleteFiles, .find⟩] } : State).Asked d t files := by
    rintro d t files ⟨call, entry, about⟩
    exact ⟨call, get_append_of_get entry _, about⟩
  refine ⟨fun d call entry => ?_, attributed.told, attributed.own, ?_, attributed.kinds,
    attributed.once, attributed.spent, fun t fresh => ?_,
    fun d t files pending => asked (attributed.posted d t files pending),
    fun d known => asked (attributed.asked d known), attributed.closed⟩
  · obtain old | ⟨_, rfl⟩ := get_append entry
    · exact attributed.sound d call old
    · trivial
  · intro event known d deletes call cursor entry waiting
    obtain old | ⟨_, rfl⟩ := get_append entry
    · exact attributed.heard event known d deletes call cursor old waiting
    · cases waiting
  · have before := attributed.parked t fresh
    rw [countP_concat]
    have none : Call.parks t ⟨torrent, deleteFiles, .find⟩ = false := by
      simp [Call.parks, CallPc.isParked]
    rw [none]
    exact before

/-- The alert of torrent `d.torrent` goes to an entry of that torrent, or to none. -/
theorem takePendingDelete_spec {d : FilesDeletion} (attributed : s.Attributed)
    (pending : d ∈ s.outstanding) :
    ((s.takePendingDelete d.hashes).2 = none ∧
      (s.takePendingDelete d.hashes).1 = s.pendingDeletes ∧
      ∀ entry ∈ s.pendingDeletes, entry.2 ≠ d.torrent) ∨
    ((s.takePendingDelete d.hashes).2 = some d.torrent ∧
      ∃ entry, entry.2 = d.torrent ∧
        (entry :: (s.takePendingDelete d.hashes).1).Perm s.pendingDeletes) := by
  have about : ∀ entry ∈ s.pendingDeletes,
      entry.1.overlaps d.hashes = (entry.2 == d.torrent) := by
    intro entry known
    have := attributed.told entry known d pending
    simpa [confuses] using this
  unfold State.takePendingDelete
  split
  case h_1 missing =>
    refine .inl ⟨rfl, rfl, fun entry known same => ?_⟩
    have apart := List.findIdx?_eq_none_iff.mp missing entry known
    rw [about entry known, same, beq_self_eq_true] at apart
    cases apart
  case h_2 i found =>
    obtain ⟨inside, overlaps, _⟩ := List.findIdx?_eq_some_iff_getElem.mp found
    have entry := List.getElem?_eq_getElem inside
    rw [about _ (List.getElem_mem inside), beq_iff_eq] at overlaps
    refine .inr ⟨?_, s.pendingDeletes[i], overlaps, swapRemove_perm entry⟩
    rw [entry, Option.map_some, overlaps]

theorem OutsideMove.attributed (attributed : s.Attributed) (kept : s.misleads a = false)
    (move : OutsideMove s a s') : s'.Attributed := by
  cases move with
  | called torrent deleteFiles => exact attributed.called torrent deleteFiles
  | added hashes =>
    refine attributed.outside [] { spent := fun u spent => ?_ }
    rw [State.isSpent_iff] at spent ⊢
    obtain ⟨t, entry, gone⟩ := spent
    exact ⟨t, get_append_of_get entry _, gone⟩
  | @widened torrent old hashes current =>
    refine attributed.outside [] { spent := fun u spent => ?_ }
    rw [State.isSpent_iff] at spent ⊢
    obtain ⟨t, entry, gone⟩ := spent
    refine ⟨t, ?_, gone⟩
    rw [List.getElem?_set_ne ?_]
    · exact entry
    · rintro rfl
      rw [current] at entry
      cases entry
      exact gone rfl
  | @performed c torrent deleteFiles rest hashes action next live =>
    have left : ({ s with
        removes := rest
        torrents := s.setStage torrent .removed
        alerts := s.alerts ++ [.torrentRemoved torrent] } : State).Attributed :=
      attributed.outside []
        { outstanding := by simp [State.outstanding, List.filterMap_cons, Alert.deletes]
          deletions := by
            simp [State.deletions, State.outstanding, List.filterMap_cons, Alert.deletes]
          spent := State.isSpent_setStage (by simp)
          removes := fun first known => next ▸ List.mem_cons_of_mem _ known }
    cases deleteFiles with
    | false => exact left
    | true =>
      refine left.begin ⟨torrent, c, hashes⟩ (fun entry known => ?_)
        (fun other known same => ?_) ?_ ?_
      · subst action
        simp only [State.misleads, next, live, List.any_eq_false, Bool.not_eq_true] at kept
        exact kept entry known
      · -- the torrent was in the session until now
        have old : other ∈ s.deletions := by
          simpa [State.deletions, State.outstanding, Alert.deletes] using known
        obtain ⟨t, entry, gone⟩ := State.isSpent_iff.mp (attributed.spent other old)
        rw [same, live] at entry
        cases entry
        exact gone rfl
      · rw [State.isSpent_iff]
        refine ⟨⟨hashes, .removed⟩, ?_, by simp⟩
        simp [State.setStage, live]
      · exact attributed.posted c torrent true (next ▸ List.mem_cons_self)
  | ignored next =>
    exact attributed.outside []
      { removes := fun first known => next ▸ List.mem_cons_of_mem _ known }
  | @completed i d result done =>
    have inside := (List.getElem?_eq_some_iff.mp done).1
    have entry := (List.getElem?_eq_some_iff.mp done).2
    have perm : (s.deleting.eraseIdx i ++ ((s.alerts ++ [Alert.deletion d result]) ++
        s.batch).filterMap Alert.deletes).Perm s.outstanding := by
      have removed := List.getElem_cons_eraseIdx_perm inside
      rw [entry] at removed
      simp only [State.outstanding, List.filterMap_append, List.filterMap_cons, List.filterMap_nil,
        Alert.deletes, ← List.append_assoc]
      exact ((List.perm_append_singleton d _).append_right _).trans
        ((removed.append_right _).append_right _)
    exact attributed.outside []
      { outstanding := fun d known => perm.subset known
        deletions := perm.append_right _ }
  | @processed alert rest torrents next stages =>
    have perm : (s.deleting ++ (rest ++ (s.batch ++ [alert])).filterMap Alert.deletes).Perm
        s.outstanding := by
      apply List.Perm.append_left
      apply List.Perm.filterMap
      rw [next, ← List.append_assoc]
      exact List.perm_append_singleton alert (rest ++ s.batch)
    refine attributed.outside []
      { outstanding := fun d known => perm.subset known
        deletions := perm.append_right _
        spent := fun u spent => ?_ }
    obtain rfl | ⟨torrent, rfl⟩ := stages
    · exact spent
    · exact State.isSpent_setStage (by simp) u spent
  | @unregistered torrent rest next =>
    exact attributed.outside [⟨some torrent, .torrentRemoved, none⟩]
      { outstanding := by simp [State.outstanding, next, List.filterMap_cons, Alert.deletes]
        deletions := by
          simp [State.deletions, State.outstanding, next, List.filterMap_cons, Alert.deletes]
        spent := State.isSpent_setStage (by simp) }
  | @deleted d result rest next =>
    have pending : d ∈ s.outstanding := by simp [State.outstanding, next, Alert.deletes]
    -- the torrent's only deletion
    have first : ∀ event ∈ s.events, ∀ other, event.deletion = some other →
        other.torrent ≠ d.torrent := by
      intro event known other deletes same
      have handled := List.mem_filterMap.mpr ⟨event, known, deletes⟩
      have apart := List.disjoint_of_nodup_append (List.map_append ▸ attributed.once)
      exact apart (List.mem_map_of_mem pending) (same ▸ List.mem_map_of_mem handled)
    have taken := takePendingDelete_spec attributed pending
    refine attributed.outside [⟨(s.takePendingDelete d.hashes).2, result.kind, some d⟩]
      { pendingDeletes := fun entry known => ?_
        outstanding := fun other known => ?_
        deletions := ?_
        own := ?_
        heard := ?_
        kinds := ?_
        parked := fun torrent fresh => ?_ }
    · obtain ⟨_, same, _⟩ | ⟨_, taken, _, perm⟩ := taken
      · exact same ▸ known
      · exact perm.subset (List.mem_cons_of_mem _ known)
    · simp only [State.outstanding, next, List.filterMap_append, List.filterMap_cons, Alert.deletes,
        List.mem_append, List.mem_cons] at known ⊢
      tauto
    · simp only [State.deletions, State.outstanding, next, List.filterMap_append,
        List.filterMap_cons, List.filterMap_nil, Alert.deletes]
      rw [← List.append_assoc, ← List.append_assoc, ← List.append_assoc,
        List.append_assoc _ (d :: _)]
      exact (List.perm_append_singleton d _).trans (by
        rw [List.append_assoc]
        exact List.perm_middle.symm)
    · simp only [List.mem_singleton, forall_eq, Option.some.injEq]
      rintro _ rfl
      exact taken.imp And.left And.left
    · simp only [List.mem_singleton, forall_eq, Option.some.injEq]
      rintro _ rfl call cursor current waiting
      obtain ⟨_, _, missing⟩ | ⟨named, _⟩ := taken
      · -- the call still waits, so its entry is there
        have about := attributed.asked d (List.mem_append_left _ pending)
        obtain ⟨torrent, files, _⟩ := about.posted_of current
        have parks : call.parks d.torrent = true := by
          simp [Call.parks, torrent, files, waiting, CallPc.isParked]
        have one := countP_pos (·.parks d.torrent) current parks
        have enough := attributed.parked d.torrent first
        obtain ⟨entry, known, mine⟩ := List.countP_pos_iff.mp (Nat.lt_of_lt_of_le one enough)
        exact absurd (eq_of_beq mine) (missing entry known)
      · exact named
    · simp only [List.mem_singleton, forall_eq]
      exact ⟨result, rfl⟩
    · simp only [List.mem_singleton, forall_eq, Option.some.injEq, forall_eq'] at fresh
      obtain ⟨_, same, _⟩ | ⟨_, taken, uuid, perm⟩ := taken
      · exact Nat.le_of_eq (by rw [← same])
      · rw [← perm.countP_eq, countP_cons, uuid, beq_false_of_ne fresh]
        simp
  | cancel =>
    exact attributed.outside [] { cancelled := fun _ => rfl, closed := fun shut => .inr rfl }
  | close shut => exact attributed.outside [] { closed := fun _ => .inr shut }

theorem attributed_run
    (run : DeletionRun (fun s a => s.misleads a = false ∧ s.misses a = false) s) :
    s.Attributed := by
  refine run.invariant (I := State.Attributed) ?_ fun t a u _ attributed kept stepped => ?_
  · constructor <;> simp [State.start, State.deletions, State.outstanding]
  · obtain ⟨c, call, current, move⟩ | move := step_move stepped
    · exact move.attributed attributed kept.1 kept.2 current
    · exact move.attributed attributed kept.1

/-! ## What is published and returned -/

end Rsbtd.Deletion
