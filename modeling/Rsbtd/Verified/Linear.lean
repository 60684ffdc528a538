import Rsbtd.Engine.SessionState
import Rsbtd.Transition.Pool

/-!
# Session-state operations are atomic

While the lock is free, the live image is the replay of the operations that
returned `Ok`, every queued snapshot is one of that image, and so is the file.
The holder of the lock moves the live image away from it and, before it drops
the guard, either has its snapshot on disk or moves the image back.
-/

namespace Rsbtd.SessionState

open Transition

variable {κ ν φ δ β : Type} {d : Daemon κ ν φ δ β} {s s' : State κ ν φ δ β} {c : Nat}
  {call : Call κ ν φ β} {base : Image κ ν φ}

/-! ## Mutations -/

/-- A rollback restores exactly what was read before the mutation. -/
theorem Mutation.undo_run (lawful : d.Lawful) (m : Mutation κ ν φ) (image : Image κ ν φ) :
    (m.undo image).run d (m.run d image) = image := by
  cases m with
  | applySettings pack =>
    have settings : d.applySettings (fun key => some (image.settings key))
        (d.applySettings pack image.settings) = image.settings :=
      funext fun key => lawful.overlay _ _ key
    simp only [Mutation.undo, Mutation.run, settings]
  | setIpFilter filter => rfl

/-- The daemon's alert settings. -/
structure Daemon.Pinned (d : Daemon κ ν φ δ β) (image : Image κ ν φ) : Prop where
  alertMask : image.settings .alertMask = d.alertMask
  alertQueueSize : image.settings .alertQueueSize = d.alertQueueSize

theorem Daemon.Pinned.mutation {request : Request κ ν φ} {m : Mutation κ ν φ}
    {image : Image κ ν φ} (lawful : d.Lawful) (pinned : d.Pinned image)
    (mutates : request.mutation d = some m) : d.Pinned (m.run d image) := by
  cases request with
  | applySettings pack =>
    cases mutates
    constructor
    · cases given : pack .alertMask <;>
        simp [Mutation.run, lawful.overlay, Daemon.pin, given, pinned.alertMask]
    · cases given : pack .alertQueueSize <;>
        simp [Mutation.run, lawful.overlay, Daemon.pin, given, pinned.alertQueueSize]
  | setIpFilter filter =>
    cases mutates
    exact ⟨pinned.alertMask, pinned.alertQueueSize⟩
  | checkpoint => cases mutates

/-- Whatever the restored state holds, a started engine has its alert settings. -/
theorem Daemon.pinned_initial [DecidableEq ν] (lawful : d.Lawful) (loaded : Image κ ν φ) :
    d.Pinned (d.initial loaded) := by
  constructor
  · by_cases same : loaded.settings .alertMask = d.alertMask <;>
      simp [Daemon.initial, Mutation.run, lawful.overlay, Daemon.fix, same]
  · by_cases same : loaded.settings .alertQueueSize = d.alertQueueSize <;>
      simp [Daemon.initial, Mutation.run, lawful.overlay, Daemon.fix, same]

/-! ## The invariant -/

/-- The bytes are a snapshot of the image. -/
def Daemon.Loads (d : Daemon κ ν φ δ β) (bytes : β) (image : Image κ ν φ) : Prop :=
  d.loadState bytes = some (image.settings, image.filter)

/-- The file, once it was written, holds the image. -/
def State.Stores (d : Daemon κ ν φ δ β) (s : State κ ν φ δ β) (image : Image κ ν φ) : Prop :=
  s.written = true → ∃ bytes, s.disk = some bytes ∧ d.Loads bytes image

/-- So do all queued snapshots. -/
structure State.Backs (d : Daemon κ ν φ δ β) (s : State κ ν φ δ β) (image : Image κ ν φ) :
    Prop where
  queued : ∀ write ∈ s.pending, d.Loads write.1 image
  stored : s.Stores d image

/-- The mutation of a call, and the rollback prepared for it. -/
def Prepared (d : Daemon κ ν φ δ β) (call : Call κ ν φ β) (base live : Image κ ν φ) :
    Option (Mutation κ ν φ) → Prop
  | some undo => ∃ m, call.request.mutation d = some m ∧ live = m.run d base ∧ undo = m.undo base
  | none => call.request.mutation d = none ∧ live = base

/-- Call `c` waits for its own snapshot, which is queued last; or it is written,
or it failed. -/
inductive State.Awaits (d : Daemon κ ν φ δ β) (s : State κ ν φ δ β) (c : Nat)
    (base : Image κ ν φ) : Prop where
  | queued (front : List (β × Nat)) (bytes : β) (none : s.acks c = none)
      (last : s.pending = front ++ [(bytes, c)])
      (older : ∀ write ∈ front, d.Loads write.1 base ∧ write.2 ≠ c)
      (own : d.Loads bytes s.image) (stored : s.Stores d base)
  | written (acked : s.acks c = some true) (empty : s.pending = [])
      (stored : ∃ bytes, s.disk = some bytes ∧ d.Loads bytes s.image)
  | failed (acked : s.acks c = some false) (empty : s.pending = []) (stored : s.Stores d base)

/-- What the holder of the lock knows; `base` is the image it found. -/
def State.Holding (d : Daemon κ ν φ δ β) (s : State κ ν φ δ β) (c : Nat) (call : Call κ ν φ β)
    (base : Image κ ν φ) : Prop :=
  match call.pc with
  | .session => s.image = base ∧ s.Backs d base
  | .mutate m undo => call.request.mutation d = some m ∧ undo = m.undo base ∧ s.image = base ∧
      s.Backs d base
  | .save undo => Prepared d call base s.image undo ∧ s.Backs d base
  | .enqueue undo bytes => Prepared d call base s.image undo ∧ s.Backs d base ∧
      d.Loads bytes s.image
  | .ack undo => Prepared d call base s.image undo ∧ s.Awaits d c base
  | .rollback undo => Prepared d call base s.image (some undo) ∧ s.Backs d base
  | .lock | .done _ _ _ => False

theorem State.Backs.of_eq (pending : s'.pending = s.pending) (disk : s'.disk = s.disk)
    (written : s'.written = s.written) (backs : s.Backs d base) : s'.Backs d base := by
  constructor
  · rw [pending]
    exact backs.queued
  · rw [State.Stores, disk, written]
    exact backs.stored

theorem State.Awaits.of_eq (image : s'.image = s.image) (pending : s'.pending = s.pending)
    (disk : s'.disk = s.disk) (written : s'.written = s.written) (acks : s'.acks = s.acks)
    (awaits : s.Awaits d c base) : s'.Awaits d c base := by
  cases awaits with
  | queued front bytes none last older own stored =>
    refine .queued front bytes (acks ▸ none) (pending.trans last) older (image ▸ own) ?_
    rwa [State.Stores, disk, written]
  | written acked empty stored =>
    exact .written (acks ▸ acked) (pending.trans empty) (by rwa [disk, image])
  | failed acked empty stored =>
    refine .failed (acks ▸ acked) (pending.trans empty) ?_
    rwa [State.Stores, disk, written]

theorem State.Holding.of_eq (image : s'.image = s.image) (pending : s'.pending = s.pending)
    (disk : s'.disk = s.disk) (written : s'.written = s.written) (acks : s'.acks = s.acks)
    (holding : s.Holding d c call base) : s'.Holding d c call base := by
  unfold State.Holding at holding ⊢
  cases pc : call.pc <;> simp only [pc, image] at holding ⊢
  case session => exact ⟨holding.1, holding.2.of_eq pending disk written⟩
  case mutate =>
    exact ⟨holding.1, holding.2.1, holding.2.2.1, holding.2.2.2.of_eq pending disk written⟩
  case save => exact ⟨holding.1, holding.2.of_eq pending disk written⟩
  case enqueue => exact ⟨holding.1, holding.2.1.of_eq pending disk written, holding.2.2⟩
  case ack => exact ⟨holding.1, holding.2.of_eq image pending disk written acks⟩
  case rollback => exact ⟨holding.1, holding.2.of_eq pending disk written⟩

namespace CallPc

@[simp] theorem isOk_done (ok : Bool) (before after : Image κ ν φ) :
    (done ok before after : CallPc κ ν φ β).isOk = ok := rfl

/-- The call's snapshot was queued. -/
def isQueued : CallPc κ ν φ β → Bool
  | ack _ | rollback _ | done _ _ _ => true
  | _ => false

/-- The call never held the lock. -/
def isWaiting : CallPc κ ν φ β → Bool
  | lock => true
  | _ => false

/-- The call does not hold the lock. -/
def isOutside : CallPc κ ν φ β → Bool
  | lock | done _ _ _ => true
  | _ => false

end CallPc

structure State.Linear (d : Daemon κ ν φ δ β) (initial : Image κ ν φ) (s : State κ ν φ δ β) :
    Prop where
  free : s.holder = none →
    s.image = replay d (s.committed d) initial ∧ s.Backs d s.image
  held : ∀ c, s.holder = some c → ∃ call front, s.calls[c]? = some call ∧
    s.acquired = front ++ [c] ∧ s.entered = replay d (s.committed d) initial ∧
    s.Holding d c call s.entered
  outside : ∀ (c : Nat) (call : Call κ ν φ β), s.calls[c]? = some call → s.holder ≠ some c →
    call.pc.isOutside = true
  /-- An error left both as they were. -/
  errors : ∀ (c : Nat) (call : Call κ ν φ β) (before after : Image κ ν φ),
    s.calls[c]? = some call → call.pc = .done false before after → after = before
  posted : ∀ c, s.acks c ≠ none ∨ (∃ write ∈ s.pending, write.2 = c) →
    ∃ call, s.calls[c]? = some call ∧ call.pc.isQueued = true
  /-- A call takes the lock once. -/
  once : s.acquired.Nodup
  entered : ∀ c ∈ s.acquired, ∃ call, s.calls[c]? = some call ∧ call.pc.isWaiting = false
  pinned : d.Pinned s.image
  pinned_entered : d.Pinned s.entered

/-! ## The replay -/

/-- A step of a call that does not return `Ok` commits nothing. -/
theorem State.committed_goto (s : State κ ν φ δ β) (pc : CallPc κ ν φ β)
    (current : s.calls[c]? = some call) (before : call.pc.isOk = false) (after : pc.isOk = false) :
    (s.goto c call pc).committed d = s.committed d := by
  unfold State.committed
  apply List.filterMap_congr
  intro e _
  by_cases same : e = c
  · subst same
    rw [State.goto, get_set_self current, current]
    simp [before, after]
  · rw [State.goto, List.getElem?_set_ne (Ne.symm same)]

/-- The holder of the lock returns `Ok`: its mutation comes last. -/
theorem State.committed_ok (d : Daemon κ ν φ δ β) {front : List Nat}
    (image before after : Image κ ν φ) (current : s.calls[c]? = some call)
    (last : s.acquired = front ++ [c]) (once : s.acquired.Nodup) (fresh : call.pc.isOk = false) :
    ({ s with holder := none, image }.goto c call (.done true before after)).committed d =
      s.committed d ++ (call.request.mutation d).toList := by
  have other : ∀ e ∈ front, e ≠ c := by
    rintro e known rfl
    rw [last] at once
    exact List.disjoint_of_nodup_append once known List.mem_cons_self
  unfold State.committed
  simp only [State.goto, last, List.filterMap_append]
  have old : front.filterMap (fun e =>
      (s.calls.set c { call with pc := .done true before after })[e]?.bind fun call =>
        if call.pc.isOk then call.request.mutation d else none) =
      front.filterMap fun e => s.calls[e]?.bind fun call =>
        if call.pc.isOk then call.request.mutation d else none := by
    apply List.filterMap_congr
    intro e known
    rw [List.getElem?_set_ne (Ne.symm (other e known))]
  rw [old]
  simp only [List.filterMap_cons, List.filterMap_nil, get_set_self current, current]
  cases mutates : call.request.mutation d <;> simp [fresh, mutates]

theorem replay_append (first second : List (Mutation κ ν φ)) (image : Image κ ν φ) :
    replay d (first ++ second) image = replay d second (replay d first image) := by
  simp [replay]

/-! ## Steps of the calls -/

variable {initial : Image κ ν φ}

theorem State.Linear.holds (linear : s.Linear d initial) (current : s.calls[c]? = some call)
    (inside : call.pc.isOutside = false) : s.holder = some c := by
  by_contra other
  rw [linear.outside c call current other] at inside
  cases inside

theorem State.Linear.holding (linear : s.Linear d initial) (current : s.calls[c]? = some call)
    (holder : s.holder = some c) : (∃ front, s.acquired = front ++ [c]) ∧
      s.entered = replay d (s.committed d) initial ∧ s.Holding d c call s.entered := by
  obtain ⟨other, front, entry, last, entered, holding⟩ := linear.held c holder
  obtain rfl := Option.some.inj (current.symm.trans entry)
  exact ⟨⟨front, last⟩, entered, holding⟩

theorem CallPc.isOk_of_inside {pc : CallPc κ ν φ β} (inside : pc.isOutside = false) :
    pc.isOk = false := by
  cases pc <;> first | rfl | cases inside

/-- The holder goes on, with the lock. -/
theorem State.Linear.hold {image : Image κ ν φ} {queue : List (β × Nat)} {pc : CallPc κ ν φ β}
    (linear : s.Linear d initial) (current : s.calls[c]? = some call)
    (before : call.pc.isOutside = false) (after : pc.isOutside = false)
    (holding : ({ s with image, queue } : State κ ν φ δ β).Holding d c { call with pc } s.entered)
    (queued : call.pc.isQueued = true → pc.isQueued = true)
    (pushed : ∀ write ∈ queue, write ∈ s.queue ∨ write.2 = c ∧ pc.isQueued = true)
    (pinned : d.Pinned image) : ({ s with image, queue }.goto c call pc).Linear d initial := by
  have holder := linear.holds current before
  obtain ⟨⟨front, last⟩, entered, _⟩ := linear.holding current holder
  have same : ({ s with image, queue }.goto c call pc).committed d = s.committed d :=
    State.committed_goto { s with image, queue } pc current (CallPc.isOk_of_inside before)
      (CallPc.isOk_of_inside after)
  constructor
  case free =>
    intro free
    exact absurd (holder.symm.trans free) (by simp)
  case held =>
    intro e held
    obtain rfl := Option.some.inj (holder.symm.trans held)
    exact ⟨_, front, get_set_self current _, last, entered.trans (by rw [same]),
      State.Holding.of_eq (s := { s with image, queue }) rfl rfl rfl rfl rfl holding⟩
  case outside =>
    intro e other entry apart
    obtain ⟨rfl, rfl⟩ | ⟨_, old⟩ := get_set entry
    · exact absurd holder apart
    · exact linear.outside e other old apart
  case errors =>
    intro e other first second entry done
    obtain ⟨rfl, rfl⟩ | ⟨_, old⟩ := get_set entry
    · simp only at done
      rw [done] at after
      cases after
    · exact linear.errors e other first second old done
  case posted =>
    intro e seen
    have old : (s.acks e ≠ none ∨ ∃ write ∈ s.pending, write.2 = e) ∨
        e = c ∧ pc.isQueued = true := by
      obtain acked | ⟨write, known, rfl⟩ := seen
      · exact .inl (.inl acked)
      · obtain writing | waiting := List.mem_append.mp known
        · exact .inl (.inr ⟨write, List.mem_append_left _ writing, rfl⟩)
        · obtain before | ⟨mine, now⟩ := pushed write waiting
          · exact .inl (.inr ⟨write, List.mem_append_right _ before, rfl⟩)
          · exact .inr ⟨mine, now⟩
    by_cases mine : e = c
    · subst mine
      refine ⟨_, get_set_self current _, ?_⟩
      obtain old | ⟨_, now⟩ := old
      · obtain ⟨other, entry, posted⟩ := linear.posted e old
        obtain rfl := Option.some.inj (current.symm.trans entry)
        exact queued posted
      · exact now
    · obtain ⟨other, entry, posted⟩ := linear.posted e (old.resolve_right fun now => mine now.1)
      exact ⟨other, by rwa [State.goto, List.getElem?_set_ne (Ne.symm mine)], posted⟩
  case once => exact linear.once
  case entered =>
    intro e known
    by_cases mine : e = c
    · subst mine
      refine ⟨_, get_set_self current _, ?_⟩
      cases pc <;> first | rfl | cases after
    · obtain ⟨other, entry, entered⟩ := linear.entered e known
      exact ⟨other, by rwa [State.goto, List.getElem?_set_ne (Ne.symm mine)], entered⟩
  case pinned => exact pinned
  case pinned_entered => exact linear.pinned_entered

/-- The holder returns and drops the guard. -/
theorem State.Linear.finish {image : Image κ ν φ} {ok : Bool} (linear : s.Linear d initial)
    (current : s.calls[c]? = some call) (before : call.pc.isOutside = false)
    (backs : s.Backs d image)
    (committed : ok = true → image = replay d (call.request.mutation d).toList s.entered)
    (failed : ok = false → image = s.entered) (pinned : d.Pinned image) :
    ({ s with image }.finish c call ok).Linear d initial := by
  have holder := linear.holds current before
  obtain ⟨⟨front, last⟩, entered, _⟩ := linear.holding current holder
  have fresh := CallPc.isOk_of_inside before
  constructor
  case free =>
    intro _
    refine ⟨?_, backs.queued, backs.stored⟩
    cases ok with
    | true =>
      have grown := State.committed_ok d image s.entered image current last linear.once fresh
      have last_mutation : replay d (call.request.mutation d).toList s.entered =
          replay d (s.committed d ++ (call.request.mutation d).toList) initial := by
        rw [replay_append, ← entered]
      exact (committed rfl).trans (last_mutation.trans (congrArg (replay d · initial) grown.symm))
    | false =>
      have same : ({ s with image }.finish c call false).committed d = s.committed d :=
        State.committed_goto { s with holder := none, image } _ current fresh rfl
      exact (failed rfl).trans (entered.trans (congrArg (replay d · initial) same.symm))
  case held =>
    intro e held
    cases held
  case outside =>
    intro e other entry apart
    obtain ⟨rfl, rfl⟩ | ⟨different, old⟩ := get_set entry
    · rfl
    · refine linear.outside e other old fun mine => different ?_
      exact (Option.some.inj (holder.symm.trans mine)).symm
  case errors =>
    intro e other first second entry done
    obtain ⟨rfl, rfl⟩ | ⟨_, old⟩ := get_set entry
    · cases done
      exact failed rfl
    · exact linear.errors e other first second old done
  case posted =>
    intro e seen
    by_cases mine : e = c
    · subst mine
      exact ⟨_, get_set_self current _, rfl⟩
    · obtain ⟨other, entry, posted⟩ := linear.posted e seen
      refine ⟨other, ?_, posted⟩
      rwa [State.finish, State.goto, List.getElem?_set_ne (Ne.symm mine)]
  case once => exact linear.once
  case entered =>
    intro e known
    by_cases mine : e = c
    · subst mine
      exact ⟨_, get_set_self current _, rfl⟩
    · obtain ⟨other, entry, entered⟩ := linear.entered e known
      refine ⟨other, ?_, entered⟩
      rwa [State.finish, State.goto, List.getElem?_set_ne (Ne.symm mine)]
  case pinned => exact pinned
  case pinned_entered => exact linear.pinned_entered

/-- The error path behind a mutation. -/
theorem State.Linear.failed {undo : Option (Mutation κ ν φ)} (linear : s.Linear d initial)
    (current : s.calls[c]? = some call) (before : call.pc.isOutside = false)
    (prepared : Prepared d call s.entered s.image undo) (backs : s.Backs d s.entered) :
    (s.failed c call undo).Linear d initial := by
  cases undo with
  | some undo =>
    exact linear.hold current before rfl ⟨prepared, backs⟩ (fun _ => rfl)
      (fun _ old => .inl old) linear.pinned
  | none =>
    obtain ⟨_, same⟩ := prepared
    exact linear.finish current before (same ▸ backs) (fun ok => by cases ok) (fun _ => same)
      linear.pinned

/-- `lock().await` returns. -/
theorem State.Linear.acquire (linear : s.Linear d initial) (current : s.calls[c]? = some call)
    (pc : call.pc = .lock) (free : s.holder = none) :
    ({ s with
      holder := some c, entered := s.image
      acquired := s.acquired ++ [c] }.goto c call .session).Linear d initial := by
  obtain ⟨image, backs⟩ := linear.free free
  have fresh : c ∉ s.acquired := by
    intro known
    obtain ⟨other, entry, entered⟩ := linear.entered c known
    obtain rfl := Option.some.inj (current.symm.trans entry)
    rw [pc] at entered
    cases entered
  have same : ({ s with
      holder := some c, entered := s.image
      acquired := s.acquired ++ [c] }.goto c call .session).committed d = s.committed d := by
    have kept : (s.goto c call .session).committed d = s.committed d :=
      State.committed_goto s _ current (by rw [pc]; rfl) rfl
    rw [← kept]
    unfold State.committed State.goto
    rw [List.filterMap_append]
    simp [get_set_self current, CallPc.isOk]
  constructor
  case free =>
    intro none
    cases none
  case held =>
    intro e held
    cases held
    exact ⟨_, s.acquired, get_set_self current _, rfl, image.trans (by rw [same]), rfl,
      backs.queued, backs.stored⟩
  case outside =>
    intro e other entry apart
    obtain ⟨rfl, rfl⟩ | ⟨_, old⟩ := get_set entry
    · exact absurd rfl apart
    · exact linear.outside e other old (by simp [free])
  case errors =>
    intro e other first second entry done
    obtain ⟨rfl, rfl⟩ | ⟨_, old⟩ := get_set entry
    · cases done
    · exact linear.errors e other first second old done
  case posted =>
    intro e seen
    obtain ⟨other, entry, posted⟩ := linear.posted e seen
    have different : e ≠ c := by
      rintro rfl
      obtain rfl := Option.some.inj (current.symm.trans entry)
      rw [pc] at posted
      cases posted
    refine ⟨other, ?_, posted⟩
    rwa [State.goto, List.getElem?_set_ne (Ne.symm different)]
  case once => exact List.nodup_append_comm.mp (List.nodup_cons.mpr ⟨fresh, linear.once⟩)
  case entered =>
    intro e known
    by_cases mine : e = c
    · subst mine
      exact ⟨_, get_set_self current _, rfl⟩
    · have old : e ∈ s.acquired := (List.mem_append.mp known).resolve_right (by simpa using mine)
      obtain ⟨other, entry, entered⟩ := linear.entered e old
      refine ⟨other, ?_, entered⟩
      rwa [State.goto, List.getElem?_set_ne (Ne.symm mine)]
  case pinned => exact linear.pinned
  case pinned_entered => exact linear.pinned

/-- A step of a call, under a codec that reads back what it saved. -/
theorem next_linear {ok : Bool} (lawful : d.Lawful) (linear : s.Linear d initial)
    (current : s.calls[c]? = some call) (stepped : s.next d c call ok = some s') :
    s'.Linear d initial := by
  have inside : call.pc.isOutside = false → s.Holding d c call s.entered :=
    fun before => (linear.holding current (linear.holds current before)).2.2
  unfold State.next at stepped
  cases pc : call.pc with
  | lock =>
    simp only [pc] at stepped
    obtain ⟨free, ⟨⟩⟩ := Option.ite_none_right_eq_some.mp stepped
    exact linear.acquire current pc free
  | session =>
    have before : call.pc.isOutside = false := by rw [pc]; rfl
    have holding := inside before
    simp only [State.Holding, pc] at stepped holding
    obtain ⟨same, backs⟩ := holding
    split at stepped
    case h_1 =>
      cases stepped
      exact linear.finish current before (same ▸ backs) (fun ok => by cases ok) (fun _ => same)
        linear.pinned
    case h_2 m mutates =>
      cases stepped
      exact linear.hold current before rfl
        ⟨mutates, by rw [same], same, backs⟩ (by simp [pc, CallPc.isQueued])
        (fun _ old => .inl old) linear.pinned
    case h_3 none =>
      cases stepped
      exact linear.hold current before rfl ⟨⟨none, same⟩, backs⟩
        (by simp [pc, CallPc.isQueued]) (fun _ old => .inl old) linear.pinned
  | mutate m undo =>
    have before : call.pc.isOutside = false := by rw [pc]; rfl
    have holding := inside before
    simp only [State.Holding, pc] at stepped holding
    obtain ⟨mutates, rfl, same, backs⟩ := holding
    split at stepped
    case isTrue =>
      cases stepped
      refine linear.hold current before rfl
        ⟨⟨m, mutates, by rw [same], rfl⟩, ?_⟩ (by simp [pc, CallPc.isQueued])
        (fun _ old => .inl old) (linear.pinned.mutation lawful mutates)
      exact ⟨backs.queued, backs.stored⟩
    case isFalse =>
      cases stepped
      exact linear.finish current before (same ▸ backs) (fun ok => by cases ok) (fun _ => same)
        linear.pinned
  | save undo =>
    have before : call.pc.isOutside = false := by rw [pc]; rfl
    have holding := inside before
    simp only [State.Holding, pc] at stepped holding
    obtain ⟨prepared, backs⟩ := holding
    split at stepped
    case isTrue =>
      cases stepped
      exact linear.hold current before rfl ⟨prepared, backs, lawful.loads _ _ _⟩
        (by simp [pc, CallPc.isQueued]) (fun _ old => .inl old) linear.pinned
    case isFalse =>
      cases stepped
      exact linear.failed current before prepared backs
  | enqueue undo bytes =>
    have before : call.pc.isOutside = false := by rw [pc]; rfl
    have holding := inside before
    simp only [State.Holding, pc] at stepped holding
    obtain ⟨prepared, backs, own⟩ := holding
    -- a call that has not sent its snapshot has none queued, and no answer to one
    have unposted : ¬ (s.acks c ≠ none ∨ ∃ write ∈ s.pending, write.2 = c) := by
      intro seen
      obtain ⟨other, entry, posted⟩ := linear.posted c seen
      obtain rfl := Option.some.inj (current.symm.trans entry)
      rw [pc] at posted
      cases posted
    simp only [not_or, not_exists, not_and, not_not] at unposted
    obtain ⟨unacked, absent⟩ := unposted
    split at stepped
    case isTrue =>
      cases stepped
      exact linear.failed current before prepared backs
    case isFalse =>
      obtain ⟨_, ⟨⟩⟩ := Option.ite_none_right_eq_some.mp stepped
      refine linear.hold current before rfl ⟨prepared, ?_⟩ (fun _ => rfl)
        (fun write known => ?_) linear.pinned
      · refine .queued s.pending bytes unacked ?_
          (fun write known => ⟨backs.queued write known, absent write known⟩) own backs.stored
        simp [State.pending]
      · obtain old | new := List.mem_append.mp known
        · exact .inl old
        · rw [List.mem_singleton.mp new]
          exact .inr ⟨rfl, rfl⟩
  | ack undo =>
    have before : call.pc.isOutside = false := by rw [pc]; rfl
    have holding := inside before
    simp only [State.Holding, pc] at stepped holding
    obtain ⟨prepared, awaits⟩ := holding
    cases awaits with
    | queued front bytes none => simp [none] at stepped
    | written acked empty stored =>
      simp only [acked, Option.some.injEq] at stepped
      subst stepped
      -- its snapshot was the last in the queue, so the file is that of the image it has made
      refine linear.finish current before ⟨by simp [empty], fun _ => stored⟩
        (fun _ => ?_) (fun ok => by cases ok) linear.pinned
      cases undo with
      | some undo =>
        obtain ⟨m, mutates, same, _⟩ := prepared
        rw [mutates, same]
        rfl
      | none =>
        obtain ⟨none, same⟩ := prepared
        rw [none, same]
        rfl
    | failed acked empty stored =>
      simp only [acked, Option.some.injEq] at stepped
      subst stepped
      exact linear.failed current before prepared ⟨by simp [empty], stored⟩
  | rollback undo =>
    have before : call.pc.isOutside = false := by rw [pc]; rfl
    have holding := inside before
    simp only [State.Holding, pc] at stepped holding
    obtain ⟨⟨m, mutates, same, rfl⟩, backs⟩ := holding
    cases stepped
    -- nobody else has touched the image since it entered
    have restored : (m.undo s.entered).run d s.image = s.entered := by
      rw [same, Mutation.undo_run lawful]
    refine linear.finish current before ?_ (fun ok => by cases ok) (fun _ => restored) ?_
    · rw [restored]
      exact backs
    · rw [restored]
      exact linear.pinned_entered
  | done => simp [pc] at stepped

/-- A checkpoint's deadline elapses. -/
theorem State.Linear.skip (linear : s.Linear d initial) (current : s.calls[c]? = some call)
    (pc : call.pc = .lock) : (s.goto c call (.done false s.image s.image)).Linear d initial := by
  -- a checkpoint that still waits for the lock does not hold it
  have apart : s.holder ≠ some c := by
    intro held
    have holding := (linear.holding current held).2.2
    simp only [State.Holding, pc] at holding
  have same : (s.goto c call (.done false s.image s.image)).committed d = s.committed d :=
    State.committed_goto s _ current (by rw [pc]; rfl) rfl
  constructor
  case free =>
    intro free
    obtain ⟨image, backs⟩ := linear.free free
    exact ⟨image.trans (by rw [same]), backs.queued, backs.stored⟩
  case held =>
    intro e held
    obtain ⟨other, front, entry, last, entered, holding⟩ := linear.held e held
    have different : e ≠ c := by
      rintro rfl
      exact apart held
    refine ⟨other, front, ?_, last, entered.trans (by rw [same]),
      State.Holding.of_eq (s := s) rfl rfl rfl rfl rfl holding⟩
    rwa [State.goto, List.getElem?_set_ne (Ne.symm different)]
  case outside =>
    intro e other entry free
    obtain ⟨rfl, rfl⟩ | ⟨_, old⟩ := get_set entry
    · rfl
    · exact linear.outside e other old free
  case errors =>
    intro e other first second entry done
    obtain ⟨rfl, rfl⟩ | ⟨_, old⟩ := get_set entry
    · cases done
      rfl
    · exact linear.errors e other first second old done
  case posted =>
    intro e seen
    obtain ⟨other, entry, posted⟩ := linear.posted e seen
    by_cases mine : e = c
    · subst mine
      exact ⟨_, get_set_self current _, rfl⟩
    · exact ⟨other, by rwa [State.goto, List.getElem?_set_ne (Ne.symm mine)], posted⟩
  case once => exact linear.once
  case entered =>
    intro e known
    obtain ⟨other, entry, entered⟩ := linear.entered e known
    by_cases mine : e = c
    · subst mine
      exact ⟨_, get_set_self current _, rfl⟩
    · exact ⟨other, by rwa [State.goto, List.getElem?_set_ne (Ne.symm mine)], entered⟩
  case pinned => exact linear.pinned
  case pinned_entered => exact linear.pinned_entered

/-- A snapshot of the image itself may stay queued when the lock is dropped. -/
theorem State.Awaits.backs (awaits : s.Awaits d c base) (same : s.image = base) :
    s.Backs d base := by
  cases awaits with
  | queued front bytes _ last older own stored =>
    refine ⟨fun write known => ?_, stored⟩
    rw [last] at known
    obtain old | new := List.mem_append.mp known
    · exact (older write old).1
    · rw [List.mem_singleton.mp new, ← same]
      exact own
  | written _ empty stored => exact ⟨by simp [empty], fun _ => same ▸ stored⟩
  | failed _ empty stored => exact ⟨by simp [empty], stored⟩

theorem expire_linear (linear : s.Linear d initial) (current : s.calls[c]? = some call)
    (stepped : s.expire c call = some s') : s'.Linear d initial := by
  -- a checkpoint mutates nothing, so it leaves the image as it found it
  have checkpointed (undo : Option (Mutation κ ν φ)) (request : call.request = .checkpoint)
      (prepared : Prepared d call s.entered s.image undo) : s.image = s.entered := by
    cases undo with
    | some undo =>
      obtain ⟨m, mutates, _⟩ := prepared
      rw [request] at mutates
      cases mutates
    | none => exact prepared.2
  unfold State.expire at stepped
  split at stepped
  case h_1 request pc =>
    cases stepped
    exact linear.skip current pc
  case h_2 undo bytes request pc =>
    cases stepped
    have before : call.pc.isOutside = false := by rw [pc]; rfl
    have holding := (linear.holding current (linear.holds current before)).2.2
    simp only [State.Holding, pc] at holding
    obtain ⟨prepared, backs, _⟩ := holding
    have same := checkpointed undo request prepared
    exact linear.finish current before (same ▸ backs) (fun ok => by cases ok) (fun _ => same)
      linear.pinned
  case h_3 undo request pc =>
    cases stepped
    have before : call.pc.isOutside = false := by rw [pc]; rfl
    have holding := (linear.holding current (linear.holds current before)).2.2
    simp only [State.Holding, pc] at holding
    obtain ⟨prepared, awaits⟩ := holding
    have same := checkpointed undo request prepared
    exact linear.finish current before (same ▸ awaits.backs same) (fun ok => by cases ok)
      (fun _ => same) linear.pinned
  case h_4 => cases stepped

/-! ## Steps around them -/

/-- What the persister and the DHT do between two writes concerns nobody. -/
theorem State.Linear.of_eq (calls : s'.calls = s.calls) (holder : s'.holder = s.holder)
    (entered : s'.entered = s.entered) (image : s'.image = s.image)
    (acquired : s'.acquired = s.acquired) (pending : s'.pending = s.pending)
    (disk : s'.disk = s.disk) (written : s'.written = s.written) (acks : s'.acks = s.acks)
    (linear : s.Linear d initial) : s'.Linear d initial := by
  have committed : s'.committed d = s.committed d := by
    unfold State.committed
    rw [calls, acquired]
  constructor
  case free =>
    rw [holder, image, committed]
    intro free
    exact ⟨(linear.free free).1, (linear.free free).2.of_eq pending disk written⟩
  case held =>
    rw [holder, calls, acquired, entered, committed]
    intro e held
    obtain ⟨call, front, entry, last, replayed, holding⟩ := linear.held e held
    exact ⟨call, front, entry, last, replayed, holding.of_eq image pending disk written acks⟩
  case outside => rw [holder, calls]; exact linear.outside
  case errors => rw [calls]; exact linear.errors
  case posted => rw [calls, acks, pending]; exact linear.posted
  case once => rw [acquired]; exact linear.once
  case entered => rw [calls, acquired]; exact linear.entered
  case pinned => rw [image]; exact linear.pinned
  case pinned_entered => rw [entered]; exact linear.pinned_entered

theorem call_linear (request : Request κ ν φ) (linear : s.Linear d initial) :
    ({ s with calls := s.calls ++ [⟨request, .lock⟩] } : State κ ν φ δ β).Linear d initial := by
  have committed : ({ s with calls := s.calls ++ [⟨request, .lock⟩] } :
      State κ ν φ δ β).committed d = s.committed d := by
    unfold State.committed
    apply List.filterMap_congr
    intro e known
    obtain ⟨call, entry, _⟩ := linear.entered e known
    rw [entry, get_append_of_get entry]
  constructor
  case free =>
    intro free
    obtain ⟨image, backs⟩ := linear.free free
    exact ⟨image.trans (by rw [committed]), backs.queued, backs.stored⟩
  case held =>
    intro e held
    obtain ⟨call, front, entry, last, entered, holding⟩ := linear.held e held
    exact ⟨call, front, get_append_of_get entry _, last, entered.trans (by rw [committed]),
      State.Holding.of_eq (s := s) rfl rfl rfl rfl rfl holding⟩
  case outside =>
    intro e call entry apart
    obtain old | ⟨_, rfl⟩ := get_append entry
    · exact linear.outside e call old apart
    · rfl
  case errors =>
    intro e call first second entry done
    obtain old | ⟨_, rfl⟩ := get_append entry
    · exact linear.errors e call first second old done
    · cases done
  case posted =>
    intro e seen
    obtain ⟨call, entry, posted⟩ := linear.posted e seen
    exact ⟨call, get_append_of_get entry _, posted⟩
  case once => exact linear.once
  case entered =>
    intro e known
    obtain ⟨call, entry, entered⟩ := linear.entered e known
    exact ⟨call, get_append_of_get entry _, entered⟩
  case pinned => exact linear.pinned
  case pinned_entered => exact linear.pinned_entered

theorem take_linear (linear : s.Linear d initial) (stepped : s.take = some s') :
    s'.Linear d initial := by
  unfold State.take at stepped
  split at stepped
  case h_1 writing queue =>
    cases stepped
    refine State.Linear.of_eq (s := s) rfl rfl rfl rfl rfl ?_ rfl rfl rfl linear
    simp [State.pending, writing, queue]
  case h_2 => cases stepped

/-- The file after a write: the snapshot, or what it was. -/
theorem State.Backs.complete {write : β × Nat} {ok : Bool} (backs : s.Backs d base)
    (writing : s.writing = some write) :
    ({ s with
      writing := none
      disk := if ok then some write.1 else s.disk
      written := s.written || ok
      acks := Function.update s.acks write.2 (some ok) } : State κ ν φ δ β).Backs d base := by
  have loads : d.Loads write.1 base := backs.queued write (by simp [State.pending, writing])
  constructor
  · intro other known
    exact backs.queued other (List.mem_append_right _ (by simpa [State.pending] using known))
  · intro written
    cases ok with
    | true => exact ⟨write.1, rfl, loads⟩
    | false => exact backs.stored (by simpa using written)

/-- Writes are finished in the order they were queued: the older ones, and then
the call's own. -/
theorem State.Awaits.complete {write : β × Nat} {ok : Bool} (awaits : s.Awaits d c base)
    (writing : s.writing = some write) :
    ({ s with
      writing := none
      disk := if ok then some write.1 else s.disk
      written := s.written || ok
      acks := Function.update s.acks write.2 (some ok) } : State κ ν φ δ β).Awaits d c base := by
  have pending : s.pending = write :: s.queue := by simp [State.pending, writing]
  cases awaits with
  | queued front bytes none last older own stored =>
    cases front with
    | nil =>
      obtain ⟨rfl, empty⟩ : write = (bytes, c) ∧ s.queue = [] := by simpa [last] using pending.symm
      cases ok with
      | true => exact .written (by simp) (by simp [State.pending, empty]) ⟨bytes, rfl, own⟩
      | false =>
        refine .failed (by simp) (by simp [State.pending, empty]) fun written => ?_
        exact stored (by simpa using written)
    | cons head rest =>
      obtain ⟨rfl, queue⟩ : write = head ∧ s.queue = rest ++ [(bytes, c)] := by
        simpa [last] using pending.symm
      obtain ⟨loads, different⟩ := older write List.mem_cons_self
      refine .queued rest bytes ?_ (by simp [State.pending, queue])
        (fun other known => older other (List.mem_cons_of_mem _ known)) own ?_
      · exact (Function.update_of_ne (Ne.symm different) _ _).trans none
      · intro written
        cases ok with
        | true => exact ⟨write.1, rfl, loads⟩
        | false => exact stored (by simpa using written)
  | written _ empty => simp [empty] at pending
  | failed _ empty => simp [empty] at pending

theorem complete_linear {ok : Bool} (linear : s.Linear d initial)
    (stepped : s.complete ok = some s') : s'.Linear d initial := by
  obtain ⟨write, writing, rfl⟩ := Option.map_eq_some_iff.mp stepped
  constructor
  case free =>
    intro free
    exact ⟨(linear.free free).1, (linear.free free).2.complete writing⟩
  case held =>
    intro e held
    obtain ⟨call, front, entry, last, entered, holding⟩ := linear.held e held
    refine ⟨call, front, entry, last, entered, ?_⟩
    unfold State.Holding at holding ⊢
    cases pc : call.pc <;> simp only [pc] at holding ⊢
    case session => exact ⟨holding.1, holding.2.complete writing⟩
    case mutate =>
      obtain ⟨mutates, undo, same, backs⟩ := holding
      exact ⟨mutates, undo, same, backs.complete writing⟩
    case save => exact ⟨holding.1, holding.2.complete writing⟩
    case enqueue => exact ⟨holding.1, holding.2.1.complete writing, holding.2.2⟩
    case ack => exact ⟨holding.1, holding.2.complete writing⟩
    case rollback => exact ⟨holding.1, holding.2.complete writing⟩
  case outside => exact linear.outside
  case errors => exact linear.errors
  case posted =>
    intro e seen
    apply linear.posted e
    obtain acked | ⟨other, known, rfl⟩ := seen
    · by_cases mine : e = write.2
      · exact .inr ⟨write, by simp [State.pending, writing], mine.symm⟩
      · exact .inl fun none => acked ((Function.update_of_ne mine _ _).trans none)
    · exact .inr ⟨other, List.mem_append_right _ (by simpa [State.pending] using known), rfl⟩
  case once => exact linear.once
  case entered => exact linear.entered
  case pinned => exact linear.pinned
  case pinned_entered => exact linear.pinned_entered

/-! ## Whole runs -/

theorem start_linear {dht : δ} {disk : Option β} (pinned : d.Pinned initial) :
    (State.start initial dht disk).Linear d initial := by
  constructor
  case free =>
    intro _
    exact ⟨rfl, by simp [State.start, State.pending], fun written => by cases written⟩
  case held =>
    intro e held
    cases held
  case outside => simp [State.start]
  case errors => simp [State.start]
  case posted => simp [State.start, State.pending]
  case once => exact List.nodup_nil
  case entered => simp [State.start]
  case pinned => exact pinned
  case pinned_entered => exact pinned

theorem step_linear {a : Action κ ν φ δ} (lawful : d.Lawful) (linear : s.Linear d initial)
    (stepped : s.step d a = some s') : s'.Linear d initial := by
  cases a with
  | call request =>
    cases stepped
    exact call_linear request linear
  | next c ok =>
    obtain ⟨call, current, stepped⟩ := Option.bind_eq_some_iff.mp stepped
    exact next_linear lawful linear current stepped
  | expire c =>
    obtain ⟨call, current, stepped⟩ := Option.bind_eq_some_iff.mp stepped
    exact expire_linear linear current stepped
  | take => exact take_linear linear stepped
  | complete ok => exact complete_linear linear stepped
  | dht nodes =>
    cases stepped
    exact State.Linear.of_eq (s := s) rfl rfl rfl rfl rfl rfl rfl rfl rfl linear

/-- An interleaving of the engine's session-state calls with the persister. -/
abbrev SessionRun (d : Daemon κ ν φ δ β) (s t : State κ ν φ δ β) : Prop :=
  Run (State.step d) (fun _ _ => True) s t

theorem linear_run (lawful : d.Lawful) (linear : s.Linear d initial) (run : SessionRun d s s') :
    s'.Linear d initial := by
  apply Run.invariant linear _ run
  intro t a u _ linear _ stepped
  exact step_linear lawful linear stepped

/-- Session-state operations are atomic and linearizable in lock order. -/
theorem session_state_linear [DecidableEq ν] (d : Daemon κ ν φ δ β) (lawful : d.Lawful)
    (loaded : Image κ ν φ) (dht : δ) (disk : Option β) (s : State κ ν φ δ β)
    (run : SessionRun d (State.start (d.initial loaded) dht disk) s) :
    (s.holder = none → s.image = replay d (s.committed d) (d.initial loaded)) ∧
    (s.holder = none → s.pending = [] → s.written = true →
      s.disk.bind d.loadState = some (s.image.settings, s.image.filter)) ∧
    (∀ (c : Nat) (call : Call κ ν φ β) (before after : Image κ ν φ), s.calls[c]? = some call →
      call.pc = .done false before after → after = before) ∧
    s.image.settings .alertMask = d.alertMask ∧
    s.image.settings .alertQueueSize = d.alertQueueSize := by
  have linear := linear_run lawful (start_linear (Daemon.pinned_initial lawful loaded)) run
  refine ⟨fun free => (linear.free free).1, fun free _ written => ?_, linear.errors,
    linear.pinned.alertMask, linear.pinned.alertQueueSize⟩
  obtain ⟨bytes, disk, loaded⟩ := (linear.free free).2.stored written
  rw [disk]
  exact loaded

/-- A daemon whose files are the values themselves. -/
def plainDaemon : Daemon Unit Nat Nat Nat (Settings Unit Nat × Nat) where
  alertMask := 1
  alertQueueSize := 10000
  applySettings := fun pack settings key => (pack key).getD (settings key)
  saveState := fun settings filter _ => (settings, filter)
  loadState := some

theorem plainDaemon_lawful : plainDaemon.Lawful := ⟨fun _ _ _ => rfl, fun _ _ _ => rfl⟩

/-- A settings write whose file cannot be written, and a filter that is. -/
theorem session_state_linear_refused :
    ∃ s, SessionRun plainDaemon (State.start (plainDaemon.initial ⟨fun _ => 0, 0⟩) 0 none) s ∧
      s.image.filter = 3 ∧ s.image.settings (.other ()) = 0 ∧
      s.image = replay plainDaemon (s.committed plainDaemon) (plainDaemon.initial ⟨fun _ => 0, 0⟩) ∧
      s.disk.bind plainDaemon.loadState = some (s.image.settings, s.image.filter) := by
  have replayed : (exec (State.step plainDaemon) (fun _ _ => true)
      (State.start (plainDaemon.initial ⟨fun _ => 0, 0⟩) 0 none)
      [[.call (.applySettings fun key => if key = .other () then some 7 else none),
        .call (.setIpFilter 3)],
        List.replicate 5 (.next 0 true), [.take, .complete false], List.replicate 2 (.next 0 true),
        List.replicate 5 (.next 1 true), [.take, .complete true, .next 1 true]].flatten).map
      (fun s => s.holder.isNone && s.pending.isEmpty && s.written &&
        decide (s.image.filter = 3) && decide (s.image.settings (.other ()) = 0)) = some true := by
    decide +kernel
  obtain ⟨s, run, settled⟩ := exists_run_of_exec replayed
  have reached : SessionRun plainDaemon
      (State.start (plainDaemon.initial ⟨fun _ => 0, 0⟩) 0 none) s := run.mono (by simp)
  simp only [Bool.and_eq_true, decide_eq_true_eq, List.isEmpty_iff, Option.isNone_iff_eq_none]
    at settled
  obtain ⟨⟨⟨⟨free, empty⟩, written⟩, filter⟩, setting⟩ := settled
  have holds := session_state_linear plainDaemon plainDaemon_lawful ⟨fun _ => 0, 0⟩ 0 none s reached
  exact ⟨s, reached, filter, setting, holds.1 free, holds.2.1 free empty written⟩

end Rsbtd.SessionState
