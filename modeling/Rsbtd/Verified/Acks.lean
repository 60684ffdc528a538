import Rsbtd.Verified.Pipeline

/-!
# Acknowledged writes

An add call queues one write, of its own torrent's record, and waits for its
ack.  The write is in the queue, or at the persister, or acknowledged: at most
one of the three, and only the first two while the call waits.
-/

namespace Rsbtd

open Transition

variable {s s' : Engine}

/-- Call `c` waits for the ack of this operation. -/
def PersistOp.awaitedBy (c : Nat) : Op → Bool
  | .writeResume _ _ ack => ack == some c
  | _ => false

def PersisterPc.awaitedBy (c : Nat) : PersisterPc → Bool
  | .idle => false
  | .execute op => op.awaitedBy c
  | .wrote _ _ ack _ | .marked _ _ ack _ | .published ack _ | .released ack _ => ack == some c

/-- The call waits for its ack, or nobody does any more. -/
def AddPc.hearsAck : AddPc → Bool
  | .awaitAck _ | .dropped => true
  | _ => false

/-- The call has not queued its write. -/
def AddPc.unsent : AddPc → Bool
  | .restored | .awaitAdd | .readHandle | .removeVanished | .upsert | .serialize _ | .reserve _ _
  | .enqueue _ _ | .send _ _ => true
  | _ => false

namespace Engine

/-- The writes on their way that call `c` waits for. -/
def awaited (s : Engine) (c : Nat) : Nat :=
  s.queue.countP (PersistOp.awaitedBy c) + (s.persister.awaitedBy c).toNat

structure Acknowledged (s : Engine) : Prop where
  held : ∀ op ∈ s.held, ∀ c, op.awaitedBy c = false
  own : ∀ op ∈ s.queued, ∀ uuid bytes c, op = .writeResume uuid bytes (some c) → uuid = c
  single : ∀ c, s.awaited c + (s.acks c).isSome.toNat ≤ 1
  waiting : ∀ c, 0 < s.awaited c → ∃ pc, s.adds[c]? = some pc ∧ pc.hearsAck = true
  sent : ∀ c, s.acks c ≠ none → ∃ pc, s.adds[c]? = some pc ∧ pc.unsent = false

namespace Acknowledged

theorem acks_none (acknowledged : s.Acknowledged) {c : Nat} (pending : 0 < s.awaited c) :
    s.acks c = none := by
  have := acknowledged.single c
  cases ack : s.acks c with
  | none => rfl
  | some ok => simp [ack] at this; omega

/-- While the write is awaited, no second one is. -/
theorem awaited_zero (acknowledged : s.Acknowledged) {c : Nat} (acked : s.acks c ≠ none) :
    s.awaited c = 0 := by
  by_contra pending
  exact acked (acknowledged.acks_none (Nat.pos_of_ne_zero pending))

/-- Steps that leave the acknowledged writes and the add calls alone. -/
theorem mono (acknowledged : s.Acknowledged) (held : ∀ op ∈ s'.held, ∀ c, op.awaitedBy c = false)
    (own : ∀ op ∈ s'.queued, ∀ uuid bytes c, op = .writeResume uuid bytes (some c) → uuid = c)
    (awaited : ∀ c, s'.awaited c = s.awaited c) (acks : s'.acks = s.acks)
    (adds : s'.adds = s.adds) : s'.Acknowledged where
  held := held
  own := own
  single c := by rw [awaited, acks]; exact acknowledged.single c
  waiting c pending := by rw [awaited] at pending; rw [adds]; exact acknowledged.waiting c pending
  sent c acked := by rw [acks] at acked; rw [adds]; exact acknowledged.sent c acked

end Acknowledged

end Engine

theorem PumpMove.acknowledged (registered : s.Registered) (move : PumpMove s s')
    (acknowledged : s.Acknowledged) : s'.Acknowledged := by
  obtain ⟨adds, acks, _, persister, _⟩ := move.frame
  have still : s'.queue = s.queue → s'.held.Sublist s.held ∨
      (∃ op, s'.held = s.held ++ [op] ∧ ∀ c, PersistOp.awaitedBy c op = false) →
      s'.Acknowledged := by
    intro queue held
    refine acknowledged.mono ?_ ?_ (by simp [Engine.awaited, queue, persister]) acks adds
    · rcases held with fewer | ⟨op, held, unheard⟩
      · exact fun op member => acknowledged.held op (fewer.subset member)
      · intro other member
        rw [held] at member
        rcases List.mem_append.mp member with old | new
        · exact acknowledged.held other old
        · rw [List.mem_singleton.mp new]; exact unheard
    · rw [Engine.queued, queue, persister]
      exact acknowledged.own
  cases move.pipeline registered with
  | still _ queue held | register _ _ _ queue held =>
    exact still queue (.inl (held ▸ List.Sublist.refl _))
  | remove k _ _ queue held => exact still queue (.inr ⟨_, held, fun _ => rfl⟩)
  | hold uuid bytes _ _ queue held => exact still queue (.inr ⟨_, held, fun _ => rfl⟩)
  | discard uuid bytes _ queue held =>
    exact still queue (.inl (held ▸ List.sublist_append_left _ _))
  | send op _ queue held =>
    have unheard := acknowledged.held op (by simp [held])
    refine acknowledged.mono ?_ ?_ ?_ acks adds
    · exact fun other member => acknowledged.held other (by simp [held, member])
    · intro other member uuid bytes c same
      rw [Engine.queued, queue, persister, ← List.append_assoc] at member
      rcases List.mem_append.mp member with old | new
      · exact acknowledged.own other old uuid bytes c same
      · have := unheard c
        rw [← List.mem_singleton.mp new, same] at this
        simp [PersistOp.awaitedBy] at this
    · intro c
      simp [Engine.awaited, queue, persister, unheard c]

theorem PersisterMove.acknowledged {ok : Bool} (move : PersisterMove s ok s')
    (acknowledged : s.Acknowledged) : s'.Acknowledged := by
  obtain ⟨_, adds, _, _, pump, _⟩ := move.frame
  have held : ∀ op ∈ s'.held, ∀ c, op.awaitedBy c = false := by
    rw [Engine.held, pump]
    exact acknowledged.held
  have own := acknowledged.own
  cases move with
  | receive pc queue =>
    refine acknowledged.mono held ?_ ?_ rfl adds
    · simpa [Engine.queued, PersisterPc.executing, pc, queue] using own
    · intro c
      simp [Engine.awaited, PersisterPc.awaitedBy, pc, queue, countP_cons]
      omega
  | @acknowledge call done ok pc =>
    have waited : s.persister.awaitedBy call = true := by simp [PersisterPc.awaitedBy, pc]
    have pending : 0 < s.awaited call := by simp [Engine.awaited, waited]
    have unacked := acknowledged.acks_none pending
    refine ⟨held, fun op member => own op ?_, fun c => ?_, fun c later => acknowledged.waiting c ?_,
      fun c acked => ?_⟩
    · simpa [Engine.queued, PersisterPc.executing, pc] using member
    · have single := acknowledged.single c
      simp only [Engine.awaited, PersisterPc.awaitedBy, Bool.toNat_false] at single ⊢
      by_cases same : c = call
      · subst same
        simp only [pc, beq_self_eq_true, Bool.toNat_true, unacked,
          Option.isSome_none, Bool.toNat_false, Function.update_self, Option.isSome_some] at single ⊢
        omega
      · rw [Function.update_of_ne same]
        omega
    · simp only [Engine.awaited, PersisterPc.awaitedBy, Bool.toNat_false] at later ⊢
      omega
    · by_cases same : c = call
      · obtain ⟨add, entry, hears⟩ := acknowledged.waiting call pending
        refine ⟨add, same ▸ entry, ?_⟩
        cases add <;> first | rfl | cases hears
      · exact acknowledged.sent c (by simpa [same] using acked)
  | dec pc =>
    refine acknowledged.mono held (fun op member => own op ?_) ?_ (by simp) adds
    · simpa [Engine.queued, PersisterPc.executing, pc] using member
    · simp [Engine.awaited, PersisterPc.awaitedBy, pc]
  | _ pc =>
    refine acknowledged.mono held (fun op member => own op ?_) ?_ rfl adds
    · simp [Engine.queued, PersisterPc.executing, pc] at member ⊢
      simp [member]
    · simp [Engine.awaited, PersisterPc.awaitedBy, PersistOp.awaitedBy, pc]

/-- A step of the call that adds torrent `k`, which queues nothing that is awaited. -/
theorem Engine.Acknowledged.call (acknowledged : s.Acknowledged) {k : Nat} {pc next : AddPc}
    (current : s.adds[k]? = some pc) (held : s'.held = s.held) (acks : s'.acks = s.acks)
    (own : ∀ op ∈ s'.queued, ∀ uuid bytes c, op = .writeResume uuid bytes (some c) → uuid = c)
    (awaited : ∀ c, s'.awaited c = s.awaited c) (adds : s'.adds = s.adds.set k next)
    (hears : 0 < s.awaited k → next.hearsAck = true)
    (sent : pc.unsent = false → next.unsent = false) : s'.Acknowledged where
  held := held ▸ acknowledged.held
  own := own
  single c := by rw [awaited, acks]; exact acknowledged.single c
  waiting c pending := by
    rw [awaited] at pending
    rw [adds]
    by_cases same : c = k
    · subst same
      exact ⟨next, get_set_self current next, hears pending⟩
    · rw [List.getElem?_set_ne (Ne.symm same)]
      exact acknowledged.waiting c pending
  sent c acked := by
    rw [acks] at acked
    rw [adds]
    obtain ⟨before, entry, was_sent⟩ := acknowledged.sent c acked
    by_cases same : c = k
    · subst same
      obtain rfl := Option.some.inj (current.symm.trans entry)
      exact ⟨next, get_set_self current next, sent was_sent⟩
    · rw [List.getElem?_set_ne (Ne.symm same)]
      exact ⟨before, entry, was_sent⟩

theorem AddMove.acknowledged {k : Nat} {ok : Bool} {pc : AddPc} (registered : s.Registered)
    (call : s.adds[k]? = some pc) (move : AddMove s k ok pc s')
    (acknowledged : s.Acknowledged) : s'.Acknowledged := by
  have about := registered.calls k pc call
  have own := acknowledged.own
  -- outside `awaitAck`, nothing of this call's is on its way
  have quiet : pc.hearsAck = false → s.awaited k = 0 := by
    intro deaf
    by_contra pending
    obtain ⟨add, entry, hears⟩ := acknowledged.waiting k (Nat.pos_of_ne_zero pending)
    obtain rfl := Option.some.inj (call.symm.trans entry)
    rw [deaf] at hears
    cases hears
  have unacked : pc.unsent = true → s.acks k = none := by
    intro unsent
    by_contra acked
    obtain ⟨add, entry, sent⟩ := acknowledged.sent k acked
    obtain rfl := Option.some.inj (call.symm.trans entry)
    rw [unsent] at sent
    cases sent
  cases move with
  | durable ack | notWritten ack =>
    refine acknowledged.call call rfl rfl own (fun _ => rfl) rfl (fun pending => ?_) (fun _ => rfl)
    rw [acknowledged.awaited_zero (by simp [ack])] at pending
    cases pending
  | @send entry bytes =>
    obtain ⟨rfl, rfl⟩ := about
    have silent := quiet rfl
    have none_acked := unacked rfl
    refine ⟨acknowledged.held, fun op member uuid bytes c same => ?_, fun c => ?_,
      fun c pending => ?_, fun c acked => ?_⟩
    · simp [Engine.queued] at member
      rcases member with executing | queued | rfl
      · exact own op (by simp [Engine.queued, executing]) uuid bytes c same
      · exact own op (by simp [Engine.queued, queued]) uuid bytes c same
      · cases same; rfl
    · have single := acknowledged.single c
      simp only [Engine.awaited, Engine.setAdd, Engine.enqueue, countP_concat] at silent single ⊢
      by_cases same : c = k
      · subst same
        simp only [PersistOp.awaitedBy, beq_self_eq_true, Bool.toNat_true, none_acked,
          Option.isSome_none, Bool.toNat_false]
        omega
      · have other : PersistOp.awaitedBy c (.writeResume (entryOf k).uuid initialRecord (some k))
            = false := by simp [PersistOp.awaitedBy, Ne.symm same]
        simp only [other, Bool.toNat_false]
        omega
    · by_cases same : c = k
      · subst same
        exact ⟨_, get_set_self call _, rfl⟩
      · have other : PersistOp.awaitedBy c (.writeResume (entryOf k).uuid initialRecord (some k))
            = false := by simp [PersistOp.awaitedBy, Ne.symm same]
        simp only [Engine.awaited, Engine.setAdd, Engine.enqueue, countP_concat, other,
          Bool.toNat_false] at pending
        obtain ⟨add, entry, hears⟩ := acknowledged.waiting c pending
        exact ⟨add, (List.getElem?_set_ne (Ne.symm same)).trans entry, hears⟩
    · obtain ⟨add, entry, sent⟩ := acknowledged.sent c acked
      by_cases same : c = k
      · subst same
        exact ⟨_, get_set_self call _, rfl⟩
      · exact ⟨add, (List.getElem?_set_ne (Ne.symm same)).trans entry, sent⟩
  | @compensateSend entry =>
    refine acknowledged.call call rfl rfl (fun op member => ?_) (fun c => ?_) rfl
      (fun pending => by rw [quiet rfl] at pending; cases pending) (fun _ => rfl)
    · simp [Engine.queued] at member
      rcases member with executing | queued | rfl
      · exact own op (by simp [Engine.queued, executing])
      · exact own op (by simp [Engine.queued, queued])
      · simp
    · simp [Engine.awaited, PersistOp.awaitedBy]
  | release =>
    refine acknowledged.call call (by simp [Engine.held]) (by simp) ?_ ?_ (by simp; rfl)
      (fun pending => by rw [quiet rfl] at pending; cases pending) (fun _ => rfl)
    · simpa [Engine.queued] using own
    · simp [Engine.awaited]
  | _ =>
    exact acknowledged.call call rfl rfl own (fun _ => rfl) rfl
      (fun pending => by rw [quiet rfl] at pending; cases pending) (by simp [AddPc.unsent])

theorem Move.acknowledged {a : Action} (registered : s.Registered) (move : Move s a s')
    (acknowledged : s.Acknowledged) : s'.Acknowledged := by
  have extended : ∀ (adds : List AddPc), (∀ (c : Nat) (pc : AddPc), s.adds[c]? = some pc →
      adds[c]? = some pc) → ∀ {t : Engine}, t.held = s.held → t.queued = s.queued →
      (∀ c, t.awaited c = s.awaited c) → t.acks = s.acks → t.adds = adds → t.Acknowledged := by
    intro adds kept t held queued awaited acks same
    refine ⟨held ▸ acknowledged.held, queued ▸ acknowledged.own, fun c => ?_, fun c pending => ?_,
      fun c acked => ?_⟩
    · rw [awaited, acks]; exact acknowledged.single c
    · obtain ⟨pc, entry, hears⟩ := acknowledged.waiting c (awaited c ▸ pending)
      exact ⟨pc, same ▸ kept c pc entry, hears⟩
    · obtain ⟨pc, entry, sent⟩ := acknowledged.sent c (acks ▸ acked)
      exact ⟨pc, same ▸ kept c pc entry, sent⟩
  cases move with
  | pump move => exact move.acknowledged registered acknowledged
  | persister move => exact move.acknowledged acknowledged
  | add call move => exact move.acknowledged registered call acknowledged
  | task call move =>
    obtain ⟨_, adds, acks, _, _, _, queue, persister, _, _, pump, _⟩ := move.frame
    exact extended s.adds (fun _ _ => id) (by simp [Engine.held, pump])
      (by simp [Engine.queued, queue, persister]) (by simp [Engine.awaited, queue, persister])
      acks adds
  | startAdd =>
    exact extended _ (fun c pc entry => get_append_of_get entry _) rfl rfl (fun _ => rfl) rfl rfl
  | sendSessionState =>
    refine acknowledged.mono acknowledged.held (fun op member => ?_) (fun c => ?_) rfl rfl
    · simp [Engine.queued] at member
      rcases member with executing | queued | rfl
      · exact acknowledged.own op (by simp [Engine.queued, executing])
      · exact acknowledged.own op (by simp [Engine.queued, queued])
      · simp
    · simp [Engine.awaited, PersistOp.awaitedBy]
  | abortPump =>
    exact acknowledged.mono (fun _ none => by cases none) acknowledged.own (fun _ => rfl) rfl rfl
  | dropAdd call awaits =>
    exact acknowledged.call call rfl rfl acknowledged.own (fun _ => rfl) rfl (fun _ => rfl)
      (fun _ => rfl)
  | session | notify | startTask | quiesce | takeSession | takePersist | close | dropTask =>
    exact extended s.adds (fun _ _ => id) rfl rfl (fun _ => rfl) rfl rfl

theorem acknowledged_run {ok : Engine → Action → Prop} {restored : Nat}
    (run : EngineRun ok restored s) : s.Acknowledged := by
  refine run.invariant ⟨?_, ?_, ?_, ?_, ?_⟩ fun _ _ _ reached acknowledged _ stepped =>
    (step_move stepped).2.acknowledged (registered_run reached) acknowledged
  · simp [Engine.held, Engine.start, PumpPc.holding]
  · simp [Engine.queued, Engine.start, PersisterPc.executing]
  · simp [Engine.awaited, Engine.start, PersisterPc.awaitedBy]
  · simp [Engine.awaited, Engine.start, PersisterPc.awaitedBy]
  · simp [Engine.start]

end Rsbtd
