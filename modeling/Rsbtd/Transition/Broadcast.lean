import Mathlib.Data.List.Basic

/-!
# Bounded broadcast channels

What tokio documents of its `broadcast` channel, a definition for each law.

* `oldest`: the channel retains the last `capacity` messages of all that were sent.
* `recv`: a receiver is a cursor into what was sent and gets the messages in that order.
  When the one at its cursor is no longer retained, `Lagged` tells how many it missed, and
  the cursor moves to the oldest message that is.
* `recv`, at the end: `Closed` comes when there is no sender any more, and after every
  message that is retained.

`segment p first n` are the positions from `first` up to `n` whose message
satisfies `p`, in order.
-/

namespace Rsbtd.Transition

structure Channel (α : Type*) where
  capacity : Nat
  /-- Every message sent so far. -/
  sent : List α
  closed : Bool

inductive Received (α : Type*) where
  | value (message : α)
  | lagged (missed : Nat)
  | closed
deriving DecidableEq, Repr

namespace Channel

variable {α : Type*} {c d : Channel α} {cursor next i : Nat}

def send (c : Channel α) (message : α) : Channel α := { c with sent := c.sent ++ [message] }

def close (c : Channel α) : Channel α := { c with closed := true }

/-- How many messages were sent. -/
def tail (c : Channel α) : Nat := c.sent.length

/-- The oldest message that is retained. -/
def oldest (c : Channel α) : Nat := c.tail - c.capacity

/-- What a receiver at the cursor gets, and its cursor afterwards; `none` while it has to wait. -/
def recv (c : Channel α) (cursor : Nat) : Option (Received α × Nat) :=
  if cursor < c.oldest then some (.lagged (c.oldest - cursor), c.oldest)
  else
    match c.sent[cursor]? with
    | some message => some (.value message, cursor + 1)
    | none => if c.closed then some (.closed, cursor) else none

theorem recv_value {message : α} (received : c.recv cursor = some (.value message, next)) :
    c.oldest ≤ cursor ∧ c.sent[cursor]? = some message ∧ next = cursor + 1 := by
  unfold recv at received
  split at received
  · cases received
  case isFalse retained =>
    split at received
    case h_1 message' found =>
      obtain ⟨same, rfl⟩ := Prod.mk.inj (Option.some.inj received)
      obtain rfl := Received.value.inj same
      exact ⟨Nat.le_of_not_lt retained, found, rfl⟩
    case h_2 =>
      split at received
      · cases received
      · cases received

theorem recv_lagged {missed : Nat} (received : c.recv cursor = some (.lagged missed, next)) :
    cursor < c.oldest ∧ missed = c.oldest - cursor ∧ next = c.oldest := by
  unfold recv at received
  split at received
  case isTrue overwritten =>
    obtain ⟨same, rfl⟩ := Prod.mk.inj (Option.some.inj received)
    exact ⟨overwritten, (Received.lagged.inj same).symm, rfl⟩
  case isFalse =>
    split at received
    · cases received
    · split at received
      · cases received
      · cases received

theorem recv_closed (received : c.recv cursor = some (.closed, next)) :
    c.oldest ≤ cursor ∧ c.tail ≤ cursor ∧ c.closed = true ∧ next = cursor := by
  unfold recv at received
  split at received
  · cases received
  case isFalse retained =>
    split at received
    · cases received
    case h_2 beyond =>
      split at received
      case isTrue closed =>
        obtain ⟨-, rfl⟩ := Prod.mk.inj (Option.some.inj received)
        exact ⟨Nat.le_of_not_lt retained, List.getElem?_eq_none_iff.mp beyond, closed, rfl⟩
      · cases received

theorem recv_of_overwritten (overwritten : cursor < c.oldest) :
    c.recv cursor = some (.lagged (c.oldest - cursor), c.oldest) :=
  if_pos overwritten

theorem oldest_le_tail : c.oldest ≤ c.tail := Nat.sub_le _ _

/-! ## Channels over time -/

/-- `d` is the channel `c` at a later time. -/
structure Later (c d : Channel α) : Prop where
  sent : c.sent <+: d.sent
  capacity : d.capacity = c.capacity
  closed : c.closed = true → d.closed = true ∧ d.sent = c.sent

namespace Later

theorem refl (c : Channel α) : Later c c := ⟨List.prefix_rfl, rfl, fun closed => ⟨closed, rfl⟩⟩

theorem send (c : Channel α) (message : α) (opened : c.closed = false) : Later c (c.send message) :=
  ⟨List.prefix_append _ _, rfl, fun closed => absurd (opened.symm.trans closed) (by simp)⟩

theorem close (c : Channel α) : Later c c.close := ⟨List.prefix_rfl, rfl, fun _ => ⟨rfl, rfl⟩⟩

theorem tail (later : Later c d) : c.tail ≤ d.tail := later.sent.length_le

theorem oldest (later : Later c d) : c.oldest ≤ d.oldest := by
  have tail := later.tail
  rw [Channel.oldest, Channel.oldest, later.capacity]
  omega

/-- Sent messages stay where they are. -/
theorem getElem? (later : Later c d) {message : α} (sent : c.sent[i]? = some message) :
    d.sent[i]? = some message := by
  obtain ⟨more, rest⟩ := later.sent
  obtain ⟨bound, -⟩ := List.getElem?_eq_some_iff.mp sent
  rw [← rest, List.getElem?_append_left bound, sent]

theorem getElem?_eq (later : Later c d) (bound : i < c.tail) : d.sent[i]? = c.sent[i]? := by
  obtain ⟨more, rest⟩ := later.sent
  rw [← rest, List.getElem?_append_left bound]

end Later

/-! ## Positions -/

variable {p : α → Bool} {first n : Nat}

/-- The message at a position satisfies `p`. -/
def selects (c : Channel α) (p : α → Bool) (i : Nat) : Bool := (c.sent[i]?).any p

/-- The positions from `first` up to `n` whose message satisfies `p`, in order. -/
def segment (c : Channel α) (p : α → Bool) (first n : Nat) : List Nat :=
  (List.range' first (n - first)).filter (c.selects p)

@[simp] theorem segment_self : c.segment p first first = [] := by simp [segment]

theorem segment_succ (inside : first ≤ n) : c.segment p first (n + 1) =
    c.segment p first n ++ if c.selects p n then [n] else [] := by
  have longer : n + 1 - first = n - first + 1 := by omega
  have last : first + (n - first) = n := by omega
  simp only [segment, longer, List.range'_concat, List.filter_append, Nat.one_mul, last,
    List.filter_singleton, cond_eq_ite]

/-- What was sent later does not change the positions before it. -/
theorem Later.segment (later : Later c d) (bound : n ≤ c.tail) :
    d.segment p first n = c.segment p first n := by
  rw [Channel.segment, Channel.segment]
  apply List.filter_congr
  intro i listed
  obtain ⟨low, high⟩ := List.mem_range'_1.mp listed
  rw [selects, selects, later.getElem?_eq (by omega)]

end Channel

end Rsbtd.Transition
