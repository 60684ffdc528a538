import Rsbtd.Api.Subscription
import Rsbtd.Transition.Runs

/-!
# Subscriptions lose nothing silently

`torrentEvents` delivers the events of one segment of what was published and ends at
the first it missed.  `torrentChanged` goes on after a lag: the snapshot it takes then
stands for every update it missed, so a torrent of an update is, until the stream has
loaded a row for it, either in an update ahead or among what is left to load.
-/

namespace Rsbtd.Api

open Transition (Channel Run exec exists_run_of_exec)

variable {env env' : Env}

theorem Env.step_later {action : EnvAction} (stepped : env.step action = some env') :
    env.bus.Later env'.bus := by
  cases action with
  | publish event =>
    rw [Env.step] at stepped
    split at stepped
    · cases stepped
    case isFalse opened =>
      obtain rfl := Option.some.inj stepped
      exact .send _ _ (by simpa using opened)
  | close =>
    obtain rfl := Option.some.inj stepped
    exact .close _
  | change engine =>
    obtain rfl := Option.some.inj stepped
    exact .refl _

/-- Rows are stamped with what had been published when they were loaded. -/
theorem Torrent.load_ok {entry : TorrentEntry} {torrent : Torrent}
    (loaded : Torrent.load env entry = .ok torrent) :
    torrent.entry = entry ∧ torrent.loadedAfter = env.bus.tail := by
  unfold Torrent.load at loaded
  split at loaded
  · cases loaded
  · split at loaded
    · cases loaded
    · split at loaded
      · cases loaded
      · obtain rfl := Except.ok.inj loaded
        exact ⟨rfl, rfl⟩

theorem Torrent.exists_load {entry : TorrentEntry} (alive : (Torrent.load env entry).isOk = true) :
    ∃ torrent, Torrent.load env entry = .ok torrent := by
  cases loaded : Torrent.load env entry with
  | error e => simp [loaded, Except.isOk, Except.toBool] at alive
  | ok torrent => exact ⟨torrent, rfl⟩

theorem Item.loadedAfter_of_mem {filter : Option Uuid} {item : Item} {torrent : Torrent}
    (listed : torrent ∈ (item.advance env filter).2) : torrent.loadedAfter = env.bus.tail := by
  unfold Item.advance at listed
  split at listed
  · split at listed
    · cases listed
    · cases listed
  · split at listed
    · split at listed
      case h_1 loaded =>
        obtain rfl := List.mem_singleton.mp listed
        exact (Torrent.load_ok loaded).2
      case h_2 => cases listed
    · cases listed

/-! ## `torrentEvents` -/

namespace EventsStream

variable {s t : EventsStream}

/-- What one poll does. -/
inductive Polled (s : EventsStream) : EventsStream → Prop where
  | skip {event : Event} (pc : s.pc = .receiving) (sent : s.env.bus.sent[s.cursor]? = some event)
      (skipped : skipped s.filter event = true) : Polled s { s with cursor := s.cursor + 1 }
  | take {event : Event} (pc : s.pc = .receiving) (sent : s.env.bus.sent[s.cursor]? = some event)
      (taken : skipped s.filter event = false) : Polled s
        { s with cursor := s.cursor + 1, pc := .converting s.cursor event event.kind.items [] }
  | lag (pc : s.pc = .receiving) (overwritten : s.cursor < s.env.bus.oldest) :
      Polled s { s with cursor := s.env.bus.oldest, pc := .ended s.cursor }
  | close (pc : s.pc = .receiving) (consumed : s.env.bus.tail ≤ s.cursor)
      (closed : s.env.bus.closed = true) : Polled s { s with pc := .ended s.cursor }
  | load {position : Nat} {event : Event} {item : Item} {todo : List Item} {torrents : List Torrent}
      (pc : s.pc = .converting position event (item :: todo) torrents) : Polled s
      { s with pc := .converting position event ((item.advance s.env none).1 ++ todo)
                (torrents ++ (item.advance s.env none).2) }
  | drop {position : Nat} {event : Event} {torrents : List Torrent}
      (pc : s.pc = .converting position event [] torrents)
      (dropped : TorrentEvent.fromEngineEvent event torrents = none) :
      Polled s { s with pc := .receiving }
  | deliver {position : Nat} {event : Event} {torrents : List Torrent} {gqlEvent : TorrentEvent}
      (pc : s.pc = .converting position event [] torrents)
      (converted : TorrentEvent.fromEngineEvent event torrents = some gqlEvent) : Polled s
        { s with pc := .receiving, delivered := s.delivered ++ [(position, gqlEvent)] }

theorem polled_of_poll (polled : s.poll = some t) : Polled s t := by
  unfold poll at polled
  split at polled
  case h_1 pc =>
    split at polled
    case h_1 => cases polled
    case h_2 event next received =>
      obtain ⟨-, sent, rfl⟩ := Channel.recv_value received
      split at polled
      case isTrue skip =>
        obtain rfl := Option.some.inj polled
        exact .skip pc sent skip
      case isFalse take =>
        obtain rfl := Option.some.inj polled
        exact .take pc sent (by simpa using take)
    case h_3 missed next received =>
      obtain ⟨overwritten, -, rfl⟩ := Channel.recv_lagged received
      obtain rfl := Option.some.inj polled
      exact .lag pc overwritten
    case h_4 next received =>
      obtain ⟨-, consumed, closed, rfl⟩ := Channel.recv_closed received
      obtain rfl := Option.some.inj polled
      exact .close pc consumed closed
  case h_2 position event item todo torrents pc =>
    obtain rfl := Option.some.inj polled
    exact .load pc
  case h_3 position event torrents pc =>
    split at polled
    case h_1 dropped =>
      obtain rfl := Option.some.inj polled
      exact .drop pc dropped
    case h_2 gqlEvent converted =>
      obtain rfl := Option.some.inj polled
      exact .deliver pc converted
  case h_4 => cases polled

/-- The position up to which the stream has dealt with the bus. -/
def reached (s : EventsStream) : Nat :=
  match s.pc with
  | .receiving => s.cursor
  | .converting position _ _ _ => position
  | .ended position => position

/-- The events a stream is to deliver. -/
def wanted (filter : Option Uuid) (event : Event) : Bool := !skipped filter event && event.convertible

/-- What was delivered is the events of a segment of the bus, and the stream has not ended unless
it missed the next event or the bus is closed and consumed. -/
structure Contiguous (first : Nat) (s : EventsStream) : Prop where
  low : first ≤ s.reached
  high : s.reached ≤ s.env.bus.tail
  positions : s.delivered.map Prod.fst = s.env.bus.segment (wanted s.filter) first s.reached
  converted : ∀ d ∈ s.delivered, ∃ event torrents, s.env.bus.sent[d.1]? = some event ∧
    TorrentEvent.fromEngineEvent event torrents = some d.2 ∧ ∀ row ∈ torrents, d.1 < row.loadedAfter
  ended : ∀ position, s.pc = .ended position →
    position < s.env.bus.oldest ∨ s.env.bus.closed = true ∧ position = s.env.bus.tail

/-- With what the loop has in hand. -/
structure InOrder (first : Nat) (s : EventsStream) : Prop extends Contiguous first s where
  cursor : s.cursor ≤ s.env.bus.tail
  converting : ∀ position event todo torrents, s.pc = .converting position event todo torrents →
    s.cursor = position + 1 ∧ s.env.bus.sent[position]? = some event ∧
      skipped s.filter event = false ∧ ∀ row ∈ torrents, position < row.loadedAfter

section InOrder

variable {first : Nat}

theorem reached_receiving (pc : s.pc = .receiving) : s.reached = s.cursor := by
  rw [reached, pc]

theorem reached_converting {position : Nat} {event : Event} {todo : List Item}
    {torrents : List Torrent} (pc : s.pc = .converting position event todo torrents) :
    s.reached = position := by
  rw [reached, pc]

/-- The segment one position further. -/
theorem segment_next {event : Event} {n : Nat} (low : first ≤ n)
    (sent : s.env.bus.sent[n]? = some event) :
    s.env.bus.segment (wanted s.filter) first (n + 1) =
      s.env.bus.segment (wanted s.filter) first n ++ if wanted s.filter event then [n] else [] := by
  rw [Channel.segment_succ low, Channel.selects, sent, Option.any_some]

theorem InOrder.polled (inOrder : InOrder first s) (polled : Polled s t) : InOrder first t := by
  cases polled with
  | skip pc sent skip =>
    -- the position passed is not one of the wanted
    have positions := inOrder.positions
    have low := inOrder.low
    rw [reached_receiving pc] at positions low
    obtain ⟨bound, -⟩ := List.getElem?_eq_some_iff.mp sent
    refine ⟨⟨?_, ?_, ?_, inOrder.converted, ?_⟩, bound, ?_⟩
    · simp only [reached, pc]
      omega
    · simp only [reached, pc]
      exact bound
    · simp only [reached, pc]
      rw [segment_next low sent, positions, wanted, skip]
      simp
    · intro position ended
      rw [pc] at ended
      cases ended
    · intro position event' todo torrents converting
      rw [pc] at converting
      cases converting
  | take pc sent taken =>
    -- `reached` stays at the event in hand until it is converted
    have positions := inOrder.positions
    have low := inOrder.low
    rw [reached_receiving pc] at positions low
    obtain ⟨bound, -⟩ := List.getElem?_eq_some_iff.mp sent
    refine ⟨⟨low, inOrder.cursor, positions, inOrder.converted, ?_⟩, bound, ?_⟩
    · intro position ended
      cases ended
    · intro position event' todo torrents converting
      obtain ⟨rfl, rfl, rfl, rfl⟩ := EventsPc.converting.inj converting
      exact ⟨rfl, sent, taken, List.forall_mem_nil _⟩
  | lag pc overwritten =>
    -- the stream ends at the first event it has missed
    have positions := inOrder.positions
    have low := inOrder.low
    rw [reached_receiving pc] at positions low
    refine ⟨⟨low, inOrder.cursor, positions, inOrder.converted, ?_⟩, Channel.oldest_le_tail, ?_⟩
    · intro position ended
      obtain rfl := EventsPc.ended.inj ended
      exact .inl overwritten
    · intro position event' todo torrents converting
      cases converting
  | close pc consumed closed =>
    have positions := inOrder.positions
    have low := inOrder.low
    rw [reached_receiving pc] at positions low
    refine ⟨⟨low, inOrder.cursor, positions, inOrder.converted, ?_⟩, inOrder.cursor, ?_⟩
    · intro position ended
      obtain rfl := EventsPc.ended.inj ended
      exact .inr ⟨closed, Nat.le_antisymm inOrder.cursor consumed⟩
    · intro position event' todo torrents converting
      cases converting
  | @load position event item todo torrents pc =>
    -- a row is loaded after the event was published
    have positions := inOrder.positions
    have low := inOrder.low
    have high := inOrder.high
    rw [reached_converting pc] at positions low high
    obtain ⟨cursor, sent, taken, later⟩ := inOrder.converting _ _ _ _ pc
    refine ⟨⟨low, high, positions, inOrder.converted, ?_⟩, inOrder.cursor, ?_⟩
    · intro position' ended
      cases ended
    · intro position' event' todo' torrents' converting
      obtain ⟨rfl, rfl, rfl, rfl⟩ := EventsPc.converting.inj converting
      refine ⟨cursor, sent, taken, ?_⟩
      intro row listed
      rcases List.mem_append.mp listed with before | loaded
      · exact later row before
      · rw [Item.loadedAfter_of_mem loaded]
        exact (List.getElem?_eq_some_iff.mp sent).1
  | @drop position event torrents pc dropped =>
    -- which events are converted does not depend on the rows
    have positions := inOrder.positions
    have low := inOrder.low
    rw [reached_converting pc] at positions low
    obtain ⟨cursor, sent, taken, -⟩ := inOrder.converting _ _ _ _ pc
    have unconvertible := fromEngineEvent_isSome event torrents
    rw [dropped, Option.isSome_none] at unconvertible
    refine ⟨⟨?_, ?_, ?_, inOrder.converted, ?_⟩, inOrder.cursor, ?_⟩
    · simp only [reached]
      omega
    · exact inOrder.cursor
    · simp only [reached]
      rw [cursor, segment_next low sent, positions, wanted, ← unconvertible]
      simp
    · intro position' ended
      cases ended
    · intro position' event' todo' torrents' converting
      cases converting
  | @deliver position event torrents gqlEvent pc converted =>
    have positions := inOrder.positions
    have low := inOrder.low
    rw [reached_converting pc] at positions low
    obtain ⟨cursor, sent, taken, later⟩ := inOrder.converting _ _ _ _ pc
    have convertible := fromEngineEvent_isSome event torrents
    rw [converted, Option.isSome_some] at convertible
    refine ⟨⟨?_, ?_, ?_, ?_, ?_⟩, inOrder.cursor, ?_⟩
    · simp only [reached]
      omega
    · exact inOrder.cursor
    · simp only [reached]
      rw [cursor, segment_next low sent, List.map_append, positions, wanted, taken, ← convertible]
      simp
    · intro d listed
      rcases List.mem_append.mp listed with before | last
      · exact inOrder.converted d before
      · obtain rfl := List.mem_singleton.mp last
        exact ⟨event, torrents, sent, converted, later⟩
    · intro position' ended
      cases ended
    · intro position' event' todo' torrents' converting
      cases converting

theorem InOrder.surroundings (inOrder : InOrder first s) {env' : Env} {action : EnvAction}
    (stepped : s.env.step action = some env') : InOrder first { s with env := env' } := by
  have later := Env.step_later stepped
  refine ⟨⟨inOrder.low, Nat.le_trans inOrder.high later.tail, ?_, ?_, ?_⟩,
    Nat.le_trans inOrder.cursor later.tail, ?_⟩
  · exact inOrder.positions.trans (later.segment inOrder.high).symm
  · intro d listed
    obtain ⟨event, torrents, sent, converted, loaded⟩ := inOrder.converted d listed
    exact ⟨event, torrents, later.getElem? sent, converted, loaded⟩
  · intro position ended
    rcases inOrder.ended position ended with overwritten | ⟨closed, consumed⟩
    · exact .inl (Nat.lt_of_lt_of_le overwritten later.oldest)
    · obtain ⟨closed', same⟩ := later.closed closed
      exact .inr ⟨closed', consumed.trans (congrArg List.length same).symm⟩
  · intro position event todo torrents converting
    obtain ⟨cursor, sent, taken, loaded⟩ := inOrder.converting _ _ _ _ converting
    exact ⟨cursor, later.getElem? sent, taken, loaded⟩

theorem InOrder.step (inOrder : InOrder first s) {action : Action} (stepped : s.step action = some t) :
    InOrder first t := by
  cases action with
  | env action =>
    obtain ⟨env', moved, rfl⟩ := Option.map_eq_some_iff.mp stepped
    exact inOrder.surroundings moved
  | poll => exact inOrder.polled (polled_of_poll stepped)

/-- What a subscription begins with. -/
theorem inOrder_start {filter : Option Uuid} (subscribed : torrentEvents env filter = .ok s) :
    InOrder s.cursor s := by
  unfold torrentEvents at subscribed
  split at subscribed
  · cases subscribed
  case isFalse =>
    obtain rfl := Except.ok.inj subscribed
    refine ⟨⟨Nat.le_refl _, Nat.le_refl _, ?_, List.forall_mem_nil _, ?_⟩, Nat.le_refl _, ?_⟩
    · exact Channel.segment_self.symm
    · intro position ended
      cases ended
    · intro position event todo torrents converting
      cases converting

theorem start_cursor {filter : Option Uuid} (subscribed : torrentEvents env filter = .ok s) :
    s.cursor = env.bus.tail ∧ s.filter = filter := by
  unfold torrentEvents at subscribed
  split at subscribed
  · cases subscribed
  case isFalse =>
    obtain rfl := Except.ok.inj subscribed
    exact ⟨rfl, rfl⟩

theorem step_filter {action : Action} (stepped : s.step action = some t) : t.filter = s.filter := by
  cases action with
  | env action =>
    obtain ⟨env', -, rfl⟩ := Option.map_eq_some_iff.mp stepped
    rfl
  | poll => cases polled_of_poll stepped <;> rfl

theorem filter_run {filter : Option Uuid} (subscribed : torrentEvents env filter = .ok s)
    (run : Run step (fun _ _ => True) s t) : t.filter = filter := by
  refine Run.invariant (I := fun t => t.filter = filter) (start_cursor subscribed).2 ?_ run
  intro t action u _ same _ stepped
  exact (step_filter stepped).trans same

theorem inOrder_run {filter : Option Uuid} (subscribed : torrentEvents env filter = .ok s)
    (run : Run step (fun _ _ => True) s t) : InOrder s.cursor t := by
  refine Run.invariant (I := InOrder s.cursor) (inOrder_start subscribed) ?_ run
  intro t action u _ inOrder _ stepped
  exact inOrder.step stepped

end InOrder

/-! ### After a lag -/

/-- The stream is about to learn that it missed the event at the position, or has ended there. -/
structure Stopped (delivered : List (Nat × TorrentEvent)) (position : Nat) (s : EventsStream) :
    Prop where
  delivered : s.delivered = delivered
  pc : s.pc = .ended position ∨
    s.pc = .receiving ∧ s.cursor = position ∧ position < s.env.bus.oldest

theorem Stopped.step {delivered : List (Nat × TorrentEvent)} {position : Nat} {action : Action}
    (stopped : Stopped delivered position s) (stepped : s.step action = some t) :
    Stopped delivered position t := by
  cases action with
  | env action =>
    obtain ⟨env', moved, rfl⟩ := Option.map_eq_some_iff.mp stepped
    refine ⟨stopped.delivered, ?_⟩
    rcases stopped.pc with ended | ⟨pc, cursor, overwritten⟩
    · exact .inl ended
    · exact .inr ⟨pc, cursor, Nat.lt_of_lt_of_le overwritten (Env.step_later moved).oldest⟩
  | poll =>
    rcases stopped.pc with ended | ⟨pc, rfl, overwritten⟩
    · simp [EventsStream.step, poll, ended] at stepped
    · simp only [EventsStream.step, poll, pc, Channel.recv_of_overwritten overwritten,
        Option.some.injEq] at stepped
      subst stepped
      exact ⟨stopped.delivered, .inl rfl⟩

theorem stopped_run {delivered : List (Nat × TorrentEvent)} {position : Nat}
    (stopped : Stopped delivered position s) (run : Run step (fun _ _ => True) s t) :
    Stopped delivered position t := by
  refine Run.invariant (I := Stopped delivered position) stopped ?_ run
  intro t action u _ stopped _ stepped
  exact stopped.step stepped

end EventsStream

/-! ## `torrentChanged` -/

namespace ChangedStream

variable {s t : ChangedStream}

/-- What one poll does. -/
inductive Polled (s : ChangedStream) : ChangedStream → Prop where
  | ignore {event : Event} (pc : s.pc = .receiving) (sent : s.env.bus.sent[s.cursor]? = some event)
      (other : ∀ statuses, event.kind ≠ .stateUpdate statuses) :
      Polled s { s with cursor := s.cursor + 1 }
  | update {event : Event} {statuses : List TorrentStatus} (pc : s.pc = .receiving)
      (sent : s.env.bus.sent[s.cursor]? = some event) (kind : event.kind = .stateUpdate statuses) :
      Polled s { s with cursor := s.cursor + 1, pc := .collecting (statuses.map .status) [] }
  | lag (pc : s.pc = .receiving) (overwritten : s.cursor < s.env.bus.oldest) :
      Polled s { s with cursor := s.env.bus.oldest, pc := .lagged }
  | close (pc : s.pc = .receiving) (closed : s.env.bus.closed = true) :
      Polled s { s with pc := .ended }
  | list (pc : s.pc = .lagged) :
      Polled s { s with pc := .collecting (s.env.engine.registry.list.map .entry) [] }
  | load {item : Item} {todo : List Item} {torrents : List Torrent}
      (pc : s.pc = .collecting (item :: todo) torrents) : Polled s
        { s with pc := .collecting ((item.advance s.env s.filter).1 ++ todo)
                  (torrents ++ (item.advance s.env s.filter).2) }
  | nothing (pc : s.pc = .collecting [] []) : Polled s { s with pc := .receiving }
  | emit {torrents : List Torrent} (pc : s.pc = .collecting [] torrents) :
      Polled s { s with pc := .receiving, emitted := s.emitted ++ [torrents] }

theorem polled_of_poll (polled : s.poll = some t) : Polled s t := by
  unfold poll at polled
  split at polled
  case h_1 pc =>
    split at polled
    case h_1 => cases polled
    case h_2 event next received =>
      obtain ⟨-, sent, rfl⟩ := Channel.recv_value received
      split at polled
      case h_1 statuses kind =>
        obtain rfl := Option.some.inj polled
        exact .update pc sent kind
      case h_2 other =>
        obtain rfl := Option.some.inj polled
        exact .ignore pc sent other
    case h_3 missed next received =>
      obtain ⟨overwritten, -, rfl⟩ := Channel.recv_lagged received
      obtain rfl := Option.some.inj polled
      exact .lag pc overwritten
    case h_4 next received =>
      obtain ⟨-, -, closed, rfl⟩ := Channel.recv_closed received
      obtain rfl := Option.some.inj polled
      exact .close pc closed
  case h_2 pc =>
    obtain rfl := Option.some.inj polled
    exact .list pc
  case h_3 item todo torrents pc =>
    obtain rfl := Option.some.inj polled
    exact .load pc
  case h_4 torrents pc =>
    split at polled
    case isTrue empty =>
      subst empty
      obtain rfl := Option.some.inj polled
      exact .nothing pc
    case isFalse =>
      obtain rfl := Option.some.inj polled
      exact .emit pc
  case h_5 => cases polled

/-! ### The stream stays open with the bus -/

/-- What holds of the cursor and the end of the stream in every run. -/
structure Sound (first : Nat) (s : ChangedStream) : Prop where
  low : first ≤ s.cursor
  cursor : s.cursor ≤ s.env.bus.tail
  ended : s.pc = .ended → s.env.bus.closed = true

theorem Sound.polled {first : Nat} (sound : Sound first s) (polled : Polled s t) : Sound first t := by
  cases polled with
  | ignore pc sent other =>
    refine ⟨Nat.le_succ_of_le sound.low, (List.getElem?_eq_some_iff.mp sent).1, ?_⟩
    intro ended
    rw [pc] at ended
    cases ended
  | update pc sent kind =>
    refine ⟨Nat.le_succ_of_le sound.low, (List.getElem?_eq_some_iff.mp sent).1, ?_⟩
    intro ended
    cases ended
  | lag pc overwritten =>
    refine ⟨Nat.le_trans sound.low (Nat.le_of_lt overwritten), Channel.oldest_le_tail, ?_⟩
    intro ended
    cases ended
  | close pc closed => exact ⟨sound.low, sound.cursor, fun _ => closed⟩
  | list pc | load pc | nothing pc | emit pc =>
    refine ⟨sound.low, sound.cursor, ?_⟩
    intro ended
    cases ended

theorem Sound.step {first : Nat} {action : Action} (sound : Sound first s)
    (stepped : s.step action = some t) : Sound first t := by
  cases action with
  | env action =>
    obtain ⟨env', moved, rfl⟩ := Option.map_eq_some_iff.mp stepped
    have later := Env.step_later moved
    exact ⟨sound.low, Nat.le_trans sound.cursor later.tail,
      fun ended => (later.closed (sound.ended ended)).1⟩
  | poll => exact sound.polled (polled_of_poll stepped)

theorem sound_start {filter : Option Uuid} (subscribed : torrentChanged env filter = .ok s) :
    Sound s.cursor s ∧ s.filter = filter ∧ s.pc = .receiving := by
  unfold torrentChanged at subscribed
  split at subscribed
  · cases subscribed
  case isFalse =>
    obtain rfl := Except.ok.inj subscribed
    refine ⟨⟨Nat.le_refl _, Nat.le_refl _, ?_⟩, rfl, rfl⟩
    intro ended
    cases ended

theorem start_cursor {filter : Option Uuid} (subscribed : torrentChanged env filter = .ok s) :
    s.cursor = env.bus.tail := by
  unfold torrentChanged at subscribed
  split at subscribed
  · cases subscribed
  case isFalse =>
    obtain rfl := Except.ok.inj subscribed
    rfl

theorem sound_run {filter : Option Uuid} {ok : ChangedStream → Action → Prop}
    (subscribed : torrentChanged env filter = .ok s) (run : Run step ok s t) : Sound s.cursor t := by
  refine Run.invariant (I := Sound s.cursor) (sound_start subscribed).1 ?_ run
  intro t action u _ sound _ stepped
  exact sound.step stepped

/-! ### The torrents of an update -/

/-- The torrent is registered under both its keys, and its handle answers. -/
structure Present (env : Env) (entry : TorrentEntry) : Prop where
  get : env.engine.registry.get entry.id = some entry
  list : entry ∈ env.engine.registry.list
  alive : (Torrent.load env entry).isOk = true

instance (entry : TorrentEntry) : Decidable (Present env entry) :=
  decidable_of_iff (env.engine.registry.get entry.id = some entry ∧
      entry ∈ env.engine.registry.list ∧ (Torrent.load env entry).isOk = true)
    ⟨fun present => ⟨present.1, present.2.1, present.2.2⟩,
      fun present => ⟨present.get, present.list, present.alive⟩⟩

/-- The event at the position is a state update with the torrent. -/
def Mentions (bus : Channel Event) (position : Nat) (entry : TorrentEntry) : Prop :=
  ∃ event statuses, bus.sent[position]? = some event ∧ event.kind = .stateUpdate statuses ∧
    ∃ status ∈ statuses, status.id = entry.id

/-- A row of the torrent loaded after the event at the position was published. -/
def IsFresh (position : Nat) (entry : TorrentEntry) (row : Torrent) : Prop :=
  row.entry = entry ∧ position < row.loadedAfter

/-- Some batch has such a row. -/
def Reported (position : Nat) (entry : TorrentEntry) (s : ChangedStream) : Prop :=
  ∃ batch ∈ s.emitted, ∃ row ∈ batch, IsFresh position entry row

/-- The loop is about to load the torrent. -/
def Item.Names (entry : TorrentEntry) : Item → Prop
  | .status snapshot => snapshot.id = entry.id
  | .entry found => found = entry

/-- The torrent was reported, or the stream still is to see the update, or has its snapshot to
take, or the torrent is being loaded. -/
inductive Awaited (position : Nat) (entry : TorrentEntry) (s : ChangedStream) : Prop where
  | ahead (cursor : s.cursor ≤ position)
  | reported (reported : Reported position entry s)
  | lagged (pc : s.pc = .lagged)
  | named {todo : List Item} {torrents : List Torrent} {item : Item}
      (pc : s.pc = .collecting todo torrents) (listed : item ∈ todo) (names : Item.Names entry item)
  | loaded {todo : List Item} {torrents : List Torrent} {row : Torrent}
      (pc : s.pc = .collecting todo torrents) (listed : row ∈ torrents)
      (fresh : IsFresh position entry row)

section Awaited

variable {position : Nat} {entry : TorrentEntry}

theorem Mentions.lt_tail {bus : Channel Event} (mentions : Mentions bus position entry) :
    position < bus.tail := by
  obtain ⟨event, statuses, sent, -⟩ := mentions
  exact (List.getElem?_eq_some_iff.mp sent).1

theorem Reported.append {s : ChangedStream} (reported : Reported position entry s)
    (pc : ChangedPc) (batch : List Torrent) :
    Reported position entry { s with pc := pc, emitted := s.emitted ++ [batch] } := by
  obtain ⟨found, listed, fresh⟩ := reported
  exact ⟨found, List.mem_append_left _ listed, fresh⟩

/-- Loading goes on with the torrent or has its row. -/
theorem Item.advance_names {item : Item} (present : Present s.env entry)
    (pass : passes s.filter entry = true) (before : position < s.env.bus.tail)
    (names : Item.Names entry item) :
    (∃ more ∈ (item.advance s.env s.filter).1, Item.Names entry more) ∨
      ∃ row ∈ (item.advance s.env s.filter).2, IsFresh position entry row := by
  cases item with
  | status snapshot =>
    have found : s.env.engine.registry.get snapshot.id = some entry := by
      rw [show snapshot.id = entry.id from names]
      exact present.get
    left
    simp [Api.Item.advance, found, Item.Names]
  | entry found =>
    obtain rfl : found = entry := names
    obtain ⟨torrent, loaded⟩ := Torrent.exists_load present.alive
    obtain ⟨same, stamped⟩ := Torrent.load_ok loaded
    right
    refine ⟨torrent, by simp [Api.Item.advance, pass, loaded], same, ?_⟩
    rw [stamped]
    exact before

theorem Awaited.polled (awaited : Awaited position entry s)
    (mentions : Mentions s.env.bus position entry) (present : Present s.env entry)
    (pass : passes s.filter entry = true) (polled : Polled s t) :
    Awaited position entry t := by
  cases polled with
  | @ignore event pc sent other =>
    cases awaited with
    | ahead cursor =>
      rcases Nat.lt_or_eq_of_le cursor with before | rfl
      · exact .ahead before
      · obtain ⟨event', statuses, sent', kind, -⟩ := mentions
        obtain rfl := Option.some.inj (sent.symm.trans sent')
        exact absurd kind (other statuses)
    | reported reported => exact .reported reported
    | lagged pc' => simp [pc] at pc'
    | named pc' => simp [pc] at pc'
    | loaded pc' => simp [pc] at pc'
  | @update event statuses pc sent kind =>
    -- the update read is the one awaited, or the awaited one is still ahead
    cases awaited with
    | ahead cursor =>
      rcases Nat.lt_or_eq_of_le cursor with before | rfl
      · exact .ahead before
      · obtain ⟨event', statuses', sent', kind', status, listed, same⟩ := mentions
        obtain rfl := Option.some.inj (sent.symm.trans sent')
        obtain rfl := EventKind.stateUpdate.inj (kind.symm.trans kind')
        exact .named rfl (List.mem_map_of_mem listed) same
    | reported reported => exact .reported reported
    | lagged pc' => simp [pc] at pc'
    | named pc' => simp [pc] at pc'
    | loaded pc' => simp [pc] at pc'
  | lag pc overwritten => exact .lagged rfl
  | close pc closed =>
    cases awaited with
    | ahead cursor => exact .ahead cursor
    | reported reported => exact .reported reported
    | lagged pc' => simp [pc] at pc'
    | named pc' => simp [pc] at pc'
    | loaded pc' => simp [pc] at pc'
  | list pc =>
    exact .named rfl (List.mem_map_of_mem present.list) rfl
  | @load item todo torrents pc =>
    -- the item loaded is the torrent, or the torrent is still among the others
    cases awaited with
    | ahead cursor => exact .ahead cursor
    | reported reported => exact .reported reported
    | lagged pc' => simp [pc] at pc'
    | named pc' listed names =>
      obtain ⟨rfl, rfl⟩ := ChangedPc.collecting.inj (pc.symm.trans pc')
      rcases List.mem_cons.mp listed with rfl | later
      · rcases Item.advance_names present pass mentions.lt_tail names with
          ⟨more, listed, names⟩ | ⟨row, listed, fresh⟩
        · exact .named rfl (List.mem_append_left _ listed) names
        · exact .loaded rfl (List.mem_append_right _ listed) fresh
      · exact .named rfl (List.mem_append_right _ later) names
    | loaded pc' listed fresh =>
      obtain ⟨rfl, rfl⟩ := ChangedPc.collecting.inj (pc.symm.trans pc')
      exact .loaded rfl (List.mem_append_left _ listed) fresh
  | nothing pc =>
    cases awaited with
    | ahead cursor => exact .ahead cursor
    | reported reported => exact .reported reported
    | lagged pc' => simp [pc] at pc'
    | named pc' listed names =>
      obtain ⟨rfl, rfl⟩ := ChangedPc.collecting.inj (pc.symm.trans pc')
      cases listed
    | loaded pc' listed fresh =>
      obtain ⟨rfl, rfl⟩ := ChangedPc.collecting.inj (pc.symm.trans pc')
      cases listed
  | @emit torrents pc =>
    cases awaited with
    | ahead cursor => exact .ahead cursor
    | reported reported => exact .reported (reported.append .receiving torrents)
    | lagged pc' => simp [pc] at pc'
    | named pc' listed names =>
      obtain ⟨rfl, rfl⟩ := ChangedPc.collecting.inj (pc.symm.trans pc')
      cases listed
    | loaded pc' listed fresh =>
      obtain ⟨rfl, rfl⟩ := ChangedPc.collecting.inj (pc.symm.trans pc')
      exact .reported ⟨torrents, List.mem_append_right _ (List.mem_singleton.mpr rfl), _, listed, fresh⟩

theorem Awaited.surroundings (awaited : Awaited position entry s) (env' : Env) :
    Awaited position entry { s with env := env' } := by
  cases awaited with
  | ahead cursor => exact .ahead cursor
  | reported reported => exact .reported reported
  | lagged pc => exact .lagged pc
  | named pc listed names => exact .named pc listed names
  | loaded pc listed fresh => exact .loaded pc listed fresh

/-- From the update on, the torrent is registered and alive. -/
def Stays (position : Nat) (entry : TorrentEntry) (s : ChangedStream) (_ : Action) : Prop :=
  position < s.env.bus.tail → Present s.env entry

instance (s : ChangedStream) (action : Action) : Decidable (Stays position entry s action) :=
  inferInstanceAs (Decidable (_ → _))

theorem step_filter {action : Action} (stepped : s.step action = some t) : t.filter = s.filter := by
  cases action with
  | env action =>
    obtain ⟨env', -, rfl⟩ := Option.map_eq_some_iff.mp stepped
    rfl
  | poll => cases polled_of_poll stepped <;> rfl

theorem step_later {action : Action} (stepped : s.step action = some t) :
    s.env.bus.Later t.env.bus := by
  cases action with
  | env action =>
    obtain ⟨env', moved, rfl⟩ := Option.map_eq_some_iff.mp stepped
    exact Env.step_later moved
  | poll =>
    cases polled_of_poll stepped <;> exact .refl _

/-- What a run keeps for a torrent of an update, once the update is published. -/
structure Accounted (first position : Nat) (entry : TorrentEntry) (s : ChangedStream) : Prop where
  sound : Sound first s
  pass : passes s.filter entry = true
  awaited : Mentions s.env.bus position entry → Awaited position entry s

theorem Accounted.step {first : Nat} {action : Action} (accounted : Accounted first position entry s)
    (stays : Stays position entry s action) (stepped : s.step action = some t) :
    Accounted first position entry t := by
  refine ⟨accounted.sound.step stepped, (step_filter stepped) ▸ accounted.pass, ?_⟩
  intro mentions
  by_cases published : position < s.env.bus.tail
  · obtain ⟨event, statuses, sent, found⟩ := mentions
    have before : Mentions s.env.bus position entry :=
      ⟨event, statuses, ((step_later stepped).getElem?_eq published).symm.trans sent, found⟩
    have awaited := accounted.awaited before
    cases action with
    | env action =>
      obtain ⟨env', -, rfl⟩ := Option.map_eq_some_iff.mp stepped
      exact awaited.surroundings env'
    | poll =>
      exact awaited.polled before (stays published) accounted.pass (polled_of_poll stepped)
  · -- the step published the update, behind the cursor
    cases action with
    | env action =>
      obtain ⟨env', -, rfl⟩ := Option.map_eq_some_iff.mp stepped
      exact .ahead (Nat.le_trans accounted.sound.cursor (Nat.le_of_not_lt published))
    | poll =>
      have same : t.env = s.env := by
        cases polled_of_poll stepped <;> rfl
      exact absurd (same ▸ mentions.lt_tail) published

theorem accounted_run {filter : Option Uuid} (subscribed : torrentChanged env filter = .ok s)
    (pass : passes filter entry = true) (after : s.cursor ≤ position)
    (run : Run step (Stays position entry) s t) : Accounted s.cursor position entry t := by
  obtain ⟨sound, filtered, -⟩ := sound_start subscribed
  refine Run.invariant (I := Accounted s.cursor position entry) ?_ ?_ run
  · exact ⟨sound, filtered ▸ pass, fun _ => .ahead after⟩
  · intro t action u _ accounted stays stepped
    exact accounted.step stays stepped

/-- The stream has consumed the bus. -/
def Consumed (s : ChangedStream) : Prop :=
  (s.pc = .receiving ∨ s.pc = .ended) ∧ s.cursor = s.env.bus.tail

theorem Accounted.reported {first : Nat} (accounted : Accounted first position entry s)
    (consumed : Consumed s) (mentions : Mentions s.env.bus position entry) :
    Reported position entry s := by
  obtain ⟨idle, cursor⟩ := consumed
  have before := mentions.lt_tail
  cases accounted.awaited mentions with
  | ahead behind => omega
  | reported reported => exact reported
  | lagged pc => simp [pc] at idle
  | named pc => simp [pc] at idle
  | loaded pc => simp [pc] at idle

end Awaited

end ChangedStream

/-! ## Both subscriptions -/

/-- `torrentEvents` delivers exactly the wanted events of one segment of the bus, in order, and
nothing more once it missed one; `torrentChanged` does not end while the bus is open, and when it
has consumed the bus it has reported every torrent of every update since it was subscribed to that
stayed registered and alive. -/
theorem subscriptions_lose_nothing :
    (∀ env filter s t, torrentEvents env filter = .ok s →
      Run EventsStream.step (fun _ _ => True) s t →
      t.filter = filter ∧ t.Contiguous env.bus.tail ∧
        ∀ u, t.pc = .receiving → t.cursor < t.env.bus.oldest →
          Run EventsStream.step (fun _ _ => True) t u →
          u.delivered = t.delivered ∧ (u.pc = .receiving ∧ u.cursor = t.cursor ∨ u.pc = .ended t.cursor)) ∧
    (∀ env filter s t, torrentChanged env filter = .ok s →
      Run ChangedStream.step (fun _ _ => True) s t → t.pc = .ended → t.env.bus.closed = true) ∧
    ∀ env filter s t position entry, torrentChanged env filter = .ok s → passes filter entry = true →
      env.bus.tail ≤ position → Run ChangedStream.step (ChangedStream.Stays position entry) s t →
      t.Consumed → ChangedStream.Mentions t.env.bus position entry →
      ChangedStream.Reported position entry t := by
  refine ⟨?_, ?_, ?_⟩
  · intro env filter s t subscribed run
    have inOrder := EventsStream.inOrder_run subscribed run
    rw [(EventsStream.start_cursor subscribed).1] at inOrder
    refine ⟨EventsStream.filter_run subscribed run, inOrder.toContiguous, ?_⟩
    intro u pc overwritten more
    have stopped := EventsStream.stopped_run ⟨rfl, .inr ⟨pc, rfl, overwritten⟩⟩ more
    refine ⟨stopped.delivered, ?_⟩
    rcases stopped.pc with ended | ⟨receiving, cursor, -⟩
    · exact .inr ended
    · exact .inl ⟨receiving, cursor⟩
  · intro env filter s t subscribed run
    exact (ChangedStream.sound_run subscribed run).ended
  · intro env filter s t position entry subscribed pass after run consumed mentions
    rw [← ChangedStream.start_cursor subscribed] at after
    exact (ChangedStream.accounted_run subscribed pass after run).reported consumed mentions

section Overtaken

/-- An engine with one torrent and a bus that retains two events. -/
def onlyEntry : TorrentEntry := ⟨7, 9, 1⟩

def oneTorrent : Env :=
  { engine :=
      { registry := (Registry.new.upsert 7 9 1).1
        session := some ⟨fun token => if token = 9 then some ⟨.ok ⟨7⟩, 0⟩ else none⟩ }
    bus := ⟨2, [], false⟩ }

def added : Event := ⟨some 1, .torrentAdded⟩
def updated : Event := ⟨none, .stateUpdate [⟨7⟩]⟩

def publish (event : Event) : Action := .env (.publish event)

/-- One event is delivered, and three are published before the next poll. -/
def overtakenEvents : List Action :=
  [publish added, .poll, .poll, publish updated, publish added, publish added]

/-- The first of three updates is overwritten before the stream is polled. -/
def overtakenChanges : List Action :=
  [publish updated, publish updated, publish updated, .poll, .poll, .poll, .poll] ++
    [.poll, .poll, .poll, .poll] ++ [.poll, .poll, .poll, .poll]

/-- A filtered stream that missed an update it would have skipped still ends there, and the missed
update's torrent is in the snapshot. -/
theorem subscriptions_overtaken :
    (∃ t, t.Contiguous 0 ∧ t.delivered = [(0, .torrentAdded 1)] ∧ ∀ u,
      Run EventsStream.step (fun _ _ => True) t u → u.delivered = [(0, .torrentAdded 1)]) ∧
    ∃ t, ChangedStream.Consumed t ∧ t.env.bus.oldest = 1 ∧ t.pc ≠ .ended ∧
      ChangedStream.Mentions t.env.bus 0 onlyEntry ∧ ChangedStream.Reported 0 onlyEntry t := by
  obtain ⟨events, -, changes⟩ := subscriptions_lose_nothing
  constructor
  · have replayed : (exec EventsStream.step (fun _ _ => true) ⟨oneTorrent, some 1, 0, .receiving, []⟩
        overtakenEvents).map (fun t => decide (t.pc = .receiving ∧ t.cursor < t.env.bus.oldest ∧
          t.delivered = [(0, .torrentAdded 1)])) = some true := by decide +kernel
    obtain ⟨t, run, holds⟩ := exists_run_of_exec replayed
    obtain ⟨pc, overwritten, delivered⟩ := of_decide_eq_true holds
    obtain ⟨-, contiguous, stopped⟩ := events oneTorrent (some 1) _ t rfl (run.mono (by simp))
    refine ⟨t, contiguous, delivered, ?_⟩
    intro u more
    exact (stopped u pc overwritten more).1.trans delivered
  · have replayed : (exec ChangedStream.step (fun s a => decide (ChangedStream.Stays 0 onlyEntry s a))
        ⟨oneTorrent, some 1, 0, .receiving, []⟩ overtakenChanges).map
        (fun t => decide (t.pc = .receiving ∧ t.cursor = t.env.bus.tail ∧ t.env.bus.oldest = 1 ∧
          t.env.bus.sent[0]? = some updated)) = some true := by decide +kernel
    obtain ⟨t, run, holds⟩ := exists_run_of_exec replayed
    obtain ⟨pc, cursor, oldest, sent⟩ := of_decide_eq_true holds
    have mentions : ChangedStream.Mentions t.env.bus 0 onlyEntry :=
      ⟨updated, [⟨7⟩], sent, rfl, ⟨7⟩, List.mem_singleton.mpr rfl, rfl⟩
    have consumed : ChangedStream.Consumed t := ⟨.inl pc, cursor⟩
    refine ⟨t, consumed, oldest, by simp [pc], mentions, ?_⟩
    apply changes oneTorrent (some 1) _ t 0 onlyEntry rfl rfl (Nat.le_refl 0) ?_ consumed mentions
    exact run.mono fun s a allowed => of_decide_eq_true allowed

end Overtaken

end Rsbtd.Api
