import Rsbtd.Engine.Registry
import Mathlib.Data.List.Induction

/-!
# Coherence of the registry's indexes

The two indexes hold one key per entry and point back at it.  Every operation
keeps this, except for the registration of a torrent under the uuid of another:
the new entry replaces the old one, whose id and token then lead to the new
torrent.
-/

namespace Rsbtd.Registry

/-! ## An index -/

/-- `index` maps the key of every entry to the uuid it is stored under. -/
def IndexedBy (key : TorrentEntry → Nat) (index : AList fun _ : Nat => Uuid)
    (entries : AList fun _ : Uuid => TorrentEntry) : Prop :=
  ∀ k u, index.lookup k = some u ↔ ∃ e, entries.lookup u = some e ∧ key e = k

namespace IndexedBy

variable {key : TorrentEntry → Nat} {index : AList fun _ : Nat => Uuid}
  {entries : AList fun _ : Uuid => TorrentEntry} {u v : Uuid} {e e' : TorrentEntry} {k : Nat}

theorem lookup (indexed : IndexedBy key index entries) (present : entries.lookup u = some e) :
    index.lookup (key e) = some u :=
  (indexed _ _).mpr ⟨e, present, rfl⟩

/-- No two entries share a key. -/
theorem unique (indexed : IndexedBy key index entries) (first : entries.lookup u = some e)
    (second : entries.lookup v = some e') (same : key e = key e') : u = v := by
  apply Option.some.inj
  rw [← indexed.lookup first, same, indexed.lookup second]

theorem bind_iff (indexed : IndexedBy key index entries) :
    ((index.lookup k).bind fun u => entries.lookup u) = some e ↔
      key e = k ∧ ∃ u, entries.lookup u = some e := by
  rw [Option.bind_eq_some_iff]
  constructor
  · rintro ⟨u, points, present⟩
    obtain ⟨other, present', same⟩ := (indexed k u).mp points
    obtain rfl := Option.some.inj (present.symm.trans present')
    exact ⟨same, u, present⟩
  · rintro ⟨same, u, present⟩
    exact ⟨u, (indexed k u).mpr ⟨e, present, same⟩, present⟩

theorem insert (indexed : IndexedBy key index entries) (unused : entries.lookup u = none)
    (fresh : ∀ v e', entries.lookup v = some e' → key e' ≠ key e) :
    IndexedBy key (index.insert (key e) u) (entries.insert u e) := by
  intro k v
  by_cases own : k = key e
  · subst own
    rw [AList.lookup_insert]
    constructor
    · intro points
      obtain rfl := Option.some.inj points
      exact ⟨e, AList.lookup_insert _, rfl⟩
    · rintro ⟨other, present, same⟩
      by_cases here : v = u
      · rw [here]
      · rw [AList.lookup_insert_ne here] at present
        exact absurd same (fresh v other present)
  · rw [AList.lookup_insert_ne own, indexed]
    constructor
    · rintro ⟨other, present, same⟩
      have there : v ≠ u := by
        rintro rfl
        cases unused.symm.trans present
      exact ⟨other, by rwa [AList.lookup_insert_ne there], same⟩
    · rintro ⟨other, present, same⟩
      by_cases here : v = u
      · rw [here, AList.lookup_insert] at present
        obtain rfl := Option.some.inj present
        exact absurd same.symm own
      · rw [AList.lookup_insert_ne here] at present
        exact ⟨other, present, same⟩

theorem erase (indexed : IndexedBy key index entries) (present : entries.lookup u = some e) :
    IndexedBy key (index.erase (key e)) (entries.erase u) := by
  intro k v
  by_cases own : k = key e
  · subst own
    rw [AList.lookup_erase]
    constructor
    · intro points
      cases points
    · rintro ⟨other, kept, same⟩
      by_cases here : v = u
      · rw [here, AList.lookup_erase] at kept
        cases kept
      · rw [AList.lookup_erase_ne here] at kept
        exact absurd (indexed.unique kept present same) here
  · rw [AList.lookup_erase_ne own, indexed]
    constructor
    · rintro ⟨other, kept, same⟩
      have there : v ≠ u := by
        rintro rfl
        obtain rfl := Option.some.inj (present.symm.trans kept)
        exact own same.symm
      exact ⟨other, by rwa [AList.lookup_erase_ne there], same⟩
    · rintro ⟨other, kept, same⟩
      by_cases here : v = u
      · rw [here, AList.lookup_erase] at kept
        cases kept
      · rw [AList.lookup_erase_ne here] at kept
        exact ⟨other, kept, same⟩

end IndexedBy

/-! ## The registry -/

/-- Entries carry the uuid they are stored under, and both indexes hold exactly them. -/
structure Indexed (r : Registry) : Prop where
  uuid : ∀ u e, r.find u = some e → e.uuid = u
  ids : IndexedBy TorrentEntry.id r.byId r.byUuid
  tokens : IndexedBy TorrentEntry.token r.byToken r.byUuid

variable {r : Registry} {id : TorrentId} {token : Token} {uuid : Uuid} {e : TorrentEntry}

namespace Indexed

theorem new : Indexed Registry.new := by
  constructor
  · simp [find, Registry.new]
  · intro k u
    simp [Registry.new]
  · intro k u
    simp [Registry.new]

theorem get_iff (indexed : Indexed r) : r.get id = some e ↔ e.id = id ∧ r.find e.uuid = some e := by
  rw [get, indexed.ids.bind_iff]
  constructor
  · rintro ⟨same, u, present⟩
    rw [indexed.uuid u e present]
    exact ⟨same, present⟩
  · rintro ⟨same, present⟩
    exact ⟨same, e.uuid, present⟩

theorem findByToken_iff (indexed : Indexed r) :
    r.findByToken token = some e ↔ e.token = token ∧ r.find e.uuid = some e := by
  rw [findByToken, indexed.tokens.bind_iff]
  constructor
  · rintro ⟨same, u, present⟩
    rw [indexed.uuid u e present]
    exact ⟨same, present⟩
  · rintro ⟨same, present⟩
    exact ⟨same, e.uuid, present⟩

theorem remove (indexed : Indexed r) (uuid : Uuid) : Indexed (r.remove uuid).1 := by
  cases registered : r.find uuid with
  | none =>
    rw [remove_of_absent registered]
    exact indexed
  | some e =>
    have ids := indexed.ids.lookup registered
    have tokens := indexed.tokens.lookup registered
    constructor
    · intro v e' found
      rw [remove_find] at found
      obtain ⟨_, kept⟩ := Option.ite_none_left_eq_some.mp found
      exact indexed.uuid v e' kept
    · rw [find] at registered
      simp only [Registry.remove, registered, ids, if_true]
      exact indexed.ids.erase registered
    · rw [find] at registered
      simp only [Registry.remove, registered, tokens, if_true]
      exact indexed.tokens.erase registered

/-- A new torrent under an unused uuid. -/
theorem upsert_new (indexed : Indexed r) (unknown : r.get id = none)
    (unused : r.find uuid = none) (fresh : ∀ e, r.find e.uuid = some e → e.token ≠ token) :
    Indexed (r.upsert id token uuid).1 := by
  have absent : ((r.byId.lookup id).bind fun u => r.byUuid.lookup u) = none := unknown
  simp only [Registry.upsert, absent]
  constructor
  · intro v e' found
    simp only [find] at found
    by_cases here : v = uuid
    · rw [here, AList.lookup_insert] at found
      rw [← Option.some.inj found, here]
    · rw [AList.lookup_insert_ne here] at found
      exact indexed.uuid v e' found
  · apply indexed.ids.insert (e := ⟨id, token, uuid⟩) unused
    intro v e' present same
    have known := indexed.get_iff.mpr ⟨same, by rwa [indexed.uuid v e' present]⟩
    cases unknown.symm.trans known
  · apply indexed.tokens.insert (e := ⟨id, token, uuid⟩) unused
    intro v e' present
    exact fresh e' (by rwa [indexed.uuid v e' present])

end Indexed

theorem upsert_of_registered (registered : r.get id = some e) :
    r.upsert id token uuid = (r, e) := by
  rw [get] at registered
  simp only [Registry.upsert, registered]

theorem upsert_of_unregistered (token : Token) (uuid : Uuid) (unknown : r.get id = none) :
    (r.upsert id token uuid).2 = ⟨id, token, uuid⟩ ∧
      (r.upsert id token uuid).1.get id = some ⟨id, token, uuid⟩ := by
  have absent : ((r.byId.lookup id).bind fun u => r.byUuid.lookup u) = none := unknown
  simp only [Registry.upsert, get, absent, AList.lookup_insert, Option.bind_some, and_self]

/-! ## Sequences of operations -/

inductive Op where
  | upsert (id : TorrentId) (token : Token) (uuid : Uuid)
  | removeByToken (token : Token)
  | removeById (id : TorrentId)

def apply (r : Registry) : Op → Registry
  | .upsert id token uuid => (r.upsert id token uuid).1
  | .removeByToken token => (r.removeByToken token).1
  | .removeById id => (r.removeById id).1

def after (ops : List Op) : Registry := ops.foldl apply new

/-- Ids and tokens determine each other. -/
def Paired (ops : List Op) : Prop :=
  ∀ id token uuid id' token' uuid', .upsert id token uuid ∈ ops → .upsert id' token' uuid' ∈ ops →
    (id = id' ↔ token = token')

/-- The lookups return what was asked for, and every listed entry. -/
structure Agrees (r : Registry) : Prop where
  get : ∀ id e, r.get id = some e → e.id = id
  findByToken : ∀ token e, r.findByToken token = some e → e.token = token
  find : ∀ uuid e, r.find uuid = some e → e.uuid = uuid
  list : ∀ e ∈ r.list,
    r.get e.id = some e ∧ r.findByToken e.token = some e ∧ r.find e.uuid = some e

/-- The removal changed no lookup of another torrent. -/
structure Frame (r r' : Registry) (removed : Option TorrentEntry) : Prop where
  get : ∀ id, (∀ e, removed = some e → e.id ≠ id) → r'.get id = r.get id
  findByToken : ∀ token, (∀ e, removed = some e → e.token ≠ token) →
    r'.findByToken token = r.findByToken token
  find : ∀ uuid, (∀ e, removed = some e → e.uuid ≠ uuid) → r'.find uuid = r.find uuid

/-- What an operation promises. -/
def Keeps (r : Registry) : Op → Prop
  | .upsert id token uuid =>
    (r.upsert id token uuid).1.get id = some (r.upsert id token uuid).2
  | .removeByToken token =>
    (∀ e, (r.removeByToken token).2 = some e → e.token = token) ∧
      Frame r (r.removeByToken token).1 (r.removeByToken token).2
  | .removeById id =>
    (∀ e, (r.removeById id).2 = some e → e.id = id) ∧
      Frame r (r.removeById id).1 (r.removeById id).2

/-- Along the sequence, lookups agree and every operation keeps its promise. -/
def Faithful (ops : List Op) : Prop :=
  ∀ before op rest, ops = before ++ op :: rest →
    (after (before ++ [op])).Agrees ∧ (after before).Keeps op

/-- A new torrent is registered under the uuid of a registered one. -/
def collides (r : Registry) : Op → Bool
  | .upsert id _ uuid => (r.get id).isNone && (r.find uuid).isSome
  | .removeByToken _ | .removeById _ => false

theorem after_append (ops : List Op) (op : Op) : after (ops ++ [op]) = (after ops).apply op := by
  simp [after]

/-- Every registered torrent was upserted under its own id and token. -/
def Known (r : Registry) (ops : List Op) : Prop :=
  ∀ u e, r.find u = some e → ∃ uuid, .upsert e.id e.token uuid ∈ ops

namespace Indexed

theorem agrees (indexed : Indexed r) : r.Agrees where
  get := fun _ _ found => (indexed.get_iff.mp found).1
  findByToken := fun _ _ found => (indexed.findByToken_iff.mp found).1
  find := indexed.uuid
  list := by
    intro e listed
    obtain ⟨u, found⟩ := mem_list.mp listed
    have own : r.find e.uuid = some e := by rwa [indexed.uuid u e found]
    exact ⟨indexed.get_iff.mpr ⟨rfl, own⟩, indexed.findByToken_iff.mpr ⟨rfl, own⟩, own⟩

theorem remove_frame (indexed : Indexed r) (uuid : Uuid) :
    Frame r (r.remove uuid).1 (r.remove uuid).2 := by
  have kept := indexed.remove uuid
  -- an entry of another torrent is found after the removal iff it was before
  have other (e : TorrentEntry) (different : e.uuid ≠ uuid) :
      (r.remove uuid).1.find e.uuid = some e ↔ r.find e.uuid = some e := by
    rw [remove_find, if_neg different]
  cases registered : r.find uuid with
  | none =>
    rw [remove_of_absent registered]
    exact ⟨fun _ _ => rfl, fun _ _ => rfl, fun _ _ => rfl⟩
  | some gone =>
    have removed : (r.remove uuid).2 = some gone := (remove_entry r uuid).trans registered
    have named := indexed.uuid uuid gone registered
    have same_or (e : TorrentEntry) (found : r.find e.uuid = some e) (same : e.uuid = uuid) :
        e = gone := Option.some.inj (found.symm.trans (same ▸ registered))
    constructor
    · intro id apart
      apply Option.ext
      intro e
      rw [kept.get_iff, indexed.get_iff]
      by_cases same : e.uuid = uuid
      · constructor
        · rintro ⟨_, found⟩
          rw [remove_find, if_pos same] at found
          cases found
        · rintro ⟨rfl, found⟩
          obtain rfl := same_or e found same
          exact absurd rfl (apart e removed)
      · rw [other e same]
    · intro token apart
      apply Option.ext
      intro e
      rw [kept.findByToken_iff, indexed.findByToken_iff]
      by_cases same : e.uuid = uuid
      · constructor
        · rintro ⟨_, found⟩
          rw [remove_find, if_pos same] at found
          cases found
        · rintro ⟨rfl, found⟩
          obtain rfl := same_or e found same
          exact absurd rfl (apart e removed)
      · rw [other e same]
    · intro u apart
      rw [remove_find, if_neg]
      rintro rfl
      exact apart gone removed named

theorem removeByToken (indexed : Indexed r) :
    Indexed (r.removeByToken token).1 ∧ r.Keeps (.removeByToken token) := by
  cases points : r.byToken.lookup token with
  | none =>
    have same : r.removeByToken token = (r, none) := by rw [Registry.removeByToken, points]
    rw [Keeps, same]
    exact ⟨indexed, by simp, fun _ _ => rfl, fun _ _ => rfl, fun _ _ => rfl⟩
  | some u =>
    have same : r.removeByToken token = r.remove u := by rw [Registry.removeByToken, points]
    rw [Keeps, same]
    refine ⟨indexed.remove u, ?_, indexed.remove_frame u⟩
    intro e removed
    rw [remove_entry] at removed
    obtain ⟨other, present, same⟩ := (indexed.tokens token u).mp points
    obtain rfl := Option.some.inj (removed.symm.trans present)
    exact same

theorem removeById (indexed : Indexed r) :
    Indexed (r.removeById id).1 ∧ r.Keeps (.removeById id) := by
  cases points : r.byId.lookup id with
  | none =>
    have same : r.removeById id = (r, none) := by rw [Registry.removeById, points]
    rw [Keeps, same]
    exact ⟨indexed, by simp, fun _ _ => rfl, fun _ _ => rfl, fun _ _ => rfl⟩
  | some u =>
    have same : r.removeById id = r.remove u := by rw [Registry.removeById, points]
    rw [Keeps, same]
    refine ⟨indexed.remove u, ?_, indexed.remove_frame u⟩
    intro e removed
    rw [remove_entry] at removed
    obtain ⟨other, present, same⟩ := (indexed.ids id u).mp points
    obtain rfl := Option.some.inj (removed.symm.trans present)
    exact same

end Indexed

theorem upsert_keeps (r : Registry) (id : TorrentId) (token : Token) (uuid : Uuid) :
    r.Keeps (.upsert id token uuid) := by
  simp only [Keeps]
  cases registered : r.get id with
  | some e => rw [upsert_of_registered registered, registered]
  | none =>
    obtain ⟨entry, found⟩ := upsert_of_unregistered token uuid registered
    rw [found, entry]

theorem upsert_find_new (unknown : r.get id = none) (u : Uuid) :
    (r.upsert id token uuid).1.find u =
      if u = uuid then some ⟨id, token, uuid⟩ else r.find u := by
  have absent : ((r.byId.lookup id).bind fun u => r.byUuid.lookup u) = none := unknown
  simp only [Registry.upsert, absent, find]
  by_cases here : u = uuid
  · rw [if_pos here, here, AList.lookup_insert]
  · rw [if_neg here, AList.lookup_insert_ne here]

theorem remove_known {ops : List Op} (known : r.Known ops) (uuid : Uuid) :
    (r.remove uuid).1.Known ops := by
  intro u e found
  rw [remove_find] at found
  exact known u e (Option.ite_none_left_eq_some.mp found).2

theorem apply_known {ops : List Op} {op : Op} (known : r.Known ops) :
    (r.apply op).Known (ops ++ [op]) := by
  have weaken {r' : Registry} (old : r'.Known ops) : r'.Known (ops ++ [op]) := by
    intro u e found
    obtain ⟨uuid, upserted⟩ := old u e found
    exact ⟨uuid, List.mem_append_left _ upserted⟩
  cases op with
  | upsert id token uuid =>
    cases registered : r.get id with
    | some e =>
      rw [apply, upsert_of_registered registered]
      exact weaken known
    | none =>
      intro u e found
      rw [apply, upsert_find_new registered] at found
      by_cases here : u = uuid
      · rw [if_pos here] at found
        obtain rfl := Option.some.inj found
        exact ⟨uuid, by simp⟩
      · rw [if_neg here] at found
        exact weaken known u e found
  | removeByToken token =>
    rw [apply, Registry.removeByToken]
    cases r.byToken.lookup token with
    | none => exact weaken known
    | some u => exact weaken (remove_known known u)
  | removeById id =>
    rw [apply, Registry.removeById]
    cases r.byId.lookup id with
    | none => exact weaken known
    | some u => exact weaken (remove_known known u)

/-- One operation, short of a collision. -/
theorem apply_indexed {ops : List Op} {op : Op} (paired : Paired (ops ++ [op]))
    (indexed : Indexed r) (known : r.Known ops) (apart : r.collides op = false) :
    Indexed (r.apply op) ∧ r.Keeps op := by
  cases op with
  | upsert id token uuid =>
    refine ⟨?_, upsert_keeps r id token uuid⟩
    cases registered : r.get id with
    | some e =>
      rw [apply, upsert_of_registered registered]
      exact indexed
    | none =>
      apply indexed.upsert_new registered
      · simpa [collides, registered] using apart
      · -- a token in use belongs to another id
        rintro e present rfl
        obtain ⟨other, upserted⟩ := known e.uuid e present
        have same := (paired e.id e.token other id e.token uuid
          (List.mem_append_left _ upserted) (by simp)).mpr rfl
        have found := indexed.get_iff.mpr ⟨same, present⟩
        cases registered.symm.trans found
  | removeByToken token => exact indexed.removeByToken
  | removeById id => exact indexed.removeById

theorem Paired.front {ops rest : List Op} (paired : Paired (ops ++ rest)) : Paired ops := by
  intro id token uuid id' token' uuid' first second
  exact paired id token uuid id' token' uuid' (List.mem_append_left _ first)
    (List.mem_append_left _ second)

theorem after_indexed {ops : List Op} (paired : Paired ops)
    (apart : ∀ before op rest, ops = before ++ op :: rest → (after before).collides op = false) :
    Indexed (after ops) ∧ (after ops).Known ops := by
  induction ops using List.reverseRecOn with
  | nil => exact ⟨.new, by simp [Known, after, find, new]⟩
  | append_singleton before op ih =>
    obtain ⟨indexed, known⟩ := ih paired.front fun first step rest split =>
      apart first step (rest ++ [op]) (by simp [split])
    rw [after_append]
    exact ⟨(apply_indexed paired indexed known (apart before op [] rfl)).1, apply_known known⟩

/-- A collision breaks the lookup of the torrent that had the uuid. -/
theorem not_agrees_of_collides {op : Op} (agrees : r.Agrees) (collision : r.collides op = true) :
    ¬ (r.apply op).Agrees := by
  intro broken
  cases op with
  | upsert id token uuid =>
    obtain ⟨unknown, used⟩ : r.get id = none ∧ ∃ e, r.find uuid = some e := by
      simpa [collides, Option.isSome_iff_exists] using collision
    obtain ⟨e, present⟩ := used
    have named := agrees.find uuid e present
    have found := (agrees.list e (mem_list.mpr ⟨uuid, present⟩)).1
    have different : e.id ≠ id := by
      rintro rfl
      cases unknown.symm.trans found
    obtain ⟨u, points, stored⟩ := Option.bind_eq_some_iff.mp found
    obtain rfl : u = uuid := (agrees.find u e stored).symm.trans named
    have replaced : (r.apply (.upsert id token u)).get e.id = some ⟨id, token, u⟩ := by
      have absent : ((r.byId.lookup id).bind fun u => r.byUuid.lookup u) = none := unknown
      simp only [apply, Registry.upsert, absent, get]
      rw [AList.lookup_insert_ne different, points, Option.bind_some, AList.lookup_insert]
    exact different (broken.get e.id _ replaced).symm
  | removeByToken => cases collision
  | removeById => cases collision

theorem new_agrees : new.Agrees := Indexed.new.agrees

/-- The registry is coherent exactly as long as no torrent is registered under
the uuid of another. -/
theorem faithful_iff (ops : List Op) (paired : Paired ops) :
    Faithful ops ↔ ∀ before op rest, ops = before ++ op :: rest →
      (after before).collides op = false := by
  constructor
  · intro faithful before op rest split
    by_contra collision
    have agrees : (after before).Agrees := by
      cases before using List.reverseRecOn with
      | nil => exact new_agrees
      | append_singleton first last =>
        exact (faithful first last (op :: rest) (by simpa using split)).1
    have broken := (faithful before op rest split).1
    rw [after_append] at broken
    exact not_agrees_of_collides agrees (by simpa using collision) broken
  · rintro apart before op rest rfl
    have indexed : (after before).Indexed ∧ (after before).Known before := by
      apply after_indexed paired.front
      intro first step middle split
      exact apart first step (middle ++ op :: rest) (by simp [split])
    have whole : Paired ((before ++ [op]) ++ rest) := by simpa using paired
    have here : Paired (before ++ [op]) := whole.front
    have stepped := apply_indexed here indexed.1 indexed.2 (apart before op rest rfl)
    rw [after_append]
    exact ⟨stepped.1.agrees, stepped.2⟩

theorem paired_two (u v : Uuid) : Paired [.upsert 7 100 u, .upsert 8 101 v] := by
  intro id token uuid id' token' uuid' first second
  simp only [List.mem_cons, Op.upsert.injEq, List.not_mem_nil, or_false] at first second
  obtain ⟨rfl, rfl, _⟩ | ⟨rfl, rfl, _⟩ := first <;>
    obtain ⟨rfl, rfl, _⟩ | ⟨rfl, rfl, _⟩ := second <;> simp

theorem faithful_two_uuids : Faithful [.upsert 7 100 1, .upsert 8 101 2] := by
  apply (faithful_iff _ (paired_two 1 2)).mpr
  intro before op rest split
  cases before with
  | nil =>
    obtain ⟨rfl, rfl⟩ := List.cons.inj split
    decide
  | cons a before =>
    obtain ⟨first, split⟩ := List.cons.inj split
    cases before with
    | nil =>
      obtain ⟨rfl, rfl⟩ := List.cons.inj split
      rw [← first]
      decide
    | cons b before => simp at split

/-- Two records with one uuid: the first torrent's id leads to the second torrent. -/
theorem not_faithful_one_uuid : ¬ ∀ ops, Paired ops → Faithful ops := by
  intro claim
  have broken := (claim _ (paired_two 1 1) [.upsert 7 100 1] (.upsert 8 101 1) [] rfl).1
  have found : (after ([.upsert 7 100 1] ++ [.upsert 8 101 1])).get 7 = some ⟨8, 101, 1⟩ := by
    decide
  cases broken.get 7 _ found

end Rsbtd.Registry
