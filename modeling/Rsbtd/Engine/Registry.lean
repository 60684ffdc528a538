import Mathlib.Data.List.AList

/-!
# The torrent registry

`Registry` is the daemon's list of torrents: entries keyed by the durable uuid,
with two indexes, by session-unique torrent id and by client-data token.  The
operations are those of `registry.rs`, one critical section each.

`Coherent entry r` is the abstract view used by the engine proofs.  When every
uuid has one id and one token (libtorrent and the bindings mint them), the
registry is determined by the set of registered uuids, and each operation is an
insertion or a removal of one element of that set.
-/

namespace Rsbtd

abbrev Uuid := Nat
abbrev Token := Nat
abbrev TorrentId := Nat

/-- One registered torrent. -/
structure TorrentEntry where
  id : TorrentId
  token : Token
  uuid : Uuid
deriving DecidableEq, Repr

structure Registry where
  byUuid : AList fun _ : Uuid => TorrentEntry
  byId : AList fun _ : TorrentId => Uuid
  byToken : AList fun _ : Token => Uuid

namespace Registry

def new : Registry := ⟨∅, ∅, ∅⟩

/-- Registers a torrent, or returns the existing entry for its id. -/
def upsert (r : Registry) (id : TorrentId) (token : Token) (uuid : Uuid) :
    Registry × TorrentEntry :=
  match (r.byId.lookup id).bind fun existing => r.byUuid.lookup existing with
  | some entry => (r, entry)
  | none =>
    let entry : TorrentEntry := ⟨id, token, uuid⟩
    ({ byUuid := r.byUuid.insert uuid entry
       byId := r.byId.insert id uuid
       byToken := r.byToken.insert token uuid }, entry)

def remove (r : Registry) (uuid : Uuid) : Registry × Option TorrentEntry :=
  match r.byUuid.lookup uuid with
  | none => (r, none)
  | some entry =>
    -- only index entries that still point at this torrent are dropped
    ({ byUuid := r.byUuid.erase uuid
       byId := if r.byId.lookup entry.id = some uuid then r.byId.erase entry.id else r.byId
       byToken :=
        if r.byToken.lookup entry.token = some uuid then r.byToken.erase entry.token
        else r.byToken }, some entry)

def removeByToken (r : Registry) (token : Token) : Registry × Option TorrentEntry :=
  match r.byToken.lookup token with
  | none => (r, none)
  | some uuid => r.remove uuid

def removeById (r : Registry) (id : TorrentId) : Registry × Option TorrentEntry :=
  match r.byId.lookup id with
  | none => (r, none)
  | some uuid => r.remove uuid

def get (r : Registry) (id : TorrentId) : Option TorrentEntry :=
  (r.byId.lookup id).bind fun uuid => r.byUuid.lookup uuid

def find (r : Registry) (uuid : Uuid) : Option TorrentEntry :=
  r.byUuid.lookup uuid

def findByToken (r : Registry) (token : Token) : Option TorrentEntry :=
  (r.byToken.lookup token).bind fun uuid => r.byUuid.lookup uuid

/-- All registered torrents; the source's order is arbitrary. -/
def list (r : Registry) : List TorrentEntry :=
  r.byUuid.entries.map Sigma.snd

/-! ## The registry as a set of uuids -/

/-- Every uuid `u` is only ever registered as `entry u`, and both indexes hold
exactly the registered torrents. -/
structure Coherent (entry : Uuid → TorrentEntry) (r : Registry) : Prop where
  canonical : ∀ u e, r.byUuid.lookup u = some e → e = entry u
  ids : ∀ i u, r.byId.lookup i = some u ↔ i = (entry u).id ∧ r.byUuid.lookup u = some (entry u)
  tokens : ∀ t u, r.byToken.lookup t = some u ↔
    t = (entry u).token ∧ r.byUuid.lookup u = some (entry u)

/-- An assignment of ids and tokens in which no two torrents share either. -/
structure Distinct (entry : Uuid → TorrentEntry) : Prop where
  uuid : ∀ u, (entry u).uuid = u
  id : ∀ u v, (entry u).id = (entry v).id → u = v
  token : ∀ u v, (entry u).token = (entry v).token → u = v

theorem Distinct.mk_entry {entry : Uuid → TorrentEntry} (distinct : Distinct entry) (u : Uuid) :
    (⟨(entry u).id, (entry u).token, u⟩ : TorrentEntry) = entry u := by
  calc (⟨(entry u).id, (entry u).token, u⟩ : TorrentEntry)
      = ⟨(entry u).id, (entry u).token, (entry u).uuid⟩ := by rw [distinct.uuid]
    _ = entry u := rfl

/-- An index by an injective key, extended by one torrent. -/
theorem index_insert {key : Uuid → Nat} (injective : ∀ u v, key u = key v → u = v)
    {index : AList fun _ : Nat => Uuid} {registered : Uuid → Prop}
    (exact : ∀ i v, index.lookup i = some v ↔ i = key v ∧ registered v) (u : Uuid) (i v : Nat) :
    (index.insert (key u) u).lookup i = some v ↔ i = key v ∧ (v = u ∨ registered v) := by
  by_cases own : i = key u
  · subst own
    rw [AList.lookup_insert]
    constructor
    · intro h; obtain rfl := Option.some.inj h; exact ⟨rfl, .inl rfl⟩
    · rintro ⟨keys, _⟩; rw [injective u v keys]
  · rw [AList.lookup_insert_ne own, exact]
    constructor
    · rintro ⟨keys, present⟩; exact ⟨keys, .inr present⟩
    · rintro ⟨keys, rfl | present⟩
      · exact absurd keys own
      · exact ⟨keys, present⟩

/-- An index by an injective key, after one torrent's key was dropped. -/
theorem index_erase {key : Uuid → Nat} (injective : ∀ u v, key u = key v → u = v)
    {index : AList fun _ : Nat => Uuid} {registered : Uuid → Prop}
    (exact : ∀ i v, index.lookup i = some v ↔ i = key v ∧ registered v) (u : Uuid) (i v : Nat) :
    (index.erase (key u)).lookup i = some v ↔ i = key v ∧ v ≠ u ∧ registered v := by
  by_cases own : i = key u
  · subst own
    rw [AList.lookup_erase]
    constructor
    · intro h; cases h
    · rintro ⟨keys, different, _⟩; exact absurd (injective u v keys).symm different
  · rw [AList.lookup_erase_ne own, exact]
    constructor
    · rintro ⟨keys, present⟩
      exact ⟨keys, fun same => own (same ▸ keys), present⟩
    · rintro ⟨keys, _, present⟩; exact ⟨keys, present⟩

variable {entry : Uuid → TorrentEntry} {r : Registry}

theorem coherent_new : Coherent entry new where
  canonical := by simp [new]
  ids := by simp [new]
  tokens := by simp [new]

theorem remove_find (r : Registry) (u v : Uuid) :
    (r.remove u).1.find v = if v = u then none else r.find v := by
  rw [remove]
  cases registered : r.byUuid.lookup u with
  | none =>
    by_cases same : v = u
    · rw [if_pos same, same]; exact registered
    · rw [if_neg same]
  | some e =>
    by_cases same : v = u
    · rw [if_pos same, same]; exact AList.lookup_erase u r.byUuid
    · rw [if_neg same]; exact AList.lookup_erase_ne same

theorem remove_entry (r : Registry) (u : Uuid) : (r.remove u).2 = r.find u := by
  rw [remove, find]
  cases r.byUuid.lookup u <;> rfl

theorem remove_of_absent {u : Uuid} (absent : r.find u = none) : r.remove u = (r, none) := by
  rw [find] at absent
  simp [remove, absent]

namespace Coherent

theorem find_eq (coherent : Coherent entry r) {u : Uuid} {e : TorrentEntry}
    (found : r.find u = some e) : e = entry u :=
  coherent.canonical u e found

theorem find_entry (coherent : Coherent entry r) {u : Uuid} {e : TorrentEntry}
    (found : r.find u = some e) : r.find u = some (entry u) :=
  coherent.find_eq found ▸ found

theorem lookup_id (coherent : Coherent entry r) (u : Uuid) :
    r.byId.lookup (entry u).id = some u ↔ r.find u = some (entry u) := by
  rw [coherent.ids]
  simp [find]

theorem lookup_token (coherent : Coherent entry r) (u : Uuid) :
    r.byToken.lookup (entry u).token = some u ↔ r.find u = some (entry u) := by
  rw [coherent.tokens]
  simp [find]

theorem get_id (coherent : Coherent entry r) (distinct : Distinct entry) (u : Uuid) :
    r.get (entry u).id = r.find u := by
  cases registered : r.find u with
  | some e =>
    have indexed := (coherent.lookup_id u).mpr (coherent.find_entry registered)
    rw [find] at registered
    simpa [get, indexed] using registered
  | none =>
    cases indexed : r.byId.lookup (entry u).id with
    | none => simp [get, indexed]
    | some v =>
      obtain ⟨sameId, present⟩ := (coherent.ids _ _).mp indexed
      rw [distinct.id u v sameId] at registered
      exact absurd (registered.symm.trans present) (by simp)

/-- What the early return of `upsert` tests: the torrent is registered already. -/
theorem existing (coherent : Coherent entry r) (distinct : Distinct entry) (u : Uuid) :
    ((r.byId.lookup (entry u).id).bind fun v => r.byUuid.lookup v) = r.find u :=
  coherent.get_id distinct u

/-- Registering `u` adds it to the set. -/
theorem upsert_find (coherent : Coherent entry r) (distinct : Distinct entry) (u v : Uuid) :
    (r.upsert (entry u).id (entry u).token u).1.find v
      = if v = u then some (entry u) else r.find v := by
  rw [Registry.upsert, coherent.existing distinct]
  cases registered : r.find u with
  | some e =>
    by_cases same : v = u
    · rw [if_pos same, same]; exact coherent.find_entry registered
    · rw [if_neg same]
  | none =>
    simp only [distinct.mk_entry, find]
    by_cases same : v = u
    · rw [if_pos same, same, AList.lookup_insert]
    · rw [if_neg same, AList.lookup_insert_ne same]

theorem upsert_entry (coherent : Coherent entry r) (distinct : Distinct entry) (u : Uuid) :
    (r.upsert (entry u).id (entry u).token u).2 = entry u := by
  rw [Registry.upsert, coherent.existing distinct]
  cases registered : r.find u with
  | some e => exact coherent.find_eq registered
  | none => exact distinct.mk_entry u

theorem upsert (coherent : Coherent entry r) (distinct : Distinct entry) (u : Uuid) :
    Coherent entry (r.upsert (entry u).id (entry u).token u).1 := by
  have found := coherent.upsert_find distinct u
  have registers : ∀ v, (v = u ∨ r.find v = some (entry v)) ↔
      (r.upsert (entry u).id (entry u).token u).1.find v = some (entry v) := by
    intro v
    rw [found]
    by_cases same : v = u
    · simp [same]
    · simp [same]
  rw [Registry.upsert, coherent.existing distinct] at found registers ⊢
  cases absent : r.find u with
  | some e => exact coherent
  | none =>
    rw [absent] at found registers
    refine ⟨?_, ?_, ?_⟩
    · intro v e present
      have := (found v).symm.trans present
      by_cases same : v = u
      · simpa [same] using this.symm
      · exact coherent.find_eq (by simpa [same] using this)
    · intro i v
      rw [← find, ← registers]
      exact index_insert distinct.id coherent.ids u i v
    · intro t v
      rw [← find, ← registers]
      exact index_insert distinct.token coherent.tokens u t v

theorem remove (coherent : Coherent entry r) (distinct : Distinct entry) (u : Uuid) :
    Coherent entry (r.remove u).1 := by
  have found := remove_find r u
  have registers : ∀ v, (v ≠ u ∧ r.find v = some (entry v)) ↔
      (r.remove u).1.find v = some (entry v) := by
    intro v
    rw [found]
    by_cases same : v = u
    · simp [same]
    · simp [same]
  cases registered : r.find u with
  | none => rw [remove_of_absent registered]; exact coherent
  | some e =>
    obtain rfl := coherent.find_eq registered
    have indexedId := (coherent.lookup_id u).mpr registered
    have indexedToken := (coherent.lookup_token u).mpr registered
    rw [find] at registered
    simp only [Registry.remove, registered, indexedId, indexedToken, if_true] at found registers ⊢
    refine ⟨?_, ?_, ?_⟩
    · intro v e present
      have := (found v).symm.trans present
      by_cases same : v = u
      · simp [same] at this
      · exact coherent.find_eq (by simpa [same] using this)
    · intro i v
      rw [← find, ← registers]
      exact index_erase distinct.id coherent.ids u i v
    · intro t v
      rw [← find, ← registers]
      exact index_erase distinct.token coherent.tokens u t v

/-- Looking a torrent up by its own token and removing it is removing its uuid. -/
theorem removeByToken_eq (coherent : Coherent entry r) (distinct : Distinct entry) (u : Uuid) :
    r.removeByToken (entry u).token = r.remove u := by
  rw [Registry.removeByToken]
  cases indexed : r.byToken.lookup (entry u).token with
  | some v => rw [distinct.token u v ((coherent.tokens _ _).mp indexed).1]
  | none =>
    cases registered : r.find u with
    | none => rw [remove_of_absent registered]
    | some e =>
      have := (coherent.lookup_token u).mpr (coherent.find_entry registered)
      exact absurd (indexed.symm.trans this) (by simp)

/-- Removing a torrent by its own id is removing its uuid. -/
theorem removeById_eq (coherent : Coherent entry r) (distinct : Distinct entry) (u : Uuid) :
    r.removeById (entry u).id = r.remove u := by
  rw [Registry.removeById]
  cases indexed : r.byId.lookup (entry u).id with
  | some v => rw [distinct.id u v ((coherent.ids _ _).mp indexed).1]
  | none =>
    cases registered : r.find u with
    | none => rw [remove_of_absent registered]
    | some e =>
      have := (coherent.lookup_id u).mpr (coherent.find_entry registered)
      exact absurd (indexed.symm.trans this) (by simp)

end Coherent

theorem mem_list {e : TorrentEntry} : e ∈ r.list ↔ ∃ u, r.find u = some e := by
  simp only [list, List.mem_map, find, AList.lookup, ← Option.mem_def]
  constructor
  · rintro ⟨⟨u, _⟩, member, rfl⟩
    exact ⟨u, (List.mem_dlookup_iff r.byUuid.nodupKeys).mpr member⟩
  · rintro ⟨u, found⟩
    exact ⟨⟨u, e⟩, (List.mem_dlookup_iff r.byUuid.nodupKeys).mp found, rfl⟩

end Registry

end Rsbtd
