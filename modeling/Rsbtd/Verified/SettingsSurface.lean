import Rsbtd.Verified.SettingsGroups

/-!
# What a settings write touches

A write is the sequence of its fields.  Every field is an entry: its group, what
the input says of it, and what is staged for it.  The entries have disjoint keys,
so the write is accepted exactly when each field alone is, and stages exactly the
backing of the defined fields.
-/

namespace Rsbtd.Settings

open Rsbtd.Keyed Rsbtd.Keyed.Store

/-- What an input says of a field. -/
inductive Presence
  | undefined | null | value
  deriving DecidableEq

def MaybeUndefined.presence {α : Type} : MaybeUndefined α → Presence
  | .undefined => .undefined
  | .null => .null
  | .value _ => .value

def Fields.presence (key : SettingKey) :
    (table : List Scalar) → Fields (fun ty => MaybeUndefined ty.Value) table → Presence
  | [], () => .undefined
  | s :: rest, (value, values) => if s.key = key then value.presence else presence key rest values

def SettingsInput.presence (input : SettingsInput) : Field → Presence
  | .scalar key => Fields.presence key SCALARS input.scalars
  | .userAgent => input.userAgent.presence
  | .proxy => input.proxy.presence
  | .i2p => input.i2p.presence
  | .encryption => input.encryption.presence
  | .peerTransports => input.peerTransports.presence
  | .outgoingPortRange => input.outgoingPortRange.presence
  | .diskIoCache => input.diskIoCache.presence
  | .mmapWriteMode => input.mmapWriteMode.presence
  | .suggestMode => input.suggestMode.presence
  | .chokingAlgorithm => input.chokingAlgorithm.presence
  | .seedChokingAlgorithm => input.seedChokingAlgorithm.presence
  | .mixedModeAlgorithm => input.mixedModeAlgorithm.presence
  | .outgoingInterfaces => input.outgoingInterfaces.presence
  | .listenInterfaces => input.listenInterfaces.presence
  | .dhtBootstrapNodes => input.dhtBootstrapNodes.presence

/-- The groups that null disables. -/
def NULLABLE : List Field := [.proxy, .i2p, .outgoingPortRange]

def Fields.undefined : (table : List Scalar) → Fields (fun ty => MaybeUndefined ty.Value) table
  | [] => ()
  | _ :: rest => (.undefined, undefined rest)

def Fields.only (key : SettingKey) :
    (table : List Scalar) → Fields (fun ty => MaybeUndefined ty.Value) table →
      Fields (fun ty => MaybeUndefined ty.Value) table
  | [], () => ()
  | s :: rest, (value, values) =>
    (if s.key = key then value else .undefined, only key rest values)

def SettingsInput.undefined : SettingsInput where
  scalars := Fields.undefined SCALARS
  userAgent := .undefined
  proxy := .undefined
  i2p := .undefined
  encryption := .undefined
  peerTransports := .undefined
  outgoingPortRange := .undefined
  diskIoCache := .undefined
  mmapWriteMode := .undefined
  suggestMode := .undefined
  chokingAlgorithm := .undefined
  seedChokingAlgorithm := .undefined
  mixedModeAlgorithm := .undefined
  outgoingInterfaces := .undefined
  listenInterfaces := .undefined
  dhtBootstrapNodes := .undefined

/-- The input with every field but one omitted. -/
def SettingsInput.only (input : SettingsInput) : Field → SettingsInput
  | .scalar key => { SettingsInput.undefined with scalars := Fields.only key SCALARS input.scalars }
  | .userAgent => { SettingsInput.undefined with userAgent := input.userAgent }
  | .proxy => { SettingsInput.undefined with proxy := input.proxy }
  | .i2p => { SettingsInput.undefined with i2p := input.i2p }
  | .encryption => { SettingsInput.undefined with encryption := input.encryption }
  | .peerTransports => { SettingsInput.undefined with peerTransports := input.peerTransports }
  | .outgoingPortRange =>
    { SettingsInput.undefined with outgoingPortRange := input.outgoingPortRange }
  | .diskIoCache => { SettingsInput.undefined with diskIoCache := input.diskIoCache }
  | .mmapWriteMode => { SettingsInput.undefined with mmapWriteMode := input.mmapWriteMode }
  | .suggestMode => { SettingsInput.undefined with suggestMode := input.suggestMode }
  | .chokingAlgorithm =>
    { SettingsInput.undefined with chokingAlgorithm := input.chokingAlgorithm }
  | .seedChokingAlgorithm =>
    { SettingsInput.undefined with seedChokingAlgorithm := input.seedChokingAlgorithm }
  | .mixedModeAlgorithm =>
    { SettingsInput.undefined with mixedModeAlgorithm := input.mixedModeAlgorithm }
  | .outgoingInterfaces =>
    { SettingsInput.undefined with outgoingInterfaces := input.outgoingInterfaces }
  | .listenInterfaces =>
    { SettingsInput.undefined with listenInterfaces := input.listenInterfaces }
  | .dhtBootstrapNodes =>
    { SettingsInput.undefined with dhtBootstrapNodes := input.dhtBootstrapNodes }

/-- A field of an input. -/
structure Entry where
  field : Field
  presence : Presence
  keys : List SettingKey
  write : Write
  oblivious : Oblivious write
  omitted : presence = .undefined → write = pure ()
  staged : ∀ {own}, write .empty = .ok () own →
    ∀ key, own.has key = true ↔ presence ≠ .undefined ∧ key ∈ keys
  null : presence = .null → ((∃ own, write .empty = .ok () own) ↔ field ∈ NULLABLE)

namespace Entry

def part (e : Entry) : Part SettingKey SettingValue SettingsError where
  keys := e.keys
  write := e.write
  oblivious := e.oblivious
  frame staged key has := ((e.staged staged key).mp has).2

variable {α : Type}

theorem pure_staged {own : SettingsPack} {keys : List SettingKey}
    (ran : (pure () : Write) .empty = .ok () own) (key : SettingKey) :
    own.has key = true ↔ Presence.undefined ≠ .undefined ∧ key ∈ keys := by
  have same : EStateM.Result.ok () Store.empty = EStateM.Result.ok () own := ran
  injection same with _ same
  subst same
  simp

/-- A field on which null is an error. -/
def plain (field : Field) (required : field ∉ NULLABLE) (name : String) (g : SettingGroup α)
    (value : MaybeUndefined α) : Entry where
  field := field
  presence := value.presence
  keys := g.keys
  write := whenDefined value name g.put
  oblivious := oblivious_whenDefined g.oblivious
  omitted absent := by
    cases value with
    | undefined => rfl
    | null => cases absent
    | value a => cases absent
  staged {own} staged key := by
    cases value with
    | undefined => exact pure_staged staged key
    | null => exact absurd staged whenDefined_null_ne_ok
    | value a =>
      rw [g.stages staged key]
      simp [MaybeUndefined.presence]
  null isNull := by
    cases value with
    | undefined => cases isNull
    | value a => cases isNull
    | null =>
      refine ⟨fun accepted => ?_, fun nullable => absurd nullable required⟩
      obtain ⟨own, accepted⟩ := accepted
      exact absurd accepted whenDefined_null_ne_ok

/-- What a nullable field writes. -/
def nullableWrite (g : SettingGroup (Option α)) (value : MaybeUndefined α) : Write :=
  match nullable value with
  | .unchanged => pure ()
  | .disable => g.put none
  | .set a => g.put (some a)

/-- A field that null disables. -/
def ofNullable (field : Field) (listed : field ∈ NULLABLE) (g : SettingGroup (Option α))
    (resets : ∃ own, g.put none .empty = .ok () own) (value : MaybeUndefined α) : Entry where
  field := field
  presence := value.presence
  keys := g.keys
  write := nullableWrite g value
  oblivious := by
    cases value with
    | undefined => exact oblivious_pure ()
    | null => exact g.oblivious none
    | value a => exact g.oblivious (some a)
  omitted absent := by
    cases value with
    | undefined => rfl
    | null => cases absent
    | value a => cases absent
  staged {own} staged key := by
    cases value with
    | undefined => exact pure_staged staged key
    | null =>
      rw [g.stages staged key]
      simp [MaybeUndefined.presence]
    | value a =>
      rw [g.stages staged key]
      simp [MaybeUndefined.presence]
  null isNull := by
    cases value with
    | undefined => cases isNull
    | value a => cases isNull
    | null => exact ⟨fun _ => listed, fun _ => resets⟩

end Entry

section Entries

variable {lt : Libtorrent} {input : SettingsInput}

theorem proxy_resets : ∃ own, (proxyGroup lt).put none .empty = .ok () own :=
  ⟨_, writeProxy_null_ok.mpr rfl⟩

theorem i2p_resets : ∃ own, (i2pGroup lt).put none .empty = .ok () own :=
  ⟨_, writeI2p_null_ok.mpr rfl⟩

theorem outgoingPortRange_resets : ∃ own, outgoingPortRangeGroup.put none .empty = .ok () own :=
  ⟨_, writeOutgoingPortRange_null_ok.mpr rfl⟩

theorem scalar_required {key : SettingKey} : Field.scalar key ∉ NULLABLE := by
  simp [NULLABLE]

def scalarEntries :
    (table : List Scalar) → Fields (fun ty => MaybeUndefined ty.Value) table → List Entry
  | [], () => []
  | s :: rest, (value, values) =>
    .plain (.scalar s.key) scalar_required s.key.name (scalarGroup s) value ::
      scalarEntries rest values

def structuredEntries (lt : Libtorrent) (input : SettingsInput) : List Entry := [
  .plain .userAgent (by decide) "user_agent" (userAgentGroup lt) input.userAgent,
  .ofNullable .proxy (by decide) (proxyGroup lt) proxy_resets input.proxy,
  .ofNullable .i2p (by decide) (i2pGroup lt) i2p_resets input.i2p,
  .plain .encryption (by decide) "encryption" encryptionGroup input.encryption,
  .plain .peerTransports (by decide) "peer_transports" peerTransportsGroup input.peerTransports,
  .ofNullable .outgoingPortRange (by decide) outgoingPortRangeGroup outgoingPortRange_resets
    input.outgoingPortRange,
  .plain .diskIoCache (by decide) "disk_io_cache" diskIoCacheGroup input.diskIoCache,
  .plain .mmapWriteMode (by decide) "mmap_write_mode" mmapWriteModeGroup input.mmapWriteMode,
  .plain .suggestMode (by decide) "suggest_mode" suggestModeGroup input.suggestMode,
  .plain .chokingAlgorithm (by decide) "choking_algorithm" chokingAlgorithmGroup
    input.chokingAlgorithm,
  .plain .seedChokingAlgorithm (by decide) "seed_choking_algorithm" seedChokingAlgorithmGroup
    input.seedChokingAlgorithm,
  .plain .mixedModeAlgorithm (by decide) "mixed_mode_algorithm" mixedModeAlgorithmGroup
    input.mixedModeAlgorithm,
  .plain .outgoingInterfaces (by decide) "outgoing_interfaces" outgoingInterfacesGroup
    input.outgoingInterfaces,
  .plain .listenInterfaces (by decide) "listen_interfaces" listenInterfacesGroup
    input.listenInterfaces,
  .plain .dhtBootstrapNodes (by decide) "dht_bootstrap_nodes" dhtBootstrapNodesGroup
    input.dhtBootstrapNodes]

def entries (lt : Libtorrent) (input : SettingsInput) : List Entry :=
  scalarEntries SCALARS input.scalars ++ structuredEntries lt input

theorem writeScalars_eq (table : List Scalar)
    (values : Fields (fun ty => MaybeUndefined ty.Value) table) :
    writeScalars table values = Part.writeAll ((scalarEntries table values).map Entry.part) := by
  induction table with
  | nil => rfl
  | cons s rest ih =>
    obtain ⟨value, values⟩ := values
    rw [writeScalars, ih values]
    rfl

/-- A writer that treats an omitted field, a null and a value as the entry does. -/
theorem plain_write {α : Type} {field : Field} {required : field ∉ NULLABLE} {name : String}
    {g : SettingGroup α} {w : MaybeUndefined α → Write} {value : MaybeUndefined α}
    (omitted : w .undefined = pure ()) (null : w .null = whenDefined .null name g.put)
    (set : ∀ a, w (.value a) = g.put a) :
    (Entry.plain field required name g value).part.write = w value := by
  cases value with
  | undefined => exact omitted.symm
  | null => exact null.symm
  | value a => exact (set a).symm

theorem nullable_write {α : Type} {field : Field} {listed : field ∈ NULLABLE}
    {g : SettingGroup (Option α)} {resets : ∃ own, g.put none .empty = .ok () own}
    {w : MaybeUndefined α → Write} {value : MaybeUndefined α}
    (omitted : w .undefined = pure ()) (put : ∀ a, g.put a = w (orNull a)) :
    (Entry.ofNullable field listed g resets value).part.write = w value := by
  cases value with
  | undefined => exact omitted.symm
  | null => exact put none
  | value a => exact put (some a)

/-- A write is the sequence of its entries. -/
theorem write_eq : write lt input = Part.writeAll ((entries lt input).map Entry.part) := by
  rw [entries, List.map_append, Part.writeAll_append, ← writeScalars_eq]
  simp only [structuredEntries, List.map_cons, List.map_nil, Part.writeAll_singleton,
    Part.writeAll_cons_cons, write]
  rw [plain_write (w := writeUserAgent lt) rfl rfl (fun _ => rfl),
    nullable_write (w := writeProxy lt) rfl (fun _ => rfl),
    nullable_write (w := writeI2p lt) rfl (fun _ => rfl),
    plain_write (w := writeEncryption) rfl rfl (fun _ => rfl),
    plain_write (w := writePeerTransports) rfl rfl (fun _ => rfl),
    nullable_write (w := writeOutgoingPortRange) rfl (fun _ => rfl),
    plain_write (w := writeDiskIoCache) rfl rfl (fun _ => rfl),
    plain_write (w := writeMmapWriteMode) rfl rfl (fun _ => rfl),
    plain_write (w := writeSuggestMode) rfl rfl (fun _ => rfl),
    plain_write (w := writeChokingAlgorithm) rfl rfl (fun _ => rfl),
    plain_write (w := writeSeedChokingAlgorithm) rfl rfl (fun _ => rfl),
    plain_write (w := writeMixedModeAlgorithm) rfl rfl (fun _ => rfl),
    plain_write (w := writeOutgoingInterfaces) rfl rfl (fun _ => rfl),
    plain_write (w := writeListenInterfaces) rfl rfl (fun _ => rfl),
    plain_write (w := writeDhtBootstrapNodes) rfl rfl (fun _ => rfl)]

theorem scalarEntries_backing (table : List Scalar)
    (values : Fields (fun ty => MaybeUndefined ty.Value) table) :
    (scalarEntries table values).map (fun e => (e.field, e.keys)) =
      table.map (fun s => (Field.scalar s.key, [s.key])) := by
  induction table with
  | nil => rfl
  | cons s rest ih =>
    obtain ⟨value, values⟩ := values
    rw [scalarEntries, List.map_cons, List.map_cons, ih values]
    rfl

/-- The entries are the fields of the backing table, in its order. -/
theorem entries_backing : (entries lt input).map (fun e => (e.field, e.keys)) = backing := by
  rw [entries, List.map_append, scalarEntries_backing]
  rfl

/-- No setting backs two fields, and no blacklisted setting backs any. -/
theorem backing_nodup : (BLACKLIST ++ backing.flatMap Prod.snd).Nodup := by
  have checked : distinctBits 0
      ((BLACKLIST ++ backing.flatMap Prod.snd).map SettingKey.ctorIdx) = true := by
    decide +kernel
  exact (nodup_of_distinctBits checked).1.of_map

theorem backing_apart : backing.Pairwise fun a b => List.Disjoint a.2 b.2 :=
  (List.nodup_flatMap.mp backing_nodup.of_append_right).2

theorem entries_apart : Part.Apart ((entries lt input).map Entry.part) := by
  have apart : ((entries lt input).map fun e => (e.field, e.keys)).Pairwise
      fun a b => List.Disjoint a.2 b.2 := by
    rw [entries_backing]
    exact backing_apart
  rw [List.pairwise_map] at apart
  rw [Part.Apart, List.pairwise_map]
  exact apart

theorem scalars_nodup : (SCALARS.map Scalar.key).Nodup := by
  have nodup := backing_nodup.of_append_right
  rw [backing, List.flatMap_append] at nodup
  have keys : SCALAR_BACKING.flatMap Prod.snd = SCALARS.map Scalar.key := by
    rw [SCALAR_BACKING, List.flatMap_map, List.map_eq_flatMap]
  rw [← keys]
  exact nodup.of_append_left

theorem scalarEntries_field {table : List Scalar}
    {values : Fields (fun ty => MaybeUndefined ty.Value) table} {e : Entry}
    (listed : e ∈ scalarEntries table values) : ∃ s ∈ table, e.field = .scalar s.key := by
  have mapped := List.mem_map_of_mem (f := fun e : Entry => (e.field, e.keys)) listed
  rw [scalarEntries_backing] at mapped
  obtain ⟨s, mine, same⟩ := List.mem_map.mp mapped
  exact ⟨s, mine, (Prod.ext_iff.mp same).1.symm⟩

/-- Each scalar entry says what the input says of its key. -/
theorem scalarEntries_presence {table : List Scalar} (nodup : (table.map Scalar.key).Nodup)
    {values : Fields (fun ty => MaybeUndefined ty.Value) table} {e : Entry} {key : SettingKey}
    (listed : e ∈ scalarEntries table values) (named : e.field = .scalar key) :
    e.presence = Fields.presence key table values := by
  induction table with
  | nil => cases listed
  | cons s rest ih =>
    obtain ⟨value, values⟩ := values
    obtain ⟨fresh, nodup⟩ := List.nodup_cons.mp nodup
    rcases List.mem_cons.mp listed with rfl | later
    · obtain rfl : s.key = key := Field.scalar.inj named
      simp [Fields.presence, Entry.plain]
    · have distinct : s.key ≠ key := by
        rintro rfl
        obtain ⟨other, mine, same⟩ := scalarEntries_field later
        rw [named] at same
        exact fresh (Field.scalar.inj same ▸ List.mem_map_of_mem mine)
      simp only [Fields.presence, if_neg distinct]
      exact ih nodup later

theorem entries_presence {e : Entry} (listed : e ∈ entries lt input) :
    e.presence = input.presence e.field := by
  rcases List.mem_append.mp listed with scalar | structured
  · obtain ⟨s, -, named⟩ := scalarEntries_field scalar
    rw [named]
    exact scalarEntries_presence scalars_nodup scalar named
  · simp only [structuredEntries, List.mem_cons, List.not_mem_nil, or_false] at structured
    rcases structured with rfl | rfl | rfl | rfl | rfl | rfl | rfl | rfl | rfl | rfl | rfl | rfl |
      rfl | rfl | rfl
    all_goals rfl

theorem accepted_iff :
    (∃ delta, write lt input .empty = .ok () delta) ↔
      ∀ e ∈ entries lt input, ∃ own, e.write .empty = .ok () own := by
  rw [write_eq, Part.writeAll_accepts, List.forall_mem_map]
  rfl

/-- Under the keys of a field stands what the field alone stages. -/
theorem write_own {delta : SettingsPack} {e : Entry} (ran : write lt input .empty = .ok () delta)
    (listed : e ∈ entries lt input) :
    ∃ own, e.write .empty = .ok () own ∧ Agrees e.keys delta own := by
  rw [write_eq] at ran
  exact Part.writeAll_own entries_apart ran (List.mem_map_of_mem listed)

/-- An accepted write stages exactly the backing of the defined fields. -/
theorem staged_iff {delta : SettingsPack} (ran : write lt input .empty = .ok () delta)
    (key : SettingKey) :
    delta.has key = true ↔
      ∃ entry ∈ backing, input.presence entry.1 ≠ .undefined ∧ key ∈ entry.2 := by
  rw [write_eq] at ran
  have mapped : (entries lt input).map (fun e => (e.field, e.keys)) = backing := entries_backing
  rw [Part.writeAll_has ran, ← mapped]
  rw [← write_eq] at ran
  constructor
  · rintro ⟨p, listed, own, accepted, there⟩
    obtain ⟨e, mine, rfl⟩ := List.mem_map.mp listed
    obtain ⟨defined, among⟩ := (e.staged accepted key).mp there
    rw [entries_presence mine] at defined
    exact ⟨(e.field, e.keys), List.mem_map_of_mem mine, defined, among⟩
  · rintro ⟨entry, listed, defined, among⟩
    obtain ⟨e, mine, rfl⟩ := List.mem_map.mp listed
    obtain ⟨own, accepted, -⟩ := write_own ran mine
    refine ⟨e.part, List.mem_map_of_mem mine, own, accepted, ?_⟩
    exact (e.staged accepted key).mpr ⟨by rwa [entries_presence mine], among⟩

theorem blacklisted_unbacked {key : SettingKey} (blacklisted : key ∈ BLACKLIST)
    {entry : Field × List SettingKey} (listed : entry ∈ backing) : key ∉ entry.2 := by
  intro among
  have disjoint := List.disjoint_of_nodup_append backing_nodup
  exact disjoint blacklisted (List.mem_flatMap.mpr ⟨entry, listed, among⟩)

theorem field_listed {f : Field} {keys : List SettingKey} (listed : (f, keys) ∈ backing) :
    ∃ e ∈ entries lt input, e.field = f := by
  have mapped : (entries lt input).map (fun e => (e.field, e.keys)) = backing := entries_backing
  rw [← mapped] at listed
  obtain ⟨e, mine, same⟩ := List.mem_map.mp listed
  exact ⟨e, mine, (Prod.ext_iff.mp same).1⟩

/-! ## One field at a time -/

theorem omitted_accepts {e : Entry} (omitted : e.presence = .undefined) :
    ∃ own, e.write .empty = .ok () own := by
  rw [e.omitted omitted]
  exact ⟨.empty, rfl⟩

/-- What restricting an input to the field `f` makes of an entry. -/
def Entry.Restricts (f : Field) (alone e : Entry) : Prop :=
  e.field = f ∧ alone = e ∨ e.field ≠ f ∧ alone.presence = .undefined

/-- Of a restricted input only the entry of its field can be rejected. -/
theorem restricted_accepts {f : Field} {alone all : List Entry}
    (restricted : List.Forall₂ (Entry.Restricts f) alone all) :
    (∀ e ∈ alone, ∃ own, e.write .empty = .ok () own) ↔
      ∀ e ∈ all, e.field = f → ∃ own, e.write .empty = .ok () own := by
  induction restricted with
  | nil => simp
  | cons first rest ih =>
    rw [List.forall_mem_cons, List.forall_mem_cons, ih]
    apply and_congr_left
    intro _
    rcases first with ⟨named, rfl⟩ | ⟨other, omitted⟩
    · exact ⟨fun accepted _ => accepted, fun accepted => accepted named⟩
    · exact ⟨fun _ named => absurd named other, fun _ => omitted_accepts omitted⟩

theorem scalarEntries_only (key : SettingKey) (table : List Scalar)
    (values : Fields (fun ty => MaybeUndefined ty.Value) table) :
    List.Forall₂ (Entry.Restricts (.scalar key))
      (scalarEntries table (Fields.only key table values)) (scalarEntries table values) := by
  induction table with
  | nil => exact .nil
  | cons s rest ih =>
    obtain ⟨value, values⟩ := values
    refine .cons ?_ (ih values)
    by_cases same : s.key = key
    · left
      simp [same, Entry.plain]
    · right
      refine ⟨fun named => same (Field.scalar.inj named), ?_⟩
      simp [if_neg same, Entry.plain, MaybeUndefined.presence]

theorem scalarEntries_undefined {f : Field} (structured : ∀ key, f ≠ .scalar key)
    (table : List Scalar) (values : Fields (fun ty => MaybeUndefined ty.Value) table) :
    List.Forall₂ (Entry.Restricts f)
      (scalarEntries table (Fields.undefined table)) (scalarEntries table values) := by
  induction table with
  | nil => exact .nil
  | cons s rest ih =>
    obtain ⟨value, values⟩ := values
    exact .cons (.inr ⟨(structured s.key).symm, rfl⟩) (ih values)

theorem structuredEntries_only (f : Field) :
    List.Forall₂ (Entry.Restricts f) (structuredEntries lt (input.only f))
      (structuredEntries lt input) := by
  refine .cons ?_ <| .cons ?_ <| .cons ?_ <| .cons ?_ <| .cons ?_ <| .cons ?_ <| .cons ?_ <|
    .cons ?_ <| .cons ?_ <| .cons ?_ <| .cons ?_ <| .cons ?_ <| .cons ?_ <| .cons ?_ <|
    .cons ?_ .nil
  all_goals
    cases f
    all_goals first
      | exact .inl ⟨rfl, rfl⟩
      | exact .inr ⟨Field.noConfusion, rfl⟩

theorem entries_only (f : Field) :
    List.Forall₂ (Entry.Restricts f) (entries lt (input.only f)) (entries lt input) := by
  apply List.rel_append
  · cases f with
    | scalar key => exact scalarEntries_only key SCALARS input.scalars
    | _ => exact scalarEntries_undefined (by simp) SCALARS input.scalars
  · exact structuredEntries_only f

/-- Writing one field alone is accepted exactly when its entry is. -/
theorem only_accepted_iff (f : Field) :
    (∃ delta, write lt (input.only f) .empty = .ok () delta) ↔
      ∀ e ∈ entries lt input, e.field = f → ∃ own, e.write .empty = .ok () own := by
  rw [accepted_iff]
  exact restricted_accepts (entries_only f)

theorem only_null_iff {entry : Field × List SettingKey} (listed : entry ∈ backing)
    (isNull : input.presence entry.1 = .null) :
    (∃ delta, write lt (input.only entry.1) .empty = .ok () delta) ↔ entry.1 ∈ NULLABLE := by
  rw [only_accepted_iff]
  have null_iff : ∀ e ∈ entries lt input, e.field = entry.1 →
      ((∃ own, e.write .empty = .ok () own) ↔ entry.1 ∈ NULLABLE) := by
    intro e mine named
    rw [← named]
    apply e.null
    rw [entries_presence mine, named, isNull]
  obtain ⟨e, mine, named⟩ := field_listed listed
  constructor
  · intro accepted
    exact (null_iff e mine named).mp (accepted e mine named)
  · intro nullable e mine named
    exact (null_iff e mine named).mpr nullable

/-- A write is accepted exactly when each of its fields alone is. -/
theorem accepted_iff_only :
    (∃ delta, write lt input .empty = .ok () delta) ↔
      ∀ entry ∈ backing, ∃ delta, write lt (input.only entry.1) .empty = .ok () delta := by
  rw [accepted_iff]
  constructor
  · intro accepted entry _
    rw [only_accepted_iff]
    exact fun e mine _ => accepted e mine
  · intro alone e mine
    have listed : (e.field, e.keys) ∈ backing := by
      have mapped : (entries lt input).map (fun e => (e.field, e.keys)) = backing :=
        entries_backing
      rw [← mapped]
      exact List.mem_map_of_mem mine
    exact (only_accepted_iff e.field).mp (alone _ listed) e mine rfl

theorem applySettings_rejected {effective : SettingsPack} {persisted : Except SettingsError Unit}
    (rejected : ¬ ∃ delta, write lt input .empty = .ok () delta) :
    ∃ e, applySettings lt effective input persisted = (.error e, effective) := by
  rw [applySettings]
  cases ran : write lt input .empty with
  | ok _ delta => exact absurd ⟨delta, ran⟩ rejected
  | error e _ => exact ⟨e, rfl⟩

end Entries

/-- The defaults a libtorrent release documents for the settings with a domain; the other settings
are empty, zero or off here. -/
def releaseDefault : SettingKey → SettingValue
  | .userAgent => .str "libtorrent/2.1.0.0".toList
  | .peerFingerprint => .str "-LT2100-".toList
  | .listenInterfaces => .str "0.0.0.0:6881,[::]:6881".toList
  | .dhtBootstrapNodes => .str "dht.libtorrent.org:25401".toList
  | .trackerCompletionTimeout => .int 30
  | .trackerReceiveTimeout => .int 10
  | .maxAllowedInRequestQueue => .int 2000
  | .peerTimeout => .int 120
  | .filePoolSize => .int 40
  | .maxFailcount => .int 3
  | .minReconnectTime => .int 60
  | .peerConnectTimeout => .int 15
  | .maxQueuedDiskBytes => .int 1048576
  | .handshakeTimeout => .int 10
  | .sendBufferWatermark => .int 512000
  | .maxPeerlistSize => .int 3000
  | .maxPausedPeerlistSize => .int 1000
  | .maxPeerRecvBufferSize => .int 2097152
  | .maxSuggestPieces => .int 16
  | .localServiceAnnounceInterval => .int 300
  | .dhtAnnounceInterval => .int 900
  | .tickInterval => .int 500
  | .utpTargetDelay => .int 100
  | .utpConnectTimeout => .int 3000
  | .utpLossMultiplier => .int 50
  | .maxMetadataSize => .int 3145728
  | .hashingThreads => .int 1
  | .checkingMemUsage => .int 256
  | .aioThreads => .int 10
  | .trackerBackoff => .int 250
  | .peerTurnover => .int 4
  | .upnpLeaseDuration => .int 3600
  | .maxConcurrentHttpAnnounces => .int 50
  | .dhtMaxPeersReply => .int 100
  | .dhtSearchBranching => .int 5
  | .dhtMaxDhtItems => .int 700
  | .dhtSampleInfohashesInterval => .int 21600
  | .maxPieceCount => .int 2097152
  | .metadataTokenLimit => .int 2500000
  | .inEncPolicy => .int 1
  | .outEncPolicy => .int 1
  | .allowedEncLevel => .int 3
  | .diskWriteMode => .int 2
  | .mixedModeAlgorithm => .int 1
  | .proxyHostnames => .bool true
  | .proxyPeerConnections => .bool true
  | .proxyTrackerConnections => .bool true
  | .enableIncomingTcp => .bool true
  | .enableOutgoingTcp => .bool true
  | .enableIncomingUtp => .bool true
  | .enableOutgoingUtp => .bool true
  | .i2pInboundQuantity => .int 3
  | .i2pOutboundQuantity => .int 3
  | .i2pInboundLength => .int 3
  | .i2pOutboundLength => .int 3
  | key =>
    match key.kind with
    | .str => .str []
    | .int => .int 0
    | .bool => .bool false

def release : Libtorrent := ⟨"2.1.0.0".toList, fun key => some (releaseDefault key)⟩

/-- The frame and the atomicity of a settings write: an accepted write stages the backing of the
fields it defines and nothing else, never a blacklisted setting; null is accepted on the nullable
groups alone; and a field that is rejected rejects the write, with which the session's settings
stay what they are. -/
theorem write_frame (lt : Libtorrent) (input : SettingsInput) :
    (∀ delta, write lt input .empty = .ok () delta →
      (∀ key, delta.has key = true ↔
        ∃ entry ∈ backing, input.presence entry.1 ≠ .undefined ∧ key ∈ entry.2) ∧
      ∀ key ∈ BLACKLIST, delta.has key = false) ∧
    (∀ entry ∈ backing, input.presence entry.1 = .null →
      ((∃ delta, write lt (input.only entry.1) .empty = .ok () delta) ↔ entry.1 ∈ NULLABLE)) ∧
    ∀ entry ∈ backing, (¬ ∃ delta, write lt (input.only entry.1) .empty = .ok () delta) →
      (¬ ∃ delta, write lt input .empty = .ok () delta) ∧
      ∀ effective persisted, ∃ e,
        applySettings lt effective input persisted = (.error e, effective) := by
  refine ⟨?_, fun _ => only_null_iff, ?_⟩
  · intro delta ran
    refine ⟨staged_iff ran, ?_⟩
    intro key blacklisted
    rw [Bool.eq_false_iff, ne_eq, staged_iff ran]
    rintro ⟨entry, listed, -, among⟩
    exact blacklisted_unbacked blacklisted listed among
  · intro entry listed alone
    have rejected : ¬ ∃ delta, write lt input .empty = .ok () delta :=
      fun accepted => alone (accepted_iff_only.mp accepted entry listed)
    exact ⟨rejected, fun _ _ => applySettings_rejected rejected⟩

/-- Disabling the proxy, and the encryption with it, which null does not do. -/
def proxyDisabled : SettingsInput := { SettingsInput.undefined with proxy := .null }

def encryptionDisabled : SettingsInput := { proxyDisabled with encryption := .null }

/-- Disabling the proxy stages its settings; disabling the encryption as well is an error, and the
session's settings stay the defaults. -/
theorem write_frame_disable :
    (∃ delta, write release proxyDisabled .empty = .ok () delta ∧
      delta.has .proxyPassword = true ∧ delta.has .alertMask = false) ∧
    ∃ e, applySettings release release.defaults encryptionDisabled (.ok ()) =
      (.error e, release.defaults) := by
  have proxy : (Field.proxy, PROXY_BACKING) ∈ backing := List.mem_append_right _ (by decide)
  have encryption : (Field.encryption, ENCRYPTION_BACKING) ∈ backing :=
    List.mem_append_right _ (by decide)
  constructor
  · obtain ⟨frame, nullable, -⟩ := write_frame release proxyDisabled
    obtain ⟨delta, ran⟩ := (nullable _ proxy rfl).mpr (by decide)
    refine ⟨delta, ran, ?_, ?_⟩
    · exact ((frame delta ran).1 _).mpr ⟨_, proxy, by decide, by decide⟩
    · exact (frame delta ran).2 _ (by decide)
  · obtain ⟨-, nullable, rejects⟩ := write_frame release encryptionDisabled
    have alone := (nullable _ encryption rfl).not.mpr (by decide)
    exact (rejects _ encryption alone).2 _ _

end Rsbtd.Settings
