import Rsbtd.Verified.SettingsSurface

/-!
# Reading and writing back

The read view of a pack and the input it is written back as are the same list of
slots, one for each field.  Writing the view back is accepted and leaves it
unchanged exactly when every field reads as a stable value.  The defaults do, and
an accepted write keeps it so, with one exception: an I2P host in two pairs of
brackets is stored in one, and read and written again it loses that as well.
-/

namespace Rsbtd.Settings

open Rsbtd.Keyed Rsbtd.Keyed.Store

abbrev SettingSlot := Slot SettingKey SettingValue SettingsError

/-! ## The slots of a view -/

section Slots

variable {lt : Libtorrent} {p : SettingsPack} {view : Settings}

def scalarSlots : (table : List Scalar) → Fields ScalarType.Value table → List SettingSlot
  | [], () => []
  | s :: rest, (value, values) => ⟨_, scalarGroup s, value⟩ :: scalarSlots rest values

def structuredSlots (lt : Libtorrent) (view : Settings) : List SettingSlot := [
  ⟨_, userAgentGroup lt, view.userAgent⟩,
  ⟨_, proxyGroup lt, view.proxy⟩,
  ⟨_, i2pGroup lt, view.i2p⟩,
  ⟨_, encryptionGroup, view.encryption⟩,
  ⟨_, peerTransportsGroup, view.peerTransports⟩,
  ⟨_, outgoingPortRangeGroup, view.outgoingPortRange⟩,
  ⟨_, diskIoCacheGroup, view.diskIoCache⟩,
  ⟨_, mmapWriteModeGroup, view.mmapWriteMode⟩,
  ⟨_, suggestModeGroup, view.suggestMode⟩,
  ⟨_, chokingAlgorithmGroup, view.chokingAlgorithm⟩,
  ⟨_, seedChokingAlgorithmGroup, view.seedChokingAlgorithm⟩,
  ⟨_, mixedModeAlgorithmGroup, view.mixedModeAlgorithm⟩,
  ⟨_, outgoingInterfacesGroup, view.outgoingInterfaces⟩,
  ⟨_, listenInterfacesGroup, view.listenInterfaces⟩,
  ⟨_, dhtBootstrapNodesGroup, view.dhtBootstrapNodes⟩]

def slots (lt : Libtorrent) (view : Settings) : List SettingSlot :=
  scalarSlots SCALARS view.scalars ++ structuredSlots lt view

theorem readScalars_cons_ok {s : Scalar} {rest : List Scalar} {value : s.ty.Value}
    {values : Fields ScalarType.Value rest} :
    readScalars p (s :: rest) = .ok (value, values) ↔
      s.ty.get p s.key = .ok value ∧ readScalars p rest = .ok values := by
  rw [readScalars]
  cases s.ty.get p s.key with
  | error e =>
    change (Except.error e : Except _ (s.ty.Value × Fields ScalarType.Value rest)) = _ ↔ _
    simp
  | ok first =>
    cases readScalars p rest with
    | error e =>
      change (Except.error e : Except _ (s.ty.Value × Fields ScalarType.Value rest)) = _ ↔ _
      simp
    | ok later =>
      change Except.ok (first, later) = Except.ok (value, values) ↔ _
      simp

theorem readScalars_eq_ok {table : List Scalar} {values : Fields ScalarType.Value table} :
    readScalars p table = .ok values ↔ ∀ slot ∈ scalarSlots table values, slot.reads p := by
  induction table with
  | nil => exact ⟨fun _ slot listed => (by cases listed), fun _ => rfl⟩
  | cons s rest ih =>
    obtain ⟨value, values⟩ := values
    rw [scalarSlots, List.forall_mem_cons, ← ih, readScalars_cons_ok]
    rfl

theorem structuredSlots_reads :
    (∀ slot ∈ structuredSlots lt view, slot.reads p) ↔
      readUserAgent p = .ok view.userAgent ∧ readProxy p = .ok view.proxy ∧
        readI2p p = .ok view.i2p ∧ readEncryption p = .ok view.encryption ∧
        readPeerTransports p = .ok view.peerTransports ∧
        readOutgoingPortRange p = .ok view.outgoingPortRange ∧
        readDiskIoCache p = .ok view.diskIoCache ∧ readMmapWriteMode p = .ok view.mmapWriteMode ∧
        readSuggestMode p = .ok view.suggestMode ∧
        readChokingAlgorithm p = .ok view.chokingAlgorithm ∧
        readSeedChokingAlgorithm p = .ok view.seedChokingAlgorithm ∧
        readMixedModeAlgorithm p = .ok view.mixedModeAlgorithm ∧
        readOutgoingInterfaces p = .ok view.outgoingInterfaces ∧
        readListenInterfaces p = .ok view.listenInterfaces ∧
        readDhtBootstrapNodes p = .ok view.dhtBootstrapNodes := by
  simp only [structuredSlots, List.forall_mem_cons, List.not_mem_nil, false_implies, implies_true,
    and_true]
  rfl

/-- A pack reads as a view exactly when each slot of the view does. -/
theorem read_eq_ok (lt : Libtorrent) : read p = .ok view ↔ ∀ slot ∈ slots lt view, slot.reads p := by
  rw [slots, List.forall_mem_append, ← readScalars_eq_ok, structuredSlots_reads]
  simp only [read, except_bind_ok]
  constructor
  · rintro ⟨scalars, h, userAgent, h1, proxy, h2, i2p, h3, encryption, h4, transports, h5, range,
      h6, cache, h7, mmap, h8, suggest, h9, choking, h10, seed, h11, mixed, h12, out, h13, listen,
      h14, nodes, h15, same⟩
    obtain rfl := Except.ok.inj same
    exact ⟨h, h1, h2, h3, h4, h5, h6, h7, h8, h9, h10, h11, h12, h13, h14, h15⟩
  · rintro ⟨h, h1, h2, h3, h4, h5, h6, h7, h8, h9, h10, h11, h12, h13, h14, h15⟩
    exact ⟨_, h, _, h1, _, h2, _, h3, _, h4, _, h5, _, h6, _, h7, _, h8, _, h9, _, h10, _, h11, _,
      h12, _, h13, _, h14, _, h15, rfl⟩

theorem writeScalars_intoInput (table : List Scalar) (values : Fields ScalarType.Value table) :
    writeScalars table (Fields.intoInput table values) =
      Part.writeAll ((scalarSlots table values).map Slot.part) := by
  induction table with
  | nil => rfl
  | cons s rest ih =>
    obtain ⟨value, values⟩ := values
    rw [Fields.intoInput, writeScalars, ih values]
    rfl

/-- Writing a view back is the sequence of its slots. -/
theorem write_toInput :
    write lt view.toInput = Part.writeAll ((slots lt view).map Slot.part) := by
  rw [slots, List.map_append, Part.writeAll_append, ← writeScalars_intoInput]
  simp only [structuredSlots, List.map_cons, List.map_nil, Part.writeAll_singleton,
    Part.writeAll_cons_cons, write]
  rfl

theorem scalarSlots_keys (table : List Scalar) (values : Fields ScalarType.Value table) :
    (scalarSlots table values).map (fun slot => slot.part.keys) =
      table.map (fun s => [s.key]) := by
  induction table with
  | nil => rfl
  | cons s rest ih =>
    obtain ⟨value, values⟩ := values
    rw [scalarSlots, List.map_cons, List.map_cons, ih values]
    rfl

theorem slots_apart : Part.Apart ((slots lt view).map Slot.part) := by
  have keys : (slots lt view).map (fun slot => slot.part.keys) = backing.map Prod.snd := by
    rw [slots, List.map_append, scalarSlots_keys, backing, List.map_append,
      SCALAR_BACKING, List.map_map]
    rfl
  have apart : (backing.map Prod.snd).Pairwise List.Disjoint := by
    rw [List.pairwise_map]
    exact backing_apart
  rw [← keys, List.pairwise_map] at apart
  rw [Part.Apart, List.pairwise_map]
  exact apart

end Slots

/-! ## Settled packs -/

/-- The read view is accepted when it is written back, and what it stages leaves it unchanged. -/
def FixedPoint (lt : Libtorrent) (p : SettingsPack) : Prop :=
  ∃ view, read p = .ok view ∧
    ∃ delta, write lt view.toInput .empty = .ok () delta ∧ read (p.apply delta) = .ok view

/-- Every field but the I2P group reads as a stable value. -/
structure Kept (lt : Libtorrent) (p : SettingsPack) : Prop where
  scalars : ∀ s ∈ SCALARS, (scalarGroup s).Settled p
  userAgent : (userAgentGroup lt).Settled p
  proxy : (proxyGroup lt).Settled p
  encryption : encryptionGroup.Settled p
  peerTransports : peerTransportsGroup.Settled p
  outgoingPortRange : outgoingPortRangeGroup.Settled p
  diskIoCache : diskIoCacheGroup.Settled p
  mmapWriteMode : mmapWriteModeGroup.Settled p
  suggestMode : suggestModeGroup.Settled p
  chokingAlgorithm : chokingAlgorithmGroup.Settled p
  seedChokingAlgorithm : seedChokingAlgorithmGroup.Settled p
  mixedModeAlgorithm : mixedModeAlgorithmGroup.Settled p
  outgoingInterfaces : outgoingInterfacesGroup.Settled p
  listenInterfaces : listenInterfacesGroup.Settled p
  dhtBootstrapNodes : dhtBootstrapNodesGroup.Settled p

section Settled

variable {lt : Libtorrent} {p : SettingsPack}

theorem fixedPoint_iff_slots :
    FixedPoint lt p ↔
      ∃ view, read p = .ok view ∧ ∀ slot ∈ slots lt view, slot.stable := by
  unfold FixedPoint
  apply exists_congr
  intro view
  apply and_congr_right
  intro _
  rw [write_toInput, ← Slot.rewrite_iff (s := p) slots_apart]
  simp only [read_eq_ok lt]

theorem scalars_settled_iff (table : List Scalar) :
    (∀ s ∈ table, (scalarGroup s).Settled p) ↔
      ∃ values, ∀ slot ∈ scalarSlots table values, slot.reads p ∧ slot.stable := by
  induction table with
  | nil => exact ⟨fun _ => ⟨(), fun slot listed => (by cases listed)⟩, by simp⟩
  | cons s rest ih =>
    rw [List.forall_mem_cons, ih]
    constructor
    · rintro ⟨⟨value, first⟩, values, later⟩
      refine ⟨(value, values), ?_⟩
      rw [scalarSlots, List.forall_mem_cons]
      exact ⟨first, later⟩
    · rintro ⟨⟨value, values⟩, all⟩
      rw [scalarSlots, List.forall_mem_cons] at all
      exact ⟨⟨value, all.1⟩, values, all.2⟩

/-- Writing back what is read is a fixed point exactly when every field is settled. -/
theorem fixedPoint_iff : FixedPoint lt p ↔ Kept lt p ∧ (i2pGroup lt).Settled p := by
  rw [fixedPoint_iff_slots]
  constructor
  · rintro ⟨view, reads, stable⟩
    rw [read_eq_ok lt] at reads
    have both : ∀ slot ∈ slots lt view, slot.reads p ∧ slot.stable :=
      fun slot listed => ⟨reads slot listed, stable slot listed⟩
    rw [slots, List.forall_mem_append] at both
    obtain ⟨scalars, structured⟩ := both
    simp only [structuredSlots, List.forall_mem_cons] at structured
    obtain ⟨h1, h2, h3, h4, h5, h6, h7, h8, h9, h10, h11, h12, h13, h14, h15, -⟩ := structured
    exact ⟨⟨(scalars_settled_iff SCALARS).mpr ⟨_, scalars⟩, ⟨_, h1⟩, ⟨_, h2⟩, ⟨_, h4⟩, ⟨_, h5⟩,
      ⟨_, h6⟩, ⟨_, h7⟩, ⟨_, h8⟩, ⟨_, h9⟩, ⟨_, h10⟩, ⟨_, h11⟩, ⟨_, h12⟩, ⟨_, h13⟩, ⟨_, h14⟩,
      ⟨_, h15⟩⟩, ⟨_, h3⟩⟩
  · rintro ⟨kept, ⟨i2p, h3⟩⟩
    obtain ⟨scalars, settled⟩ := (scalars_settled_iff SCALARS).mp kept.scalars
    obtain ⟨userAgent, h1⟩ := kept.userAgent
    obtain ⟨proxy, h2⟩ := kept.proxy
    obtain ⟨encryption, h4⟩ := kept.encryption
    obtain ⟨peerTransports, h5⟩ := kept.peerTransports
    obtain ⟨outgoingPortRange, h6⟩ := kept.outgoingPortRange
    obtain ⟨diskIoCache, h7⟩ := kept.diskIoCache
    obtain ⟨mmapWriteMode, h8⟩ := kept.mmapWriteMode
    obtain ⟨suggestMode, h9⟩ := kept.suggestMode
    obtain ⟨chokingAlgorithm, h10⟩ := kept.chokingAlgorithm
    obtain ⟨seedChokingAlgorithm, h11⟩ := kept.seedChokingAlgorithm
    obtain ⟨mixedModeAlgorithm, h12⟩ := kept.mixedModeAlgorithm
    obtain ⟨outgoingInterfaces, h13⟩ := kept.outgoingInterfaces
    obtain ⟨listenInterfaces, h14⟩ := kept.listenInterfaces
    obtain ⟨dhtBootstrapNodes, h15⟩ := kept.dhtBootstrapNodes
    let view : Settings := ⟨scalars, userAgent, proxy, i2p, encryption, peerTransports,
      outgoingPortRange, diskIoCache, mmapWriteMode, suggestMode, chokingAlgorithm,
      seedChokingAlgorithm, mixedModeAlgorithm, outgoingInterfaces, listenInterfaces,
      dhtBootstrapNodes⟩
    have both : ∀ slot ∈ slots lt view, slot.reads p ∧ slot.stable := by
      rw [slots, List.forall_mem_append]
      refine ⟨settled, ?_⟩
      simp only [structuredSlots, List.forall_mem_cons, List.not_mem_nil, false_implies,
        implies_true, and_true]
      exact ⟨h1, h2, h3, h4, h5, h6, h7, h8, h9, h10, h11, h12, h13, h14, h15⟩
    exact ⟨view, (read_eq_ok lt).mpr fun slot listed => (both slot listed).1,
      fun slot listed => (both slot listed).2⟩

end Settled

/-! ## Accepted writes -/

section Step

variable {lt : Libtorrent} {input : SettingsInput} {p delta : SettingsPack} {α : Type}

theorem plain_admits {field : Field} {required : field ∉ NULLABLE} {name : String}
    {g : SettingGroup α} {value : MaybeUndefined α} (exact_ : ∀ a, g.Exact a) :
    g.Admits (Entry.plain field required name g value).write := by
  intro own staged
  cases value with
  | undefined =>
    have same : EStateM.Result.ok () Store.empty = EStateM.Result.ok () own := staged
    injection same with _ same
    exact .inl same.symm
  | null => exact absurd staged whenDefined_null_ne_ok
  | value a => exact .inr ⟨a, (exact_ a).keeps, staged⟩

theorem nullable_staged {field : Field} {listed : field ∈ NULLABLE} {g : SettingGroup (Option α)}
    {resets : ∃ own, g.put none .empty = .ok () own} {value : MaybeUndefined α}
    {own : SettingsPack}
    (staged : (Entry.ofNullable field listed g resets value).write .empty = .ok () own) :
    own = .empty ∨ ∃ a, (∀ c, a = some c → value = .value c) ∧ g.put a .empty = .ok () own := by
  cases value with
  | undefined =>
    have same : EStateM.Result.ok () Store.empty = EStateM.Result.ok () own := staged
    injection same with _ same
    exact .inl same.symm
  | null => exact .inr ⟨none, by simp, staged⟩
  | value a => exact .inr ⟨some a, by simp, staged⟩

/-- A field of the write keeps its group settled. -/
theorem settled_plain {field : Field} {required : field ∉ NULLABLE} {name : String}
    {g : SettingGroup α} {value : MaybeUndefined α} (exact_ : ∀ a, g.Exact a)
    (own : ∃ own, (Entry.plain field required name g value).write .empty = .ok () own ∧
      Agrees g.keys delta own) (settled : g.Settled p) : g.Settled (p.apply delta) := by
  obtain ⟨own, staged, agrees⟩ := own
  exact settled.apply (plain_admits exact_) staged agrees

theorem settled_scalars (table : List Scalar)
    (values : Fields (fun ty => MaybeUndefined ty.Value) table)
    (own : ∀ e ∈ scalarEntries table values,
      ∃ own, e.write .empty = .ok () own ∧ Agrees e.keys delta own)
    (settled : ∀ s ∈ table, (scalarGroup s).Settled p) :
    ∀ s ∈ table, (scalarGroup s).Settled (p.apply delta) := by
  induction table with
  | nil => simp
  | cons s rest ih =>
    obtain ⟨value, values⟩ := values
    rw [scalarEntries, List.forall_mem_cons] at own
    rw [List.forall_mem_cons] at settled ⊢
    exact ⟨settled_plain (scalar_exact s) own.1 settled.1, ih values own.2 settled.2⟩

theorem structured_own (ran : write lt input .empty = .ok () delta) :
    ∀ e ∈ structuredEntries lt input,
      ∃ own, e.write .empty = .ok () own ∧ Agrees e.keys delta own :=
  fun _ listed => write_own ran (List.mem_append_right _ listed)

/-- An accepted write keeps every field but the I2P group settled. -/
theorem Kept.step (resets : (proxyGroup lt).Keeps none)
    (ran : write lt input .empty = .ok () delta) (kept : Kept lt p) : Kept lt (p.apply delta) := by
  have own := structured_own ran
  simp only [structuredEntries, List.forall_mem_cons] at own
  obtain ⟨h1, h2, -, h4, h5, h6, h7, h8, h9, h10, h11, h12, h13, h14, h15, -⟩ := own
  have proxy_keeps : ∀ a, (proxyGroup lt).Keeps a := by
    intro a
    cases a with
    | none => exact resets
    | some proxy => exact proxy_keeps_some proxy
  refine {
    scalars := settled_scalars SCALARS input.scalars
      (fun e listed => write_own ran (List.mem_append_left _ listed)) kept.scalars
    userAgent := settled_plain userAgent_exact h1 kept.userAgent
    proxy := ?_
    encryption := settled_plain encryption_exact h4 kept.encryption
    peerTransports := settled_plain peerTransports_exact h5 kept.peerTransports
    outgoingPortRange := ?_
    diskIoCache := settled_plain diskIoCache_exact h7 kept.diskIoCache
    mmapWriteMode := settled_plain (enum_exact rfl MmapWriteMode.fromLt_toLt) h8 kept.mmapWriteMode
    suggestMode := settled_plain (enum_exact rfl SuggestMode.fromLt_toLt) h9 kept.suggestMode
    chokingAlgorithm :=
      settled_plain (enum_exact rfl ChokingAlgorithm.fromLt_toLt) h10 kept.chokingAlgorithm
    seedChokingAlgorithm :=
      settled_plain (enum_exact rfl SeedChokingAlgorithm.fromLt_toLt) h11 kept.seedChokingAlgorithm
    mixedModeAlgorithm :=
      settled_plain (enum_exact rfl MixedModeAlgorithm.fromLt_toLt) h12 kept.mixedModeAlgorithm
    outgoingInterfaces := settled_plain outgoingInterfaces_exact h13 kept.outgoingInterfaces
    listenInterfaces := settled_plain listenInterfaces_exact h14 kept.listenInterfaces
    dhtBootstrapNodes := settled_plain dhtBootstrapNodes_exact h15 kept.dhtBootstrapNodes }
  · obtain ⟨own, staged, agrees⟩ := h2
    refine kept.proxy.apply ?_ staged agrees
    intro own staged
    rcases nullable_staged staged with rfl | ⟨a, -, put⟩
    · exact .inl rfl
    · exact .inr ⟨a, proxy_keeps a, put⟩
  · obtain ⟨own, staged, agrees⟩ := h6
    refine kept.outgoingPortRange.apply ?_ staged agrees
    intro own staged
    rcases nullable_staged staged with rfl | ⟨a, -, put⟩
    · exact .inl rfl
    · exact .inr ⟨a, (outgoingPortRange_exact a).keeps, put⟩

/-- What the I2P settings hold was staged by its group, last for a value that the input allows. -/
def I2pHeld (lt : Libtorrent) (allowed : I2pSettings → Prop) (p : SettingsPack) : Prop :=
  ∃ i2p own, (∀ c, i2p = some c → allowed c) ∧ (i2pGroup lt).put i2p .empty = .ok () own ∧
    Agrees I2P_BACKING p own

theorem I2pHeld.step {allowed : I2pSettings → Prop}
    (permitted : ∀ c, input.i2p = .value c → allowed c)
    (ran : write lt input .empty = .ok () delta) (held : I2pHeld lt allowed p) :
    I2pHeld lt allowed (p.apply delta) := by
  have own := structured_own ran
  simp only [structuredEntries, List.forall_mem_cons] at own
  obtain ⟨-, -, ⟨own, staged, agrees⟩, -⟩ := own
  have agrees : Agrees I2P_BACKING delta own := agrees
  rcases nullable_staged staged with rfl | ⟨a, given, put⟩
  · obtain ⟨i2p, own, was, put, holds⟩ := held
    refine ⟨i2p, own, was, put, ?_⟩
    intro key listed
    rw [apply_of_absent (agrees key listed)]
    exact holds key listed
  · exact ⟨a, own, fun c same => permitted c (given c same), put,
      (i2pGroup lt).agrees_apply put agrees⟩

end Step

/-! ## The defaults -/

def SettingValue.kind : SettingValue → SettingKind
  | .str _ => .str
  | .int _ => .int
  | .bool _ => .bool

/-- What libtorrent documents of its default settings. -/
structure Libtorrent.Documented (lt : Libtorrent) : Prop where
  dense : ∀ key, ∃ value, lt.defaults key = some value ∧ value.kind = key.kind
  scalars : ∀ s ∈ SCALARS, ∀ value, s.ty.get lt.defaults s.key = .ok value → s.ty.Accepts value
  userAgent : lt.defaults.getStr .userAgent = some ("libtorrent/".toList ++ lt.version)
  proxyType : Lt.getEnum Lt.ProxyType lt.defaults .proxyType = some .none
  i2pHostname : lt.defaults.getStr .i2pHostname = some []
  inEncPolicy : ∃ policy, Lt.getEnum Lt.EncPolicy lt.defaults .inEncPolicy = some policy
  outEncPolicy : ∃ policy, Lt.getEnum Lt.EncPolicy lt.defaults .outEncPolicy = some policy
  allowedEncLevel : ∃ level, Lt.getEnum Lt.EncLevel lt.defaults .allowedEncLevel = some level
  preferRc4 : lt.defaults.getBool .preferRc4 = some false
  outgoingPort : lt.defaults.getInt .outgoingPort = some 0
  diskIoReadMode : ∃ m, Lt.getEnum Lt.IoBufferMode lt.defaults .diskIoReadMode = some m
  diskIoWriteMode : ∃ m, Lt.getEnum Lt.IoBufferMode lt.defaults .diskIoWriteMode = some m
  diskWriteMode : ∃ m, Lt.getEnum Lt.MmapWriteMode lt.defaults .diskWriteMode = some m
  suggestMode : ∃ m, Lt.getEnum Lt.SuggestMode lt.defaults .suggestMode = some m
  chokingAlgorithm :
    ∃ m, Lt.getEnum Lt.ChokingAlgorithm lt.defaults .chokingAlgorithm = some m
  seedChokingAlgorithm :
    ∃ m, Lt.getEnum Lt.SeedChokingAlgorithm lt.defaults .seedChokingAlgorithm = some m
  mixedModeAlgorithm :
    ∃ m, Lt.getEnum Lt.BandwidthMixedAlgo lt.defaults .mixedModeAlgorithm = some m
  outgoingInterfaces : lt.defaults.getStr .outgoingInterfaces = some []
  listenInterfaces :
    lt.defaults.getStr .listenInterfaces = some "0.0.0.0:6881,[::]:6881".toList
  dhtBootstrapNodes :
    lt.defaults.getStr .dhtBootstrapNodes = some "dht.libtorrent.org:25401".toList

namespace Libtorrent.Documented

variable {lt : Libtorrent} {p : SettingsPack} {α : Type}

theorem getBool (documented : lt.Documented) {k : SettingKey} (kind : k.kind = .bool) :
    ∃ value, lt.defaults.getBool k = some value := by
  obtain ⟨value, held, typed⟩ := documented.dense k
  cases value with
  | bool value => exact ⟨value, by simp [SettingsPack.getBool, held]⟩
  | str value => simp [SettingValue.kind, kind] at typed
  | int value => simp [SettingValue.kind, kind] at typed

theorem getInt (documented : lt.Documented) {k : SettingKey} (kind : k.kind = .int) :
    ∃ value, lt.defaults.getInt k = some value := by
  obtain ⟨value, held, typed⟩ := documented.dense k
  cases value with
  | int value => exact ⟨value, by simp [SettingsPack.getInt, held]⟩
  | str value => simp [SettingValue.kind, kind] at typed
  | bool value => simp [SettingValue.kind, kind] at typed

theorem getStr (documented : lt.Documented) {k : SettingKey} (kind : k.kind = .str) :
    ∃ value, lt.defaults.getStr k = some value := by
  obtain ⟨value, held, typed⟩ := documented.dense k
  cases value with
  | str value => exact ⟨value, by simp [SettingsPack.getStr, held]⟩
  | int value => simp [SettingValue.kind, kind] at typed
  | bool value => simp [SettingValue.kind, kind] at typed

theorem default_held (documented : lt.Documented) (key : SettingKey) :
    lt.defaults key = some (Lt.defaultValue lt key) := by
  obtain ⟨value, held, typed⟩ := documented.dense key
  cases value with
  | str value => simp [Lt.defaultValue, ← typed, SettingValue.kind, SettingsPack.getStr, held]
  | int value => simp [Lt.defaultValue, ← typed, SettingValue.kind, SettingsPack.getInt, held]
  | bool value => simp [Lt.defaultValue, ← typed, SettingValue.kind, SettingsPack.getBool, held]

theorem scalar_settled (documented : lt.Documented) {s : Scalar} (listed : s ∈ SCALARS) :
    (scalarGroup s).Settled lt.defaults := by
  have reads : ∃ value, s.ty.get lt.defaults s.key = .ok value := by
    have kind := s.kind_eq
    cases ty : s.ty with
    | string | stringChecked =>
      obtain ⟨value, held⟩ := documented.getStr (ty ▸ kind)
      exact ⟨value, by simp [ScalarType.get, held]⟩
    | i32 | i32Checked =>
      obtain ⟨value, held⟩ := documented.getInt (ty ▸ kind)
      exact ⟨value, by simp [ScalarType.get, held]⟩
    | i32Dscp =>
      obtain ⟨value, held⟩ := documented.getInt (ty ▸ kind)
      exact ⟨_, by simp only [ScalarType.get, Lt.getPeerDscp, held]; rfl⟩
    | bool =>
      obtain ⟨value, held⟩ := documented.getBool (ty ▸ kind)
      exact ⟨value, by simp [ScalarType.get, held]⟩
    | u16 | u8 =>
      obtain ⟨value, held⟩ := documented.getInt (ty ▸ kind)
      exact ⟨_, by simp only [ScalarType.get, held]; rfl⟩
  obtain ⟨value, reads⟩ := reads
  have accepted := documented.scalars s listed value reads
  exact (scalar_exact s value).settled reads ((ScalarType.set_ok s.kind_eq).mpr ⟨accepted, rfl⟩)

/-- A group that null resets to its defaults, which read as null. -/
theorem reset (documented : lt.Documented) {g : SettingGroup (Option α)}
    (null : ∀ d, g.put none .empty = .ok () d ↔ d = withDefaults lt g.keys .empty)
    (reads : g.read lt.defaults = .ok none) : g.Settled lt.defaults ∧ g.Keeps none := by
  have agrees : Agrees g.keys (withDefaults lt g.keys .empty) lt.defaults :=
    withDefaults_agrees fun key _ => documented.default_held key
  have put : g.put none .empty = .ok () (withDefaults lt g.keys .empty) := (null _).mpr rfl
  have settled : g.Settled lt.defaults :=
    ⟨none, reads, _, put, by rw [g.read_local agrees, reads]⟩
  refine ⟨settled, ?_⟩
  intro own staged
  obtain rfl := (null own).mp staged
  exact settled.of_agrees agrees.symm

theorem proxy_reset (documented : lt.Documented) :
    (proxyGroup lt).Settled lt.defaults ∧ (proxyGroup lt).Keeps none := by
  apply documented.reset (fun _ => writeProxy_null_ok)
  change readProxy _ = _
  simp only [readProxy, documented.proxyType]
  rfl

theorem i2p_defaults (documented : lt.Documented) : readI2p lt.defaults = .ok none := by
  simp [readI2p, Lt.getI2p, documented.i2pHostname]

theorem enum_settled {T L : Type} [Lt.RawI32 L] {field : String} {key : SettingKey}
    {fromLt : L → T} {toLt : T → L} (kind : key.kind = .int)
    (inverse : ∀ value, fromLt (toLt value) = value)
    (known : ∃ m, Lt.getEnum L lt.defaults key = some m) :
    (enumGroup field key kind fromLt toLt).Settled lt.defaults := by
  obtain ⟨m, known⟩ := known
  have reads : readEnum field key fromLt lt.defaults = .ok (fromLt m) := by
    simp [readEnum, known]
  exact (enum_exact kind inverse _).settled reads ((writeEnum_ok kind).mpr rfl)

theorem encryption_settled (documented : lt.Documented) :
    encryptionGroup.Settled lt.defaults := by
  obtain ⟨incoming, inKnown⟩ := documented.inEncPolicy
  obtain ⟨outgoing, outKnown⟩ := documented.outEncPolicy
  obtain ⟨level, levelKnown⟩ := documented.allowedEncLevel
  obtain ⟨announce, announceKnown⟩ := documented.getBool (k := .announceCryptoSupport) rfl
  have reads : readEncryption lt.defaults =
      .ok ⟨.fromLt incoming, .fromLt outgoing, .fromLt level, false, announce⟩ := by
    simp only [readEncryption, inKnown, outKnown, levelKnown, announceKnown, documented.preferRc4]
    rfl
  have leveled : (EncryptionMethods.fromLt level).level = .ok level := by
    cases level <;> rfl
  exact (encryption_exact _).settled reads (writeEncryption_ok.mpr ⟨level, leveled, by simp, rfl⟩)

theorem peerTransports_settled (documented : lt.Documented) :
    peerTransportsGroup.Settled lt.defaults := by
  obtain ⟨tcpIn, h1⟩ := documented.getBool (k := .enableIncomingTcp) rfl
  obtain ⟨tcpOut, h2⟩ := documented.getBool (k := .enableOutgoingTcp) rfl
  obtain ⟨utpIn, h3⟩ := documented.getBool (k := .enableIncomingUtp) rfl
  obtain ⟨utpOut, h4⟩ := documented.getBool (k := .enableOutgoingUtp) rfl
  have reads : readPeerTransports lt.defaults = .ok ⟨⟨tcpIn, tcpOut⟩, ⟨utpIn, utpOut⟩⟩ := by
    simp only [readPeerTransports, h1, h2, h3, h4]
    rfl
  exact (peerTransports_exact _).settled reads (writePeerTransports_ok.mpr rfl)

theorem outgoingPortRange_settled (documented : lt.Documented) :
    outgoingPortRangeGroup.Settled lt.defaults := by
  obtain ⟨count, counted⟩ := documented.getInt (k := .numOutgoingPorts) rfl
  have reads : readOutgoingPortRange lt.defaults = .ok none := by
    simp [readOutgoingPortRange, Lt.getOutgoingPorts, documented.outgoingPort, counted]
  exact (outgoingPortRange_exact none).settled reads (writeOutgoingPortRange_null_ok.mpr rfl)

theorem diskIoCache_settled (documented : lt.Documented) :
    diskIoCacheGroup.Settled lt.defaults := by
  obtain ⟨readMode, readKnown⟩ := documented.diskIoReadMode
  obtain ⟨writeMode, writeKnown⟩ := documented.diskIoWriteMode
  have reads : readDiskIoCache lt.defaults = .ok ⟨.fromLt readMode, .fromLt writeMode⟩ := by
    simp only [readDiskIoCache, readKnown, writeKnown]
    rfl
  exact (diskIoCache_exact _).settled reads (writeDiskIoCache_ok.mpr rfl)

theorem userAgent_settled (documented : lt.Documented) :
    (userAgentGroup lt).Settled lt.defaults := by
  have reads : readUserAgent lt.defaults = .ok .libtorrent :=
    readUserAgent_value (show userAgentValue lt .libtorrent = .ok _ from rfl) documented.userAgent
  exact (userAgent_exact .libtorrent).settled reads (writeUserAgent_ok.mpr ⟨_, rfl, rfl⟩)

theorem outgoingInterfaces_settled (documented : lt.Documented) :
    outgoingInterfacesGroup.Settled lt.defaults := by
  have reads : readOutgoingInterfaces lt.defaults = .ok [] := by
    simp only [readOutgoingInterfaces, documented.outgoingInterfaces]
    rfl
  exact (outgoingInterfaces_exact []).settled reads
    (writeOutgoingInterfaces_ok.mpr ⟨by simp, rfl⟩)

theorem listenInterfaces_settled (documented : lt.Documented) :
    listenInterfacesGroup.Settled lt.defaults := by
  have parsed : Lt.parseEntries Lt.ListenEndpoint.parse "0.0.0.0:6881,[::]:6881".toList =
      some [⟨"0.0.0.0".toList, 6881, false, false⟩, ⟨"[::]".toList, 6881, false, false⟩] := by
    decide +kernel
  have reads : readListenInterfaces lt.defaults =
      .ok [⟨"0.0.0.0".toList, 6881, false, false⟩, ⟨"[::]".toList, 6881, false, false⟩] := by
    simp only [readListenInterfaces, Lt.getListenInterfacesParsed, documented.listenInterfaces,
      Option.bind_some, parsed]
    rfl
  have tokens : ∀ e ∈ [ListenInterface.mk "0.0.0.0".toList 6881 false false,
      ListenInterface.mk "[::]".toList 6881 false false],
      Lt.hostToken "listen_interfaces" "address" e.interface = .ok () := by
    decide +kernel
  exact (listenInterfaces_exact _).settled reads (writeListenInterfaces_ok.mpr ⟨tokens, rfl⟩)

theorem dhtBootstrapNodes_settled (documented : lt.Documented) :
    dhtBootstrapNodesGroup.Settled lt.defaults := by
  have parsed : Lt.parseEntries Lt.HostPort.parse "dht.libtorrent.org:25401".toList =
      some [⟨"dht.libtorrent.org".toList, ⟨25401, by decide⟩⟩] := by
    decide +kernel
  have reads : readDhtBootstrapNodes lt.defaults =
      .ok ([⟨"dht.libtorrent.org".toList, ⟨25401, by decide⟩⟩].map HostPort.fromLt) := by
    simp only [readDhtBootstrapNodes, Lt.getDhtBootstrapNodesParsed, documented.dhtBootstrapNodes,
      Option.bind_some, parsed]
  have tokens : ∀ node ∈ [Lt.HostPort.mk "dht.libtorrent.org".toList ⟨25401, by decide⟩],
      Lt.hostToken "dht_bootstrap_nodes" "hostname" node.host = .ok () := by
    decide +kernel
  exact (dhtBootstrapNodes_exact _).settled reads
    (writeDhtBootstrapNodes_ok.mpr ⟨_, rfl, tokens, rfl⟩)

theorem kept (documented : lt.Documented) : Kept lt lt.defaults where
  scalars _ := documented.scalar_settled
  userAgent := documented.userAgent_settled
  proxy := documented.proxy_reset.1
  encryption := documented.encryption_settled
  peerTransports := documented.peerTransports_settled
  outgoingPortRange := documented.outgoingPortRange_settled
  diskIoCache := documented.diskIoCache_settled
  mmapWriteMode := enum_settled rfl MmapWriteMode.fromLt_toLt documented.diskWriteMode
  suggestMode := enum_settled rfl SuggestMode.fromLt_toLt documented.suggestMode
  chokingAlgorithm := enum_settled rfl ChokingAlgorithm.fromLt_toLt documented.chokingAlgorithm
  seedChokingAlgorithm :=
    enum_settled rfl SeedChokingAlgorithm.fromLt_toLt documented.seedChokingAlgorithm
  mixedModeAlgorithm :=
    enum_settled rfl MixedModeAlgorithm.fromLt_toLt documented.mixedModeAlgorithm
  outgoingInterfaces := documented.outgoingInterfaces_settled
  listenInterfaces := documented.listenInterfaces_settled
  dhtBootstrapNodes := documented.dhtBootstrapNodes_settled

theorem i2pHeld (documented : lt.Documented) {allowed : I2pSettings → Prop} :
    I2pHeld lt allowed lt.defaults := by
  refine ⟨none, _, by simp, writeI2p_null_ok.mpr rfl, ?_⟩
  exact (withDefaults_agrees fun key _ => documented.default_held key).symm

end Libtorrent.Documented

/-- The daemon's defaults differ from libtorrent's in the settings it owns and the user agent. -/
theorem daemon_agrees {lt : Libtorrent} {keys : List SettingKey}
    (others : ∀ key ∈ keys, key ≠ .userAgent ∧ key ≠ .alertMask ∧ key ≠ .alertQueueSize) :
    Agrees keys lt.defaults (daemonDefaults lt) := by
  intro key listed
  obtain ⟨h1, h2, h3⟩ := others key listed
  simp [daemonDefaults, h1, h2, h3]

theorem scalars_others :
    ∀ s ∈ SCALARS, s.key ≠ .userAgent ∧ s.key ≠ .alertMask ∧ s.key ≠ .alertQueueSize := by
  decide +kernel

theorem Kept.daemon {lt : Libtorrent} (kept : Kept lt lt.defaults) :
    Kept lt (daemonDefaults lt) where
  scalars s listed := (kept.scalars s listed).of_agrees
    (daemon_agrees (by simpa [scalarGroup] using scalars_others s listed))
  userAgent := by
    have reads : readUserAgent (daemonDefaults lt) = .ok .rsbtd :=
      readUserAgent_value (show userAgentValue lt .rsbtd = .ok _ from rfl) rfl
    exact (userAgent_exact .rsbtd).settled reads (writeUserAgent_ok.mpr ⟨_, rfl, rfl⟩)
  proxy := kept.proxy.of_agrees
    (show Agrees PROXY_BACKING _ _ from daemon_agrees (by decide))
  encryption := kept.encryption.of_agrees (daemon_agrees (by decide))
  peerTransports := kept.peerTransports.of_agrees (daemon_agrees (by decide))
  outgoingPortRange := kept.outgoingPortRange.of_agrees (daemon_agrees (by decide))
  diskIoCache := kept.diskIoCache.of_agrees (daemon_agrees (by decide))
  mmapWriteMode := kept.mmapWriteMode.of_agrees (daemon_agrees (by decide))
  suggestMode := kept.suggestMode.of_agrees (daemon_agrees (by decide))
  chokingAlgorithm := kept.chokingAlgorithm.of_agrees (daemon_agrees (by decide))
  seedChokingAlgorithm := kept.seedChokingAlgorithm.of_agrees (daemon_agrees (by decide))
  mixedModeAlgorithm := kept.mixedModeAlgorithm.of_agrees (daemon_agrees (by decide))
  outgoingInterfaces := kept.outgoingInterfaces.of_agrees (daemon_agrees (by decide))
  listenInterfaces := kept.listenInterfaces.of_agrees (daemon_agrees (by decide))
  dhtBootstrapNodes := kept.dhtBootstrapNodes.of_agrees (daemon_agrees (by decide))

/-! ## Reachable packs -/

/-- The dense defaults, and what accepted writes of allowed inputs make of them. -/
inductive Reachable (lt : Libtorrent) (allowed : SettingsInput → Prop) : SettingsPack → Prop
  | defaults : Reachable lt allowed lt.defaults
  | daemonDefaults : Reachable lt allowed (daemonDefaults lt)
  | write {p delta : SettingsPack} {input : SettingsInput} (reachable : Reachable lt allowed p)
    (permitted : allowed input) (accepted : write lt input .empty = .ok () delta) :
    Reachable lt allowed (p.apply delta)

/-- The I2P host is not bracketed any more once a pair of brackets is off. -/
def Rewritable (input : SettingsInput) : Prop :=
  ∀ c, input.i2p = .value c → Lt.unbracketed c.samHost = none

section Reachable

variable {lt : Libtorrent} {p : SettingsPack}

/-- The invariant: every other field is settled, and the I2P settings were staged as a group. -/
theorem Reachable.held (documented : lt.Documented) {allowed : SettingsInput → Prop}
    {host : I2pSettings → Prop} (permits : ∀ input, allowed input → ∀ c, input.i2p = .value c → host c)
    (reachable : Reachable lt allowed p) : Kept lt p ∧ I2pHeld lt host p := by
  induction reachable with
  | defaults => exact ⟨documented.kept, documented.i2pHeld⟩
  | daemonDefaults =>
    refine ⟨documented.kept.daemon, ?_⟩
    have held : I2pHeld lt host lt.defaults := documented.i2pHeld
    obtain ⟨i2p, own, was, put, agrees⟩ := held
    exact ⟨i2p, own, was, put, (daemon_agrees (by decide)).symm.trans agrees⟩
  | write _ permitted accepted ih =>
    obtain ⟨kept, held⟩ := ih
    exact ⟨kept.step documented.proxy_reset.2 accepted,
      held.step (permits _ permitted) accepted⟩

theorem unbracketed_ne {host inner : Text} (bracketed : Lt.unbracketed host = some inner) :
    inner ≠ host := by
  intro same
  have length := congrArg List.length (Lt.unbracketed_eq_some.mp bracketed)
  rw [same, List.length_cons, List.length_append] at length
  omega

/-- The host of the I2P settings: none by default, and else the one last written. -/
theorem I2pHeld.host (documented : lt.Documented) {allowed : I2pSettings → Prop}
    (held : I2pHeld lt allowed p) :
    p.getStr .i2pHostname = some [] ∨
      ∃ c, allowed c ∧ p.getStr .i2pHostname = some c.samHost := by
  obtain ⟨i2p, own, was, put, agrees⟩ := held
  rw [getStr_congr agrees (by decide)]
  cases i2p with
  | none =>
    left
    obtain rfl := writeI2p_null_ok.mp put
    rw [getStr_congr (withDefaults_agrees fun key _ => documented.default_held key) (by decide)]
    exact documented.i2pHostname
  | some c =>
    right
    obtain ⟨port, -, accepted⟩ := writeI2p_value_ok.mp put
    obtain ⟨-, -, -, rfl⟩ := Lt.i2p_ok.mp accepted
    exact ⟨c, was c rfl, by simp [i2pPack, I2pSettings.config]⟩

theorem I2pHeld.bare (documented : lt.Documented)
    (held : I2pHeld lt (fun c => Lt.unbracketed c.samHost = none) p) :
    ∀ host, p.getStr .i2pHostname = some host → Lt.unbracketed host = none := by
  intro host named
  rcases held.host documented with hostless | ⟨c, bare, written⟩
  · obtain rfl := Option.some.inj (hostless.symm.trans named)
    rfl
  · obtain rfl := Option.some.inj (written.symm.trans named)
    exact bare

/-- The I2P group is settled exactly when its host is not bracketed. -/
theorem I2pHeld.settled_iff (documented : lt.Documented) {allowed : I2pSettings → Prop}
    (held : I2pHeld lt allowed p) :
    (i2pGroup lt).Settled p ↔
      ∀ host, p.getStr .i2pHostname = some host → Lt.unbracketed host = none := by
  obtain ⟨i2p, own, -, put, agrees⟩ := held
  have named : p.getStr .i2pHostname = SettingsPack.getStr own .i2pHostname :=
    getStr_congr agrees (by decide)
  have same : (i2pGroup lt).Settled p ↔ (i2pGroup lt).Settled own :=
    ⟨Group.Settled.of_agrees agrees, Group.Settled.of_agrees agrees.symm⟩
  rw [named, same]
  cases i2p with
  | none =>
    obtain rfl := writeI2p_null_ok.mp put
    have defaulted : Agrees I2P_BACKING (withDefaults lt I2P_BACKING .empty) lt.defaults :=
      withDefaults_agrees fun key _ => documented.default_held key
    have hostless := getStr_congr defaulted (k := .i2pHostname) (by decide)
    rw [hostless, documented.i2pHostname]
    refine iff_of_true ⟨none, ?_, _, put, ?_⟩ (by simp [Lt.unbracketed, Text.stripPrefix])
    · exact (readI2p_congr defaulted).trans documented.i2p_defaults
    · exact (readI2p_congr defaulted).trans documented.i2p_defaults
  | some c =>
    have reads : readI2p own = .ok (some { c with hostname := c.samHost }) := readI2p_staged put
    obtain ⟨port, -, accepted⟩ := writeI2p_value_ok.mp put
    obtain ⟨-, -, -, rfl⟩ := Lt.i2p_ok.mp accepted
    have host : SettingsPack.getStr (i2pPack (c.config port)) .i2pHostname = some c.samHost := by
      simp [i2pPack, I2pSettings.config]
    rw [host]
    constructor
    · rintro ⟨a, first, again, staged, second⟩ host given
      obtain rfl := Option.some.inj given
      -- what is read is staged again with its host unbracketed, and reads as it did
      obtain rfl := Except.ok.inj (reads.symm.trans first)
      have rewritten := Except.ok.inj (second.symm.trans (readI2p_staged staged))
      cases bracketed : Lt.unbracketed c.samHost with
      | none => rfl
      | some inner =>
        have kept := congrArg I2pSettings.hostname (Option.some.inj rewritten)
        simp only [I2pSettings.samHost] at kept bracketed
        rw [bracketed] at kept
        exact absurd kept.symm (unbracketed_ne bracketed)
    · intro bare
      exact i2p_keeps_some (bare _ rfl) _ put

/-- What is read is a fixed point of writing, at a pack reached by accepted writes, exactly when its
I2P host is not bracketed; and no host is, when no write gave one in two pairs of brackets. -/
theorem readback_fixedPoint (documented : lt.Documented) :
    (∀ p, Reachable lt Rewritable p → FixedPoint lt p) ∧
    ∀ p, Reachable lt (fun _ => True) p →
      (FixedPoint lt p ↔
        ∀ host, p.getStr .i2pHostname = some host → Lt.unbracketed host = none) := by
  constructor
  · intro p reachable
    obtain ⟨kept, held⟩ := reachable.held documented (fun _ rewritable => rewritable)
    refine fixedPoint_iff.mpr ⟨kept, (held.settled_iff documented).mpr ?_⟩
    exact held.bare documented
  · intro p reachable
    have permits : ∀ input, True → ∀ c, SettingsInput.i2p input = .value c → True := by simp
    obtain ⟨kept, held⟩ := reachable.held documented permits
    rw [fixedPoint_iff, ← held.settled_iff documented]
    exact ⟨fun both => both.2, fun settled => ⟨kept, settled⟩⟩

end Reachable

/-! ## A release -/

def ScalarType.accepts : (ty : ScalarType) → ty.Value → Bool
  | .stringChecked, value => decide (Text.len value < 20)
  | .i32Checked low high, value => decide (low ≤ value ∧ value ≤ high)
  | .i32Dscp, value => decide (0 ≤ value ∧ value ≤ 63)
  | .string, _ | .i32, _ | .bool, _ | .u16, _ | .u8, _ => true

theorem ScalarType.accepts_iff {ty : ScalarType} {value : ty.Value} :
    ty.accepts value = true ↔ ty.Accepts value := by
  cases ty <;> simp [ScalarType.accepts, ScalarType.Accepts]

def Scalar.inDomain (p : SettingsPack) (s : Scalar) : Bool :=
  match s.ty.get p s.key with
  | .ok value => s.ty.accepts value
  | .error _ => true

theorem release_documented : release.Documented where
  dense key := ⟨releaseDefault key, rfl, by cases key <;> rfl⟩
  scalars s listed value reads := by
    have checked : ∀ s ∈ SCALARS, s.inDomain release.defaults = true := by decide +kernel
    have accepted := checked s listed
    simp only [Scalar.inDomain, reads] at accepted
    exact ScalarType.accepts_iff.mp accepted
  userAgent := by decide +kernel
  proxyType := rfl
  i2pHostname := rfl
  inEncPolicy := ⟨_, rfl⟩
  outEncPolicy := ⟨_, rfl⟩
  allowedEncLevel := ⟨_, rfl⟩
  preferRc4 := rfl
  outgoingPort := rfl
  diskIoReadMode := ⟨_, rfl⟩
  diskIoWriteMode := ⟨_, rfl⟩
  diskWriteMode := ⟨_, rfl⟩
  suggestMode := ⟨_, rfl⟩
  chokingAlgorithm := ⟨_, rfl⟩
  seedChokingAlgorithm := ⟨_, rfl⟩
  mixedModeAlgorithm := ⟨_, rfl⟩
  outgoingInterfaces := rfl
  listenInterfaces := rfl
  dhtBootstrapNodes := rfl

/-- An I2P bridge with the given host. -/
def bridge (hostname : Text) : SettingsInput :=
  let tunnel : I2pTunnel := ⟨3, 3, 0⟩
  { SettingsInput.undefined with i2p := .value ⟨hostname, 7656, false, tunnel, tunnel⟩ }

def accepts (lt : Libtorrent) (input : SettingsInput) : Bool :=
  match write lt input .empty with
  | .ok () _ => true
  | .error _ _ => false

def written (lt : Libtorrent) (p : SettingsPack) (input : SettingsInput) : SettingsPack :=
  match write lt input .empty with
  | .ok () delta => p.apply delta
  | .error _ _ => p

theorem written_reachable {lt : Libtorrent} {allowed : SettingsInput → Prop} {p : SettingsPack}
    {input : SettingsInput} (reachable : Reachable lt allowed p) (permitted : allowed input) :
    Reachable lt allowed (written lt p input) := by
  rw [written]
  cases ran : write lt input .empty with
  | ok _ delta => exact reachable.write permitted ran
  | error e delta => exact reachable

/-- A bridge given in one pair of brackets is read and written back. -/
theorem readback_fixedPoint_bracketed :
    Reachable release Rewritable (written release release.defaults (bridge "[::1]".toList)) ∧
      FixedPoint release (written release release.defaults (bridge "[::1]".toList)) := by
  have rewritable : Rewritable (bridge "[::1]".toList) := by
    intro c given
    obtain rfl := MaybeUndefined.value.inj given
    decide
  have reached : Reachable release Rewritable
      (written release release.defaults (bridge "[::1]".toList)) :=
    written_reachable .defaults rewritable
  exact ⟨reached, (readback_fixedPoint release_documented).1 _ reached⟩

/-- The pack reads, and its view is rejected when it is written back. -/
def rejectedBack (lt : Libtorrent) (p : SettingsPack) : Bool :=
  match read p with
  | .ok view => !accepts lt view.toInput
  | .error _ => false

theorem not_fixedPoint_of_rejectedBack {lt : Libtorrent} {p : SettingsPack}
    (rejected : rejectedBack lt p = true) : ¬ FixedPoint lt p := by
  rintro ⟨view, reads, delta, accepted, -⟩
  simp [rejectedBack, reads, accepts, accepted] at rejected

/-- A bridge given in two pairs of brackets is accepted and stored in one; read and written back, it
is rejected for an empty host. -/
theorem readback_doubled_brackets :
    accepts release (bridge "[[]]".toList) = true ∧
      ¬ ∀ p, Reachable release (fun _ => True) p → FixedPoint release p := by
  refine ⟨by decide +kernel, fun claimed => ?_⟩
  have reached : Reachable release (fun _ => True)
      (written release release.defaults (bridge "[[]]".toList)) :=
    written_reachable .defaults trivial
  exact not_fixedPoint_of_rejectedBack (by decide +kernel) (claimed _ reached)

end Rsbtd.Settings
