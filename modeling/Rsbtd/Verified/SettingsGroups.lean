import Rsbtd.Settings.Api

/-!
# The settings as groups

Each public field is a group: its backing keys, its reader, and its writer for a
defined value.  Per typed setter one lemma says when it accepts and what it then
stages; per group one lemma says that what it stages reads back.
-/

namespace Rsbtd.Settings

open Rsbtd.Keyed Rsbtd.Keyed.Store

abbrev SettingGroup (α : Type) := Group SettingKey SettingValue SettingsError α

section Getters

variable {s t : SettingsPack} {k key other : SettingKey} {keys : List SettingKey}

theorem getStr_congr (agrees : Agrees keys s t) (listed : k ∈ keys) :
    s.getStr k = t.getStr k := by
  simp only [SettingsPack.getStr, agrees k listed]

theorem getInt_congr (agrees : Agrees keys s t) (listed : k ∈ keys) :
    s.getInt k = t.getInt k := by
  simp only [SettingsPack.getInt, agrees k listed]

theorem getBool_congr (agrees : Agrees keys s t) (listed : k ∈ keys) :
    s.getBool k = t.getBool k := by
  simp only [SettingsPack.getBool, agrees k listed]

theorem getEnum_congr {T : Type} [Lt.RawI32 T] (agrees : Agrees keys s t) (listed : k ∈ keys) :
    Lt.getEnum T s k = Lt.getEnum T t k := by
  rw [Lt.getEnum, Lt.getEnum, getInt_congr agrees listed]

@[simp] theorem getStr_set_self {value : Text} :
    SettingsPack.getStr (Store.set s key (.str value)) key = some value := by
  simp [SettingsPack.getStr]

@[simp] theorem getInt_set_self {value : Int32} :
    SettingsPack.getInt (Store.set s key (.int value)) key = some value := by
  simp [SettingsPack.getInt]

@[simp] theorem getBool_set_self {value : Bool} :
    SettingsPack.getBool (Store.set s key (.bool value)) key = some value := by
  simp [SettingsPack.getBool]

@[simp] theorem getEnum_set_self {T : Type} [Lt.RawI32 T] {value : T} :
    Lt.getEnum T (Store.set s key (.int (Lt.RawI32.raw value))) key = some value := by
  simp [Lt.getEnum, Lt.RawI32.fromRaw_raw]

@[simp] theorem getStr_set_other {value : SettingValue} (distinct : key ≠ other) :
    SettingsPack.getStr (Store.set s other value) key = s.getStr key := by
  simp [SettingsPack.getStr, distinct]

@[simp] theorem getInt_set_other {value : SettingValue} (distinct : key ≠ other) :
    SettingsPack.getInt (Store.set s other value) key = s.getInt key := by
  simp [SettingsPack.getInt, distinct]

@[simp] theorem getBool_set_other {value : SettingValue} (distinct : key ≠ other) :
    SettingsPack.getBool (Store.set s other value) key = s.getBool key := by
  simp [SettingsPack.getBool, distinct]

@[simp] theorem getEnum_set_other {T : Type} [Lt.RawI32 T] {value : SettingValue}
    (distinct : key ≠ other) :
    Lt.getEnum T (Store.set s other value) key = Lt.getEnum T s key := by
  rw [Lt.getEnum, Lt.getEnum, getInt_set_other distinct]

end Getters

section Checks

theorem forM_ok {E α : Type} {xs : List α} {f : α → Except E Unit} :
    xs.forM f = .ok () ↔ ∀ x ∈ xs, f x = .ok () := by
  induction xs with
  | nil => simp [pure, Except.pure]
  | cons x xs ih =>
    rw [List.forall_mem_cons, ← ih]
    change (f x >>= fun _ => xs.forM f) = _ ↔ _
    cases f x with
    | ok u => simp [bind, Except.bind]
    | error e => simp [bind, Except.bind]

theorem reject_ok {E : Type} {c : Prop} [Decidable c] {e : E} {u : Unit} :
    (if c then .error e else .ok () : Except E Unit) = .ok u ↔ ¬ c := by
  split
  case isTrue holds => simp [holds]
  case isFalse fails => simp [fails]

theorem inRange_ok {setting : String} {value low high : Int32} {u : Unit} :
    Lt.inRange setting value low high = .ok u ↔ low ≤ value ∧ value ≤ high := by
  unfold Lt.inRange
  split
  case isTrue inside => simp [inside]
  case isFalse outside => simp [outside]

theorem except_bind_ok {E α β : Type} {r : Except E α} {f : α → Except E β} {b : β} :
    (r >>= f) = .ok b ↔ ∃ a, r = .ok a ∧ f a = .ok b := by
  cases r with
  | ok a => simp [bind, Except.bind]
  | error e => simp [bind, Except.bind]

end Checks

/-! ## Scalars -/

section Scalars

variable {s t d : SettingsPack} {key : SettingKey} {ty : ScalarType}

theorem dscp_code {value : Int32} (inside : 0 ≤ value ∧ value ≤ 63) :
    ((value <<< (2 : Int32)) &&& 0xfc) >>> (2 : Int32) = value := by
  have small : ∀ n : Fin 64,
      ((Int32.ofNat n.val <<< (2 : Int32)) &&& 0xfc) >>> (2 : Int32) = Int32.ofNat n.val := by
    decide +kernel
  have low : 0 ≤ value.toInt := Int32.le_iff_toInt_le.mp inside.1
  have high : value.toInt ≤ 63 := Int32.le_iff_toInt_le.mp inside.2
  have fits : value.toInt.toNat < 64 := by omega
  have spelled : value = Int32.ofNat value.toInt.toNat := by
    apply Int32.toInt_inj.mp
    rw [Int32.toInt_ofNat_of_lt (by omega)]
    omega
  have code := small ⟨_, fits⟩
  rwa [← spelled] at code

namespace ScalarType

theorem get_congr (agrees : Agrees [key] s t) : ty.get s key = ty.get t key := by
  have str := getStr_congr agrees (List.mem_singleton.mpr rfl)
  have int := getInt_congr agrees (List.mem_singleton.mpr rfl)
  have bool := getBool_congr agrees (List.mem_singleton.mpr rfl)
  cases ty with
  | string | stringChecked => simp only [get, str]
  | i32 | i32Checked | u16 | u8 => simp only [get, int]
  | i32Dscp => simp only [get, Lt.getPeerDscp, int]
  | bool => simp only [get, bool]

theorem oblivious_set (value : ty.Value) : Oblivious (ty.set key value) := by
  cases ty with
  | string => exact Lt.oblivious_setStr _
  | stringChecked =>
    exact oblivious_rbErr ((oblivious_check _).bind fun _ => Lt.oblivious_setStr _)
  | i32 => exact Lt.oblivious_setInt _
  | i32Checked low high =>
    exact oblivious_rbErr ((oblivious_check _).bind fun _ => Lt.oblivious_setInt _)
  | i32Dscp => exact oblivious_rbErr ((oblivious_check _).bind fun _ => Lt.oblivious_setInt _)
  | bool => exact Lt.oblivious_setBool _
  | u16 => exact Lt.oblivious_setInt _
  | u8 => exact Lt.oblivious_setInt _

/-- The domain of the field. -/
def Accepts : (ty : ScalarType) → ty.Value → Prop
  | .stringChecked, value => Text.len value < 20
  | .i32Checked low high, value => low ≤ value ∧ value ≤ high
  | .i32Dscp, value => 0 ≤ value ∧ value ≤ 63
  | .string, _ | .i32, _ | .bool, _ | .u16, _ | .u8, _ => True

/-- The raw value an accepted field is stored as. -/
def store : (ty : ScalarType) → ty.Value → SettingValue
  | .string, value | .stringChecked, value => .str value
  | .i32, value | .i32Checked _ _, value => .int value
  | .i32Dscp, value => .int (value <<< (2 : Int32))
  | .bool, value => .bool value
  | .u16, value => .int (i32OfU16 value)
  | .u8, value => .int (i32OfU8 value)

theorem set_ok (kind : key.kind = ty.kind) {value : ty.Value} :
    ty.set key value .empty = .ok () d ↔
      ty.Accepts value ∧ d = Store.empty.set key (ty.store value) := by
  cases ty with
  | string => simp only [set, Lt.setStr_ok kind, Accepts, store, true_and]
  | stringChecked =>
    simp only [set, rbErr_ok, Lt.peerFingerprint, bind_eq_ok, check_eq_ok, reject_ok,
      Lt.setStr_ok kind, and_assoc, exists_eq_left, exists_const, exists_and_left, Accepts, store,
      Nat.not_le]
  | i32 => simp only [set, Lt.setInt_ok kind, Accepts, store, true_and]
  | i32Checked low high =>
    simp only [set, rbErr_ok, Lt.setInRange, bind_eq_ok, check_eq_ok, inRange_ok,
      Lt.setInt_ok kind, and_assoc, exists_eq_left, exists_const, exists_and_left, Accepts, store]
  | i32Dscp =>
    simp only [set, rbErr_ok, Lt.peerDscp, bind_eq_ok, check_eq_ok, inRange_ok,
      Lt.setInt_ok kind, and_assoc, exists_eq_left, exists_const, exists_and_left, Accepts, store]
  | bool => simp only [set, Lt.setBool_ok kind, Accepts, store, true_and]
  | u16 => simp only [set, Lt.setInt_ok kind, Accepts, store, true_and]
  | u8 => simp only [set, Lt.setInt_ok kind, Accepts, store, true_and]

theorem get_store {value : ty.Value} (accepted : ty.Accepts value) :
    ty.get (Store.set s key (ty.store value)) key = .ok value := by
  cases ty with
  | string | stringChecked | i32 | i32Checked | bool => simp [get, store]
  | i32Dscp => simp [get, store, Lt.getPeerDscp, dscp_code accepted]
  | u16 => simp [get, store, satU16_i32OfU16, orMissing, Except.map]
  | u8 => simp [get, store, satU8_i32OfU8, orMissing, Except.map]

end ScalarType

def scalarGroup (s : Scalar) : SettingGroup s.ty.Value where
  keys := [s.key]
  read pack := s.ty.get pack s.key
  put := s.ty.set s.key
  read_local := ScalarType.get_congr
  oblivious := ScalarType.oblivious_set
  stages {a delta} staged key := by
    obtain ⟨-, rfl⟩ := (ScalarType.set_ok s.kind_eq).mp staged
    simp

theorem scalar_exact (s : Scalar) (value : s.ty.Value) : (scalarGroup s).Exact value := by
  intro own staged
  obtain ⟨accepted, rfl⟩ := (ScalarType.set_ok s.kind_eq).mp staged
  exact ScalarType.get_store accepted

end Scalars

/-! ## The user agent -/

section UserAgent

variable {lt : Libtorrent} {d : SettingsPack} {choice : UserAgent} {value : Text}

theorem writeUserAgent_ok :
    writeUserAgent lt (.value choice) .empty = .ok () d ↔
      ∃ value, userAgentValue lt choice = .ok value ∧
        d = Store.empty.set .userAgent (.str value) := by
  simp (disch := decide) only [writeUserAgent, whenDefined_value, bind_eq_ok, check_eq_ok,
    Lt.setStr_ok, and_assoc, exists_eq_left, exists_and_left]

theorem oblivious_writeUserAgent (value : MaybeUndefined UserAgent) :
    Oblivious (writeUserAgent lt value) :=
  oblivious_whenDefined fun _ => (oblivious_check _).bind fun _ => Lt.oblivious_setStr _

def userAgentGroup (lt : Libtorrent) : SettingGroup UserAgent where
  keys := [.userAgent]
  read := readUserAgent
  put choice := writeUserAgent lt (.value choice)
  read_local agrees := by
    simp only [readUserAgent, getStr_congr agrees (List.mem_singleton.mpr rfl)]
  oblivious _ := oblivious_writeUserAgent _
  stages staged key := by
    obtain ⟨value, -, rfl⟩ := writeUserAgent_ok.mp staged
    simp

theorem isPrefixOf_append (stem rest : Text) : stem.isPrefixOf (stem ++ rest) = true :=
  List.isPrefixOf_iff_prefix.mpr (List.prefix_append stem rest)

/-- Whatever the version, a written identity is recognized again. -/
theorem readUserAgent_value {s : SettingsPack} (spelled : userAgentValue lt choice = .ok value)
    (held : s.getStr .userAgent = some value) : readUserAgent s = .ok choice := by
  simp only [readUserAgent, held]
  cases choice with
  | none =>
    obtain rfl := Except.ok.inj spelled
    rfl
  | libtorrent =>
    obtain rfl := Except.ok.inj spelled
    change Except.ok _ = _
    rw [if_neg (by simp), if_pos (isPrefixOf_append _ _)]
  | rsbtd =>
    obtain rfl := Except.ok.inj spelled
    rfl
  | qBittorrent =>
    obtain rfl := Except.ok.inj spelled
    rfl
  | unrecognized => cases spelled

theorem userAgent_exact (choice : UserAgent) : (userAgentGroup lt).Exact choice := by
  intro own staged
  obtain ⟨value, spelled, rfl⟩ := writeUserAgent_ok.mp staged
  exact readUserAgent_value spelled getStr_set_self

end UserAgent

/-! ## Resetting a group -/

section Defaults

variable {lt : Libtorrent} {keys : List SettingKey} {s d : SettingsPack} {E : Type}

/-- The defaults of the given settings, on top of what was staged. -/
def withDefaults (lt : Libtorrent) (keys : List SettingKey) (s : SettingsPack) : SettingsPack :=
  fun key => if key ∈ keys then some (Lt.defaultValue lt key) else s key

theorem forM_setDefault :
    (keys.forM (Lt.setDefault lt) : Writer SettingKey SettingValue E Unit) s =
      .ok () (withDefaults lt keys s) := by
  induction keys generalizing s with
  | nil =>
    have same : withDefaults lt [] s = s := by
      funext key
      simp [withDefaults]
    rw [same]
    rfl
  | cons key keys ih =>
    change EStateM.bind (Lt.setDefault lt key) (fun _ => keys.forM (Lt.setDefault lt)) s = _
    rw [EStateM.bind, Lt.setDefault_eq, stage_apply]
    change keys.forM (Lt.setDefault lt) (Store.set s key (Lt.defaultValue lt key)) = _
    rw [ih]
    congr 1
    funext other
    by_cases listed : other ∈ keys
    · simp [withDefaults, listed]
    · by_cases same : other = key
      · subst same
        simp [withDefaults, listed]
      · simp [withDefaults, listed, same]

theorem oblivious_forM_setDefault :
    Oblivious (keys.forM (Lt.setDefault lt) : Writer SettingKey SettingValue E Unit) := by
  induction keys with
  | nil => exact oblivious_pure ()
  | cons key keys ih => exact (Lt.oblivious_setDefault lt).seq ih

theorem withDefaults_has {key : SettingKey} :
    (withDefaults lt keys .empty).has key = true ↔ key ∈ keys := by
  by_cases listed : key ∈ keys
  · simp [withDefaults, Store.has, listed]
  · simp [withDefaults, Store.has, listed]

theorem withDefaults_agrees (dense : ∀ key ∈ keys, lt.defaults key = some (Lt.defaultValue lt key)) :
    Agrees keys (withDefaults lt keys .empty) lt.defaults := by
  intro key listed
  simp [withDefaults, listed, dense key listed]

end Defaults

/-! ## The proxy -/

section Proxy

variable {lt : Libtorrent} {d : SettingsPack} {p : ProxySettings} {host bare : Text}
  {port : Lt.NonZeroU16} {v : Lt.ProxyValues}

/-- What a configured proxy stages. -/
def proxyPack (host : Text) (port : UInt16) (v : Lt.ProxyValues) (peers trackers : Bool) :
    SettingsPack :=
  (((((((((Store.empty.set .proxyType (.int (Lt.RawI32.raw v.ty))).set
    .proxyHostname (.str host)).set
    .proxyPort (.int (i32OfU16 port))).set
    .proxyUsername (.str v.username)).set
    .proxyPassword (.str v.password)).set
    .proxyHostnames (.bool v.resolve)).set
    .proxyPeerConnections (.bool peers)).set
    .proxyTrackerConnections (.bool trackers)).set
    .socks5UdpSendLocalEp (.bool v.udpLocal)).set
    .proxySendHostInConnect (.bool v.hostInConnect)

theorem Lt.proxy_ok {c : Lt.ProxyConfig} :
    Lt.proxy lt (some c) .empty = .ok () d ↔
      ∃ host, Lt.proxyHost c.host = .ok host ∧ Lt.bareHostToken "proxy" "host" host = .ok () ∧
        ∃ v, c.protocol.values = .ok v ∧
          d = proxyPack host c.port v c.peerConnections c.trackerConnections := by
  simp (disch := decide) only [Lt.proxy, bind_eq_ok, check_eq_ok, Lt.setEnum, Lt.setInt_ok,
    Lt.setStr_ok, Lt.setBool_ok, and_assoc, exists_eq_left, exists_and_left, exists_const,
    exists_unit, proxyPack]

theorem portFor_ok {place : String} {port : UInt16} {nonzero : Lt.NonZeroU16} :
    portFor place port = .ok nonzero ↔ nonzero.val = port := by
  unfold portFor Lt.nonZero
  by_cases zero : port = 0
  · subst zero
    simp [nonzero.property]
  · simp [zero, Subtype.ext_iff, eq_comm]

theorem writeProxy_value_ok :
    writeProxy lt (.value p) .empty = .ok () d ↔
      ∃ port : Lt.NonZeroU16, port.val = p.port ∧ p.validate = .ok () ∧
        Lt.proxy lt (some (p.config port)) .empty = .ok () d := by
  simp only [writeProxy, nullable, bind_eq_ok, check_eq_ok, rbErr_ok, portFor_ok, and_assoc,
    exists_eq_left, exists_and_left, exists_unit]

/-- The stored host is bare: unbracketing it again changes nothing. -/
theorem proxyHost_bare (accepted : Lt.proxyHost host = .ok bare) : Lt.proxyHost bare = .ok bare := by
  simp only [Lt.proxyHost, except_bind_ok] at accepted
  obtain ⟨inner, -, clean⟩ := accepted
  split at clean
  case isTrue => cases clean
  case isFalse stray =>
    obtain rfl := Except.ok.inj clean
    have unopened : Text.stripPrefix '[' inner = none := by
      rw [Option.eq_none_iff_forall_ne_some]
      intro rest opened
      exact stray (.inl (by simp [Text.stripPrefix_eq_some.mp opened]))
    simp only [Lt.proxyHost, except_bind_ok, Lt.stripBrackets, unopened]
    exact ⟨inner, rfl, if_neg stray⟩

end Proxy

section ProxyGroup

variable {lt : Libtorrent} {d : SettingsPack} {p : ProxySettings} {host : Text}
  {port : Lt.NonZeroU16} {v : Lt.ProxyValues}

/-- The combinations the validation lets through are those the stored group can express. -/
theorem config_values (valid : p.validate = .ok ())
    (values : (p.config port).protocol.values = .ok v) :
    ProxyProtocol.fromLt v.ty = some p.protocol ∧ v.username = p.username ∧
      v.password = p.password ∧ v.resolve = p.resolveHostnames ∧
      v.udpLocal = p.socks5UdpSendLocalEndpoint ∧ v.hostInConnect = p.sendHostnameInConnect := by
  obtain ⟨protocol, hostname, port', username, password, resolve, peers, trackers, udp, connect⟩ := p
  cases protocol with
  | socks4 =>
    simp [ProxySettings.validate, ProxyProtocol.wantsAuth] at valid
    simp only [ProxySettings.config, Lt.ProxyProtocol.values] at values
    split at values
    case isTrue => cases values
    case isFalse =>
      obtain rfl := Except.ok.inj values
      grind [ProxyProtocol.fromLt]
  | socks5 =>
    simp [ProxySettings.validate, ProxyProtocol.wantsAuth] at valid
    simp [ProxySettings.config, Lt.ProxyProtocol.values, Lt.credentials, except_bind_ok,
      ProxyProtocol.wantsAuth] at values
    subst values
    grind [ProxyProtocol.fromLt]
  | http =>
    simp [ProxySettings.validate, ProxyProtocol.wantsAuth] at valid
    simp [ProxySettings.config, Lt.ProxyProtocol.values, Lt.credentials, except_bind_ok,
      ProxyProtocol.wantsAuth] at values
    subst values
    grind [ProxyProtocol.fromLt]
  | socks5Password =>
    simp [ProxySettings.validate, ProxyProtocol.wantsAuth] at valid
    simp [ProxySettings.config, Lt.ProxyProtocol.values, except_bind_ok,
      ProxyProtocol.wantsAuth] at values
    obtain ⟨u, w, spelled, rfl⟩ := values
    grind [ProxyProtocol.fromLt, Lt.credentials]
  | httpPassword =>
    simp [ProxySettings.validate, ProxyProtocol.wantsAuth] at valid
    simp [ProxySettings.config, Lt.ProxyProtocol.values, except_bind_ok,
      ProxyProtocol.wantsAuth] at values
    obtain ⟨u, w, spelled, rfl⟩ := values
    grind [ProxyProtocol.fromLt, Lt.credentials]

theorem readProxy_congr {s t : SettingsPack} (agrees : Agrees PROXY_BACKING s t) :
    readProxy s = readProxy t := by
  have str : ∀ key ∈ PROXY_BACKING, s.getStr key = t.getStr key := fun _ => getStr_congr agrees
  have int : ∀ key ∈ PROXY_BACKING, s.getInt key = t.getInt key := fun _ => getInt_congr agrees
  have bool : ∀ key ∈ PROXY_BACKING, s.getBool key = t.getBool key := fun _ => getBool_congr agrees
  simp only [readProxy, Lt.getEnum]
  rw [int .proxyType (by decide), str .proxyHostname (by decide), int .proxyPort (by decide),
    str .proxyUsername (by decide), str .proxyPassword (by decide), bool .proxyHostnames (by decide),
    bool .proxyPeerConnections (by decide), bool .proxyTrackerConnections (by decide),
    bool .socks5UdpSendLocalEp (by decide), bool .proxySendHostInConnect (by decide)]

theorem readProxy_pack {peers trackers : Bool} {protocol : ProxyProtocol} {port : UInt16}
    (known : ProxyProtocol.fromLt v.ty = some protocol) :
    readProxy (proxyPack host port v peers trackers) =
      .ok (some ⟨protocol, host, port, v.username, v.password, v.resolve, peers, trackers,
        v.udpLocal, v.hostInConnect⟩) := by
  simp [readProxy, proxyPack, orMissing, effectivePort, u16OfI32_i32OfU16, known, bind, Except.bind]

theorem proxyPack_has {peers trackers : Bool} {port : UInt16} (key : SettingKey) :
    (proxyPack host port v peers trackers).has key = true ↔ key ∈ PROXY_BACKING := by
  simp [proxyPack, PROXY_BACKING]
  grind

theorem writeProxy_null_ok :
    writeProxy lt .null .empty = .ok () d ↔ d = withDefaults lt PROXY_BACKING .empty := by
  simp only [writeProxy, nullable, rbErr_ok, Lt.proxy, forM_setDefault]
  simp [PROXY_BACKING, Lt.PROXY_KEYS, eq_comm]

theorem oblivious_proxy (config : Option Lt.ProxyConfig) : Oblivious (Lt.proxy lt config) := by
  cases config with
  | none => exact oblivious_forM_setDefault
  | some c =>
    apply (oblivious_check _).bind
    intro host
    apply (oblivious_check _).bind
    intro _
    apply (oblivious_check _).bind
    intro v
    apply (Lt.oblivious_setInt _).seq
    apply (Lt.oblivious_setStr _).seq
    apply (Lt.oblivious_setInt _).seq
    apply (Lt.oblivious_setStr _).seq
    apply (Lt.oblivious_setStr _).seq
    apply (Lt.oblivious_setBool _).seq
    apply (Lt.oblivious_setBool _).seq
    apply (Lt.oblivious_setBool _).seq
    apply (Lt.oblivious_setBool _).seq
    exact Lt.oblivious_setBool _

theorem oblivious_writeProxy (value : MaybeUndefined ProxySettings) :
    Oblivious (writeProxy lt value) := by
  cases value with
  | undefined => exact oblivious_pure ()
  | null => exact oblivious_rbErr (oblivious_proxy none)
  | value p =>
    apply (oblivious_check _).bind
    intro port
    exact (oblivious_check _).seq (oblivious_rbErr (oblivious_proxy _))

def proxyGroup (lt : Libtorrent) : SettingGroup (Option ProxySettings) where
  keys := PROXY_BACKING
  read := readProxy
  put proxy := writeProxy lt (orNull proxy)
  read_local := readProxy_congr
  oblivious _ := oblivious_writeProxy _
  stages {proxy delta} staged key := by
    cases proxy with
    | none =>
      obtain rfl := writeProxy_null_ok.mp staged
      exact withDefaults_has
    | some p =>
      obtain ⟨port, -, -, accepted⟩ := writeProxy_value_ok.mp staged
      obtain ⟨host, -, -, v, -, rfl⟩ := Lt.proxy_ok.mp accepted
      exact proxyPack_has key

/-- A configured proxy reads back with its host bare, and so it is written again. -/
theorem proxy_keeps_some (p : ProxySettings) : (proxyGroup lt).Keeps (some p) := by
  intro own staged
  obtain ⟨port, same, valid, accepted⟩ := writeProxy_value_ok.mp staged
  obtain ⟨host, bare, token, v, values, rfl⟩ := Lt.proxy_ok.mp accepted
  obtain ⟨known, username, password, resolve, udp, connect⟩ := config_values valid values
  have reads : readProxy (proxyPack host port v p.peerConnections p.trackerConnections) =
      .ok (some { p with hostname := host }) := by
    rw [readProxy_pack known, username, password, resolve, udp, connect, same]
  refine ⟨_, reads, _, ?_, reads⟩
  apply writeProxy_value_ok.mpr
  refine ⟨port, same, valid, ?_⟩
  exact Lt.proxy_ok.mpr ⟨host, proxyHost_bare bare, token, v, values, rfl⟩

end ProxyGroup

/-! ## I2P -/

section I2p

variable {lt : Libtorrent} {d : SettingsPack} {c : I2pSettings}

/-- What a configured bridge stages. -/
def i2pPack (c : Lt.I2pConfig) : SettingsPack :=
  ((((((((Store.empty.set .i2pHostname (.str c.samHost)).set
    .i2pPort (.int (i32OfU16 c.samPort))).set
    .allowI2pMixed (.bool c.allowMixed)).set
    .i2pInboundQuantity (.int (i32OfU8 c.inbound.quantity))).set
    .i2pInboundLength (.int (i32OfU8 c.inbound.length))).set
    .i2pInboundLengthVariance (.int (i32OfI8 c.inbound.variance))).set
    .i2pOutboundQuantity (.int (i32OfU8 c.outbound.quantity))).set
    .i2pOutboundLength (.int (i32OfU8 c.outbound.length))).set
    .i2pOutboundLengthVariance (.int (i32OfI8 c.outbound.variance))

theorem Lt.i2p_ok {c : Lt.I2pConfig} :
    Lt.i2p lt (some c) .empty = .ok () d ↔
      Lt.bareHostToken "i2p" "SAM host" c.samHost = .ok () ∧
        c.inbound.validate "inbound" = .ok () ∧ c.outbound.validate "outbound" = .ok () ∧
        d = i2pPack c := by
  simp (disch := decide) only [Lt.i2p, bind_eq_ok, check_eq_ok, Lt.setInt_ok, Lt.setStr_ok,
    Lt.setBool_ok, and_assoc, exists_eq_left, exists_and_left, exists_const, exists_unit, i2pPack]

theorem writeI2p_value_ok :
    writeI2p lt (.value c) .empty = .ok () d ↔
      ∃ port : Lt.NonZeroU16, port.val = c.port ∧
        Lt.i2p lt (some (c.config port)) .empty = .ok () d := by
  simp only [writeI2p, nullable, bind_eq_ok, check_eq_ok, rbErr_ok, portFor_ok, and_assoc,
    exists_eq_left, exists_and_left]

theorem writeI2p_null_ok :
    writeI2p lt .null .empty = .ok () d ↔ d = withDefaults lt I2P_BACKING .empty := by
  simp only [writeI2p, nullable, rbErr_ok, Lt.i2p, forM_setDefault]
  simp [I2P_BACKING, Lt.I2P_KEYS, eq_comm]

theorem readI2p_congr {s t : SettingsPack} (agrees : Agrees I2P_BACKING s t) :
    readI2p s = readI2p t := by
  have int : ∀ key ∈ I2P_BACKING, s.getInt key = t.getInt key := fun _ => getInt_congr agrees
  simp only [readI2p, Lt.getI2p]
  rw [getStr_congr agrees (k := .i2pHostname) (by decide),
    getBool_congr agrees (k := .allowI2pMixed) (by decide), int .i2pPort (by decide),
    int .i2pInboundQuantity (by decide), int .i2pInboundLength (by decide),
    int .i2pInboundLengthVariance (by decide), int .i2pOutboundQuantity (by decide),
    int .i2pOutboundLength (by decide), int .i2pOutboundLengthVariance (by decide)]

theorem nonZero_val (port : Lt.NonZeroU16) : Lt.nonZero port.val = some port := by
  simp [Lt.nonZero, port.property]

theorem getI2p_pack {c : Lt.I2pConfig} (named : c.samHost ≠ []) :
    Lt.getI2p (i2pPack c) = some (some c) := by
  simp [Lt.getI2p, i2pPack, Lt.getI2pTunnels, u16OfI32_i32OfU16, u8OfI32_i32OfU8,
    i8OfI32_i32OfI8, nonZero_val, named]

theorem i2pPack_has {c : Lt.I2pConfig} (key : SettingKey) :
    (i2pPack c).has key = true ↔ key ∈ I2P_BACKING := by
  simp [i2pPack, I2P_BACKING]
  grind

theorem oblivious_i2p (config : Option Lt.I2pConfig) : Oblivious (Lt.i2p lt config) := by
  cases config with
  | none => exact oblivious_forM_setDefault
  | some c =>
    apply (oblivious_check _).seq
    apply (oblivious_check _).seq
    apply (oblivious_check _).seq
    apply (Lt.oblivious_setStr _).seq
    apply (Lt.oblivious_setInt _).seq
    apply (Lt.oblivious_setBool _).seq
    apply (Lt.oblivious_setInt _).seq
    apply (Lt.oblivious_setInt _).seq
    apply (Lt.oblivious_setInt _).seq
    apply (Lt.oblivious_setInt _).seq
    apply (Lt.oblivious_setInt _).seq
    exact Lt.oblivious_setInt _

theorem oblivious_writeI2p (value : MaybeUndefined I2pSettings) : Oblivious (writeI2p lt value) := by
  cases value with
  | undefined => exact oblivious_pure ()
  | null => exact oblivious_rbErr (oblivious_i2p none)
  | value c =>
    apply (oblivious_check _).bind
    intro port
    exact oblivious_rbErr (oblivious_i2p _)

def i2pGroup (lt : Libtorrent) : SettingGroup (Option I2pSettings) where
  keys := I2P_BACKING
  read := readI2p
  put i2p := writeI2p lt (orNull i2p)
  read_local := readI2p_congr
  oblivious _ := oblivious_writeI2p _
  stages {i2p delta} staged key := by
    cases i2p with
    | none =>
      obtain rfl := writeI2p_null_ok.mp staged
      exact withDefaults_has
    | some c =>
      obtain ⟨port, -, accepted⟩ := writeI2p_value_ok.mp staged
      obtain ⟨-, -, -, rfl⟩ := Lt.i2p_ok.mp accepted
      exact i2pPack_has key

/-- A configured bridge reads back with its host unbracketed. -/
theorem readI2p_staged (staged : writeI2p lt (.value c) .empty = .ok () d) :
    readI2p d = .ok (some { c with hostname := c.samHost }) := by
  obtain ⟨port, same, accepted⟩ := writeI2p_value_ok.mp staged
  obtain ⟨token, -, -, rfl⟩ := Lt.i2p_ok.mp accepted
  have named : c.samHost ≠ [] := (Lt.bareHostToken_ok.mp token).1
  have config := getI2p_pack (c := c.config port) named
  simp only [readI2p, config]
  simp [I2pSettings.config, I2pTunnel.fromLt, I2pTunnel.toLt, same]

/-- What is no longer bracketed is written again as it reads. -/
theorem i2p_keeps_some (bare : Lt.unbracketed c.samHost = none) :
    (i2pGroup lt).Keeps (some c) := by
  intro own staged
  have reads : (i2pGroup lt).read own = .ok (some { c with hostname := c.samHost }) :=
    readI2p_staged staged
  refine ⟨_, reads, own, ?_, reads⟩
  obtain ⟨port, same, accepted⟩ := writeI2p_value_ok.mp staged
  apply writeI2p_value_ok.mpr
  refine ⟨port, same, ?_⟩
  have kept : I2pSettings.samHost { c with hostname := c.samHost } = c.samHost := by
    simp [I2pSettings.samHost] at bare ⊢
    simp [bare]
  simpa only [I2pSettings.config, kept] using accepted

end I2p

/-! ## Plain groups -/

section Plain

variable {d : SettingsPack}

theorem EncryptionPolicy.fromLt_toLt (policy : EncryptionPolicy) :
    EncryptionPolicy.fromLt policy.toLt = policy := by
  cases policy <;> rfl

theorem EncryptionMethods.fromLt_level {m : EncryptionMethods} {level : Lt.EncLevel}
    (accepted : m.level = .ok level) : EncryptionMethods.fromLt level = m := by
  obtain ⟨plaintext, rc4⟩ := m
  cases plaintext with
  | true =>
    cases rc4 with
    | true =>
      obtain rfl := Except.ok.inj accepted
      rfl
    | false =>
      obtain rfl := Except.ok.inj accepted
      rfl
  | false =>
    cases rc4 with
    | true =>
      obtain rfl := Except.ok.inj accepted
      rfl
    | false => cases accepted

def encryptionPack (e : EncryptionSettings) (level : Lt.EncLevel) : SettingsPack :=
  ((((Store.empty.set .inEncPolicy (.int (Lt.RawI32.raw e.incoming.toLt))).set
    .outEncPolicy (.int (Lt.RawI32.raw e.outgoing.toLt))).set
    .allowedEncLevel (.int (Lt.RawI32.raw level))).set
    .preferRc4 (.bool e.preferRc4)).set
    .announceCryptoSupport (.bool e.announceSupport)

theorem writeEncryption_ok {e : EncryptionSettings} :
    writeEncryption (.value e) .empty = .ok () d ↔
      ∃ level, e.methods.level = .ok level ∧ ¬ (e.preferRc4 = true ∧ level ≠ .peBoth) ∧
        d = encryptionPack e level := by
  simp (disch := decide) only [writeEncryption, whenDefined_value, bind_eq_ok, check_eq_ok,
    reject_ok, Lt.setEnum, Lt.setInt_ok, Lt.setBool_ok, and_assoc, exists_eq_left, exists_and_left,
    exists_const, encryptionPack]

theorem oblivious_writeEncryption (value : MaybeUndefined EncryptionSettings) :
    Oblivious (writeEncryption value) := by
  apply oblivious_whenDefined
  intro e
  apply (oblivious_check _).bind
  intro level
  apply (oblivious_check _).seq
  apply (Lt.oblivious_setInt _).seq
  apply (Lt.oblivious_setInt _).seq
  apply (Lt.oblivious_setInt _).seq
  exact (Lt.oblivious_setBool _).seq (Lt.oblivious_setBool _)

def encryptionGroup : SettingGroup EncryptionSettings where
  keys := ENCRYPTION_BACKING
  read := readEncryption
  put e := writeEncryption (.value e)
  read_local {s t} agrees := by
    simp only [readEncryption, getEnum_congr agrees (k := .allowedEncLevel) (by decide),
      getEnum_congr agrees (k := .inEncPolicy) (by decide),
      getEnum_congr agrees (k := .outEncPolicy) (by decide),
      getBool_congr agrees (k := .preferRc4) (by decide),
      getBool_congr agrees (k := .announceCryptoSupport) (by decide)]
  oblivious _ := oblivious_writeEncryption _
  stages staged key := by
    obtain ⟨level, -, -, rfl⟩ := writeEncryption_ok.mp staged
    simp [encryptionPack, ENCRYPTION_BACKING]
    grind

theorem encryption_exact (e : EncryptionSettings) : encryptionGroup.Exact e := by
  intro own staged
  obtain ⟨level, methods, -, rfl⟩ := writeEncryption_ok.mp staged
  change readEncryption _ = _
  simp [readEncryption, encryptionPack, orMissing, bind, Except.bind,
    EncryptionPolicy.fromLt_toLt, EncryptionMethods.fromLt_level methods]

def transportsPack (t : PeerTransports) : SettingsPack :=
  (((Store.empty.set .enableIncomingTcp (.bool t.tcp.incoming)).set
    .enableOutgoingTcp (.bool t.tcp.outgoing)).set
    .enableIncomingUtp (.bool t.utp.incoming)).set
    .enableOutgoingUtp (.bool t.utp.outgoing)

theorem writePeerTransports_ok {t : PeerTransports} :
    writePeerTransports (.value t) .empty = .ok () d ↔ d = transportsPack t := by
  simp (disch := decide) only [writePeerTransports, whenDefined_value, bind_eq_ok, Lt.setBool_ok,
    exists_eq_left, exists_const, transportsPack]

theorem oblivious_writePeerTransports (value : MaybeUndefined PeerTransports) :
    Oblivious (writePeerTransports value) := by
  apply oblivious_whenDefined
  intro t
  apply (Lt.oblivious_setBool _).seq
  apply (Lt.oblivious_setBool _).seq
  exact (Lt.oblivious_setBool _).seq (Lt.oblivious_setBool _)

def peerTransportsGroup : SettingGroup PeerTransports where
  keys := PEER_TRANSPORTS_BACKING
  read := readPeerTransports
  put t := writePeerTransports (.value t)
  read_local agrees := by
    simp only [readPeerTransports, getBool_congr agrees (k := .enableIncomingTcp) (by decide),
      getBool_congr agrees (k := .enableOutgoingTcp) (by decide),
      getBool_congr agrees (k := .enableIncomingUtp) (by decide),
      getBool_congr agrees (k := .enableOutgoingUtp) (by decide)]
  oblivious _ := oblivious_writePeerTransports _
  stages staged key := by
    obtain rfl := writePeerTransports_ok.mp staged
    simp [transportsPack, PEER_TRANSPORTS_BACKING]
    grind

theorem peerTransports_exact (t : PeerTransports) : peerTransportsGroup.Exact t := by
  intro own staged
  obtain rfl := writePeerTransports_ok.mp staged
  change readPeerTransports _ = _
  simp [readPeerTransports, transportsPack, orMissing, bind, Except.bind]

def diskIoPack (c : DiskIoCache) : SettingsPack :=
  (Store.empty.set .diskIoReadMode (.int (Lt.RawI32.raw c.read.toLt))).set
    .diskIoWriteMode (.int (Lt.RawI32.raw c.write.toLt))

theorem writeDiskIoCache_ok {c : DiskIoCache} :
    writeDiskIoCache (.value c) .empty = .ok () d ↔ d = diskIoPack c := by
  simp (disch := decide) only [writeDiskIoCache, whenDefined_value, bind_eq_ok, Lt.setEnum,
    Lt.setInt_ok, exists_eq_left, exists_const, diskIoPack]

theorem oblivious_writeDiskIoCache (value : MaybeUndefined DiskIoCache) :
    Oblivious (writeDiskIoCache value) :=
  oblivious_whenDefined fun _ => (Lt.oblivious_setInt _).seq (Lt.oblivious_setInt _)

def diskIoCacheGroup : SettingGroup DiskIoCache where
  keys := [.diskIoReadMode, .diskIoWriteMode]
  read := readDiskIoCache
  put c := writeDiskIoCache (.value c)
  read_local agrees := by
    simp only [readDiskIoCache, getEnum_congr agrees (k := .diskIoReadMode) (by decide),
      getEnum_congr agrees (k := .diskIoWriteMode) (by decide)]
  oblivious _ := oblivious_writeDiskIoCache _
  stages staged key := by
    obtain rfl := writeDiskIoCache_ok.mp staged
    simp [diskIoPack]
    grind

theorem IoReadMode.fromLt_toLt (m : IoReadMode) : IoReadMode.fromLt m.toLt = m := by
  cases m <;> rfl

theorem IoWriteMode.fromLt_toLt (m : IoWriteMode) : IoWriteMode.fromLt m.toLt = m := by
  cases m <;> rfl

theorem diskIoCache_exact (c : DiskIoCache) : diskIoCacheGroup.Exact c := by
  intro own staged
  obtain rfl := writeDiskIoCache_ok.mp staged
  change readDiskIoCache _ = _
  simp [readDiskIoCache, diskIoPack, orMissing, bind, Except.bind, IoReadMode.fromLt_toLt,
    IoWriteMode.fromLt_toLt]

end Plain

/-! ## Enumerations -/

section Enumerations

variable {T L : Type} [Lt.RawI32 L] {field : String} {key : SettingKey} {fromLt : L → T}
  {toLt : T → L} {d : SettingsPack}

theorem writeEnum_ok (kind : key.kind = .int) {value : T} :
    writeEnum field key toLt (.value value) .empty = .ok () d ↔
      d = Store.empty.set key (.int (Lt.RawI32.raw (toLt value))) := by
  simp only [writeEnum, whenDefined_value, Lt.setEnum, Lt.setInt_ok kind]

theorem oblivious_writeEnum (value : MaybeUndefined T) : Oblivious (writeEnum field key toLt value) :=
  oblivious_whenDefined fun _ => Lt.oblivious_setInt _

/-- A field that is one enumeration of libtorrent, renamed. -/
def enumGroup (field : String) (key : SettingKey) (kind : key.kind = .int) (fromLt : L → T)
    (toLt : T → L) : SettingGroup T where
  keys := [key]
  read := readEnum field key fromLt
  put value := writeEnum field key toLt (.value value)
  read_local agrees := by
    simp only [readEnum, getEnum_congr agrees (List.mem_singleton.mpr rfl)]
  oblivious _ := oblivious_writeEnum _
  stages staged key := by
    obtain rfl := (writeEnum_ok kind).mp staged
    simp

theorem enum_exact (kind : key.kind = .int) (inverse : ∀ value, fromLt (toLt value) = value)
    (value : T) : (enumGroup field key kind fromLt toLt).Exact value := by
  intro own staged
  obtain rfl := (writeEnum_ok kind).mp staged
  change readEnum _ _ _ _ = _
  simp [readEnum, orMissing, inverse]

def mmapWriteModeGroup : SettingGroup MmapWriteMode :=
  enumGroup "mmap_write_mode" .diskWriteMode rfl MmapWriteMode.fromLt MmapWriteMode.toLt

def suggestModeGroup : SettingGroup SuggestMode :=
  enumGroup "suggest_mode" .suggestMode rfl SuggestMode.fromLt SuggestMode.toLt

def chokingAlgorithmGroup : SettingGroup ChokingAlgorithm :=
  enumGroup "choking_algorithm" .chokingAlgorithm rfl ChokingAlgorithm.fromLt ChokingAlgorithm.toLt

def seedChokingAlgorithmGroup : SettingGroup SeedChokingAlgorithm :=
  enumGroup "seed_choking_algorithm" .seedChokingAlgorithm rfl SeedChokingAlgorithm.fromLt
    SeedChokingAlgorithm.toLt

def mixedModeAlgorithmGroup : SettingGroup MixedModeAlgorithm :=
  enumGroup "mixed_mode_algorithm" .mixedModeAlgorithm rfl MixedModeAlgorithm.fromLt
    MixedModeAlgorithm.toLt

theorem MmapWriteMode.fromLt_toLt (m : MmapWriteMode) : MmapWriteMode.fromLt m.toLt = m := by
  cases m <;> rfl

theorem SuggestMode.fromLt_toLt (m : SuggestMode) : SuggestMode.fromLt m.toLt = m := by
  cases m <;> rfl

theorem ChokingAlgorithm.fromLt_toLt (a : ChokingAlgorithm) :
    ChokingAlgorithm.fromLt a.toLt = a := by
  cases a <;> rfl

theorem SeedChokingAlgorithm.fromLt_toLt (a : SeedChokingAlgorithm) :
    SeedChokingAlgorithm.fromLt a.toLt = a := by
  cases a <;> rfl

theorem MixedModeAlgorithm.fromLt_toLt (a : MixedModeAlgorithm) :
    MixedModeAlgorithm.fromLt a.toLt = a := by
  cases a <;> rfl

end Enumerations

/-! ## The outgoing port range -/

section PortRange

variable {d : SettingsPack} {r : PortRange}

def portsPack (first count : Int32) : SettingsPack :=
  (Store.empty.set .outgoingPort (.int first)).set .numOutgoingPorts (.int count)

theorem writeOutgoingPortRange_null_ok :
    writeOutgoingPortRange .null .empty = .ok () d ↔ d = portsPack 0 0 := by
  simp (disch := decide) only [writeOutgoingPortRange, nullable, rbErr_ok, Lt.outgoingPorts,
    bind_eq_ok, Lt.setInt_ok, exists_eq_left, exists_const, portsPack]

theorem writeOutgoingPortRange_value_ok :
    writeOutgoingPortRange (.value r) .empty = .ok () d ↔
      r.first ≠ 0 ∧ ¬ r.last < r.first ∧
        d = portsPack (i32OfU16 r.first) (i32OfU16 r.last - i32OfU16 r.first) := by
  simp (disch := decide) only [writeOutgoingPortRange, nullable, rbErr_ok, Lt.outgoingPorts,
    bind_eq_ok, check_eq_ok, reject_ok, Lt.setInt_ok, and_assoc, exists_eq_left, exists_and_left,
    exists_const, portsPack, ne_eq]

theorem oblivious_writeOutgoingPortRange (value : MaybeUndefined PortRange) :
    Oblivious (writeOutgoingPortRange value) := by
  cases value with
  | undefined => exact oblivious_pure ()
  | null => exact oblivious_rbErr ((Lt.oblivious_setInt _).seq (Lt.oblivious_setInt _))
  | value r =>
    apply oblivious_rbErr
    apply (oblivious_check _).seq
    apply (oblivious_check _).seq
    exact (Lt.oblivious_setInt _).seq (Lt.oblivious_setInt _)

theorem portsPack_has {first count : Int32} (key : SettingKey) :
    (portsPack first count).has key = true ↔ key ∈ [SettingKey.outgoingPort, .numOutgoingPorts] := by
  simp [portsPack]
  grind

def outgoingPortRangeGroup : SettingGroup (Option PortRange) where
  keys := [.outgoingPort, .numOutgoingPorts]
  read := readOutgoingPortRange
  put range := writeOutgoingPortRange (orNull range)
  read_local agrees := by
    simp only [readOutgoingPortRange, Lt.getOutgoingPorts,
      getInt_congr agrees (k := .outgoingPort) (by decide),
      getInt_congr agrees (k := .numOutgoingPorts) (by decide)]
  oblivious _ := oblivious_writeOutgoingPortRange _
  stages {range delta} staged key := by
    cases range with
    | none =>
      obtain rfl := writeOutgoingPortRange_null_ok.mp staged
      exact portsPack_has key
    | some r =>
      obtain ⟨-, -, rfl⟩ := writeOutgoingPortRange_value_ok.mp staged
      exact portsPack_has key

theorem getOutgoingPorts_pack (first : r.first ≠ 0) (last : ¬ r.last < r.first) :
    Lt.getOutgoingPorts (portsPack (i32OfU16 r.first) (i32OfU16 r.last - i32OfU16 r.first)) =
      some (some (r.first, r.last)) := by
  have firstSmall : r.first.toNat < 65536 := r.first.toNat_lt
  have lastSmall : r.last.toNat < 65536 := r.last.toNat_lt
  have order : r.first.toNat ≤ r.last.toNat := UInt16.le_iff_toNat_le.mp (UInt16.not_lt.mp last)
  have positive : 0 < r.first.toNat :=
    Nat.pos_of_ne_zero fun zero => first (UInt16.toNat_inj.mp zero)
  have firstExact : (i32OfU16 r.first).toInt = r.first.toNat :=
    Int32.toInt_ofInt_of_le (by omega) (by omega)
  have lastExact : (i32OfU16 r.last).toInt = r.last.toNat :=
    Int32.toInt_ofInt_of_le (by omega) (by omega)
  have countExact : (i32OfU16 r.last - i32OfU16 r.first).toInt = r.last.toNat - r.first.toNat := by
    rw [Int32.toInt_sub, firstExact, lastExact]
    exact Int.bmod_eq_of_le (by omega) (by omega)
  have nonneg : ¬ i32OfU16 r.first ≤ 0 := by
    rw [Int32.le_iff_toInt_le, firstExact]
    simp
    omega
  have total : min ((r.first.toNat : Int) + max ((r.last.toNat : Int) - r.first.toNat) 0) 65535 =
      r.last.toNat := by
    omega
  simp [Lt.getOutgoingPorts, portsPack, nonneg, u16OfI32_i32OfU16, countExact, total]

theorem outgoingPortRange_exact (range : Option PortRange) :
    outgoingPortRangeGroup.Exact range := by
  intro own staged
  change readOutgoingPortRange _ = _
  cases range with
  | none =>
    obtain rfl := writeOutgoingPortRange_null_ok.mp staged
    simp [readOutgoingPortRange, Lt.getOutgoingPorts, portsPack]
  | some r =>
    obtain ⟨first, last, rfl⟩ := writeOutgoingPortRange_value_ok.mp staged
    simp [readOutgoingPortRange, getOutgoingPorts_pack first last]

end PortRange

/-! ## Lists of tokens -/

section Lists

variable {d : SettingsPack}

theorem writeOutgoingInterfaces_ok {list : List Text} :
    writeOutgoingInterfaces (.value list) .empty = .ok () d ↔
      (∀ entry ∈ list, Lt.bareHostToken "outgoing_interfaces" "entry" entry = .ok ()) ∧
        d = Store.empty.set .outgoingInterfaces (.str (Text.join ',' list)) := by
  simp (disch := decide) only [writeOutgoingInterfaces, whenDefined_value, rbErr_ok,
    Lt.outgoingInterfaces, bind_eq_ok, check_eq_ok, Lt.setStr_ok, and_assoc, exists_eq_left,
    exists_and_left, exists_unit, forM_ok]

theorem oblivious_writeOutgoingInterfaces (value : MaybeUndefined (List Text)) :
    Oblivious (writeOutgoingInterfaces value) :=
  oblivious_whenDefined fun _ =>
    oblivious_rbErr ((oblivious_check _).seq (Lt.oblivious_setStr _))

def outgoingInterfacesGroup : SettingGroup (List Text) where
  keys := [.outgoingInterfaces]
  read := readOutgoingInterfaces
  put list := writeOutgoingInterfaces (.value list)
  read_local agrees := by
    simp only [readOutgoingInterfaces, getStr_congr agrees (List.mem_singleton.mpr rfl)]
  oblivious _ := oblivious_writeOutgoingInterfaces _
  stages staged key := by
    obtain ⟨-, rfl⟩ := writeOutgoingInterfaces_ok.mp staged
    simp

theorem join_ne_nil {list : List Text} (some_ : list ≠ []) (named : ∀ entry ∈ list, entry ≠ []) :
    Text.join ',' list ≠ [] := by
  cases list with
  | nil => exact absurd rfl some_
  | cons first rest =>
    have firstNamed := named first (by simp)
    cases rest with
    | nil => simpa [Text.join] using firstNamed
    | cons second rest => simp [Text.join, List.intercalate]

/-- Accepted tokens are read back from the string they are joined to. -/
theorem readOutgoingInterfaces_join {list : List Text} {pack : SettingsPack}
    (tokens : ∀ entry ∈ list, Lt.bareHostToken "outgoing_interfaces" "entry" entry = .ok ())
    (held : pack.getStr .outgoingInterfaces = some (Text.join ',' list)) :
    readOutgoingInterfaces pack = .ok list := by
  simp only [readOutgoingInterfaces, held, orMissing]
  by_cases none_ : list = []
  · subst none_
    rfl
  · have named : ∀ entry ∈ list, entry ≠ [] := fun entry listed =>
      (Lt.bareHostToken_ok.mp (tokens entry listed)).1
    have commas : ∀ entry ∈ list, ',' ∉ entry := fun entry listed =>
      (Lt.bareHostToken_ok.mp (tokens entry listed)).2.1
    change Except.ok _ = _
    rw [if_neg (join_ne_nil none_ named), Text.split_join commas none_]

theorem outgoingInterfaces_exact (list : List Text) : outgoingInterfacesGroup.Exact list := by
  intro own staged
  obtain ⟨tokens, rfl⟩ := writeOutgoingInterfaces_ok.mp staged
  exact readOutgoingInterfaces_join tokens getStr_set_self

/-- A formatted list parses entry by entry. -/
theorem parseEntries_join {α : Type} {parse : Text → Option α} {format : α → Text} {list : List α}
    (parsed : ∀ a ∈ list, parse (format a) = some a) (named : ∀ a ∈ list, format a ≠ [])
    (commas : ∀ a ∈ list, ',' ∉ format a) :
    Lt.parseEntries parse (Text.join ',' (list.map format)) = some list := by
  by_cases none_ : list = []
  · subst none_
    rfl
  · have entries : Text.split ',' (Text.join ',' (list.map format)) = list.map format := by
      apply Text.split_join
      · intro entry listed
        obtain ⟨a, mine, rfl⟩ := List.mem_map.mp listed
        exact commas a mine
      · simpa using none_
    have kept : (list.map format).filter (· ≠ []) = list.map format := by
      apply List.filter_eq_self.mpr
      intro entry listed
      obtain ⟨a, mine, rfl⟩ := List.mem_map.mp listed
      simpa using named a mine
    rw [Lt.parseEntries, entries, kept]
    clear entries kept none_ named commas
    induction list with
    | nil => rfl
    | cons a list ih =>
      have rest := ih fun b listed => parsed b (List.mem_cons_of_mem a listed)
      simp [List.mapM_cons, parsed a (by simp), rest]

theorem comma_not_mem_decimal {n : Nat} : ',' ∉ Text.decimal n := Text.not_mem_decimal (by decide)

theorem colon_not_mem_decimal {n : Nat} : ':' ∉ Text.decimal n := Text.not_mem_decimal (by decide)

theorem flags_among {e : Lt.ListenEndpoint} : ∀ x ∈ e.flags, x ∈ ['s', 'l'] := by
  obtain ⟨addr, port, ssl, local_⟩ := e
  cases ssl <;> cases local_ <;> simp [Lt.ListenEndpoint.flags]

theorem parse_format_endpoint (e : Lt.ListenEndpoint) :
    Lt.ListenEndpoint.parse e.format = some e := by
  have colon : ':' ∉ Text.decimal e.port.toNat ++ e.flags := by
    rw [List.mem_append]
    rintro (digit | flag)
    · exact colon_not_mem_decimal digit
    · exact absurd (flags_among ':' flag) (by decide)
  have trimmed : Text.trimEndMatches ['s', 'l'] (Text.decimal e.port.toNat ++ e.flags) =
      Text.decimal e.port.toNat := Text.trimEndMatches_decimal (by simp [Char.isDigit]) flags_among
  simp only [Lt.ListenEndpoint.parse, Lt.ListenEndpoint.format, Text.rsplitOnce_append colon]
  simp only [Option.bind_eq_bind, Option.bind_some, trimmed, Text.parseU16_decimal,
    List.drop_left]
  obtain ⟨addr, port, ssl, local_⟩ := e
  cases ssl <;> cases local_ <;> simp [Lt.ListenEndpoint.flags]

theorem parseEntries_endpoints {list : List Lt.ListenEndpoint}
    (tokens : ∀ e ∈ list, Lt.hostToken "listen_interfaces" "address" e.addr = .ok ()) :
    Lt.parseEntries Lt.ListenEndpoint.parse
      (Text.join ',' (list.map Lt.ListenEndpoint.format)) = some list := by
  apply parseEntries_join
  · exact fun e _ => parse_format_endpoint e
  · intro e _
    simp [Lt.ListenEndpoint.format]
  · intro e listed comma
    simp only [Lt.ListenEndpoint.format, List.mem_append, List.mem_cons] at comma
    rcases comma with host | colon | digit | flag
    · exact (Lt.hostToken_ok (tokens e listed)).2 host
    · cases colon
    · exact comma_not_mem_decimal digit
    · exact absurd (flags_among ',' flag) (by decide)

theorem writeListenInterfaces_ok {list : List ListenInterface} :
    writeListenInterfaces (.value list) .empty = .ok () d ↔
      (∀ e ∈ list, Lt.hostToken "listen_interfaces" "address" e.interface = .ok ()) ∧
        d = Store.empty.set .listenInterfaces
          (.str (Text.join ',' ((list.map ListenInterface.toLt).map Lt.ListenEndpoint.format))) := by
  simp (disch := decide) only [writeListenInterfaces, whenDefined_value, rbErr_ok,
    Lt.listenInterfaces, bind_eq_ok, check_eq_ok, Lt.setStr_ok, and_assoc, exists_eq_left,
    exists_and_left, exists_unit, forM_ok, List.forall_mem_map, ListenInterface.toLt]

theorem oblivious_writeListenInterfaces (value : MaybeUndefined (List ListenInterface)) :
    Oblivious (writeListenInterfaces value) :=
  oblivious_whenDefined fun _ =>
    oblivious_rbErr ((oblivious_check _).seq (Lt.oblivious_setStr _))

def listenInterfacesGroup : SettingGroup (List ListenInterface) where
  keys := [.listenInterfaces]
  read := readListenInterfaces
  put list := writeListenInterfaces (.value list)
  read_local agrees := by
    simp only [readListenInterfaces, Lt.getListenInterfacesParsed,
      getStr_congr agrees (List.mem_singleton.mpr rfl)]
  oblivious _ := oblivious_writeListenInterfaces _
  stages staged key := by
    obtain ⟨-, rfl⟩ := writeListenInterfaces_ok.mp staged
    simp

theorem listenInterfaces_exact (list : List ListenInterface) :
    listenInterfacesGroup.Exact list := by
  intro own staged
  obtain ⟨tokens, rfl⟩ := writeListenInterfaces_ok.mp staged
  have parsed : Lt.parseEntries Lt.ListenEndpoint.parse
      (Text.join ',' ((list.map ListenInterface.toLt).map Lt.ListenEndpoint.format)) =
        some (list.map ListenInterface.toLt) := by
    apply parseEntries_endpoints
    intro e listed
    obtain ⟨i, mine, rfl⟩ := List.mem_map.mp listed
    exact tokens i mine
  have inverse : (list.map ListenInterface.toLt).map ListenInterface.fromLt = list := by
    rw [List.map_map]
    exact List.map_id list
  change readListenInterfaces _ = _
  simp only [readListenInterfaces, Lt.getListenInterfacesParsed, getStr_set_self, Option.bind_some,
    parsed, inverse]

theorem parse_format_node (node : Lt.HostPort) : Lt.HostPort.parse node.format = some node := by
  simp only [Lt.HostPort.parse, Lt.HostPort.format,
    Text.rsplitOnce_append colon_not_mem_decimal]
  simp [Text.parseU16_decimal, nonZero_val]

theorem parseEntries_nodes {nodes : List Lt.HostPort}
    (tokens : ∀ node ∈ nodes, Lt.hostToken "dht_bootstrap_nodes" "hostname" node.host = .ok ()) :
    Lt.parseEntries Lt.HostPort.parse (Text.join ',' (nodes.map Lt.HostPort.format)) = some nodes := by
  apply parseEntries_join
  · exact fun node _ => parse_format_node node
  · intro node _
    simp [Lt.HostPort.format]
  · intro node listed comma
    simp only [Lt.HostPort.format, List.mem_append, List.mem_cons] at comma
    rcases comma with host | colon | digit
    · exact (Lt.hostToken_ok (tokens node listed)).2 host
    · cases colon
    · exact comma_not_mem_decimal digit

theorem toLt_ok {n : HostPort} {node : Lt.HostPort} :
    n.toLt = .ok node ↔ n = HostPort.fromLt node := by
  obtain ⟨hostname, port⟩ := n
  obtain ⟨host, nonzero⟩ := node
  simp only [HostPort.toLt, except_bind_ok, portFor_ok, HostPort.fromLt, HostPort.mk.injEq]
  constructor
  · rintro ⟨held, rfl, built⟩
    obtain ⟨rfl, rfl⟩ : hostname = host ∧ held = nonzero := by simpa using built
    exact ⟨rfl, rfl⟩
  · rintro ⟨rfl, rfl⟩
    exact ⟨nonzero, rfl, rfl⟩

theorem mapM_toLt_ok {list : List HostPort} {nodes : List Lt.HostPort} :
    list.mapM HostPort.toLt = .ok nodes ↔ list = nodes.map HostPort.fromLt := by
  induction list generalizing nodes with
  | nil => simp [pure, Except.pure, eq_comm]
  | cons n list ih =>
    simp only [List.mapM_cons, except_bind_ok, toLt_ok, ih]
    constructor
    · rintro ⟨node, rfl, rest, rfl, built⟩
      obtain rfl := Except.ok.inj built
      rfl
    · intro spelled
      cases nodes with
      | nil => cases spelled
      | cons node rest =>
        obtain ⟨rfl, rfl⟩ := List.cons.inj spelled
        exact ⟨node, rfl, rest, rfl, rfl⟩

theorem writeDhtBootstrapNodes_ok {list : List HostPort} :
    writeDhtBootstrapNodes (.value list) .empty = .ok () d ↔
      ∃ nodes : List Lt.HostPort, list = nodes.map HostPort.fromLt ∧
        (∀ node ∈ nodes, Lt.hostToken "dht_bootstrap_nodes" "hostname" node.host = .ok ()) ∧
        d = Store.empty.set .dhtBootstrapNodes
          (.str (Text.join ',' (nodes.map Lt.HostPort.format))) := by
  simp (disch := decide) only [writeDhtBootstrapNodes, whenDefined_value, rbErr_ok,
    Lt.dhtBootstrapNodes, bind_eq_ok, check_eq_ok, Lt.setStr_ok, and_assoc, exists_eq_left,
    exists_and_left, exists_unit, forM_ok, mapM_toLt_ok]

theorem oblivious_writeDhtBootstrapNodes (value : MaybeUndefined (List HostPort)) :
    Oblivious (writeDhtBootstrapNodes value) := by
  apply oblivious_whenDefined
  intro list
  apply (oblivious_check _).bind
  intro nodes
  exact oblivious_rbErr ((oblivious_check _).seq (Lt.oblivious_setStr _))

def dhtBootstrapNodesGroup : SettingGroup (List HostPort) where
  keys := [.dhtBootstrapNodes]
  read := readDhtBootstrapNodes
  put list := writeDhtBootstrapNodes (.value list)
  read_local agrees := by
    simp only [readDhtBootstrapNodes, Lt.getDhtBootstrapNodesParsed,
      getStr_congr agrees (List.mem_singleton.mpr rfl)]
  oblivious _ := oblivious_writeDhtBootstrapNodes _
  stages staged key := by
    obtain ⟨nodes, -, -, rfl⟩ := writeDhtBootstrapNodes_ok.mp staged
    simp

theorem dhtBootstrapNodes_exact (list : List HostPort) : dhtBootstrapNodesGroup.Exact list := by
  intro own staged
  obtain ⟨nodes, rfl, tokens, rfl⟩ := writeDhtBootstrapNodes_ok.mp staged
  have parsed := parseEntries_nodes tokens
  change readDhtBootstrapNodes _ = _
  simp only [readDhtBootstrapNodes, Lt.getDhtBootstrapNodesParsed, getStr_set_self,
    Option.bind_some, parsed]

end Lists

end Rsbtd.Settings
