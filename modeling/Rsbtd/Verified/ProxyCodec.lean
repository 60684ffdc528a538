import Rsbtd.Verified.SettingsGroups

/-!
# The proxy codec

The flat input is accepted exactly if some protocol can express it, and is read back with
its host unbracketed, whatever the pack held before.
-/

namespace Rsbtd.Settings

open Rsbtd.Keyed

/-! ## What is expressible -/

/-- The host with one enclosing pair of brackets removed. -/
def unbracket (host : Text) : Text := (Lt.unbracketed host).getD host

/-- A host token, bare or in one pair of brackets. -/
def ProxyHost (host : Text) : Prop :=
  ∃ bare, (host = bare ∨ host = '[' :: (bare ++ [']'])) ∧ '[' ∉ bare ∧ ']' ∉ bare ∧ bare ≠ [] ∧
    ',' ∉ bare ∧ bare.any Text.isWhitespace = false ∧ (':' ∈ bare → Lt.ipv6Literal bare = true)

/-- The credentials the protocol demands, none it has no place for.  No string is longer than
`usize::MAX` bytes. -/
def ProxySettings.CredentialsFit (p : ProxySettings) : Prop :=
  match p.protocol with
  | .socks4 => p.username ≠ [] ∧ p.password = []
  | .socks5 | .http => p.username = [] ∧ p.password = []
  | .socks5Password => p.username ≠ [] ∧ p.password ≠ [] ∧ Text.len p.username ≤ 255 ∧
    Text.len p.password ≤ 255
  | .httpPassword => p.username ≠ [] ∧ p.password ≠ [] ∧
    Text.len p.username ≤ 18446744073709551615 ∧ Text.len p.password ≤ 18446744073709551615

/-- Only flags the protocol has. -/
def ProxySettings.FlagsFit (p : ProxySettings) : Prop :=
  (p.resolveHostnames = true → p.protocol ≠ .socks4) ∧
  (p.socks5UdpSendLocalEndpoint = true → p.protocol = .socks5 ∨ p.protocol = .socks5Password) ∧
  (p.sendHostnameInConnect = true → p.protocol = .http ∨ p.protocol = .httpPassword)

structure ProxySettings.Expressible (p : ProxySettings) : Prop where
  port : p.port ≠ 0
  host : ProxyHost p.hostname
  credentials : p.CredentialsFit
  flags : p.FlagsFit

section Host

variable {host bare : Text}

theorem stripBrackets_bare (unopened : '[' ∉ host) : Lt.stripBrackets host = .ok host := by
  have none : Text.stripPrefix '[' host = none := by
    rw [Option.eq_none_iff_forall_ne_some]
    intro rest opened
    exact unopened (by simp [Text.stripPrefix_eq_some.mp opened])
  simp [Lt.stripBrackets, none]

theorem stripBrackets_pair (bare : Text) :
    Lt.stripBrackets ('[' :: (bare ++ [']'])) = .ok bare := by
  have closed : Text.stripSuffix ']' (bare ++ [']']) = some bare :=
    Text.stripSuffix_eq_some.mpr rfl
  simp [Lt.stripBrackets, closed]

theorem stripBrackets_ok (stripped : Lt.stripBrackets host = .ok bare) :
    (host = bare ∨ host = '[' :: (bare ++ [']'])) ∧ bare = unbracket host := by
  unfold Lt.stripBrackets at stripped
  cases opened : Text.stripPrefix '[' host with
  | none =>
    simp only [opened] at stripped
    obtain rfl := Except.ok.inj stripped
    simp [unbracket, Lt.unbracketed, opened]
  | some rest =>
    simp only [opened] at stripped
    cases closed : Text.stripSuffix ']' rest with
    | none => simp [closed] at stripped
    | some inner =>
      simp only [closed] at stripped
      obtain rfl := Except.ok.inj stripped
      refine ⟨.inr ?_, by simp [unbracket, Lt.unbracketed, opened, closed]⟩
      rw [Text.stripPrefix_eq_some.mp opened, Text.stripSuffix_eq_some.mp closed]

theorem proxyHost_ok : Lt.proxyHost host = .ok bare ↔
    Lt.stripBrackets host = .ok bare ∧ '[' ∉ bare ∧ ']' ∉ bare := by
  simp only [Lt.proxyHost, except_bind_ok]
  constructor
  · rintro ⟨inner, stripped, clean⟩
    split at clean
    case isTrue => cases clean
    case isFalse stray =>
      obtain rfl := Except.ok.inj clean
      exact ⟨stripped, not_or.mp stray⟩
  · rintro ⟨stripped, opened, closed⟩
    exact ⟨bare, stripped, if_neg (not_or.mpr ⟨opened, closed⟩)⟩

theorem proxyHost_accepts : (∃ bare, Lt.proxyHost host = .ok bare ∧
    Lt.bareHostToken "proxy" "host" bare = .ok ()) ↔ ProxyHost host := by
  simp only [proxyHost_ok, Lt.bareHostToken_ok, ProxyHost]
  constructor
  · rintro ⟨bare, ⟨stripped, clean⟩, token⟩
    exact ⟨bare, (stripBrackets_ok stripped).1, clean.1, clean.2, token⟩
  · rintro ⟨bare, rfl | rfl, opened, closed, token⟩
    · exact ⟨host, ⟨stripBrackets_bare opened, opened, closed⟩, token⟩
    · exact ⟨bare, ⟨stripBrackets_pair bare, opened, closed⟩, token⟩

end Host

section Values

variable {p : ProxySettings} {port : Lt.NonZeroU16}

/-- A slot of credentials is accepted if both parts are there and neither is too long. -/
theorem credentials_ok {c : Lt.Credentials} {l : Nat} :
    (∃ parts, Lt.credentials (some c) l = .ok parts) ↔
      c.username ≠ [] ∧ c.password ≠ [] ∧ Text.len c.username ≤ l ∧ Text.len c.password ≤ l := by
  unfold Lt.credentials
  by_cases user : c.username = []
  · simp [user]
  · by_cases password : c.password = []
    · simp [user, password]
    · by_cases long : l < Text.len c.username ∨ l < Text.len c.password
      · simp [user, password, long]
        omega
      · simp [user, password, long]
        omega

theorem ite_error_ok {E α : Type} {c : Prop} [Decidable c] {e : E} {r : Except E α} {a : α} :
    (if c then .error e else r) = .ok a ↔ ¬c ∧ r = .ok a := by
  by_cases holds : c <;> simp [holds]

/-- Both checks together let through what the protocols can express. -/
theorem validate_values : (p.validate = .ok () ∧ ∃ v, (p.config port).protocol.values = .ok v) ↔
    p.CredentialsFit ∧ p.FlagsFit := by
  obtain ⟨protocol, hostname, port', username, password, resolve, peers, trackers, udp, connect⟩ := p
  simp only [ProxySettings.validate, ite_error_ok, ProxySettings.CredentialsFit,
    ProxySettings.FlagsFit]
  cases protocol with
  | socks4 =>
    simp only [ProxySettings.config, Lt.ProxyProtocol.values, ite_error_ok, ProxyProtocol.wantsAuth]
    simp
    tauto
  | socks5 | http =>
    simp [ProxySettings.config, Lt.ProxyProtocol.values, Lt.credentials, ProxyProtocol.wantsAuth,
      bind, Except.bind]
    tauto
  | socks5Password =>
    have auth := credentials_ok (c := ⟨username, password⟩) (l := 255)
    cases given : Lt.credentials (some ⟨username, password⟩) 255 with
    | error e =>
      simp [ProxySettings.config, Lt.ProxyProtocol.values, ProxyProtocol.wantsAuth, given, bind,
        Except.bind] at auth ⊢
      intro user some_ short short'
      exact absurd (auth user some_ short) (Nat.not_lt.mpr short')
    | ok parts =>
      simp [ProxySettings.config, Lt.ProxyProtocol.values, ProxyProtocol.wantsAuth, given, bind,
        Except.bind] at auth ⊢
      tauto
  | httpPassword =>
    have auth := credentials_ok (c := ⟨username, password⟩) (l := 18446744073709551615)
    cases given : Lt.credentials (some ⟨username, password⟩) 18446744073709551615 with
    | error e =>
      simp [ProxySettings.config, Lt.ProxyProtocol.values, ProxyProtocol.wantsAuth, given, bind,
        Except.bind] at auth ⊢
      intro user some_ short short'
      exact absurd (auth user some_ short) (Nat.not_lt.mpr short')
    | ok parts =>
      simp [ProxySettings.config, Lt.ProxyProtocol.values, ProxyProtocol.wantsAuth, given, bind,
        Except.bind] at auth ⊢
      tauto

end Values

/-! ## The accessors of the bindings -/

section Accessors

variable {lt : Libtorrent} {s t d e : SettingsPack} {c : Lt.ProxyConfig} {host : Text}
  {v : Lt.ProxyValues}

theorem getProxy_congr (agrees : Store.Agrees PROXY_BACKING s t) :
    Lt.getProxy s = Lt.getProxy t := by
  have str : ∀ key ∈ PROXY_BACKING, s.getStr key = t.getStr key := fun _ => getStr_congr agrees
  have int : ∀ key ∈ PROXY_BACKING, s.getInt key = t.getInt key := fun _ => getInt_congr agrees
  have bool : ∀ key ∈ PROXY_BACKING, s.getBool key = t.getBool key := fun _ => getBool_congr agrees
  have protocol : ∀ auth resolve ty,
      Lt.getProxyProtocol s auth resolve ty = Lt.getProxyProtocol t auth resolve ty := by
    intro auth resolve ty
    cases ty <;> simp only [Lt.getProxyProtocol] <;>
      first
      | rw [str .proxyUsername (by decide)]
      | rw [bool .socks5UdpSendLocalEp (by decide)]
      | rw [bool .proxySendHostInConnect (by decide)]
  simp only [Lt.getProxy, Lt.getEnum, protocol]
  rw [int .proxyType (by decide), str .proxyHostname (by decide), int .proxyPort (by decide),
    str .proxyUsername (by decide), str .proxyPassword (by decide), bool .proxyHostnames (by decide),
    bool .proxyPeerConnections (by decide), bool .proxyTrackerConnections (by decide)]

theorem credentials_parts {c : Lt.Credentials} {l : Nat} {parts : Text × Text}
    (given : Lt.credentials (some c) l = .ok parts) : parts = (c.username, c.password) := by
  simp only [Lt.credentials, ite_error_ok] at given
  exact (Except.ok.inj given.2.2.2).symm

/-- What the protocol staged is the protocol again. -/
theorem getProxy_pack (values : c.protocol.values = .ok v) :
    Lt.getProxy (proxyPack host c.port v c.peerConnections c.trackerConnections) =
      some (some { c with host }) := by
  obtain ⟨protocol, host', port, peers, trackers⟩ := c
  have start : ∀ v : Lt.ProxyValues, v.ty ≠ .none →
      Lt.getProxyProtocol (proxyPack host port v peers trackers) ⟨v.username, v.password⟩ v.resolve
        v.ty = some protocol →
      Lt.getProxy (proxyPack host port v peers trackers) =
        some (some ⟨protocol, host, port, peers, trackers⟩) := by
    intro v configured built
    simp only [Lt.getProxy, proxyPack] at built ⊢
    simp [u16OfI32_i32OfU16, nonZero_val, configured, built]
  cases protocol with
  | socks4 username =>
    simp only [Lt.ProxyProtocol.values, ite_error_ok, Except.ok.injEq] at values
    obtain ⟨-, rfl⟩ := values
    exact start _ (by simp) (by simp [Lt.getProxyProtocol, proxyPack])
  | socks5 auth resolve udp =>
    simp only [Lt.ProxyProtocol.values, except_bind_ok, Except.ok.injEq] at values
    obtain ⟨parts, given, rfl⟩ := values
    cases auth with
    | none => exact start _ (by simp) (by simp [Lt.getProxyProtocol, proxyPack])
    | some c =>
      obtain rfl := credentials_parts given
      exact start _ (by simp) (by simp [Lt.getProxyProtocol, proxyPack])
  | http auth resolve connect =>
    simp only [Lt.ProxyProtocol.values, except_bind_ok, Except.ok.injEq] at values
    obtain ⟨parts, given, rfl⟩ := values
    cases auth with
    | none => exact start _ (by simp) (by simp [Lt.getProxyProtocol, proxyPack])
    | some c =>
      obtain rfl := credentials_parts given
      exact start _ (by simp) (by simp [Lt.getProxyProtocol, proxyPack])

/-- On any pack, the setter stages what it stages on the empty one. -/
theorem proxy_some_staged (accepted : Lt.proxy lt (some c) d = .ok () e) :
    ∃ host v, Lt.proxyHost c.host = .ok host ∧ c.protocol.values = .ok v ∧
      Store.Agrees PROXY_BACKING e
        (proxyPack host c.port v c.peerConnections c.trackerConnections) := by
  obtain ⟨own, staged, rfl⟩ := (oblivious_proxy (some c)).of_ok accepted
  obtain ⟨host, bare, -, v, values, rfl⟩ := Lt.proxy_ok.mp staged
  refine ⟨host, v, bare, values, ?_⟩
  intro key listed
  obtain ⟨value, held⟩ := Store.has_eq_true.mp ((proxyPack_has key).mpr listed)
  rw [held]
  exact Store.apply_of_staged held

theorem proxy_some_get (accepted : Lt.proxy lt (some c) d = .ok () e) :
    Lt.getProxy e = some (some { c with host := unbracket c.host }) := by
  obtain ⟨host, v, bare, values, agrees⟩ := proxy_some_staged accepted
  obtain rfl := (stripBrackets_ok (proxyHost_ok.mp bare).1).2
  rw [getProxy_congr agrees, getProxy_pack values]

theorem proxy_none_get (documented : Lt.getEnum Lt.ProxyType lt.defaults .proxyType = some .none)
    (d : SettingsPack) : ∃ e, Lt.proxy lt none d = .ok () e ∧ Lt.getProxy e = some none := by
  refine ⟨_, forM_setDefault, ?_⟩
  have kept : Lt.getEnum Lt.ProxyType (withDefaults lt Lt.PROXY_KEYS d) .proxyType = some .none := by
    obtain ⟨raw, held, known⟩ := Option.bind_eq_some_iff.mp documented
    have default_ : Lt.defaultValue lt .proxyType = .int raw := by
      simp [Lt.defaultValue, held, SettingKey.kind]
    simp [Lt.getEnum, SettingsPack.getInt, withDefaults, Lt.PROXY_KEYS, default_, known]
  simp [Lt.getProxy, kept]

end Accessors

/-! ## The codec -/

section Codec

variable {lt : Libtorrent} {d e : SettingsPack} {p : ProxySettings}

theorem writeProxy_accepts :
    (∃ e, writeProxy lt (.value p) d = .ok () e) ↔ p.Expressible := by
  have anywhere : (∃ e, writeProxy lt (.value p) d = .ok () e) ↔
      ∃ e, writeProxy lt (.value p) .empty = .ok () e := by
    constructor
    · rintro ⟨e, accepted⟩
      obtain ⟨own, staged, -⟩ := (oblivious_writeProxy (.value p)).of_ok accepted
      exact ⟨own, staged⟩
    · rintro ⟨own, staged⟩
      exact ⟨_, (oblivious_writeProxy (.value p)).ok staged⟩
  simp only [anywhere, writeProxy_value_ok, Lt.proxy_ok]
  constructor
  · rintro ⟨e, port, same, valid, host, bare, token, v, values, -⟩
    obtain ⟨credentials, flags⟩ := validate_values.mp ⟨valid, v, values⟩
    refine ⟨?_, proxyHost_accepts.mp ⟨host, bare, token⟩, credentials, flags⟩
    rw [← same]
    exact port.property
  · rintro ⟨nonzero, host, credentials, flags⟩
    obtain ⟨bare, stripped, token⟩ := proxyHost_accepts.mpr host
    obtain ⟨valid, v, values⟩ : p.validate = .ok () ∧
        ∃ v, (p.config ⟨p.port, nonzero⟩).protocol.values = .ok v :=
      validate_values.mpr ⟨credentials, flags⟩
    exact ⟨_, ⟨p.port, nonzero⟩, rfl, valid, bare, stripped, token, v, values, rfl⟩

theorem writeProxy_read (accepted : writeProxy lt (.value p) d = .ok () e) (pack : SettingsPack) :
    readProxy (pack.apply e) = .ok (some { p with hostname := unbracket p.hostname }) := by
  obtain ⟨own, staged, rfl⟩ := (oblivious_writeProxy (.value p)).of_ok accepted
  obtain ⟨port, same, valid, set⟩ := writeProxy_value_ok.mp staged
  obtain ⟨host, bare, -, v, values, rfl⟩ := Lt.proxy_ok.mp set
  obtain ⟨known, username, password, resolve, udp, connect⟩ := config_values valid values
  have agrees : Store.Agrees PROXY_BACKING
      (pack.apply (d.apply (proxyPack host port v p.peerConnections p.trackerConnections)))
      (proxyPack host port v p.peerConnections p.trackerConnections) := by
    intro key listed
    obtain ⟨value, held⟩ := Store.has_eq_true.mp ((proxyPack_has key).mpr listed)
    rw [held]
    exact Store.apply_of_staged (Store.apply_of_staged held)
  have host : host = unbracket p.hostname := (stripBrackets_ok (proxyHost_ok.mp bare).1).2
  refine (readProxy_congr agrees).trans ?_
  rw [readProxy_pack known, username, password, resolve, udp, connect, same, host]

/-- The input is accepted if it is expressible, and it is read back with its host unbracketed whatever
the pack and the delta held; the accessors of the bindings agree.  Without a proxy the type is
libtorrent's default. -/
theorem proxy_codec (lt : Libtorrent)
    (documented : Lt.getEnum Lt.ProxyType lt.defaults .proxyType = some .none) :
    (∀ (p : ProxySettings) (d : SettingsPack),
      (∃ e, writeProxy lt (.value p) d = .ok () e) ↔ p.Expressible) ∧
    (∀ (p : ProxySettings) (d e pack : SettingsPack), writeProxy lt (.value p) d = .ok () e →
      readProxy (pack.apply e) = .ok (some { p with hostname := unbracket p.hostname })) ∧
    (∀ (c : Lt.ProxyConfig) (d e : SettingsPack), Lt.proxy lt (some c) d = .ok () e →
      Lt.getProxy e = some (some { c with host := unbracket c.host })) ∧
    ∀ d : SettingsPack, ∃ e, Lt.proxy lt none d = .ok () e ∧ Lt.getProxy e = some none := by
  refine ⟨?_, ?_, ?_, ?_⟩
  · exact fun _ _ => writeProxy_accepts
  · exact fun _ _ _ pack accepted => writeProxy_read accepted pack
  · exact fun _ _ _ => proxy_some_get
  · exact proxy_none_get documented

section Bracketed

/-- A libtorrent without a proxy by default. -/
def plainLibtorrent : Libtorrent := ⟨"2.0.11.0".toList, Store.empty.set .proxyType (.int 0)⟩

/-- A SOCKS5 proxy without credentials on a bracketed address. -/
def bracketed : ProxySettings :=
  ⟨.socks5, "[::1]".toList, 1080, [], [], true, true, false, true, false⟩

/-- What a proxy with a password left behind. -/
def leftover : SettingsPack :=
  (Store.empty.set .proxyUsername (.str "user".toList)).set .proxyPassword (.str "word".toList)

theorem proxy_codec_bracketed : bracketed.Expressible ∧ ∃ e f g : SettingsPack,
    readProxy (leftover.apply e) = .ok (some { bracketed with hostname := "::1".toList }) ∧
    Lt.getProxy f = some (some { bracketed.config ⟨1080, by decide⟩ with host := "::1".toList }) ∧
    Lt.getProxy g = some none := by
  obtain ⟨accepts, reads, gets, none⟩ := proxy_codec plainLibtorrent rfl
  have written : ∃ e, writeProxy plainLibtorrent (.value bracketed) .empty = .ok () e := ⟨_, rfl⟩
  have configured : ∃ f, Lt.proxy plainLibtorrent
      (some (bracketed.config ⟨1080, by decide⟩)) leftover = .ok () f := ⟨_, rfl⟩
  have expressible := (accepts bracketed .empty).mp written
  obtain ⟨e, written⟩ := written
  obtain ⟨f, configured⟩ := configured
  obtain ⟨g, -, removed⟩ := none leftover
  exact ⟨expressible, e, f, g, reads _ _ _ leftover written, gets _ _ _ configured, removed⟩

end Bracketed

end Codec

end Rsbtd.Settings
