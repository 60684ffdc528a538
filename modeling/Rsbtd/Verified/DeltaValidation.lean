import Rsbtd.Verified.ProxyCodec
import Rsbtd.Verified.SettingsFixedPoint
import Rsbtd.WebUi.Validate

/-!
# What the web UI rejects

An issue that the web UI finds in a delta is one that the daemon rejects the delta for, if the
proxy gives its credentials.  The web UI takes credentials that are left out for ones that are
given, the daemon for empty ones.
-/

namespace Rsbtd.WebUi

open Rsbtd.Settings Rsbtd.Settings.Wire

variable {lt : Libtorrent} {space : Char → Bool} {input : SettingsInput} {pack : SettingsPack}
  {field : String} {token : Text} {n : Int}

/-! ## Decoding -/

theorem decodeInt_some {low high m : Int} (decoded : decodeInt low high n = some m) :
    low ≤ n ∧ n ≤ high ∧ m = n := by
  unfold decodeInt at decoded
  split at decoded
  case isTrue inside => exact ⟨inside.1, inside.2, (Option.some.inj decoded).symm⟩
  case isFalse => cases decoded

theorem decodeU16_some {port : UInt16} (decoded : decodeU16 n = some port) :
    0 ≤ n ∧ n ≤ 65535 ∧ (port.toNat : Int) = n := by
  obtain ⟨m, inside, rfl⟩ := Option.map_eq_some_iff.mp decoded
  obtain ⟨low, high, rfl⟩ := decodeInt_some inside
  have small : m.toNat < 65536 := by omega
  refine ⟨low, high, ?_⟩
  rw [UInt16.toNat_ofNat_of_lt' small]
  omega

theorem decodeU8_some {count : UInt8} (decoded : decodeU8 n = some count) :
    0 ≤ n ∧ n ≤ 255 ∧ (count.toNat : Int) = n := by
  obtain ⟨m, inside, rfl⟩ := Option.map_eq_some_iff.mp decoded
  obtain ⟨low, high, rfl⟩ := decodeInt_some inside
  have small : m.toNat < 256 := by omega
  refine ⟨low, high, ?_⟩
  rw [UInt8.toNat_ofNat_of_lt' small]
  omega

theorem decodeI8_some {variance : Int8} (decoded : decodeI8 n = some variance) :
    variance.toInt = n := by
  obtain ⟨m, inside, rfl⟩ := Option.map_eq_some_iff.mp decoded
  obtain ⟨low, high, rfl⟩ := decodeInt_some inside
  exact Int8.toInt_ofInt_of_le (by omega) (by omega)

theorem decodeField_value {α β : Type} {decode : α → Option β} {a : α}
    {value : MaybeUndefined β} (decoded : decodeField decode (.value a) = some value) :
    ∃ b, decode a = some b ∧ value = .value b := by
  obtain ⟨b, own, rfl⟩ := Option.map_eq_some_iff.mp decoded
  exact ⟨b, own, rfl⟩

theorem decodeList_mem {α β : Type} {decode : α → Option β} {xs : List α} {ys : List β}
    (decoded : decodeList decode xs = some ys) : ∀ a ∈ xs, ∃ b ∈ ys, decode a = some b := by
  induction xs generalizing ys with
  | nil => simp
  | cons x xs ih =>
    obtain ⟨y, first, rest⟩ := Option.bind_eq_some_iff.mp decoded
    obtain ⟨others, tail, built⟩ := Option.bind_eq_some_iff.mp rest
    obtain rfl := Option.some.inj built
    intro a listed
    rcases List.mem_cons.mp listed with rfl | later
    · exact ⟨y, List.mem_cons_self, first⟩
    · obtain ⟨b, mine, own⟩ := ih tail a later
      exact ⟨b, List.mem_cons_of_mem _ mine, own⟩

/-! ## Checks that find nothing -/

theorem checkPort_listen {port : UInt16} (decoded : decodeU16 n = some port) :
    checkPort field n true = [] := by
  obtain ⟨low, high, -⟩ := decodeU16_some decoded
  have inside : ¬(65535 < n ∨ n < if true = true then 0 else 1) := by
    rw [if_pos rfl]
    omega
  exact if_neg inside

theorem checkPort_nonzero {port : UInt16} (decoded : decodeU16 n = some port)
    (nonzero : port ≠ 0) : checkPort field n false = [] := by
  obtain ⟨low, high, exact_⟩ := decodeU16_some decoded
  have positive : port.toNat ≠ 0 := fun zero => nonzero (UInt16.toNat_inj.mp zero)
  have inside : ¬(65535 < n ∨ n < if false = true then 0 else 1) := by
    rw [if_neg Bool.false_ne_true]
    omega
  exact if_neg inside

theorem isBadToken_false (whitespace : ∀ c, space c = Text.isWhitespace c) (some_ : token ≠ [])
    (comma : ',' ∉ token) (blank : token.any Text.isWhitespace = false) :
    isBadToken space token = false := by
  have clean : (token.any fun c => space c || c = ',') = false := by
    rw [List.any_eq_false] at blank ⊢
    intro c listed
    have other : c ≠ ',' := fun same => comma (same ▸ listed)
    simpa [whitespace c, other] using blank c listed
  simp [isBadToken, some_, clean]

/-- A token that the daemon takes has nothing that the web UI minds. -/
theorem bareHostToken_clean {setting place : String}
    (whitespace : ∀ c, space c = Text.isWhitespace c)
    (accepted : Lt.bareHostToken setting place token = .ok ()) :
    isBadToken space token = false := by
  obtain ⟨some_, comma, blank, -⟩ := Lt.bareHostToken_ok.mp accepted
  exact isBadToken_false whitespace some_ comma blank

theorem hostToken_clean {setting place : String} (whitespace : ∀ c, space c = Text.isWhitespace c)
    (accepted : Lt.hostToken setting place token = .ok ()) :
    isBadToken space token = false ∧ looksLikeUnbracketedV6 token = false := by
  unfold Lt.hostToken at accepted
  split at accepted
  case isTrue => cases accepted
  case isFalse some_ =>
    split at accepted
    case isTrue => cases accepted
    case isFalse clean =>
      obtain ⟨comma, blank⟩ := not_or.mp clean
      refine ⟨isBadToken_false whitespace some_ comma (Bool.eq_false_iff.mpr blank), ?_⟩
      cases brackets : Lt.unbracketed token with
      | some inner =>
        rw [Lt.unbracketed_eq_some.mp brackets]
        simp [looksLikeUnbracketedV6]
      | none =>
        rw [brackets] at accepted
        dsimp only at accepted
        split at accepted
        case isTrue => cases accepted
        case isFalse colon => simp [looksLikeUnbracketedV6, colon]

/-! ## The fields -/

/-- What an accepted write has accepted of the fields that the web UI checks. -/
structure FieldsAccepted (lt : Libtorrent) (input : SettingsInput) : Prop where
  userAgent : ∃ own, writeUserAgent lt input.userAgent .empty = .ok () own
  proxy : ∃ own, writeProxy lt input.proxy .empty = .ok () own
  i2p : ∃ own, writeI2p lt input.i2p .empty = .ok () own
  encryption : ∃ own, writeEncryption input.encryption .empty = .ok () own
  outgoingPortRange : ∃ own, writeOutgoingPortRange input.outgoingPortRange .empty = .ok () own
  outgoingInterfaces : ∃ own, writeOutgoingInterfaces input.outgoingInterfaces .empty = .ok () own
  listenInterfaces : ∃ own, writeListenInterfaces input.listenInterfaces .empty = .ok () own
  dhtBootstrapNodes : ∃ own, writeDhtBootstrapNodes input.dhtBootstrapNodes .empty = .ok () own

theorem entry_accepted {e : Entry} {w : Write} (same : e.part.write = w)
    (accepted : ∃ own, e.write .empty = .ok () own) : ∃ own, w .empty = .ok () own := by
  rw [← same]
  exact accepted

theorem write_fields (ran : write lt input .empty = .ok () pack) : FieldsAccepted lt input := by
  have accepted : ∀ e ∈ structuredEntries lt input, ∃ own, e.write .empty = .ok () own :=
    fun e listed => accepted_iff.mp ⟨pack, ran⟩ e (List.mem_append_right _ listed)
  simp only [structuredEntries, List.forall_mem_cons] at accepted
  obtain ⟨userAgent, proxy, i2p, encryption, -, outgoingPortRange, -, -, -, -, -, -,
    outgoingInterfaces, listenInterfaces, dhtBootstrapNodes, -⟩ := accepted
  constructor
  · exact entry_accepted (plain_write (w := writeUserAgent lt) rfl rfl fun _ => rfl) userAgent
  · exact entry_accepted (nullable_write (w := writeProxy lt) rfl fun _ => rfl) proxy
  · exact entry_accepted (nullable_write (w := writeI2p lt) rfl fun _ => rfl) i2p
  · exact entry_accepted (plain_write (w := writeEncryption) rfl rfl fun _ => rfl) encryption
  · exact entry_accepted (nullable_write (w := writeOutgoingPortRange) rfl fun _ => rfl)
      outgoingPortRange
  · exact entry_accepted (plain_write (w := writeOutgoingInterfaces) rfl rfl fun _ => rfl)
      outgoingInterfaces
  · exact entry_accepted (plain_write (w := writeListenInterfaces) rfl rfl fun _ => rfl)
      listenInterfaces
  · exact entry_accepted (plain_write (w := writeDhtBootstrapNodes) rfl rfl fun _ => rfl)
      dhtBootstrapNodes

theorem checkUserAgent_accepted {choice : MaybeUndefined UserAgent}
    (accepted : ∃ own, writeUserAgent lt choice .empty = .ok () own) :
    checkUserAgent choice = [] := by
  apply if_neg
  rintro rfl
  obtain ⟨own, ran⟩ := accepted
  obtain ⟨value, spelled, -⟩ := writeUserAgent_ok.mp ran
  cases spelled

theorem checkEncryption_accepted {encryption : MaybeUndefined EncryptionSettings}
    (accepted : ∃ own, writeEncryption encryption .empty = .ok () own) :
    checkEncryption encryption = [] := by
  cases encryption with
  | undefined => rfl
  | null => rfl
  | value e =>
    obtain ⟨own, ran⟩ := accepted
    obtain ⟨level, some_, preferred, -⟩ := writeEncryption_ok.mp ran
    obtain ⟨incoming, outgoing, ⟨plaintext, rc4⟩, prefer, announce⟩ := e
    cases plaintext <;> cases rc4 <;> cases some_ <;> cases prefer <;> first
    | rfl
    | exact absurd ⟨rfl, by decide⟩ preferred

theorem checkOutgoingPortRange_accepted {range : MaybeUndefined PortRangeInput}
    {decoded : MaybeUndefined PortRange}
    (read : decodeField PortRangeInput.decode range = some decoded)
    (accepted : ∃ own, writeOutgoingPortRange decoded .empty = .ok () own) :
    checkOutgoingPortRange range = [] := by
  cases range with
  | undefined => rfl
  | null => rfl
  | value r =>
    obtain ⟨own, ran⟩ := accepted
    obtain ⟨r', whole, rfl⟩ := decodeField_value read
    obtain ⟨first, firstRead, rest⟩ := Option.bind_eq_some_iff.mp whole
    obtain ⟨last, lastRead, built⟩ := Option.bind_eq_some_iff.mp rest
    obtain rfl := Option.some.inj built
    obtain ⟨nonzero, order, -⟩ := writeOutgoingPortRange_value_ok.mp ran
    obtain ⟨-, -, firstExact⟩ := decodeU16_some firstRead
    obtain ⟨-, -, lastExact⟩ := decodeU16_some lastRead
    have above : ¬last.toNat < first.toNat := fun below => order (UInt16.lt_iff_toNat_lt.mpr below)
    have ordered : ¬r.last < r.first := by omega
    have positive : last ≠ 0 := by
      rintro rfl
      have zero : first.toNat ≠ 0 := fun zero => nonzero (UInt16.toNat_inj.mp zero)
      exact above (Nat.pos_of_ne_zero zero)
    simp [checkOutgoingPortRange, checkPort_nonzero firstRead nonzero,
      checkPort_nonzero lastRead positive, ordered]

/-! ## The proxy and I2P -/

theorem any_brackets {p : Char → Bool} {bare : Text} (opened : p '[' = false)
    (closed : p ']' = false) : ('[' :: (bare ++ [']'])).any p = bare.any p := by
  simp [opened, closed]

/-- Around a bare token there may be a pair of brackets. -/
theorem isBadToken_brackets (whitespace : ∀ c, space c = Text.isWhitespace c) {bare : Text}
    (spelled : token = bare ∨ token = '[' :: (bare ++ [']'])) (some_ : bare ≠ [])
    (comma : ',' ∉ bare) (blank : bare.any Text.isWhitespace = false) :
    isBadToken space token = false := by
  obtain rfl | rfl := spelled
  · exact isBadToken_false whitespace some_ comma blank
  · apply isBadToken_false whitespace (by simp)
    · simpa using comma
    · rw [any_brackets rfl rfl]
      exact blank

/-- The credentials that a protocol has no place for are given, if only as empty. -/
def CredentialsGiven (p : ProxySettingsInput) : Prop :=
  match p.protocol with
  | .socks4 => p.password ≠ none
  | .socks5 | .http => p.username ≠ none ∧ p.password ≠ none
  | .socks5Password | .httpPassword => True

theorem hasCredential_of_some {credential : Option Text} (some_ : credential.getD [] ≠ []) :
    hasCredential credential = true := by
  apply decide_eq_true
  rintro rfl
  exact some_ rfl

theorem hasCredential_of_empty {credential : Option Text} (given : credential ≠ none)
    (empty : credential.getD [] = []) : hasCredential credential = false := by
  cases credential with
  | none => exact absurd rfl given
  | some value =>
    have own : value = [] := empty
    rw [own]
    rfl

theorem checkCredentials_expressible {p : ProxySettingsInput} {p' : ProxySettings}
    (decoded : p.decode = some p') (given : CredentialsGiven p) (credentials : p'.CredentialsFit)
    (flags : p'.FlagsFit) : checkCredentials p = [] := by
  obtain ⟨port, -, built⟩ := Option.bind_eq_some_iff.mp decoded
  obtain rfl := Option.some.inj built
  have resolve := flags.1
  unfold CredentialsGiven at given
  unfold ProxySettings.CredentialsFit at credentials
  unfold checkCredentials
  cases protocol : p.protocol with
  | socks4 =>
    simp only [protocol] at given credentials resolve
    have local_ : p.resolveHostnames = false := Bool.eq_false_iff.mpr fun on => resolve on rfl
    simp [hasCredential_of_some credentials.1, hasCredential_of_empty given credentials.2, local_]
  | socks5 =>
    simp only [protocol] at given credentials
    simp [hasCredential_of_empty given.1 credentials.1,
      hasCredential_of_empty given.2 credentials.2]
  | http =>
    simp only [protocol] at given credentials
    simp [hasCredential_of_empty given.1 credentials.1,
      hasCredential_of_empty given.2 credentials.2]
  | socks5Password =>
    simp only [protocol] at credentials
    simp [hasCredential_of_some credentials.1, hasCredential_of_some credentials.2.1]
  | httpPassword =>
    simp only [protocol] at credentials
    simp [hasCredential_of_some credentials.1, hasCredential_of_some credentials.2.1]

theorem checkProxy_accepted (whitespace : ∀ c, space c = Text.isWhitespace c)
    {proxy : MaybeUndefined ProxySettingsInput} {decoded : MaybeUndefined ProxySettings}
    (given : ∀ p, proxy = .value p → CredentialsGiven p)
    (read : decodeField ProxySettingsInput.decode proxy = some decoded)
    (accepted : ∃ own, writeProxy lt decoded .empty = .ok () own) :
    checkProxy space proxy = [] := by
  cases proxy with
  | undefined => rfl
  | null => rfl
  | value p =>
    obtain ⟨p', whole, rfl⟩ := decodeField_value read
    obtain ⟨nonzero, ⟨bare, spelled, -, -, some_, comma, blank, -⟩, credentials, flags⟩ :=
      writeProxy_accepts.mp accepted
    have matrix := checkCredentials_expressible whole (given p rfl) credentials flags
    obtain ⟨port, portRead, built⟩ := Option.bind_eq_some_iff.mp whole
    obtain rfl := Option.some.inj built
    have token : isBadToken space p.hostname = false :=
      isBadToken_brackets whitespace spelled some_ comma blank
    simp [checkProxy, token, checkPort_nonzero portRead nonzero, matrix]

theorem checkTunnel_accepted {dir : String} {t : I2pTunnelInput} {t' : I2pTunnel}
    (decoded : t.decode = some t') (valid : t'.toLt.validate dir = .ok ()) :
    checkTunnel t = [] := by
  obtain ⟨tunnels, tunnelsRead, rest⟩ := Option.bind_eq_some_iff.mp decoded
  obtain ⟨hops, hopsRead, rest⟩ := Option.bind_eq_some_iff.mp rest
  obtain ⟨variance, varianceRead, built⟩ := Option.bind_eq_some_iff.mp rest
  obtain rfl := Option.some.inj built
  obtain ⟨-, -, tunnelsExact⟩ := decodeU8_some tunnelsRead
  obtain ⟨low, -, hopsExact⟩ := decodeU8_some hopsRead
  have varianceExact := decodeI8_some varianceRead
  unfold Lt.I2pTunnels.validate at valid
  split at valid
  case isTrue => cases valid
  case isFalse quantity =>
    split at valid
    case isTrue => cases valid
    case isFalse length =>
      split at valid
      case isTrue => cases valid
      case isFalse spread =>
        simp only [I2pTunnel.toLt, not_or, UInt8.lt_iff_toNat_lt, Int8.lt_iff_toInt_lt]
          at quantity length spread
        have one : (1 : UInt8).toNat = 1 := rfl
        have sixteen : (16 : UInt8).toNat = 16 := rfl
        have seven : (7 : UInt8).toNat = 7 := rfl
        have below : (-7 : Int8).toInt = -7 := rfl
        have above : (7 : Int8).toInt = 7 := rfl
        have first : ¬(t.tunnels < 1 ∨ 16 < t.tunnels) := by omega
        have second : ¬(t.hops < 0 ∨ 7 < t.hops) := by omega
        have third : ¬(t.hopVariance < -7 ∨ 7 < t.hopVariance) := by omega
        rw [checkTunnel, if_neg first, if_neg second, if_neg third]
        rfl

theorem checkI2p_accepted (whitespace : ∀ c, space c = Text.isWhitespace c)
    {i2p : MaybeUndefined I2pSettingsInput} {decoded : MaybeUndefined I2pSettings}
    (read : decodeField I2pSettingsInput.decode i2p = some decoded)
    (accepted : ∃ own, writeI2p lt decoded .empty = .ok () own) :
    checkI2p space i2p = [] := by
  cases i2p with
  | undefined => rfl
  | null => rfl
  | value c =>
    obtain ⟨own, ran⟩ := accepted
    obtain ⟨c', whole, rfl⟩ := decodeField_value read
    obtain ⟨nonzero, same, set⟩ := writeI2p_value_ok.mp ran
    obtain ⟨host, inbound, outbound, -⟩ := Lt.i2p_ok.mp set
    obtain ⟨port, portRead, rest⟩ := Option.bind_eq_some_iff.mp whole
    obtain ⟨inbound', inboundRead, rest⟩ := Option.bind_eq_some_iff.mp rest
    obtain ⟨outbound', outboundRead, built⟩ := Option.bind_eq_some_iff.mp rest
    obtain rfl := Option.some.inj built
    have positive : port ≠ 0 := by
      have value : nonzero.val = port := same
      rw [← value]
      exact nonzero.property
    obtain ⟨some_, comma, blank, -⟩ := Lt.bareHostToken_ok.mp host
    have token : isBadToken space c.hostname = false := by
      refine isBadToken_brackets whitespace ?_ some_ comma blank
      change c.hostname = (Lt.unbracketed c.hostname).getD c.hostname ∨ _
      cases brackets : Lt.unbracketed c.hostname with
      | none => exact .inl rfl
      | some inner =>
        refine .inr ?_
        have spelled := Lt.unbracketed_eq_some.mp brackets
        have bare : (I2pSettings.config ⟨c.hostname, port, c.allowMixed, inbound', outbound'⟩
            nonzero).samHost = inner := by
          simp [I2pSettings.config, I2pSettings.samHost, brackets]
        rw [bare]
        exact spelled
    simp [checkI2p, token, checkPort_nonzero portRead positive,
      checkTunnel_accepted inboundRead inbound, checkTunnel_accepted outboundRead outbound]

/-! ## Lists -/

theorem checkEach_nil {α : Type} {check : α → List SettingsIssue} {xs : List α}
    (none_ : ∀ a ∈ xs, check a = []) : checkEach check (.value xs) = [] :=
  List.flatMap_eq_nil_iff.mpr none_

theorem checkOutgoingInterfaces_accepted (whitespace : ∀ c, space c = Text.isWhitespace c)
    {list : MaybeUndefined (List Text)}
    (accepted : ∃ own, writeOutgoingInterfaces list .empty = .ok () own) :
    checkEach (checkOutgoingInterface space) list = [] := by
  cases list with
  | undefined => rfl
  | null => rfl
  | value entries =>
    obtain ⟨own, ran⟩ := accepted
    apply checkEach_nil
    intro token listed
    have clean :=
      bareHostToken_clean whitespace ((writeOutgoingInterfaces_ok.mp ran).1 token listed)
    rw [checkOutgoingInterface, clean]
    rfl

theorem checkListenInterfaces_accepted (whitespace : ∀ c, space c = Text.isWhitespace c)
    {list : MaybeUndefined (List ListenInterfaceInput)}
    {decoded : MaybeUndefined (List ListenInterface)}
    (read : decodeField (decodeList ListenInterfaceInput.decode) list = some decoded)
    (accepted : ∃ own, writeListenInterfaces decoded .empty = .ok () own) :
    checkEach (checkListenInterface space) list = [] := by
  cases list with
  | undefined => rfl
  | null => rfl
  | value entries =>
    obtain ⟨own, ran⟩ := accepted
    obtain ⟨entries', whole, rfl⟩ := decodeField_value read
    apply checkEach_nil
    intro entry listed
    obtain ⟨entry', listed', own'⟩ := decodeList_mem whole entry listed
    obtain ⟨port, portRead, built⟩ := Option.bind_eq_some_iff.mp own'
    obtain rfl := Option.some.inj built
    obtain ⟨token, bracketed⟩ :=
      hostToken_clean whitespace ((writeListenInterfaces_ok.mp ran).1 _ listed')
    simp only at token bracketed
    simp [checkListenInterface, token, bracketed, checkPort_listen portRead]

theorem checkDhtBootstrapNodes_accepted (whitespace : ∀ c, space c = Text.isWhitespace c)
    {list : MaybeUndefined (List HostPortInput)} {decoded : MaybeUndefined (List HostPort)}
    (read : decodeField (decodeList HostPortInput.decode) list = some decoded)
    (accepted : ∃ own, writeDhtBootstrapNodes decoded .empty = .ok () own) :
    checkEach (checkHostPort space "dhtBootstrapNodes") list = [] := by
  cases list with
  | undefined => rfl
  | null => rfl
  | value entries =>
    obtain ⟨own, ran⟩ := accepted
    obtain ⟨entries', whole, rfl⟩ := decodeField_value read
    obtain ⟨nodes, rfl, tokens, -⟩ := writeDhtBootstrapNodes_ok.mp ran
    apply checkEach_nil
    intro entry listed
    obtain ⟨entry', listed', own'⟩ := decodeList_mem whole entry listed
    obtain ⟨node, member, rfl⟩ := List.mem_map.mp listed'
    obtain ⟨port, portRead, built⟩ := Option.bind_eq_some_iff.mp own'
    obtain ⟨host, same⟩ := HostPort.mk.inj (Option.some.inj built)
    obtain ⟨token, bracketed⟩ := hostToken_clean whitespace (tokens node member)
    have nonzero : port ≠ 0 := by
      rw [same]
      exact node.port.property
    rw [← host] at token bracketed
    simp [checkHostPort, token, bracketed, checkPort_nonzero portRead nonzero]

/-! ## The delta -/

/-- The daemon does not take the delta, whatever was staged before. -/
def Rejects (lt : Libtorrent) (delta : SettingsDelta) : Prop :=
  ∀ input pack, delta.decode = some input → ∃ e after, write lt input pack = .error e after

theorem oblivious_write : Keyed.Oblivious (write lt input) := by
  rw [write_eq]
  exact Keyed.Part.oblivious_writeAll

theorem validateDelta_accepted (whitespace : ∀ c, space c = Text.isWhitespace c)
    {delta : SettingsDelta} (given : ∀ p, delta.proxy = .value p → CredentialsGiven p)
    (decoded : delta.decode = some input) (ran : write lt input .empty = .ok () pack) :
    validateDelta space delta = [] := by
  have fields := write_fields ran
  obtain ⟨scalars, -, rest⟩ := Option.bind_eq_some_iff.mp decoded
  obtain ⟨proxy, proxyRead, rest⟩ := Option.bind_eq_some_iff.mp rest
  obtain ⟨i2p, i2pRead, rest⟩ := Option.bind_eq_some_iff.mp rest
  obtain ⟨range, rangeRead, rest⟩ := Option.bind_eq_some_iff.mp rest
  obtain ⟨listen, listenRead, rest⟩ := Option.bind_eq_some_iff.mp rest
  obtain ⟨nodes, nodesRead, built⟩ := Option.bind_eq_some_iff.mp rest
  obtain rfl := Option.some.inj built
  rw [validateDelta, checkOutgoingPortRange_accepted rangeRead fields.outgoingPortRange,
    checkListenInterfaces_accepted whitespace listenRead fields.listenInterfaces,
    checkOutgoingInterfaces_accepted whitespace fields.outgoingInterfaces,
    checkDhtBootstrapNodes_accepted whitespace nodesRead fields.dhtBootstrapNodes,
    checkProxy_accepted whitespace given proxyRead fields.proxy,
    checkI2p_accepted whitespace i2pRead fields.i2p, checkEncryption_accepted fields.encryption,
    checkUserAgent_accepted fields.userAgent]
  rfl

/-- A delta with an issue is rejected, if the proxy gives the credentials that its protocol has no
place for. -/
theorem validateDelta_sound (space : Char → Bool)
    (whitespace : ∀ c, space c = Text.isWhitespace c) (lt : Libtorrent) (delta : SettingsDelta)
    (given : ∀ p, delta.proxy = .value p → CredentialsGiven p)
    (issues : validateDelta space delta ≠ []) : Rejects lt delta := by
  intro input pack decoded
  cases ran : write lt input pack with
  | error e after => exact ⟨e, after, rfl⟩
  | ok u after =>
    obtain ⟨own, alone, -⟩ := oblivious_write.of_ok ran
    exact absurd (validateDelta_accepted whitespace given decoded alone) issues

theorem decodeScalars_omitted (table : List Scalar) :
    decodeScalars table (omittedScalars table) = some (Fields.undefined table) := by
  induction table with
  | nil => rfl
  | cons s rest ih =>
    rw [omittedScalars, decodeScalars, ih]
    rfl

/-- A delta for a SOCKS5 proxy. -/
def socks5Delta (username password : Option Text) : SettingsDelta :=
  { SettingsDelta.omitted with
    proxy := .value ⟨.socks5, "proxy".toList, 1080, username, password, true, true, true, none,
      none⟩ }

theorem validateDelta_sound_password :
    Rejects plainLibtorrent (socks5Delta (some []) (some ['p'])) := by
  apply validateDelta_sound Text.isWhitespace (fun _ => rfl)
  · intro p same
    obtain rfl := MaybeUndefined.value.inj same
    exact ⟨Option.some_ne_none _, Option.some_ne_none _⟩
  · decide

/-- What the daemon takes the delta without credentials for. -/
def socks5Input : SettingsInput :=
  { SettingsInput.undefined with
    proxy := .value ⟨.socks5, "proxy".toList, 1080, [], [], true, true, true, false, false⟩ }

/-- Credentials that are left out are an issue, while the daemon takes the delta. -/
theorem validateDelta_omitted_credentials :
    ¬∀ space : Char → Bool, (∀ c, space c = Text.isWhitespace c) → ∀ lt delta,
      validateDelta space delta ≠ [] → Rejects lt delta := by
  intro claimed
  have rejects := claimed Text.isWhitespace (fun _ => rfl) plainLibtorrent
    (socks5Delta none none) (by decide)
  have decoded : (socks5Delta none none).decode = some socks5Input := by
    unfold SettingsDelta.decode
    change (decodeScalars SCALARS (omittedScalars SCALARS)).bind _ = _
    rw [decodeScalars_omitted]
    rfl
  have accepted : accepts plainLibtorrent socks5Input = true := by decide +kernel
  obtain ⟨e, after, rejected⟩ := rejects socks5Input .empty decoded
  rw [accepts, rejected] at accepted
  cases accepted

end Rsbtd.WebUi
