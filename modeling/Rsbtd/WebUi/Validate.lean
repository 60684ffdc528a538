import Rsbtd.Settings.Delta

/-!
# Validation of settings in the web UI

`validate.ts` checks a delta before it is sent, and `SettingsPage.tsx` does not let one with
issues be saved.  A message is given by its key.
-/

namespace Rsbtd.WebUi

open Rsbtd.Settings

structure SettingsIssue where
  field : String
  message : String
deriving DecidableEq, Repr

section Validate

-- `space` is what `\s` of a regular expression stands for.
variable (space : Char → Bool)

def isBadToken (token : Text) : Bool := token = [] || token.any fun c => space c || c = ','

/-- IPv6 literals must be bracketed in interface/host tokens. -/
def looksLikeUnbracketedV6 (token : Text) : Bool := ':' ∈ token && token.head? ≠ some '['

/-- The port is an integer; what else it may be is left out. -/
def checkPort (field : String) (port : Int) (allowZero : Bool) : List SettingsIssue :=
  if 65535 < port ∨ port < (if allowZero then 0 else 1) then [⟨field, "port"⟩] else []

def checkHostPort (field : String) (value : HostPortInput) : List SettingsIssue :=
  (if isBadToken space value.hostname || looksLikeUnbracketedV6 value.hostname then
    [⟨field, "hostToken"⟩] else []) ++ checkPort field value.port false

def checkOutgoingPortRange : MaybeUndefined PortRangeInput → List SettingsIssue
  | .value range =>
    checkPort "outgoingPortRange" range.first false ++
      checkPort "outgoingPortRange" range.last false ++
      if range.last < range.first then [⟨"outgoingPortRange", "rangeOrder"⟩] else []
  | _ => []

def checkListenInterface (entry : ListenInterfaceInput) : List SettingsIssue :=
  (if isBadToken space entry.interface then [⟨"listenInterfaces", "interfaceToken"⟩]
    else if looksLikeUnbracketedV6 entry.interface then [⟨"listenInterfaces", "ipv6Brackets"⟩]
    else []) ++
    -- Port 0 asks the OS for an ephemeral port (allowed here only).
    checkPort "listenInterfaces" entry.port true

/-- The loop over a list that is not null. -/
def checkEach {α : Type} (check : α → List SettingsIssue) :
    MaybeUndefined (List α) → List SettingsIssue
  | .value entries => entries.flatMap check
  | _ => []

def checkOutgoingInterface (token : Text) : List SettingsIssue :=
  if isBadToken space token then [⟨"outgoingInterfaces", "interfaceToken"⟩] else []

/-- `credential !== ''`, which holds of `undefined`. -/
def hasCredential (credential : Option Text) : Bool := credential ≠ some []

def checkCredentials (proxy : ProxySettingsInput) : List SettingsIssue :=
  let hasUser := hasCredential proxy.username
  let hasPass := hasCredential proxy.password
  match proxy.protocol with
  | .socks4 =>
    (if hasUser then [] else [⟨"proxy", "socks4Username"⟩]) ++
      (if hasPass then [⟨"proxy", "credentialsForbidden"⟩] else []) ++
      if proxy.resolveHostnames then [⟨"proxy", "socks4Resolve"⟩] else []
  | .socks5 | .http => if hasUser || hasPass then [⟨"proxy", "credentialsForbidden"⟩] else []
  | .socks5Password | .httpPassword =>
    if hasUser && hasPass then [] else [⟨"proxy", "credentialsRequired"⟩]

def checkProxy : MaybeUndefined ProxySettingsInput → List SettingsIssue
  | .value proxy =>
    (if isBadToken space proxy.hostname then [⟨"proxy", "hostToken"⟩] else []) ++
      checkPort "proxy" proxy.port false ++ checkCredentials proxy
  | _ => []

def checkTunnel (tunnel : I2pTunnelInput) : List SettingsIssue :=
  (if tunnel.tunnels < 1 ∨ 16 < tunnel.tunnels then [⟨"i2p", "i2pTunnels"⟩] else []) ++
    (if tunnel.hops < 0 ∨ 7 < tunnel.hops then [⟨"i2p", "i2pHops"⟩] else []) ++
    if tunnel.hopVariance < -7 ∨ 7 < tunnel.hopVariance then [⟨"i2p", "i2pVariance"⟩] else []

def checkI2p : MaybeUndefined I2pSettingsInput → List SettingsIssue
  | .value i2p =>
    (if isBadToken space i2p.hostname then [⟨"i2p", "hostToken"⟩] else []) ++
      checkPort "i2p" i2p.port false ++ checkTunnel i2p.inbound ++ checkTunnel i2p.outbound
  | _ => []

def checkEncryption : MaybeUndefined EncryptionSettings → List SettingsIssue
  | .value encryption =>
    (if !encryption.methods.plaintext && !encryption.methods.rc4 then
      [⟨"encryption", "encryptionMethods"⟩] else []) ++
      if encryption.preferRc4 && !(encryption.methods.plaintext && encryption.methods.rc4) then
        [⟨"encryption", "preferRc4"⟩]
      else []
  | _ => []

def checkUserAgent (userAgent : MaybeUndefined UserAgent) : List SettingsIssue :=
  if userAgent = .value .unrecognized then [⟨"userAgent", "userAgentReadOnly"⟩] else []

def validateDelta (delta : SettingsDelta) : List SettingsIssue :=
  checkOutgoingPortRange delta.outgoingPortRange ++
    checkEach (checkListenInterface space) delta.listenInterfaces ++
    checkEach (checkOutgoingInterface space) delta.outgoingInterfaces ++
    checkEach (checkHostPort space "dhtBootstrapNodes") delta.dhtBootstrapNodes ++
    checkProxy space delta.proxy ++
    checkI2p space delta.i2p ++
    checkEncryption delta.encryption ++
    checkUserAgent delta.userAgent

end Validate

end Rsbtd.WebUi
