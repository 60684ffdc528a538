import Rsbtd.Settings.Pack

/-!
# Typed settings

The setters and getters of the settings that are enumerations, token lists or
interdependent groups.  Each setter validates before it stages anything.
-/

namespace Rsbtd.Settings.Lt

open Rsbtd.Keyed

/-- An enumeration stored as an integer. -/
class RawI32 (T : Type) where
  raw : T → Int32
  fromRaw : Int32 → Option T
  fromRaw_raw : ∀ value, fromRaw (raw value) = some value

inductive MmapWriteMode
  | alwaysPwrite | alwaysMmapWrite | autoMmapWrite
  deriving DecidableEq

instance : RawI32 MmapWriteMode where
  raw
    | .alwaysPwrite => 0
    | .alwaysMmapWrite => 1
    | .autoMmapWrite => 2
  fromRaw x :=
    if x = 0 then some .alwaysPwrite else if x = 1 then some .alwaysMmapWrite
    else if x = 2 then some .autoMmapWrite else none
  fromRaw_raw value := by cases value <;> rfl

inductive SuggestMode
  | noPieceSuggestions | suggestReadCache
  deriving DecidableEq

instance : RawI32 SuggestMode where
  raw
    | .noPieceSuggestions => 0
    | .suggestReadCache => 1
  fromRaw x :=
    if x = 0 then some .noPieceSuggestions else if x = 1 then some .suggestReadCache else none
  fromRaw_raw value := by cases value <;> rfl

inductive ChokingAlgorithm
  | fixedSlotsChoker | rateBasedChoker
  deriving DecidableEq

instance : RawI32 ChokingAlgorithm where
  raw
    | .fixedSlotsChoker => 0
    | .rateBasedChoker => 2
  fromRaw x :=
    if x = 0 then some .fixedSlotsChoker else if x = 2 then some .rateBasedChoker else none
  fromRaw_raw value := by cases value <;> rfl

inductive SeedChokingAlgorithm
  | roundRobin | fastestUpload | antiLeech
  deriving DecidableEq

instance : RawI32 SeedChokingAlgorithm where
  raw
    | .roundRobin => 0
    | .fastestUpload => 1
    | .antiLeech => 2
  fromRaw x :=
    if x = 0 then some .roundRobin else if x = 1 then some .fastestUpload
    else if x = 2 then some .antiLeech else none
  fromRaw_raw value := by cases value <;> rfl

inductive IoBufferMode
  | enableOsCache | disableOsCache | writeThrough
  deriving DecidableEq

instance : RawI32 IoBufferMode where
  raw
    | .enableOsCache => 0
    | .disableOsCache => 2
    | .writeThrough => 3
  fromRaw x :=
    if x = 0 then some .enableOsCache else if x = 2 then some .disableOsCache
    else if x = 3 then some .writeThrough else none
  fromRaw_raw value := by cases value <;> rfl

inductive BandwidthMixedAlgo
  | preferTcp | peerProportional
  deriving DecidableEq

instance : RawI32 BandwidthMixedAlgo where
  raw
    | .preferTcp => 0
    | .peerProportional => 1
  fromRaw x := if x = 0 then some .preferTcp else if x = 1 then some .peerProportional else none
  fromRaw_raw value := by cases value <;> rfl

inductive EncPolicy
  | peForced | peEnabled | peDisabled
  deriving DecidableEq

instance : RawI32 EncPolicy where
  raw
    | .peForced => 0
    | .peEnabled => 1
    | .peDisabled => 2
  fromRaw x :=
    if x = 0 then some .peForced else if x = 1 then some .peEnabled
    else if x = 2 then some .peDisabled else none
  fromRaw_raw value := by cases value <;> rfl

inductive EncLevel
  | pePlaintext | peRc4 | peBoth
  deriving DecidableEq

instance : RawI32 EncLevel where
  raw
    | .pePlaintext => 1
    | .peRc4 => 2
    | .peBoth => 3
  fromRaw x :=
    if x = 1 then some .pePlaintext else if x = 2 then some .peRc4
    else if x = 3 then some .peBoth else none
  fromRaw_raw value := by cases value <;> rfl

inductive ProxyType
  | none | socks4 | socks5 | socks5Pw | http | httpPw
  deriving DecidableEq

instance : RawI32 ProxyType where
  raw
    | .none => 0
    | .socks4 => 1
    | .socks5 => 2
    | .socks5Pw => 3
    | .http => 4
    | .httpPw => 5
  fromRaw x :=
    if x = 0 then some .none else if x = 1 then some .socks4 else if x = 2 then some .socks5
    else if x = 3 then some .socks5Pw else if x = 4 then some .http
    else if x = 5 then some .httpPw else Option.none
  fromRaw_raw value := by cases value <;> rfl

def setEnum {T E : Type} [RawI32 T] (key : SettingKey) (value : T) :
    Writer SettingKey SettingValue E Unit :=
  setInt key (RawI32.raw value)

/-- `none` if unset or set to a value the bindings do not know. -/
def getEnum (T : Type) [RawI32 T] (pack : SettingsPack) (key : SettingKey) : Option T :=
  (pack.getInt key).bind RawI32.fromRaw

/-! ## Scalars with a domain -/

def setInRange (key : SettingKey) (low high value : Int32) : Setter := do
  check (inRange key.name value low high)
  setInt key value

/-- `peer_fingerprint`, the one string with a domain. -/
def peerFingerprint (key : SettingKey) (value : Text) : Setter := do
  check (if 20 ≤ Text.len value then
      .error ⟨key.name, toString (Text.len value) ++
        " bytes would make the whole peer id deterministic; use at most 19"⟩
    else .ok ())
  setStr key value

/-- `peer_dscp`: the code point occupies the top six bits of the stored traffic-class byte. -/
def peerDscp (key : SettingKey) (value : Int32) : Setter := do
  check (inRange key.name value 0 63)
  setInt key (value <<< 2)

def getPeerDscp (pack : SettingsPack) (key : SettingKey) : Option Int32 :=
  (pack.getInt key).map fun (raw : Int32) => (raw &&& 0xfc) >>> (2 : Int32)

/-! ## Outgoing connections -/

def outgoingPorts : Option (UInt16 × UInt16) → Setter
  | none => do
    setInt .outgoingPort 0
    setInt .numOutgoingPorts 0
  | some (first, last) => do
    check (if first = 0 then
        .error ⟨"outgoing_ports", "the range must not start at port 0"⟩
      else .ok ())
    check (if last < first then
        .error ⟨"outgoing_ports", s!"the range {first}..={last} is empty"⟩
      else .ok ())
    setInt .outgoingPort (i32OfU16 first)
    setInt .numOutgoingPorts (i32OfU16 last - i32OfU16 first)

def getOutgoingPorts (pack : SettingsPack) : Option (Option (UInt16 × UInt16)) := do
  let first ← pack.getInt .outgoingPort
  let count ← pack.getInt .numOutgoingPorts
  if first ≤ 0 then some none
  else do
    let first ← u16OfI32 first
    let last := min ((first.toNat : Int) + max count.toInt 0) 65535
    some (some (first, UInt16.ofNat last.toNat))

def outgoingInterfaces (entries : List Text) : Setter := do
  check (entries.forM fun entry => bareHostToken "outgoing_interfaces" "entry" entry)
  setStr .outgoingInterfaces (Text.join ',' entries)

/-! ## Endpoints -/

structure ListenEndpoint where
  addr : Text
  port : UInt16
  ssl : Bool
  local_ : Bool
  deriving DecidableEq

def ListenEndpoint.flags (e : ListenEndpoint) : Text :=
  (if e.ssl then ['s'] else []) ++ (if e.local_ then ['l'] else [])

def ListenEndpoint.format (e : ListenEndpoint) : Text :=
  e.addr ++ ':' :: (Text.decimal e.port.toNat ++ e.flags)

def ListenEndpoint.parse (entry : Text) : Option ListenEndpoint := do
  let (addr, rest) ← Text.rsplitOnce ':' entry
  let portStr := Text.trimEndMatches ['s', 'l'] rest
  let flags := rest.drop portStr.length
  let port ← Text.parseU16 portStr
  some ⟨addr, port, decide ('s' ∈ flags), decide ('l' ∈ flags)⟩

def listenInterfaces (endpoints : List ListenEndpoint) : Setter := do
  check (endpoints.forM fun e => hostToken "listen_interfaces" "address" e.addr)
  setStr .listenInterfaces (Text.join ',' (endpoints.map ListenEndpoint.format))

/-- Splits a list of entries; empty ones are skipped, and one that does not parse fails the list. -/
def parseEntries {α : Type} (parse : Text → Option α) (raw : Text) : Option (List α) :=
  ((Text.split ',' raw).filter (· ≠ [])).mapM parse

def getListenInterfacesParsed (pack : SettingsPack) : Option (List ListenEndpoint) :=
  (pack.getStr .listenInterfaces).bind (parseEntries ListenEndpoint.parse)

/-- `NonZeroU16`. -/
abbrev NonZeroU16 := { port : UInt16 // port ≠ 0 }

def nonZero (port : UInt16) : Option NonZeroU16 := if h : port = 0 then none else some ⟨port, h⟩

structure HostPort where
  host : Text
  port : NonZeroU16
  deriving DecidableEq

def HostPort.format (node : HostPort) : Text :=
  node.host ++ ':' :: Text.decimal node.port.val.toNat

def HostPort.parse (entry : Text) : Option HostPort := do
  let (host, port) ← Text.rsplitOnce ':' entry
  let port ← Text.parseU16 port
  let port ← nonZero port
  some ⟨host, port⟩

def dhtBootstrapNodes (nodes : List HostPort) : Setter := do
  check (nodes.forM fun node => hostToken "dht_bootstrap_nodes" "hostname" node.host)
  setStr .dhtBootstrapNodes (Text.join ',' (nodes.map HostPort.format))

def getDhtBootstrapNodesParsed (pack : SettingsPack) : Option (List HostPort) :=
  (pack.getStr .dhtBootstrapNodes).bind (parseEntries HostPort.parse)

/-! ## The proxy -/

structure Credentials where
  username : Text
  password : Text

inductive ProxyProtocol
  | socks4 (username : Text)
  | socks5 (auth : Option Credentials) (resolveHostnames udpSendLocalEndpoint : Bool)
  | http (auth : Option Credentials) (resolveHostnames sendHostnameInConnect : Bool)

structure ProxyConfig where
  protocol : ProxyProtocol
  host : Text
  port : NonZeroU16
  peerConnections : Bool
  trackerConnections : Bool

def PROXY_KEYS : List SettingKey := [
  .proxyType, .proxyHostname, .proxyPort, .proxyUsername, .proxyPassword, .proxyHostnames,
  .proxyPeerConnections, .proxyTrackerConnections, .socks5UdpSendLocalEp, .proxySendHostInConnect]

/-- One auth slot: both parts non-empty, each at most `maxLen` bytes. -/
def credentials (auth : Option Credentials) (maxLen : Nat) : Except SettingsError (Text × Text) :=
  match auth with
  | none => .ok ([], [])
  | some c =>
    if c.username = [] then .error ⟨"proxy", "auth username must not be empty"⟩
    else if c.password = [] then .error ⟨"proxy", "auth password must not be empty"⟩
    else if maxLen < Text.len c.username ∨ maxLen < Text.len c.password then
      .error ⟨"proxy", s!"SOCKS5 credentials are limited to {maxLen} bytes each"⟩
    else .ok (c.username, c.password)

def stripBrackets (host : Text) : Except SettingsError Text :=
  match Text.stripPrefix '[' host with
  | some rest =>
    match Text.stripSuffix ']' rest with
    | some inner => .ok inner
    | none => .error ⟨"proxy", "host " ++ debug host ++ " has unbalanced brackets"⟩
  | none => .ok host

/-- The host is stored bare. -/
def proxyHost (host : Text) : Except SettingsError Text := do
  let bare ← stripBrackets host
  if '[' ∈ bare ∨ ']' ∈ bare then
    .error ⟨"proxy", "host " ++ debug host ++ " contains stray brackets"⟩
  else .ok bare

/-- What the protocol decides of the group. -/
structure ProxyValues where
  ty : ProxyType
  username : Text
  password : Text
  resolve : Bool
  udpLocal : Bool
  hostInConnect : Bool
  deriving DecidableEq

def ProxyProtocol.values : ProxyProtocol → Except SettingsError ProxyValues
  | .socks4 username =>
    if username = [] then
      .error ⟨"proxy", "SOCKS4 sends the username as its userid; it must not be empty"⟩
    else .ok ⟨.socks4, username, [], false, false, false⟩
  | .socks5 auth resolveHostnames udpSendLocalEndpoint => do
    let (u, p) ← credentials auth 255
    .ok ⟨if auth.isSome then .socks5Pw else .socks5, u, p, resolveHostnames, udpSendLocalEndpoint,
      false⟩
  | .http auth resolveHostnames sendHostnameInConnect => do
    -- `usize::MAX`
    let (u, p) ← credentials auth 18446744073709551615
    .ok ⟨if auth.isSome then .httpPw else .http, u, p, resolveHostnames, false,
      sendHostnameInConnect⟩

def proxy (lt : Libtorrent) : Option ProxyConfig → Setter
  | none => PROXY_KEYS.forM (setDefault lt)
  | some c => do
    let host ← check (proxyHost c.host)
    check (bareHostToken "proxy" "host" host)
    let v ← check c.protocol.values
    setEnum .proxyType v.ty
    setStr .proxyHostname host
    setInt .proxyPort (i32OfU16 c.port)
    setStr .proxyUsername v.username
    setStr .proxyPassword v.password
    setBool .proxyHostnames v.resolve
    setBool .proxyPeerConnections c.peerConnections
    setBool .proxyTrackerConnections c.trackerConnections
    setBool .socks5UdpSendLocalEp v.udpLocal
    setBool .proxySendHostInConnect v.hostInConnect

/-- The protocol as `get_proxy` builds it; `auth` is used by the protocols with a password. -/
def getProxyProtocol (pack : SettingsPack) (auth : Credentials) (resolveHostnames : Bool) :
    ProxyType → Option ProxyProtocol
  | .none => none
  | .socks4 => (pack.getStr .proxyUsername).map .socks4
  | .socks5 => (pack.getBool .socks5UdpSendLocalEp).map (.socks5 none resolveHostnames)
  | .socks5Pw => (pack.getBool .socks5UdpSendLocalEp).map (.socks5 (some auth) resolveHostnames)
  | .http => (pack.getBool .proxySendHostInConnect).map (.http none resolveHostnames)
  | .httpPw => (pack.getBool .proxySendHostInConnect).map (.http (some auth) resolveHostnames)

/-- The outer `none`: absent or not representable; the inner one: no proxy. -/
def getProxy (pack : SettingsPack) : Option (Option ProxyConfig) := do
  let ty ← getEnum ProxyType pack .proxyType
  if ty = .none then some none
  else do
    let port ← ((pack.getInt .proxyPort).bind u16OfI32).bind nonZero
    let username ← pack.getStr .proxyUsername
    let password ← pack.getStr .proxyPassword
    let resolveHostnames ← pack.getBool .proxyHostnames
    let protocol ← getProxyProtocol pack ⟨username, password⟩ resolveHostnames ty
    let host ← pack.getStr .proxyHostname
    let peerConnections ← pack.getBool .proxyPeerConnections
    let trackerConnections ← pack.getBool .proxyTrackerConnections
    some (some ⟨protocol, host, port, peerConnections, trackerConnections⟩)

/-! ## I2P -/

structure I2pTunnels where
  quantity : UInt8
  length : UInt8
  variance : Int8
  deriving DecidableEq

structure I2pConfig where
  samHost : Text
  samPort : NonZeroU16
  inbound : I2pTunnels
  outbound : I2pTunnels
  allowMixed : Bool
  deriving DecidableEq

def I2P_KEYS : List SettingKey := [
  .i2pHostname, .i2pPort, .allowI2pMixed, .i2pInboundQuantity, .i2pOutboundQuantity,
  .i2pInboundLength, .i2pOutboundLength, .i2pInboundLengthVariance, .i2pOutboundLengthVariance]

/-- What the SAM protocol accepts of one direction. -/
def I2pTunnels.validate (dir : String) (t : I2pTunnels) : Except SettingsError Unit :=
  if t.quantity < 1 ∨ 16 < t.quantity then
    .error ⟨"i2p", dir ++ " quantity " ++ toString t.quantity ++
      " is outside the valid range 1..=16"⟩
  else if 7 < t.length then
    .error ⟨"i2p", dir ++ " length " ++ toString t.length ++ " is outside the valid range 0..=7"⟩
  else if t.variance < -7 ∨ 7 < t.variance then
    .error ⟨"i2p", dir ++ " variance " ++ toString t.variance ++
      " is outside the valid range -7..=7"⟩
  else .ok ()

def i2p (lt : Libtorrent) : Option I2pConfig → Setter
  | none => I2P_KEYS.forM (setDefault lt)
  | some c => do
    check (bareHostToken "i2p" "SAM host" c.samHost)
    check (c.inbound.validate "inbound")
    check (c.outbound.validate "outbound")
    setStr .i2pHostname c.samHost
    setInt .i2pPort (i32OfU16 c.samPort)
    setBool .allowI2pMixed c.allowMixed
    setInt .i2pInboundQuantity (i32OfU8 c.inbound.quantity)
    setInt .i2pInboundLength (i32OfU8 c.inbound.length)
    setInt .i2pInboundLengthVariance (i32OfI8 c.inbound.variance)
    setInt .i2pOutboundQuantity (i32OfU8 c.outbound.quantity)
    setInt .i2pOutboundLength (i32OfU8 c.outbound.length)
    setInt .i2pOutboundLengthVariance (i32OfI8 c.outbound.variance)

def getI2pTunnels (quantity length variance : Option Int32) : Option I2pTunnels := do
  let quantity ← quantity.bind u8OfI32
  let length ← length.bind u8OfI32
  let variance ← variance.bind i8OfI32
  some ⟨quantity, length, variance⟩

/-- The outer `none`: absent or not representable; the inner one: disabled. -/
def getI2p (pack : SettingsPack) : Option (Option I2pConfig) := do
  let samHost ← pack.getStr .i2pHostname
  if samHost = [] then some none
  else do
    let samPort ← ((pack.getInt .i2pPort).bind u16OfI32).bind nonZero
    let inbound ← getI2pTunnels (pack.getInt .i2pInboundQuantity) (pack.getInt .i2pInboundLength)
      (pack.getInt .i2pInboundLengthVariance)
    let outbound ← getI2pTunnels (pack.getInt .i2pOutboundQuantity) (pack.getInt .i2pOutboundLength)
      (pack.getInt .i2pOutboundLengthVariance)
    let allowMixed ← pack.getBool .allowI2pMixed
    some (some ⟨samHost, samPort, inbound, outbound, allowMixed⟩)

end Rsbtd.Settings.Lt
