import Rsbtd.Settings.Catalog

/-!
# The structured settings

Typed values translated to one or more backing settings.  A write rejects values
and combinations libtorrent would silently ignore; a read builds the public value
from the effective pack.
-/

namespace Rsbtd.Settings

open Rsbtd.Keyed

def QBITTORRENT_COMPAT_VERSION : Text := "5.2.3".toList

/-- `CARGO_PKG_VERSION`. -/
def PACKAGE_VERSION : Text := "1.0.0".toList

def portFor (place : String) (port : UInt16) : Except SettingsError Lt.NonZeroU16 :=
  match Lt.nonZero port with
  | some port => .ok port
  | none => .error ⟨place ++ " must be in 1..=65535"⟩

def effectivePort (name : String) (value : Int32) : Except SettingsError UInt16 :=
  match u16OfI32 value with
  | some port => .ok port
  | none => .error ⟨name ++ ": effective value out of range"⟩

/-! ## The user agent -/

inductive UserAgent
  | none | libtorrent | rsbtd | qBittorrent | unrecognized
  deriving DecidableEq

/-- By prefix: persisted strings carry the version that wrote them. -/
def readUserAgent (pack : SettingsPack) : Except SettingsError UserAgent := do
  let raw ← orMissing "user_agent" (pack.getStr .userAgent)
  .ok (if raw = [] then .none
    else if "libtorrent/".toList.isPrefixOf raw = true then .libtorrent
    else if "rsbtd/".toList.isPrefixOf raw = true then .rsbtd
    else if "qBittorrent/".toList.isPrefixOf raw = true then .qBittorrent
    else .unrecognized)

def userAgentValue (lt : Libtorrent) : UserAgent → Except SettingsError Text
  | .none => .ok []
  | .libtorrent => .ok ("libtorrent/".toList ++ lt.version)
  | .rsbtd => .ok ("rsbtd/".toList ++ PACKAGE_VERSION)
  | .qBittorrent => .ok ("qBittorrent/".toList ++ QBITTORRENT_COMPAT_VERSION)
  | .unrecognized => .error ⟨"userAgent: UNRECOGNIZED is read-only; choose a concrete identity"⟩

def writeUserAgent (lt : Libtorrent) (value : MaybeUndefined UserAgent) : Write :=
  whenDefined value "user_agent" fun choice => do
    let value ← check (userAgentValue lt choice)
    Lt.setStr .userAgent value

/-! ## The proxy -/

def PROXY_BACKING : List SettingKey := [
  .proxyType, .proxyHostname, .proxyPort, .proxyUsername, .proxyPassword, .proxyHostnames,
  .proxyPeerConnections, .proxyTrackerConnections, .socks5UdpSendLocalEp, .proxySendHostInConnect]

inductive ProxyProtocol
  | socks4 | socks5 | socks5Password | http | httpPassword
  deriving DecidableEq

def ProxyProtocol.fromLt : Lt.ProxyType → Option ProxyProtocol
  | .none => none
  | .socks4 => some .socks4
  | .socks5 => some .socks5
  | .socks5Pw => some .socks5Password
  | .http => some .http
  | .httpPw => some .httpPassword

structure ProxySettings where
  protocol : ProxyProtocol
  hostname : Text
  port : UInt16
  username : Text
  password : Text
  resolveHostnames : Bool
  peerConnections : Bool
  trackerConnections : Bool
  socks5UdpSendLocalEndpoint : Bool
  sendHostnameInConnect : Bool
  deriving DecidableEq

def readProxy (pack : SettingsPack) : Except SettingsError (Option ProxySettings) := do
  let ty ← orMissing "proxy" (Lt.getEnum Lt.ProxyType pack .proxyType)
  match ProxyProtocol.fromLt ty with
  -- without a proxy the other keys are not read
  | none => .ok none
  | some protocol => do
    let hostname ← orMissing "proxy" (pack.getStr .proxyHostname)
    let rawPort ← orMissing "proxy" (pack.getInt .proxyPort)
    let port ← effectivePort "proxy.port" rawPort
    let username ← orMissing "proxy" (pack.getStr .proxyUsername)
    let password ← orMissing "proxy" (pack.getStr .proxyPassword)
    let resolveHostnames ← orMissing "proxy" (pack.getBool .proxyHostnames)
    let peerConnections ← orMissing "proxy" (pack.getBool .proxyPeerConnections)
    let trackerConnections ← orMissing "proxy" (pack.getBool .proxyTrackerConnections)
    let udpSendLocal ← orMissing "proxy" (pack.getBool .socks5UdpSendLocalEp)
    let sendHost ← orMissing "proxy" (pack.getBool .proxySendHostInConnect)
    .ok (some ⟨protocol, hostname, port, username, password, resolveHostnames, peerConnections,
      trackerConnections, udpSendLocal, sendHost⟩)

/-- The protocols that carry credentials. -/
def ProxyProtocol.wantsAuth : ProxyProtocol → Bool
  | .socks5Password | .httpPassword => true
  | _ => false

/-- The combinations no protocol can express. -/
def ProxySettings.validate (p : ProxySettings) : Except SettingsError Unit :=
  -- SOCKS4 sends a user name, but no password
  if p.protocol.wantsAuth = false ∧ p.protocol ≠ .socks4 ∧ p.username ≠ [] then
    .error ⟨"proxy: this protocol does not use `username`"⟩
  else if p.protocol.wantsAuth = false ∧ p.password ≠ [] then
    .error ⟨"proxy: this protocol does not use `password`"⟩
  else if p.resolveHostnames = true ∧ p.protocol = .socks4 then
    .error ⟨"proxy: SOCKS4 cannot resolve hostnames on the proxy (`resolveHostnames`)"⟩
  else if p.socks5UdpSendLocalEndpoint = true ∧ p.protocol ≠ .socks5 ∧
      p.protocol ≠ .socks5Password then
    .error ⟨"proxy: `socks5UdpSendLocalEndpoint` is only valid for SOCKS5 protocols"⟩
  else if p.sendHostnameInConnect = true ∧ p.protocol ≠ .http ∧ p.protocol ≠ .httpPassword then
    .error ⟨"proxy: `sendHostnameInConnect` is only valid for HTTP protocols"⟩
  else .ok ()

def ProxySettings.config (p : ProxySettings) (port : Lt.NonZeroU16) : Lt.ProxyConfig :=
  let auth : Option Lt.Credentials :=
    if p.protocol.wantsAuth then some ⟨p.username, p.password⟩ else none
  { protocol :=
      match p.protocol with
      | .socks4 => .socks4 p.username
      | .socks5 | .socks5Password =>
        .socks5 auth p.resolveHostnames p.socks5UdpSendLocalEndpoint
      | .http | .httpPassword => .http auth p.resolveHostnames p.sendHostnameInConnect
    host := p.hostname
    port := port
    peerConnections := p.peerConnections
    trackerConnections := p.trackerConnections }

def writeProxy (lt : Libtorrent) (value : MaybeUndefined ProxySettings) : Write :=
  match nullable value with
  | .unchanged => pure ()
  | .disable => rbErr "proxy" (Lt.proxy lt none)
  | .set p => do
    let port ← check (portFor "proxy.port" p.port)
    check p.validate
    rbErr "proxy" (Lt.proxy lt (some (p.config port)))

/-! ## I2P -/

def I2P_BACKING : List SettingKey := [
  .i2pHostname, .i2pPort, .allowI2pMixed, .i2pInboundQuantity, .i2pOutboundQuantity,
  .i2pInboundLength, .i2pOutboundLength, .i2pInboundLengthVariance, .i2pOutboundLengthVariance]

structure I2pTunnel where
  tunnels : UInt8
  hops : UInt8
  hopVariance : Int8
  deriving DecidableEq

structure I2pSettings where
  hostname : Text
  port : UInt16
  allowMixed : Bool
  inbound : I2pTunnel
  outbound : I2pTunnel
  deriving DecidableEq

def I2pTunnel.fromLt (t : Lt.I2pTunnels) : I2pTunnel := ⟨t.quantity, t.length, t.variance⟩

def I2pTunnel.toLt (t : I2pTunnel) : Lt.I2pTunnels := ⟨t.tunnels, t.hops, t.hopVariance⟩

def readI2p (pack : SettingsPack) : Except SettingsError (Option I2pSettings) :=
  match Lt.getI2p pack with
  | none => .error ⟨"i2p: effective values are not representable"⟩
  | some config => .ok (config.map fun c =>
    ⟨c.samHost, c.samPort, c.allowMixed, .fromLt c.inbound, .fromLt c.outbound⟩)

/-- A bracketed literal is accepted, and stored bare. -/
def I2pSettings.samHost (c : I2pSettings) : Text := (Lt.unbracketed c.hostname).getD c.hostname

def I2pSettings.config (c : I2pSettings) (port : Lt.NonZeroU16) : Lt.I2pConfig :=
  ⟨c.samHost, port, c.inbound.toLt, c.outbound.toLt, c.allowMixed⟩

def writeI2p (lt : Libtorrent) (value : MaybeUndefined I2pSettings) : Write :=
  match nullable value with
  | .unchanged => pure ()
  | .disable => rbErr "i2p" (Lt.i2p lt none)
  | .set c => do
    let port ← check (portFor "i2p.port" c.port)
    rbErr "i2p" (Lt.i2p lt (some (c.config port)))

/-! ## Encryption -/

def ENCRYPTION_BACKING : List SettingKey := [
  .outEncPolicy, .inEncPolicy, .allowedEncLevel, .preferRc4, .announceCryptoSupport]

inductive EncryptionPolicy
  | forced | enabled | disabled
  deriving DecidableEq

def EncryptionPolicy.toLt : EncryptionPolicy → Lt.EncPolicy
  | .forced => .peForced
  | .enabled => .peEnabled
  | .disabled => .peDisabled

def EncryptionPolicy.fromLt : Lt.EncPolicy → EncryptionPolicy
  | .peForced => .forced
  | .peEnabled => .enabled
  | .peDisabled => .disabled

structure EncryptionMethods where
  plaintext : Bool
  rc4 : Bool
  deriving DecidableEq

structure EncryptionSettings where
  incoming : EncryptionPolicy
  outgoing : EncryptionPolicy
  methods : EncryptionMethods
  preferRc4 : Bool
  announceSupport : Bool
  deriving DecidableEq

def EncryptionMethods.fromLt : Lt.EncLevel → EncryptionMethods
  | .pePlaintext => ⟨true, false⟩
  | .peRc4 => ⟨false, true⟩
  | .peBoth => ⟨true, true⟩

def EncryptionMethods.level (m : EncryptionMethods) : Except SettingsError Lt.EncLevel :=
  match m.plaintext, m.rc4 with
  | true, true => .ok .peBoth
  | true, false => .ok .pePlaintext
  | false, true => .ok .peRc4
  | false, false =>
    .error ⟨"encryption: at least one of `methods.plaintext`, `methods.rc4` must be enabled"⟩

def readEncryption (pack : SettingsPack) : Except SettingsError EncryptionSettings := do
  let level ← orMissing "encryption" (Lt.getEnum Lt.EncLevel pack .allowedEncLevel)
  let incoming ← orMissing "encryption" (Lt.getEnum Lt.EncPolicy pack .inEncPolicy)
  let outgoing ← orMissing "encryption" (Lt.getEnum Lt.EncPolicy pack .outEncPolicy)
  let preferRc4 ← orMissing "encryption" (pack.getBool .preferRc4)
  let announceSupport ← orMissing "encryption" (pack.getBool .announceCryptoSupport)
  .ok ⟨.fromLt incoming, .fromLt outgoing, .fromLt level, preferRc4, announceSupport⟩

def writeEncryption (value : MaybeUndefined EncryptionSettings) : Write :=
  whenDefined value "encryption" fun e => do
    let level ← check e.methods.level
    check (if e.preferRc4 = true ∧ level ≠ .peBoth then
        .error ⟨"encryption: `preferRc4` is only meaningful when both methods are enabled"⟩
      else .ok ())
    Lt.setEnum .inEncPolicy e.incoming.toLt
    Lt.setEnum .outEncPolicy e.outgoing.toLt
    Lt.setEnum .allowedEncLevel level
    Lt.setBool .preferRc4 e.preferRc4
    Lt.setBool .announceCryptoSupport e.announceSupport

/-! ## Peer transports -/

def PEER_TRANSPORTS_BACKING : List SettingKey := [
  .enableIncomingTcp, .enableOutgoingTcp, .enableIncomingUtp, .enableOutgoingUtp]

structure TransportDirections where
  incoming : Bool
  outgoing : Bool
  deriving DecidableEq

structure PeerTransports where
  tcp : TransportDirections
  utp : TransportDirections
  deriving DecidableEq

def readPeerTransports (pack : SettingsPack) : Except SettingsError PeerTransports := do
  let tcpIncoming ← orMissing "peer_transports" (pack.getBool .enableIncomingTcp)
  let tcpOutgoing ← orMissing "peer_transports" (pack.getBool .enableOutgoingTcp)
  let utpIncoming ← orMissing "peer_transports" (pack.getBool .enableIncomingUtp)
  let utpOutgoing ← orMissing "peer_transports" (pack.getBool .enableOutgoingUtp)
  .ok ⟨⟨tcpIncoming, tcpOutgoing⟩, ⟨utpIncoming, utpOutgoing⟩⟩

def writePeerTransports (value : MaybeUndefined PeerTransports) : Write :=
  whenDefined value "peer_transports" fun t => do
    Lt.setBool .enableIncomingTcp t.tcp.incoming
    Lt.setBool .enableOutgoingTcp t.tcp.outgoing
    Lt.setBool .enableIncomingUtp t.utp.incoming
    Lt.setBool .enableOutgoingUtp t.utp.outgoing

/-! ## The outgoing port range -/

structure PortRange where
  first : UInt16
  last : UInt16
  deriving DecidableEq

def readOutgoingPortRange (pack : SettingsPack) : Except SettingsError (Option PortRange) :=
  match Lt.getOutgoingPorts pack with
  | none => .error ⟨"outgoingPortRange: effective values are not representable"⟩
  | some range => .ok (range.map fun r => ⟨r.1, r.2⟩)

def writeOutgoingPortRange (value : MaybeUndefined PortRange) : Write :=
  match nullable value with
  | .unchanged => pure ()
  | .disable => rbErr "outgoing_port_range" (Lt.outgoingPorts none)
  | .set r => rbErr "outgoing_port_range" (Lt.outgoingPorts (some (r.first, r.last)))

/-! ## Enumerations -/

inductive IoReadMode
  | enableOsCache | disableOsCache
  deriving DecidableEq

def IoReadMode.toLt : IoReadMode → Lt.IoBufferMode
  | .enableOsCache => .enableOsCache
  | .disableOsCache => .disableOsCache

/-- The write-only mode reads as the normal one. -/
def IoReadMode.fromLt : Lt.IoBufferMode → IoReadMode
  | .enableOsCache => .enableOsCache
  | .disableOsCache => .disableOsCache
  | .writeThrough => .enableOsCache

inductive IoWriteMode
  | enableOsCache | disableOsCache | writeThrough
  deriving DecidableEq

def IoWriteMode.toLt : IoWriteMode → Lt.IoBufferMode
  | .enableOsCache => .enableOsCache
  | .disableOsCache => .disableOsCache
  | .writeThrough => .writeThrough

def IoWriteMode.fromLt : Lt.IoBufferMode → IoWriteMode
  | .enableOsCache => .enableOsCache
  | .disableOsCache => .disableOsCache
  | .writeThrough => .writeThrough

structure DiskIoCache where
  read : IoReadMode
  write : IoWriteMode
  deriving DecidableEq

def readDiskIoCache (pack : SettingsPack) : Except SettingsError DiskIoCache := do
  let read ← orMissing "disk_io_cache"
    ((Lt.getEnum Lt.IoBufferMode pack .diskIoReadMode).map IoReadMode.fromLt)
  let write ← orMissing "disk_io_cache"
    ((Lt.getEnum Lt.IoBufferMode pack .diskIoWriteMode).map IoWriteMode.fromLt)
  .ok ⟨read, write⟩

def writeDiskIoCache (value : MaybeUndefined DiskIoCache) : Write :=
  whenDefined value "disk_io_cache" fun c => do
    Lt.setEnum .diskIoReadMode c.read.toLt
    Lt.setEnum .diskIoWriteMode c.write.toLt

/-- Reads a field that is one enumeration of libtorrent, renamed. -/
def readEnum {T L : Type} [Lt.RawI32 L] (field : String) (key : SettingKey) (fromLt : L → T)
    (pack : SettingsPack) : Except SettingsError T :=
  orMissing field ((Lt.getEnum L pack key).map fromLt)

def writeEnum {T L : Type} [Lt.RawI32 L] (field : String) (key : SettingKey) (toLt : T → L)
    (value : MaybeUndefined T) : Write :=
  whenDefined value field fun m => Lt.setEnum key (toLt m)

inductive MmapWriteMode
  | alwaysPwrite | alwaysMmapWrite | autoMmapWrite
  deriving DecidableEq

def MmapWriteMode.toLt : MmapWriteMode → Lt.MmapWriteMode
  | .alwaysPwrite => .alwaysPwrite
  | .alwaysMmapWrite => .alwaysMmapWrite
  | .autoMmapWrite => .autoMmapWrite

def MmapWriteMode.fromLt : Lt.MmapWriteMode → MmapWriteMode
  | .alwaysPwrite => .alwaysPwrite
  | .alwaysMmapWrite => .alwaysMmapWrite
  | .autoMmapWrite => .autoMmapWrite

def readMmapWriteMode := readEnum "mmap_write_mode" .diskWriteMode MmapWriteMode.fromLt

def writeMmapWriteMode := writeEnum "mmap_write_mode" .diskWriteMode MmapWriteMode.toLt

inductive SuggestMode
  | none | readCache
  deriving DecidableEq

def SuggestMode.toLt : SuggestMode → Lt.SuggestMode
  | .none => .noPieceSuggestions
  | .readCache => .suggestReadCache

def SuggestMode.fromLt : Lt.SuggestMode → SuggestMode
  | .noPieceSuggestions => .none
  | .suggestReadCache => .readCache

def readSuggestMode := readEnum "suggest_mode" .suggestMode SuggestMode.fromLt

def writeSuggestMode := writeEnum "suggest_mode" .suggestMode SuggestMode.toLt

inductive ChokingAlgorithm
  | fixedSlots | rateBased
  deriving DecidableEq

def ChokingAlgorithm.toLt : ChokingAlgorithm → Lt.ChokingAlgorithm
  | .fixedSlots => .fixedSlotsChoker
  | .rateBased => .rateBasedChoker

def ChokingAlgorithm.fromLt : Lt.ChokingAlgorithm → ChokingAlgorithm
  | .fixedSlotsChoker => .fixedSlots
  | .rateBasedChoker => .rateBased

def readChokingAlgorithm := readEnum "choking_algorithm" .chokingAlgorithm ChokingAlgorithm.fromLt

def writeChokingAlgorithm := writeEnum "choking_algorithm" .chokingAlgorithm ChokingAlgorithm.toLt

inductive SeedChokingAlgorithm
  | roundRobin | fastestUpload | antiLeech
  deriving DecidableEq

def SeedChokingAlgorithm.toLt : SeedChokingAlgorithm → Lt.SeedChokingAlgorithm
  | .roundRobin => .roundRobin
  | .fastestUpload => .fastestUpload
  | .antiLeech => .antiLeech

def SeedChokingAlgorithm.fromLt : Lt.SeedChokingAlgorithm → SeedChokingAlgorithm
  | .roundRobin => .roundRobin
  | .fastestUpload => .fastestUpload
  | .antiLeech => .antiLeech

def readSeedChokingAlgorithm :=
  readEnum "seed_choking_algorithm" .seedChokingAlgorithm SeedChokingAlgorithm.fromLt

def writeSeedChokingAlgorithm :=
  writeEnum "seed_choking_algorithm" .seedChokingAlgorithm SeedChokingAlgorithm.toLt

inductive MixedModeAlgorithm
  | preferTcp | peerProportional
  deriving DecidableEq

def MixedModeAlgorithm.toLt : MixedModeAlgorithm → Lt.BandwidthMixedAlgo
  | .preferTcp => .preferTcp
  | .peerProportional => .peerProportional

def MixedModeAlgorithm.fromLt : Lt.BandwidthMixedAlgo → MixedModeAlgorithm
  | .preferTcp => .preferTcp
  | .peerProportional => .peerProportional

def readMixedModeAlgorithm :=
  readEnum "mixed_mode_algorithm" .mixedModeAlgorithm MixedModeAlgorithm.fromLt

def writeMixedModeAlgorithm :=
  writeEnum "mixed_mode_algorithm" .mixedModeAlgorithm MixedModeAlgorithm.toLt

/-! ## Structured strings -/

def readOutgoingInterfaces (pack : SettingsPack) : Except SettingsError (List Text) := do
  let raw ← orMissing "outgoing_interfaces" (pack.getStr .outgoingInterfaces)
  .ok (if raw = [] then [] else Text.split ',' raw)

def writeOutgoingInterfaces (value : MaybeUndefined (List Text)) : Write :=
  whenDefined value "outgoing_interfaces" fun list =>
    rbErr "outgoing_interfaces" (Lt.outgoingInterfaces list)

structure ListenInterface where
  interface : Text
  port : UInt16
  ssl : Bool
  local_ : Bool
  deriving DecidableEq

def ListenInterface.fromLt (e : Lt.ListenEndpoint) : ListenInterface :=
  ⟨e.addr, e.port, e.ssl, e.local_⟩

def ListenInterface.toLt (e : ListenInterface) : Lt.ListenEndpoint :=
  ⟨e.interface, e.port, e.ssl, e.local_⟩

def readListenInterfaces (pack : SettingsPack) : Except SettingsError (List ListenInterface) :=
  match Lt.getListenInterfacesParsed pack with
  | none => .error ⟨"listenInterfaces: cannot parse the effective value"⟩
  | some list => .ok (list.map ListenInterface.fromLt)

def writeListenInterfaces (value : MaybeUndefined (List ListenInterface)) : Write :=
  whenDefined value "listen_interfaces" fun list =>
    rbErr "listen_interfaces" (Lt.listenInterfaces (list.map ListenInterface.toLt))

structure HostPort where
  hostname : Text
  port : UInt16
  deriving DecidableEq

def HostPort.fromLt (n : Lt.HostPort) : HostPort := ⟨n.host, n.port⟩

def HostPort.toLt (n : HostPort) : Except SettingsError Lt.HostPort := do
  let port ← portFor "dhtBootstrapNodes.port" n.port
  .ok ⟨n.hostname, port⟩

def readDhtBootstrapNodes (pack : SettingsPack) : Except SettingsError (List HostPort) :=
  match Lt.getDhtBootstrapNodesParsed pack with
  | none => .error ⟨"dhtBootstrapNodes: cannot parse the effective value"⟩
  | some list => .ok (list.map HostPort.fromLt)

def writeDhtBootstrapNodes (value : MaybeUndefined (List HostPort)) : Write :=
  whenDefined value "dht_bootstrap_nodes" fun list => do
    let nodes ← check (list.mapM HostPort.toLt)
    rbErr "dht_bootstrap_nodes" (Lt.dhtBootstrapNodes nodes)

end Rsbtd.Settings
