import Rsbtd.Settings.Structured

/-!
# The public settings surface

`read` builds the public view from the effective pack; `write` validates an input
and stages every change into a delta, field by field.  An error leaves what the
fields before it staged, so the caller discards the delta.
-/

namespace Rsbtd.Settings

open Rsbtd.Keyed

/-- Settings that are neither readable nor writable. -/
def BLACKLIST : List SettingKey := [
  .alertMask, .alertQueueSize, .disableHashChecks, .enableSetFileValidData, .maxRejects,
  .trackerMaximumResponseLength, .urlseedPipelineSize, .dhtMaxTorrentSearchReply,
  .webtorrentStunServer, .minWebsocketAnnounceInterval, .webtorrentConnectionTimeout]

/-- A public field: a scalar, by its key, or a structured setting. -/
inductive Field
  | scalar (key : SettingKey)
  | userAgent | proxy | i2p | encryption | peerTransports | outgoingPortRange | diskIoCache
  | mmapWriteMode | suggestMode | chokingAlgorithm | seedChokingAlgorithm | mixedModeAlgorithm
  | outgoingInterfaces | listenInterfaces | dhtBootstrapNodes
  deriving DecidableEq

def SCALAR_BACKING : List (Field × List SettingKey) := SCALARS.map fun s => (.scalar s.key, [s.key])

def STRUCTURED_BACKING : List (Field × List SettingKey) := [
  (.userAgent, [.userAgent]),
  (.proxy, PROXY_BACKING),
  (.i2p, I2P_BACKING),
  (.encryption, ENCRYPTION_BACKING),
  (.peerTransports, PEER_TRANSPORTS_BACKING),
  (.outgoingPortRange, [.outgoingPort, .numOutgoingPorts]),
  (.diskIoCache, [.diskIoReadMode, .diskIoWriteMode]),
  (.mmapWriteMode, [.diskWriteMode]),
  (.suggestMode, [.suggestMode]),
  (.chokingAlgorithm, [.chokingAlgorithm]),
  (.seedChokingAlgorithm, [.seedChokingAlgorithm]),
  (.mixedModeAlgorithm, [.mixedModeAlgorithm]),
  (.outgoingInterfaces, [.outgoingInterfaces]),
  (.listenInterfaces, [.listenInterfaces]),
  (.dhtBootstrapNodes, [.dhtBootstrapNodes])]

/-- The backing settings of every field, scalars first. -/
def backing : List (Field × List SettingKey) := SCALAR_BACKING ++ STRUCTURED_BACKING

set_option linter.dupNamespace false in
structure Settings where
  scalars : ScalarSettings
  userAgent : UserAgent
  proxy : Option ProxySettings
  i2p : Option I2pSettings
  encryption : EncryptionSettings
  peerTransports : PeerTransports
  outgoingPortRange : Option PortRange
  diskIoCache : DiskIoCache
  mmapWriteMode : MmapWriteMode
  suggestMode : SuggestMode
  chokingAlgorithm : ChokingAlgorithm
  seedChokingAlgorithm : SeedChokingAlgorithm
  mixedModeAlgorithm : MixedModeAlgorithm
  outgoingInterfaces : List Text
  listenInterfaces : List ListenInterface
  dhtBootstrapNodes : List HostPort

structure SettingsInput where
  scalars : ScalarSettingsInput
  userAgent : MaybeUndefined UserAgent
  proxy : MaybeUndefined ProxySettings
  i2p : MaybeUndefined I2pSettings
  encryption : MaybeUndefined EncryptionSettings
  peerTransports : MaybeUndefined PeerTransports
  outgoingPortRange : MaybeUndefined PortRange
  diskIoCache : MaybeUndefined DiskIoCache
  mmapWriteMode : MaybeUndefined MmapWriteMode
  suggestMode : MaybeUndefined SuggestMode
  chokingAlgorithm : MaybeUndefined ChokingAlgorithm
  seedChokingAlgorithm : MaybeUndefined SeedChokingAlgorithm
  mixedModeAlgorithm : MaybeUndefined MixedModeAlgorithm
  outgoingInterfaces : MaybeUndefined (List Text)
  listenInterfaces : MaybeUndefined (List ListenInterface)
  dhtBootstrapNodes : MaybeUndefined (List HostPort)

def read (effective : SettingsPack) : Except SettingsError Settings := do
  let scalars ← readScalars effective SCALARS
  let userAgent ← readUserAgent effective
  let proxy ← readProxy effective
  let i2p ← readI2p effective
  let encryption ← readEncryption effective
  let peerTransports ← readPeerTransports effective
  let outgoingPortRange ← readOutgoingPortRange effective
  let diskIoCache ← readDiskIoCache effective
  let mmapWriteMode ← readMmapWriteMode effective
  let suggestMode ← readSuggestMode effective
  let chokingAlgorithm ← readChokingAlgorithm effective
  let seedChokingAlgorithm ← readSeedChokingAlgorithm effective
  let mixedModeAlgorithm ← readMixedModeAlgorithm effective
  let outgoingInterfaces ← readOutgoingInterfaces effective
  let listenInterfaces ← readListenInterfaces effective
  let dhtBootstrapNodes ← readDhtBootstrapNodes effective
  .ok {
    scalars, userAgent, proxy, i2p, encryption, peerTransports, outgoingPortRange, diskIoCache,
    mmapWriteMode, suggestMode, chokingAlgorithm, seedChokingAlgorithm, mixedModeAlgorithm,
    outgoingInterfaces, listenInterfaces, dhtBootstrapNodes }

def write (lt : Libtorrent) (input : SettingsInput) : Write := do
  writeScalars SCALARS input.scalars
  writeUserAgent lt input.userAgent
  writeProxy lt input.proxy
  writeI2p lt input.i2p
  writeEncryption input.encryption
  writePeerTransports input.peerTransports
  writeOutgoingPortRange input.outgoingPortRange
  writeDiskIoCache input.diskIoCache
  writeMmapWriteMode input.mmapWriteMode
  writeSuggestMode input.suggestMode
  writeChokingAlgorithm input.chokingAlgorithm
  writeSeedChokingAlgorithm input.seedChokingAlgorithm
  writeMixedModeAlgorithm input.mixedModeAlgorithm
  writeOutgoingInterfaces input.outgoingInterfaces
  writeListenInterfaces input.listenInterfaces
  writeDhtBootstrapNodes input.dhtBootstrapNodes

/-- Restates what was read: a group that reads null is written as an explicit null. -/
def orNull {α : Type} : Option α → MaybeUndefined α
  | some a => .value a
  | none => .null

set_option linter.dupNamespace false in
def Settings.toInput (s : Settings) : SettingsInput where
  scalars := Fields.intoInput SCALARS s.scalars
  userAgent := .value s.userAgent
  proxy := orNull s.proxy
  i2p := orNull s.i2p
  encryption := .value s.encryption
  peerTransports := .value s.peerTransports
  outgoingPortRange := orNull s.outgoingPortRange
  diskIoCache := .value s.diskIoCache
  mmapWriteMode := .value s.mmapWriteMode
  suggestMode := .value s.suggestMode
  chokingAlgorithm := .value s.chokingAlgorithm
  seedChokingAlgorithm := .value s.seedChokingAlgorithm
  mixedModeAlgorithm := .value s.mixedModeAlgorithm
  outgoingInterfaces := .value s.outgoingInterfaces
  listenInterfaces := .value s.listenInterfaces
  dhtBootstrapNodes := .value s.dhtBootstrapNodes

/-! ## The session -/

/-- ERROR, STATUS, STORAGE, TRACKER, PEER and FILE_PROGRESS. -/
def ALERT_MASK : Int32 := 0x1 ||| 0x40 ||| 0x8 ||| 0x10 ||| 0x2 ||| 0x200000

def ALERT_QUEUE_SIZE : Int32 := 2147483647

/-- The effective settings of a fresh daemon: its identity and its alert settings over libtorrent's
defaults. -/
def daemonDefaults (lt : Libtorrent) : SettingsPack :=
  ((lt.defaults.set .userAgent (.str ("rsbtd/".toList ++ PACKAGE_VERSION))).set
    .alertMask (.int ALERT_MASK)).set
    .alertQueueSize (.int ALERT_QUEUE_SIZE)

def pin (key : SettingKey) (value : Int32) (pack : SettingsPack) : SettingsPack :=
  if (pack.getInt key).isSome then Store.set pack key (.int value) else pack

/-- `Engine::apply_settings` overrides the alert settings it owns. -/
def pinAlerts (pack : SettingsPack) : SettingsPack :=
  pin .alertQueueSize ALERT_QUEUE_SIZE (pin .alertMask ALERT_MASK pack)

/-- The `applySettings` mutation on a session with the given effective settings: what it answers and
what the session's settings are then.  `persisted` says whether the session state was written; if
not, the previous settings are applied again. -/
def applySettings (lt : Libtorrent) (effective : SettingsPack) (input : SettingsInput)
    (persisted : Except SettingsError Unit) : Except SettingsError Settings × SettingsPack :=
  match write lt input .empty with
  | .error e _ => (.error e, effective)
  | .ok () pack =>
    let applied := effective.apply (pinAlerts pack)
    match persisted with
    | .ok () => (read applied, applied)
    | .error e => (.error e, applied.apply effective)

end Rsbtd.Settings
