import Rsbtd.Settings.Input

/-!
# The scalar settings

One table declares every scalar setting: its key and the type of its field.  The
read and the write view, the reader and the writer are derived from the table,
so they cannot drift apart.
-/

namespace Rsbtd.Settings

open Rsbtd.Keyed

/-- The declared field type.  For a checked integer the range is the one its setter accepts. -/
inductive ScalarType
  | string
  | stringChecked
  | i32
  | i32Checked (low high : Int32)
  | i32Dscp
  | bool
  | u16
  | u8

namespace ScalarType

abbrev Value : ScalarType → Type
  | .string | .stringChecked => Text
  | .i32 | .i32Checked _ _ | .i32Dscp => Int32
  | .bool => Bool
  | .u16 => UInt16
  | .u8 => UInt8

/-- The kind of setting that holds a field of the type. -/
def kind : ScalarType → SettingKind
  | .string | .stringChecked => .str
  | .i32 | .i32Checked _ _ | .i32Dscp | .u16 | .u8 => .int
  | .bool => .bool

/-- Reads one scalar.  The narrow types saturate rather than failing the read. -/
def get (pack : SettingsPack) (key : SettingKey) : (ty : ScalarType) → Except SettingsError ty.Value
  | .string | .stringChecked => orMissing key.name (pack.getStr key)
  | .i32 | .i32Checked _ _ => orMissing key.name (pack.getInt key)
  | .i32Dscp => orMissing key.name (Lt.getPeerDscp pack key)
  | .bool => orMissing key.name (pack.getBool key)
  | .u16 => (orMissing key.name (pack.getInt key)).map satU16
  | .u8 => (orMissing key.name (pack.getInt key)).map satU8

/-- Stages one scalar by the setter of the same name. -/
def set (key : SettingKey) : (ty : ScalarType) → ty.Value → Write
  | .string, value => Lt.setStr key value
  | .stringChecked, value => rbErr key.name (Lt.peerFingerprint key value)
  | .i32, value => Lt.setInt key value
  | .i32Checked low high, value => rbErr key.name (Lt.setInRange key low high value)
  | .i32Dscp, value => rbErr key.name (Lt.peerDscp key value)
  | .bool, value => Lt.setBool key value
  | .u16, value => Lt.setInt key (i32OfU16 value)
  | .u8, value => Lt.setInt key (i32OfU8 value)

end ScalarType

structure Scalar where
  key : SettingKey
  ty : ScalarType
  kind_eq : key.kind = ty.kind

def SCALARS : List Scalar := [
  ⟨.announceIp, .string, rfl⟩, ⟨.handshakeClientVersion, .string, rfl⟩,
  ⟨.peerFingerprint, .stringChecked, rfl⟩, ⟨.natpmpGateway, .string, rfl⟩,
  ⟨.allowMultipleConnectionsPerIp, .bool, rfl⟩, ⟨.sendRedundantHave, .bool, rfl⟩,
  ⟨.useDhtAsFallback, .bool, rfl⟩, ⟨.upnpIgnoreNonrouters, .bool, rfl⟩,
  ⟨.useParoleMode, .bool, rfl⟩, ⟨.autoManagePreferSeeds, .bool, rfl⟩,
  ⟨.dontCountSlowTorrents, .bool, rfl⟩, ⟨.closeRedundantConnections, .bool, rfl⟩,
  ⟨.prioritizePartialPieces, .bool, rfl⟩, ⟨.rateLimitIpOverhead, .bool, rfl⟩,
  ⟨.announceToAllTiers, .bool, rfl⟩, ⟨.announceToAllTrackers, .bool, rfl⟩,
  ⟨.preferUdpTrackers, .bool, rfl⟩, ⟨.noAtimeStorage, .bool, rfl⟩,
  ⟨.incomingStartsQueuedTorrents, .bool, rfl⟩, ⟨.reportTrueDownloaded, .bool, rfl⟩,
  ⟨.strictEndGameMode, .bool, rfl⟩, ⟨.noRecheckIncompleteResume, .bool, rfl⟩,
  ⟨.anonymousMode, .bool, rfl⟩, ⟨.reportWebSeedDownloads, .bool, rfl⟩,
  ⟨.seedingOutgoingConnections, .bool, rfl⟩, ⟨.noConnectPrivilegedPorts, .bool, rfl⟩,
  ⟨.smoothConnects, .bool, rfl⟩, ⟨.alwaysSendUserAgent, .bool, rfl⟩,
  ⟨.applyIpFilterToTrackers, .bool, rfl⟩, ⟨.banWebSeeds, .bool, rfl⟩,
  ⟨.supportShareMode, .bool, rfl⟩, ⟨.reportRedundantBytes, .bool, rfl⟩,
  ⟨.listenSystemPortFallback, .bool, rfl⟩, ⟨.enableUpnp, .bool, rfl⟩, ⟨.enableNatpmp, .bool, rfl⟩,
  ⟨.enableLsd, .bool, rfl⟩, ⟨.enableDht, .bool, rfl⟩, ⟨.autoSequential, .bool, rfl⟩,
  ⟨.enableIpNotifier, .bool, rfl⟩, ⟨.dhtPreferVerifiedNodeIds, .bool, rfl⟩,
  ⟨.dhtRestrictRoutingIps, .bool, rfl⟩, ⟨.dhtRestrictSearchIps, .bool, rfl⟩,
  ⟨.dhtExtendedRoutingTable, .bool, rfl⟩, ⟨.dhtAggressiveLookups, .bool, rfl⟩,
  ⟨.dhtPrivacyLookups, .bool, rfl⟩, ⟨.dhtEnforceNodeId, .bool, rfl⟩,
  ⟨.dhtIgnoreDarkInternet, .bool, rfl⟩, ⟨.dhtReadOnly, .bool, rfl⟩,
  ⟨.pieceExtentAffinity, .bool, rfl⟩, ⟨.validateHttpsTrackers, .bool, rfl⟩,
  ⟨.ssrfMitigation, .bool, rfl⟩, ⟨.allowIdna, .bool, rfl⟩, ⟨.diskDisableCopyOnWrite, .bool, rfl⟩,
  ⟨.allowMultipleConnectionsPerPid, .bool, rfl⟩,
  ⟨.trackerCompletionTimeout, .i32Checked 1 2147483647, rfl⟩,
  ⟨.trackerReceiveTimeout, .i32Checked 1 2147483647, rfl⟩, ⟨.stopTrackerTimeout, .i32, rfl⟩,
  ⟨.pieceTimeout, .i32, rfl⟩, ⟨.requestTimeout, .i32, rfl⟩, ⟨.requestQueueTime, .i32, rfl⟩,
  ⟨.maxAllowedInRequestQueue, .i32Checked 0 2147483647, rfl⟩, ⟨.maxOutRequestQueue, .i32, rfl⟩,
  ⟨.wholePiecesThreshold, .i32, rfl⟩, ⟨.peerTimeout, .i32Checked 1 536870911, rfl⟩,
  ⟨.urlseedTimeout, .i32, rfl⟩, ⟨.urlseedWaitRetry, .i32, rfl⟩,
  ⟨.filePoolSize, .i32Checked 1 2147483647, rfl⟩, ⟨.maxFailcount, .i32Checked 1 16383, rfl⟩,
  ⟨.minReconnectTime, .i32Checked 0 65535, rfl⟩,
  ⟨.peerConnectTimeout, .i32Checked 1 2147482623, rfl⟩, ⟨.connectionSpeed, .i32, rfl⟩,
  ⟨.inactivityTimeout, .i32, rfl⟩, ⟨.unchokeInterval, .i32, rfl⟩,
  ⟨.optimisticUnchokeInterval, .i32, rfl⟩, ⟨.numWant, .i32, rfl⟩,
  ⟨.initialPickerThreshold, .i32, rfl⟩, ⟨.allowedFastSetSize, .i32, rfl⟩,
  ⟨.maxQueuedDiskBytes, .i32Checked 0 2147483647, rfl⟩,
  ⟨.handshakeTimeout, .i32Checked 1 536870911, rfl⟩, ⟨.sendBufferLowWatermark, .i32, rfl⟩,
  ⟨.sendBufferWatermark, .i32Checked 1 2147483647, rfl⟩, ⟨.sendBufferWatermarkFactor, .i32, rfl⟩,
  ⟨.peerDscp, .i32Dscp, rfl⟩, ⟨.activeDownloads, .i32, rfl⟩, ⟨.activeSeeds, .i32, rfl⟩,
  ⟨.activeChecking, .i32, rfl⟩, ⟨.activeDhtLimit, .i32, rfl⟩, ⟨.activeTrackerLimit, .i32, rfl⟩,
  ⟨.activeLsdLimit, .i32, rfl⟩, ⟨.activeLimit, .i32, rfl⟩, ⟨.autoManageInterval, .i32, rfl⟩,
  ⟨.seedTimeLimit, .i32, rfl⟩, ⟨.autoScrapeInterval, .i32, rfl⟩,
  ⟨.autoScrapeMinInterval, .i32, rfl⟩, ⟨.maxPeerlistSize, .i32Checked 0 22605091, rfl⟩,
  ⟨.maxPausedPeerlistSize, .i32Checked 0 22605091, rfl⟩, ⟨.minAnnounceInterval, .i32, rfl⟩,
  ⟨.autoManageStartup, .i32, rfl⟩, ⟨.seedingPieceQuota, .i32, rfl⟩,
  ⟨.recvSocketBufferSize, .i32, rfl⟩, ⟨.sendSocketBufferSize, .i32, rfl⟩,
  ⟨.maxPeerRecvBufferSize, .i32Checked 16384 2147483647, rfl⟩, ⟨.optimisticDiskRetry, .i32, rfl⟩,
  ⟨.maxSuggestPieces, .i32Checked 1 2147483647, rfl⟩,
  ⟨.localServiceAnnounceInterval, .i32Checked 1 2147483, rfl⟩,
  ⟨.dhtAnnounceInterval, .i32Checked 1 2147483, rfl⟩, ⟨.udpTrackerTokenExpiry, .i32, rfl⟩,
  ⟨.numOptimisticUnchokeSlots, .u16, rfl⟩, ⟨.maxPexPeers, .i32, rfl⟩,
  ⟨.tickInterval, .i32Checked 1 1000, rfl⟩, ⟨.shareModeTarget, .i32, rfl⟩,
  ⟨.uploadRateLimit, .i32, rfl⟩, ⟨.downloadRateLimit, .i32, rfl⟩, ⟨.dhtUploadRateLimit, .i32, rfl⟩,
  ⟨.unchokeSlotsLimit, .i32, rfl⟩, ⟨.connectionsLimit, .i32, rfl⟩, ⟨.connectionsSlack, .i32, rfl⟩,
  ⟨.utpTargetDelay, .i32Checked 1 2147483, rfl⟩, ⟨.utpGainFactor, .i32, rfl⟩,
  ⟨.utpMinTimeout, .i32, rfl⟩, ⟨.utpSynResends, .i32, rfl⟩, ⟨.utpFinResends, .i32, rfl⟩,
  ⟨.utpNumResends, .i32, rfl⟩, ⟨.utpConnectTimeout, .i32Checked 1 2147483647, rfl⟩,
  ⟨.utpLossMultiplier, .i32Checked 0 100, rfl⟩, ⟨.listenQueueSize, .i32, rfl⟩,
  ⟨.torrentConnectBoost, .u8, rfl⟩, ⟨.maxMetadataSize, .i32Checked 1 2147483647, rfl⟩,
  ⟨.hashingThreads, .i32Checked 0 1073741823, rfl⟩, ⟨.checkingMemUsage, .i32Checked 1 131071, rfl⟩,
  ⟨.predictivePieceAnnounce, .i32, rfl⟩, ⟨.aioThreads, .i32Checked 1 2147483647, rfl⟩,
  ⟨.trackerBackoff, .i32Checked 0 26630, rfl⟩, ⟨.shareRatioLimit, .i32, rfl⟩,
  ⟨.seedTimeRatioLimit, .i32, rfl⟩, ⟨.peerTurnover, .i32Checked 0 100, rfl⟩,
  ⟨.peerTurnoverCutoff, .i32, rfl⟩, ⟨.peerTurnoverInterval, .i32, rfl⟩,
  ⟨.connectSeedEveryNDownload, .i32, rfl⟩, ⟨.maxHttpRecvBufferSize, .i32, rfl⟩,
  ⟨.maxRetryPortBind, .i32, rfl⟩, ⟨.inactiveDownRate, .i32, rfl⟩, ⟨.inactiveUpRate, .i32, rfl⟩,
  ⟨.urlseedMaxRequestBytes, .i32, rfl⟩, ⟨.webSeedNameLookupRetry, .i32, rfl⟩,
  ⟨.closeFileInterval, .i32, rfl⟩, ⟨.utpCwndReduceTimer, .i32, rfl⟩,
  ⟨.maxWebSeedConnections, .i32, rfl⟩, ⟨.resolverCacheTimeout, .i32, rfl⟩,
  ⟨.sendNotSentLowWatermark, .i32, rfl⟩, ⟨.rateChokerInitialThreshold, .i32, rfl⟩,
  ⟨.upnpLeaseDuration, .i32Checked 0 715827882, rfl⟩,
  ⟨.maxConcurrentHttpAnnounces, .i32Checked 1 2147483647, rfl⟩,
  ⟨.dhtMaxPeersReply, .i32Checked 0 2147483647, rfl⟩,
  ⟨.dhtSearchBranching, .i32Checked 1 127, rfl⟩, ⟨.dhtMaxFailCount, .i32, rfl⟩,
  ⟨.dhtMaxTorrents, .i32, rfl⟩, ⟨.dhtMaxDhtItems, .i32Checked 1 2147483647, rfl⟩,
  ⟨.dhtMaxPeers, .i32, rfl⟩, ⟨.dhtBlockTimeout, .i32, rfl⟩, ⟨.dhtBlockRatelimit, .i32, rfl⟩,
  ⟨.dhtItemLifetime, .i32, rfl⟩, ⟨.dhtSampleInfohashesInterval, .i32Checked 0 21600, rfl⟩,
  ⟨.dhtMaxInfohashesSampleCount, .i32, rfl⟩, ⟨.maxPieceCount, .i32Checked 1 1073741823, rfl⟩,
  ⟨.metadataTokenLimit, .i32Checked 1 2147483647, rfl⟩, ⟨.mmapFileSizeCutoff, .i32, rfl⟩,
  ⟨.announcePort, .u16, rfl⟩, ⟨.natpmpLeaseDuration, .i32, rfl⟩]

/-- One field for each scalar of a table. -/
def Fields (F : ScalarType → Type) : List Scalar → Type
  | [] => Unit
  | s :: rest => F s.ty × Fields F rest

abbrev ScalarSettings := Fields ScalarType.Value SCALARS

abbrev ScalarSettingsInput := Fields (fun ty => MaybeUndefined ty.Value) SCALARS

def readScalars (pack : SettingsPack) :
    (table : List Scalar) → Except SettingsError (Fields ScalarType.Value table)
  | [] => .ok ()
  | s :: rest => do
    let value ← s.ty.get pack s.key
    let values ← readScalars pack rest
    .ok (value, values)

def writeScalars : (table : List Scalar) → Fields (fun ty => MaybeUndefined ty.Value) table → Write
  | [], () => pure ()
  | s :: rest, (value, values) => do
    whenDefined value s.key.name (s.ty.set s.key)
    writeScalars rest values

def Fields.intoInput :
    (table : List Scalar) → Fields ScalarType.Value table →
      Fields (fun ty => MaybeUndefined ty.Value) table
  | [], () => ()
  | _ :: rest, (value, values) => (.value value, intoInput rest values)

end Rsbtd.Settings
