import Rsbtd.WebUi.Units

/-!
# The fields of torrents

The registry of `fields.ts` as far as the search box uses it.  What the getters of the
fields give for a torrent is a row, by their keys.
-/

namespace Rsbtd.WebUi

inductive FieldType where
  | string
  | bytes
  | rate
  | number
  | float
  | percentPpm
  | bool
  | enum
  | date
  | durationSecs
  | etaSecs
  | flags
deriving DecidableEq, Repr

structure TorrentFieldDef where
  key : JsString
  type : FieldType
  aliases : List JsString
  enumValues : List JsString
  /-- -1 is a valid "unlimited" value (per-torrent limits). -/
  unlimitedSentinel : Bool
  filterable : Bool
deriving DecidableEq, Repr

/-- What a getter gives. -/
inductive Raw where
  | missing
  | bool (value : Bool)
  | number (value : Number)
  | string (value : JsString)
  | strings (values : List JsString)
deriving DecidableEq

structure SearchRow where
  name : JsString
  get : JsString → Raw

/-- What the search uses of JavaScript besides. -/
structure Runtime where
  toLowerCase : JsString → JsString
  /-- `toLowerCase` of ASCII. -/
  ascii : ∀ text, (text.all fun u => u < 128) = true → toLowerCase text = text.map lowerUnit
  /-- `toLowerCase` keeps quotes and white space. -/
  keeps : ∀ text u, u = unit '"' ∨ JsString.isSpace u = true → u ∈ text → u ∈ toLowerCase text
  /-- `String` of a number. -/
  numberText : Number → JsString
  calendar : Calendar

def torrentField (key : String) (type : FieldType) (aliases : List String) : TorrentFieldDef :=
  ⟨js key, type, aliases.map js, [], false, true⟩

def enumField (key : String) (enumValues : List String) : TorrentFieldDef :=
  ⟨js key, .enum, [], enumValues.map js, false, true⟩

def limitField (key : String) (type : FieldType) : TorrentFieldDef :=
  ⟨js key, type, [], [], true, true⟩

def uiStatuses : List String :=
  ["error", "moving", "checking", "metadata", "paused", "downloading", "finished", "seeding",
    "unknown"]

def torrentStates : List String :=
  ["CHECKING_FILES", "DOWNLOADING_METADATA", "DOWNLOADING", "FINISHED", "SEEDING",
    "CHECKING_RESUME_DATA", "UNKNOWN"]

def torrentFields : List TorrentFieldDef :=
  [ enumField "status" uiStatuses, torrentField "queuePosition" .number ["queue"],
    torrentField "name" .string [], torrentField "totalWanted" .bytes ["size"],
    torrentField "progressPpm" .percentPpm ["progress"],
    torrentField "numSeeds" .number ["seeds"], torrentField "numPeers" .number ["peers"],
    torrentField "downloadPayloadRate" .rate ["downSpeed", "down"],
    torrentField "uploadPayloadRate" .rate ["upSpeed", "up"], torrentField "eta" .etaSecs [],
    torrentField "ratio" .float [], torrentField "addedTime" .date ["added"],
    enumField "state" torrentStates, torrentField "totalSize" .bytes [],
    torrentField "totalWantedDone" .bytes ["done"], torrentField "totalDone" .bytes [],
    torrentField "sizeOnDisk" .bytes [], torrentField "downloadRate" .rate [],
    torrentField "uploadRate" .rate [], torrentField "numComplete" .number [],
    torrentField "numIncomplete" .number [], torrentField "listSeeds" .number [],
    torrentField "listPeers" .number [], torrentField "connectCandidates" .number [],
    torrentField "completedTime" .date ["completed"], torrentField "lastSeenComplete" .date [],
    torrentField "savePath" .string ["path"], torrentField "currentTracker" .string ["tracker"],
    torrentField "nextAnnounceSeconds" .durationSecs [],
    torrentField "allTimeDownload" .bytes ["downloaded"],
    torrentField "allTimeUpload" .bytes ["uploaded"], torrentField "totalDownload" .bytes [],
    torrentField "totalUpload" .bytes [], torrentField "totalPayloadDownload" .bytes [],
    torrentField "totalPayloadUpload" .bytes [],
    torrentField "totalFailedBytes" .bytes ["wasted"],
    torrentField "totalRedundantBytes" .bytes [], limitField "downloadLimit" .rate,
    limitField "uploadLimit" .rate, limitField "uploadsLimit" .number,
    limitField "connectionsLimit" .number, torrentField "numUploads" .number [],
    torrentField "numConnections" .number [],
    torrentField "distributedCopies" .float ["availability"], torrentField "seedRank" .number [],
    torrentField "blockSize" .bytes [], torrentField "pieceLength" .bytes [],
    torrentField "piecesHave" .number [], torrentField "upBandwidthQueue" .number [],
    torrentField "downBandwidthQueue" .number [],
    enumField "storageMode" ["ALLOCATE", "SPARSE", "UNKNOWN"],
    torrentField "isPrivate" .bool ["private"], torrentField "isPaused" .bool [],
    torrentField "isAutoManaged" .bool [], torrentField "isFinished" .bool [],
    torrentField "isSeeding" .bool [], torrentField "hasMetadata" .bool [],
    torrentField "hasIncoming" .bool [], torrentField "movingStorage" .bool [],
    torrentField "needSaveResumeData" .bool [], torrentField "announcingToTrackers" .bool [],
    torrentField "announcingToLsd" .bool [], torrentField "announcingToDht" .bool [],
    torrentField "isI2P" .bool [], torrentField "error" .string [],
    torrentField "infoHashV1" .string ["hash", "hashv1"],
    torrentField "infoHashV2" .string ["hashv2"], torrentField "flags" .flags []]

/-- Resolve a search-filter property name (case-insensitive, aliases). -/
def lookupTorrentField (runtime : Runtime) (name : JsString) : Option TorrentFieldDef :=
  let lower := runtime.toLowerCase name
  let direct := (torrentFields.filter fun f => runtime.toLowerCase f.key = lower).getLast?
  direct.or (torrentFields.find? fun f => f.aliases.any fun a => runtime.toLowerCase a = lower)

end Rsbtd.WebUi
