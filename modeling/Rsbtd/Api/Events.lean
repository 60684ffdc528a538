import Rsbtd.Engine.Registry

/-!
# Torrent events

`TorrentEvent::from_engine_event` turns an event of the engine's bus into one of the
GraphQL union.  A torrent's event that names no torrent has no counterpart.

An error is its text.  Of a status snapshot only the torrent's id is kept, and of a
row of the API the entry it was loaded for, the snapshot and the flags.
-/

namespace Rsbtd.Api

abbrev Error := String

/-- A status snapshot of one torrent. -/
structure TorrentStatus where
  id : TorrentId
deriving DecidableEq, Repr

structure TrackerInfo where
  url : String
  trackerid : String
  tier : Int
  failLimit : Int
  source : Nat
  verified : Bool
deriving DecidableEq, Repr

inductive EventKind where
  | torrentAdded
  | torrentRemoved
  | torrentFinished
  | metadataReceived
  | metadataFailed (error : Option Error)
  | torrentError (error : Option Error) (filename : String)
  | stateChanged (state prevState : Int)
  | stateUpdate (statuses : List TorrentStatus)
  | resumeDataSaved
  | resumeDataFailed (message : String)
  | fileRenamed (index : Int) (newName : String)
  | fileRenameFailed (index : Int) (error : Option Error)
  | storageMoved (path : String)
  | storageMovedFailed (error : Option Error)
  | readPiece (piece : Int) (data : List UInt8) (error : Option Error)
  | trackers (trackers : List TrackerInfo)
  /-- The peers are only counted. -/
  | peers (len : Nat)
  | fileProgress (progress : List Int)
  | scrapeReply (trackerUrl : Option String) (incomplete complete : Int)
  | scrapeFailed (trackerUrl : Option String) (errorMessage : String)
  | torrentDeleted
  | torrentDeleteFailed (error : Option Error)
  | sessionError (error : Error)
deriving DecidableEq, Repr

structure Event where
  torrent : Option Uuid
  kind : EventKind
deriving DecidableEq, Repr

inductive TorrentState where
  | checkingFiles
  | downloadingMetadata
  | downloading
  | finished
  | seeding
  | checkingResumeData
  | unknown
deriving DecidableEq, Repr

/-- `rbtorrent::TorrentState::from_code`, as the API's enumeration. -/
def TorrentState.fromCode (code : Int) : TorrentState :=
  if code = 1 then .checkingFiles
  else if code = 2 then .downloadingMetadata
  else if code = 3 then .downloading
  else if code = 4 then .finished
  else if code = 5 then .seeding
  else if code = 7 then .checkingResumeData
  else .unknown

structure Tracker where
  url : String
  trackerid : String
  tier : Int
  failLimit : Int
  verified : Bool
  sourceRaw : Nat
deriving DecidableEq, Repr

def Tracker.from (t : TrackerInfo) : Tracker :=
  { url := t.url
    trackerid := t.trackerid
    tier := t.tier
    failLimit := t.failLimit
    sourceRaw := t.source
    verified := t.verified }

/-- A row.  `loadedAfter` is a history: how many events had been published when the status was
taken. -/
structure Torrent where
  entry : TorrentEntry
  status : TorrentStatus
  flagsBits : Nat
  loadedAfter : Nat
deriving DecidableEq, Repr

inductive TorrentEvent where
  | torrentAdded (torrentUuid : Uuid)
  | torrentRemoved (torrentUuid : Uuid)
  | torrentFinished (torrentUuid : Uuid)
  | metadataReceived (torrentUuid : Uuid)
  | metadataFailed (torrentUuid : Uuid) (error : Option String)
  | torrentError (torrentUuid : Uuid) (error : Option String) (filename : Option String)
  | stateChanged (torrentUuid : Uuid) (state prevState : TorrentState)
  | stateUpdate (torrents : List Torrent)
  | resumeDataSaved (torrentUuid : Uuid)
  | resumeDataFailed (torrentUuid : Uuid) (error : Option String)
  | fileRenamed (torrentUuid : Uuid) (fileIndex : Int) (newName : String)
  | fileRenameFailed (torrentUuid : Uuid) (fileIndex : Int) (error : Option String)
  | storageMoved (torrentUuid : Uuid) (path : String)
  | storageMovedFailed (torrentUuid : Uuid) (error : Option String)
  | readPiece (torrentUuid : Uuid) (piece : Int) (data : Option (List UInt8)) (error : Option String)
  | trackers (torrentUuid : Uuid) (trackers : List Tracker)
  | peers (torrentUuid : Uuid) (peerCount : Int)
  | fileProgress (torrentUuid : Uuid) (progress : List Int)
  | scrapeReply (torrentUuid : Uuid) (trackerUrl : Option String) (incomplete complete : Int)
  | scrapeFailed (torrentUuid : Uuid) (trackerUrl : Option String) (error : Option String)
  | torrentDeleted (torrentUuid : Uuid)
  | torrentDeleteFailed (torrentUuid : Uuid) (error : Option String)
  | sessionError (error : Option String)
deriving DecidableEq, Repr

/-- `TorrentEvent::from_engine_event`, with the rows it loaded for the statuses of a state
update. -/
def TorrentEvent.fromEngineEvent (event : Event) (torrents : List Torrent) : Option TorrentEvent :=
  match event.kind with
  | .torrentAdded => event.torrent.map .torrentAdded
  | .torrentRemoved => event.torrent.map .torrentRemoved
  | .torrentFinished => event.torrent.map .torrentFinished
  | .metadataReceived => event.torrent.map .metadataReceived
  | .metadataFailed error => event.torrent.map (.metadataFailed · error)
  | .torrentError error filename =>
    event.torrent.map (.torrentError · error (if filename = "" then none else some filename))
  | .stateChanged state prevState =>
    event.torrent.map (.stateChanged · (.fromCode state) (.fromCode prevState))
  | .stateUpdate _ => some (.stateUpdate torrents)
  | .resumeDataSaved => event.torrent.map .resumeDataSaved
  | .resumeDataFailed message => event.torrent.map (.resumeDataFailed · (some message))
  | .fileRenamed index newName => event.torrent.map (.fileRenamed · index newName)
  | .fileRenameFailed index error => event.torrent.map (.fileRenameFailed · index error)
  | .storageMoved path => event.torrent.map (.storageMoved · path)
  | .storageMovedFailed error => event.torrent.map (.storageMovedFailed · error)
  | .readPiece piece data error =>
    event.torrent.map (.readPiece · piece (if error.isNone then some data else none) error)
  | .trackers infos => event.torrent.map (.trackers · (infos.map .from))
  | .peers len => event.torrent.map (.peers · ((len : Int).bmod 4294967296))
  | .fileProgress progress => event.torrent.map (.fileProgress · progress)
  | .scrapeReply trackerUrl incomplete complete =>
    event.torrent.map (.scrapeReply · trackerUrl incomplete complete)
  | .scrapeFailed trackerUrl errorMessage =>
    event.torrent.map (.scrapeFailed · trackerUrl (some errorMessage))
  | .torrentDeleted => event.torrent.map .torrentDeleted
  | .torrentDeleteFailed error => event.torrent.map (.torrentDeleteFailed · error)
  | .sessionError error => some (.sessionError (some error))

/-- The kinds of event that belong to no torrent. -/
def EventKind.sessionLevel : EventKind → Bool
  | .stateUpdate _ | .sessionError _ => true
  | _ => false

/-- The event has a counterpart. -/
def Event.convertible (event : Event) : Bool := event.torrent.isSome || event.kind.sessionLevel

theorem fromEngineEvent_isSome (event : Event) (torrents : List Torrent) :
    (TorrentEvent.fromEngineEvent event torrents).isSome = event.convertible := by
  obtain ⟨torrent, kind⟩ := event
  cases torrent <;> cases kind <;> rfl

end Rsbtd.Api
