import Rsbtd.Transition.Runs

/-!
# The trackers tab

Removing a tracker submits the whole list shown at that moment without it.  The
daemon applies the submissions in order, and a snapshot arriving at the tab may
have been read after any number of them.  The torrent stays in the session and its
resume data is saved, so a submission succeeds when its tiers are valid.
-/

namespace Rsbtd.WebUi

structure AnnounceEntry where
  url : String
  tier : Fin 256
deriving DecidableEq, Repr

/-- libtorrent's announce list: no URL twice, and none empty. -/
structure AnnounceList where
  entries : List AnnounceEntry
  unique : (entries.map (·.url)).Nodup
  named : ∀ entry ∈ entries, entry.url ≠ ""

/-- A tracker as the query returns it. -/
structure Tracker where
  url : String
  tier : Int
deriving DecidableEq, Repr

structure TrackerInput where
  url : String
  tier : Int
deriving DecidableEq, Repr

/-- libtorrent's `replace_trackers`: a list that already is an announce list is kept, up to order. -/
structure Installer where
  install : List AnnounceEntry → AnnounceList
  keeps : ∀ list : AnnounceList, (install list.entries).entries.Perm list.entries

structure TrackersTab where
  /-- The announce list of the daemon. -/
  daemon : AnnounceList
  /-- A history: the announce lists up to now. -/
  past : List AnnounceList
  /-- The snapshot shown; nothing before the first. -/
  trackers : List Tracker
  /-- Requests submitted and not applied, oldest first. -/
  pending : List (List TrackerInput)
  /-- A history: the URLs removed. -/
  removed : List String

inductive TrackersAction where
  | removeTracker (url : String)
  /-- The daemon applies the oldest request. -/
  | replaceTrackers
  /-- A snapshot arrives, read when the announce list was the one at this place of the history. -/
  | snapshot (read : Nat)
deriving DecidableEq, Repr

/-- `Tracker::from`. -/
def Tracker.from (entry : AnnounceEntry) : Tracker := ⟨entry.url, entry.tier⟩

/-- `u8::try_from`, with the error of `replace_trackers`. -/
def TrackerInput.entry (tracker : TrackerInput) : Except String AnnounceEntry :=
  if valid : 0 ≤ tracker.tier ∧ tracker.tier < 256 then
    .ok ⟨tracker.url, tracker.tier.toNat, by omega⟩
  else .error ("invalid request: tracker tier " ++ toString tracker.tier ++ " is outside 0..=255")

namespace TrackersTab

variable (i : Installer)

def init (list : AnnounceList) : TrackersTab where
  daemon := list
  past := [list]
  trackers := []
  pending := []
  removed := []

def removeTracker (t : TrackersTab) (url : String) : TrackersTab :=
  let remaining := (t.trackers.filter fun tracker => tracker.url ≠ url).map fun tracker =>
    { url := tracker.url, tier := tracker.tier }
  { t with pending := t.pending ++ [remaining], removed := t.removed ++ [url] }

def replaceTrackers (t : TrackersTab) (trackers : List TrackerInput) : Except String TrackersTab := do
  let list ← trackers.mapM TrackerInput.entry
  let daemon := i.install list
  return { t with daemon, past := t.past ++ [daemon] }

def step (t : TrackersTab) : TrackersAction → Option TrackersTab
  | .removeTracker url =>
    if t.trackers.any (·.url = url) then some (t.removeTracker url) else none
  | .replaceTrackers =>
    match t.pending with
    | [] => none
    | trackers :: pending => (replaceTrackers i { t with pending } trackers).toOption
  | .snapshot read =>
    t.past[read]?.map fun list => { t with trackers := list.entries.map Tracker.from }

end TrackersTab

end Rsbtd.WebUi
