import Rsbtd.Sequence.Fill

/-!
# The trackers of a torrent to add

`add_torrent_params` keeps the URLs and the tiers in two lists, of which the tiers may
be shorter or longer; what reads the URLs replaces bytes that are no UTF-8.
-/

namespace Rsbtd.TrackerList

/-- The bytes of a string. -/
def str_view (url : String) : List UInt8 := url.toUTF8.data.toList

/-- `String::from_utf8_lossy`, which keeps what is UTF-8. -/
structure Lossy where
  decode : List UInt8 → String
  decode_str_view : ∀ s, decode (str_view s) = s

/-- The URLs and tiers of `lt::add_torrent_params`. -/
structure AddTorrentParams where
  trackers : List (List UInt8)
  tracker_tiers : List Int32
deriving DecidableEq, Repr

namespace AddTorrentParams

def ct_atp_tracker_tier (params : AddTorrentParams) (i : Nat) : Int32 :=
  params.tracker_tiers.getD i 0

/-- The iterator from the tracker with index `i` on; `tier` is the one it had last. -/
def trackersFrom (lossy : Lossy) (params : AddTorrentParams) (tier : Int32) (i : Nat) :
    List (List UInt8) → List (String × Int32)
  | [] => []
  | url :: rest =>
    if i < params.tracker_tiers.length then
      (lossy.decode url, params.ct_atp_tracker_tier i) ::
        trackersFrom lossy params (params.ct_atp_tracker_tier i) (i + 1) rest
    else
      (lossy.decode url, tier) :: trackersFrom lossy params tier (i + 1) rest

/-- `trackers`: the URLs with their tiers. -/
def listTrackers (lossy : Lossy) (params : AddTorrentParams) : List (String × Int32) :=
  params.trackersFrom lossy 0 0 params.trackers

def add_tracker (params : AddTorrentParams) (url : String) (tier : Int32) : AddTorrentParams :=
  { trackers := params.trackers ++ [str_view url]
    tracker_tiers := params.tracker_tiers ++ [tier] }

def clear_trackers (_ : AddTorrentParams) : AddTorrentParams :=
  { trackers := [], tracker_tiers := [] }

/-- The pairs, added one after the other. -/
def addAll (params : AddTorrentParams) (pairs : List (String × Int32)) : AddTorrentParams :=
  pairs.foldl (fun params pair => params.add_tracker pair.1 pair.2) params

end AddTorrentParams

end Rsbtd.TrackerList
