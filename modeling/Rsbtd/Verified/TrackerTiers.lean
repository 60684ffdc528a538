import Mathlib.Data.List.GetD
import Rsbtd.Bindings.TrackerList

/-!
# Adding a tracker

`add_tracker` puts the URL and the tier at the ends of their lists.  Where these have the
same length the tier is that of the URL; where there are fewer tiers it becomes the tier
of a URL that had none, and where there are more it is behind the one the URL gets.
-/

namespace Rsbtd.TrackerList

open Sequence

namespace AddTorrentParams

variable {lossy : Lossy} {params : AddTorrentParams} {url : String} {tier : Int32}

/-- The iterator pairs the URLs with the tiers filled up. -/
theorem trackersFrom_eq_zip (urls : List (List UInt8)) (tier : Int32) (i : Nat) :
    params.trackersFrom lossy tier i urls =
      (urls.map lossy.decode).zip (fill tier (params.tracker_tiers.drop i) urls.length) := by
  induction urls generalizing tier i with
  | nil => rfl
  | cons url rest ih =>
    rw [trackersFrom]
    by_cases inside : i < params.tracker_tiers.length
    · have read : params.ct_atp_tracker_tier i = params.tracker_tiers[i] :=
        List.getD_eq_getElem _ _ inside
      rw [if_pos inside, ih, read, List.drop_eq_getElem_cons inside, List.length_cons, fill,
        List.map_cons, List.zip_cons_cons]
    · have ended : params.tracker_tiers.drop i = [] := List.drop_eq_nil_of_le (by omega)
      have endedNext : params.tracker_tiers.drop (i + 1) = [] :=
        List.drop_eq_nil_of_le (by omega)
      rw [if_neg inside, ih, ended, endedNext, List.length_cons, fill, List.map_cons,
        List.zip_cons_cons]

theorem listTrackers_eq_zip :
    params.listTrackers lossy =
      (params.trackers.map lossy.decode).zip
        (fill 0 params.tracker_tiers params.trackers.length) := by
  rw [listTrackers, trackersFrom_eq_zip, List.drop_zero]

/-- The trackers after `add_tracker`: the tiers, with the new one at the end, filled up. -/
theorem listTrackers_add_tracker :
    (params.add_tracker url tier).listTrackers lossy =
      (params.trackers.map lossy.decode ++ [url]).zip
        (fill 0 (params.tracker_tiers ++ [tier]) (params.trackers.length + 1)) := by
  rw [listTrackers_eq_zip, add_tracker, List.map_append, List.map_singleton,
    lossy.decode_str_view, List.length_append, List.length_singleton]

theorem add_tracker_appends_iff :
    (params.add_tracker url tier).listTrackers lossy =
        params.listTrackers lossy ++ [(url, tier)] ↔
      params.tracker_tiers.length = params.trackers.length ∨
        (params.tracker_tiers.length < params.trackers.length ∧
          params.tracker_tiers.getLastD 0 = tier) ∨
        params.tracker_tiers[params.trackers.length]? = some tier := by
  have count : (params.trackers.map lossy.decode).length =
      (fill (0 : Int32) params.tracker_tiers params.trackers.length).length := by simp
  have wanted : params.listTrackers lossy ++ [(url, tier)] =
      (params.trackers.map lossy.decode ++ [url]).zip
        (fill 0 params.tracker_tiers params.trackers.length ++ [tier]) := by
    rw [listTrackers_eq_zip, List.zip_append count]
    rfl
  rw [listTrackers_add_tracker, wanted, ← fill_append_iff]
  constructor
  · intro same
    have tiers := congrArg (List.map Prod.snd) same
    rwa [List.map_snd_zip (by simp), List.map_snd_zip (by simp)] at tiers
  · intro same
    rw [same]

/-! ## Adding all of them again -/

/-- Lists of the same length stay so, and every pair comes out. -/
theorem listTrackers_addAll (pairs : List (String × Int32))
    (level : params.tracker_tiers.length = params.trackers.length) :
    (params.addAll pairs).listTrackers lossy = params.listTrackers lossy ++ pairs := by
  induction pairs generalizing params with
  | nil => rw [List.append_nil]; rfl
  | cons pair rest ih =>
    have stays : (params.add_tracker pair.1 pair.2).tracker_tiers.length =
        (params.add_tracker pair.1 pair.2).trackers.length := by
      rw [add_tracker, List.length_append, List.length_append, level]
      rfl
    have appended : (params.add_tracker pair.1 pair.2).listTrackers lossy =
        params.listTrackers lossy ++ [(pair.1, pair.2)] :=
      add_tracker_appends_iff.mpr (Or.inl level)
    have rest := ih stays
    rw [addAll, List.foldl_cons, ← addAll, rest, appended, List.append_assoc]
    rfl

theorem clear_addAll (pairs : List (String × Int32)) :
    (params.clear_trackers.addAll pairs).listTrackers lossy = pairs :=
  listTrackers_addAll pairs rfl

/-! ## What a tracker added gives -/

theorem add_tracker_and_addAll_iff (lossy : Lossy) (params : AddTorrentParams) (url : String)
    (tier : Int32) :
    ((params.add_tracker url tier).listTrackers lossy =
        params.listTrackers lossy ++ [(url, tier)] ∧
      (params.clear_trackers.addAll (params.listTrackers lossy)).listTrackers lossy =
        params.listTrackers lossy) ↔
      params.tracker_tiers.length = params.trackers.length ∨
        (params.tracker_tiers.length < params.trackers.length ∧
          params.tracker_tiers.getLastD 0 = tier) ∨
        params.tracker_tiers[params.trackers.length]? = some tier := by
  rw [and_iff_left (clear_addAll _)]
  exact add_tracker_appends_iff

/-- Text that is no UTF-8 at all becomes one replacement character. -/
def decoder : Lossy where
  decode bytes := (String.fromUTF8? ⟨bytes.toArray⟩).getD "\uFFFD"
  decode_str_view s := by
    have bytes : (⟨(str_view s).toArray⟩ : ByteArray) = s.toByteArray := by
      rw [str_view, Array.toArray_toList]
      rfl
    rw [bytes, String.fromUTF8?, dif_pos s.isValidUTF8]
    rfl

/-- The tier of the second tracker becomes that of the first, which had none. -/
theorem add_tracker_retiers :
    let params : AddTorrentParams := ⟨[str_view "udp://a"], []⟩
    params.listTrackers decoder = [("udp://a", 0)] ∧
      (params.add_tracker "udp://b" 5).listTrackers decoder = [("udp://a", 5), ("udp://b", 5)] ∧
      ¬ ∀ (params : AddTorrentParams) (url : String) (tier : Int32),
          (params.add_tracker url tier).listTrackers decoder =
            params.listTrackers decoder ++ [(url, tier)] := by
  have before : (⟨[str_view "udp://a"], []⟩ : AddTorrentParams).listTrackers decoder =
      [("udp://a", 0)] := by
    rw [listTrackers_eq_zip, List.map_singleton, decoder.decode_str_view]
    rfl
  have after : (add_tracker ⟨[str_view "udp://a"], []⟩ "udp://b" 5).listTrackers decoder =
      [("udp://a", 5), ("udp://b", 5)] := by
    rw [listTrackers_add_tracker, List.map_singleton, decoder.decode_str_view]
    rfl
  refine ⟨before, after, fun appends => ?_⟩
  have same := appends ⟨[str_view "udp://a"], []⟩ "udp://b" 5
  rw [before, after] at same
  exact absurd same (by decide)

end AddTorrentParams

end Rsbtd.TrackerList
