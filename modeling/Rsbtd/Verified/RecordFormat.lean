import Rsbtd.Verified.ClientDataSurvival
import Rsbtd.Verified.RestoreSafety

/-!
# The records of a restore

`RecordFormat.bindings` are the calls of a restore as the bindings make them: a record is
libtorrent's resume data with the client data spliced in, and a read decodes it twice.
They are lawful; a record with more than two million tokens does not fit, and then its
client data is not read.
-/

namespace Rsbtd.Restore

open Bencode ResumeData

variable {τ Params : Type}

/-- `uuid`. -/
def uuidKey : Bytes := [117, 117, 105, 100]

/-- The bencoded `RsbtData`. -/
def rsbtData (payload : Bytes) : Value := .dict (.of [(uuidKey, .str (.of payload))])

/-- libtorrent's resume data, and the client data as serde_bencode writes and reads it. -/
structure RecordFormat (τ Params : Type) where
  libtorrent : Libtorrent Params
  torrent : Params → τ
  uuidBytes : Uuid → Bytes
  fromBytes : Bytes → Option (Option Uuid)

namespace RecordFormat

variable (format : RecordFormat τ Params)

/-- `RsbtData::to_bencode`. -/
def toBencode (uuid : Uuid) : Bytes := (rsbtData (format.uuidBytes uuid)).bytes

def bindings : Bindings τ Params Bytes Bytes where
  readResumeData buf := (readResumeData format.libtorrent buf none).toOption
  writeResumeDataWith params blob := (writeResumeDataWith format.libtorrent params blob).toOption
  torrent := format.torrent
  toBencode := format.toBencode
  fromBytes := format.fromBytes
  clientData buf := (decode buf).bind fun found => (found.1.find rbtDataKey).map Value.bytes
  fits params blob := (decode blob).any fun found => decide (Fits format.libtorrent params found.1)

structure Lawful : Prop where
  libtorrent : format.libtorrent.Lawful
  /-- Params that were read are read again from the resume data they are written to. -/
  rewritten : ∀ buf params,
    format.libtorrent.readResumeData buf format.libtorrent.defaults = .ok params →
      ∃ restored, format.libtorrent.readRoot format.libtorrent.defaults
        (plainRoot format.libtorrent params) = .ok restored ∧
          format.torrent restored = format.torrent params
  from_to : ∀ uuid, format.fromBytes (format.toBencode uuid) = some (some uuid)

end RecordFormat

variable {format : RecordFormat τ Params} {params : Params} {bytes : Bytes} {uuid : Uuid}

theorem rsbtData_wellFormed (payload : Bytes) : (rsbtData payload).WellFormed := by
  apply wellFormed_of
  intro entry listed
  obtain rfl := List.mem_singleton.mp listed
  exact Text.wellFormed_of payload

theorem decode_bytes {value : Value} (formed : value.WellFormed) :
    decode value.bytes = some (value, []) :=
  decode_iff.mpr ⟨(List.append_nil _).symm, formed⟩

theorem toBencode_ne_nil : format.toBencode uuid ≠ [] :=
  List.ne_nil_of_length_pos (Nat.pos_of_ne_zero (value_bytes_ne_nil _))

/-- A uuid fits beside the resume data of the params. -/
theorem fits_iff : format.bindings.fits params (format.toBencode uuid) = true ↔
    Fits format.libtorrent params (rsbtData (format.uuidBytes uuid)) := by
  simp [RecordFormat.bindings, RecordFormat.toBencode, decode_bytes (rsbtData_wellFormed _)]

theorem toOption_eq_some {ε α : Type} {result : Except ε α} {value : α} :
    result.toOption = some value ↔ result = .ok value := by
  cases result <;> simp [Except.toOption]

section Lawful

variable (lawful : format.Lawful)

include lawful

/-- The client data that is read is under the key. -/
theorem clientData_of_read {raw : Bytes}
    (read : format.bindings.readResumeData bytes = some (params, some raw)) :
    format.bindings.clientData bytes = some raw := by
  obtain ⟨root, rest, rfl, formed, -, extra⟩ :=
    accepted_read lawful.libtorrent (toOption_eq_some.mp read)
  have found := (Option.ite_none_right_eq_some.mp extra.symm).2
  simp [RecordFormat.bindings, decode_iff.mpr ⟨rfl, formed⟩, found]

/-- What is written is read as the same torrent. -/
theorem torrent_of_write {raw raw' : Option Bytes} {bytes' : Bytes} {params' : Params}
    (read : format.bindings.readResumeData bytes = some (params, raw))
    (written : format.bindings.writeResumeDataWith params (format.toBencode uuid) = some bytes')
    (back : format.bindings.readResumeData bytes' = some (params', raw')) :
    format.torrent params' = format.torrent params := by
  obtain ⟨-, -, -, -, first, -⟩ := accepted_read lawful.libtorrent (toOption_eq_some.mp read)
  obtain ⟨restored, again, torrent⟩ := lawful.rewritten bytes params first
  obtain ⟨value, ⟨formed, -⟩, -, rfl⟩ :=
    (write_ok_iff lawful.libtorrent toBencode_ne_nil).mp (toOption_eq_some.mp written)
  obtain ⟨-, -, -, -, second, -⟩ := accepted_read lawful.libtorrent (toOption_eq_some.mp back)
  have spliced := splicedRoot_wellFormed lawful.libtorrent params formed
  have second := ((lt_read_ok_iff lawful.libtorrent spliced _).mp second).2
  rw [splicedRoot_read lawful.libtorrent] at second
  obtain rfl := Except.ok.inj (second.symm.trans again)
  exact torrent

/-- A uuid that fits is written, and read again. -/
theorem read_of_write {raw : Option Bytes}
    (read : format.bindings.readResumeData bytes = some (params, raw))
    (fits : format.bindings.fits params (format.toBencode uuid) = true) :
    ∃ bytes' params',
      format.bindings.writeResumeDataWith params (format.toBencode uuid) = some bytes' ∧
        format.bindings.readResumeData bytes' = some (params', some (format.toBencode uuid)) := by
  have fits := fits_iff.mp fits
  have formed := rsbtData_wellFormed (format.uuidBytes uuid)
  have decodable : Decodable format.libtorrent (rsbtData (format.uuidBytes uuid)) := by
    obtain ⟨-, depth, tokens⟩ := fits
    constructor
    · omega
    · omega
  obtain ⟨-, -, -, -, first, -⟩ := accepted_read lawful.libtorrent (toOption_eq_some.mp read)
  obtain ⟨restored, again, -⟩ := lawful.rewritten bytes params first
  have written : writeResumeDataWith format.libtorrent params (format.toBencode uuid) = .ok _ :=
    (write_ok_iff lawful.libtorrent toBencode_ne_nil).mpr ⟨_, ⟨formed, rfl⟩, decodable, rfl⟩
  refine ⟨_, restored, toOption_eq_some.mpr written, toOption_eq_some.mpr ?_⟩
  exact (read_spliced_iff lawful.libtorrent formed ⟨Int.le_refl _, Int.le_refl _⟩).mpr
    ⟨again, fits⟩

theorem bindings_lawful : format.bindings.Lawful where
  read_some _ _ _ read := clientData_of_read lawful read
  write_torrent _ _ _ _ _ read written _ _ back := torrent_of_write lawful read written back
  read_write _ _ _ _ read fits := read_of_write lawful read fits
  from_to := lawful.from_to

end Lawful

/-! ## Records of a few bytes -/

/-- `info-hash`. -/
def infoHashKey : Bytes := [105, 110, 102, 111, 45, 104, 97, 115, 104]

/-- Torrents and uuids are numbers, and are told apart by the length of a string. -/
def countedFormat : RecordFormat Nat Nat where
  libtorrent := counted (fun torrent => [(infoHashKey, .str (.of (List.replicate torrent 0)))])
    fun _ root =>
      match root.find infoHashKey with
      | some (.str text) => .ok text.payload.length
      | _ => .error (.resumeData "hash")
  torrent := id
  uuidBytes uuid := List.replicate uuid 0
  fromBytes raw :=
    (decode raw).bind fun found =>
      match found.1 with
      | .dict pairs =>
        match pairs.find uuidKey with
        | none => some none
        | some (.str text) => some (some text.payload.length)
        | some _ => none
      | _ => none

theorem countedFormat_lawful : countedFormat.Lawful where
  libtorrent := by
    apply counted_lawful
    · intro params entry listed
      obtain rfl := List.mem_singleton.mp listed
      exact Text.wellFormed_of _
    · intro params
      exact show rbtDataKey ∉ [infoHashKey] by decide
    · intro limits pairs pairs' same
      simp only [Value.find, same infoHashKey (by decide)]
  rewritten buf params _ := by
    refine ⟨params, ?_, rfl⟩
    simp [countedFormat, counted, plainRoot, Value.find, Pairs.of, Pairs.find]
  from_to uuid := by
    have decoded : decode (countedFormat.toBencode uuid) =
        some (rsbtData (.replicate uuid 0), []) :=
      decode_bytes (rsbtData_wellFormed _)
    change (decode (countedFormat.toBencode uuid)).bind _ = _
    rw [decoded]
    simp [rsbtData, Pairs.of, Pairs.find]

/-- The file of a torrent, legacy or with a uuid. -/
def countedFile (torrent : Nat) : Option Uuid → Bytes
  | none => writeResumeData countedFormat.libtorrent torrent
  | some uuid =>
    (splicedRoot countedFormat.libtorrent torrent (rsbtData (.replicate uuid 0))).bytes

end Rsbtd.Restore
