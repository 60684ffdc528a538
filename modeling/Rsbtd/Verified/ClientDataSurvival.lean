import Rsbtd.Bencode.Decode
import Rsbtd.Bindings.ResumeData

/-!
# What becomes of client data

The written buffer is the plain one with one more key, whose value lies one level
deeper than the client data itself and adds to the tokens of the rest.  The client
data comes back when the whole is within the limits of a `bdecode` without
arguments; beyond them the read fails, or the second decode does and the client
data is lost.
-/

namespace Rsbtd.ResumeData

open Bencode

variable {Params : Type} {lt : Libtorrent Params} {params restored : Params} {buf blob : Bytes}
  {limits : Option LoadTorrentLimits} {value root : Value}

/-- What the bindings rely on in libtorrent. -/
structure Libtorrent.Lawful (lt : Libtorrent Params) : Prop where
  bdecode_iff : ∀ buf depth tokens value, lt.bdecode buf depth tokens = some value ↔
    (∃ rest, buf = value.bytes ++ rest) ∧ value.WellFormed ∧ (lt.depth value : Int) ≤ depth ∧
      (lt.tokens value : Int) ≤ tokens
  defaults_depth : lt.defaults.maxDecodeDepth = 100
  defaults_tokens : lt.defaults.maxDecodeTokens = 3000000
  /-- A value under a new key of a dictionary is one level down, and its tokens and the key's are
  added. -/
  depth_assign : ∀ entries key value, key ∉ entries.map Prod.fst →
    lt.depth (.dict (.of (assign key value entries))) =
      max (lt.depth (.dict (.of entries))) (lt.depth value + 1)
  tokens_assign : ∀ entries key value, key ∉ entries.map Prod.fst →
    lt.tokens (.dict (.of (assign key value entries))) =
      lt.tokens (.dict (.of entries)) + (lt.tokens (.str (.of key)) + lt.tokens value)
  write_wellFormed : ∀ params, ∀ entry ∈ lt.writeResumeData params, entry.2.WellFormed
  /-- The key is the bindings' own: libtorrent does not write it, and ignores it. -/
  write_unknown : ∀ params, rbtDataKey ∉ (lt.writeResumeData params).map Prod.fst
  read_ignores : ∀ limits pairs pairs',
    (∀ key, key ≠ rbtDataKey → pairs.find key = pairs'.find key) →
    lt.readRoot limits (.dict pairs) = lt.readRoot limits (.dict pairs')

/-! ## Bytes of a dictionary -/

theorem bencodePairs_node (entries : List (Bytes × Value)) :
    bencodePairs (entries.map fun entry => (entry.1, .node entry.2)) = (Pairs.of entries).bytes := by
  induction entries with
  | nil => rfl
  | cons entry entries ih =>
    simp only [List.map_cons, bencodePairs, Pairs.of, Pairs.bytes, Entry.bytes, ih]

theorem bencodePairs_assign (key : Bytes) (value : Value) (entries : List (Bytes × Value)) :
    bencodePairs (assign key (.preformatted value.bytes)
        (entries.map fun entry => (entry.1, .node entry.2))) =
      (Pairs.of (assign key value entries)).bytes := by
  induction entries with
  | nil => rfl
  | cons entry entries ih =>
    simp only [List.map_cons, assign]
    split
    · simp only [bencodePairs, Pairs.of, Pairs.bytes, Entry.bytes, bencodePairs_node]
    · split
      · simp only [bencodePairs, Pairs.of, Pairs.bytes, Entry.bytes, bencodePairs_node]
      · simp only [bencodePairs, Pairs.of, Pairs.bytes, Entry.bytes, ih]

theorem wellFormed_of {entries : List (Bytes × Value)}
    (wellFormed : ∀ entry ∈ entries, entry.2.WellFormed) : (Pairs.of entries).WellFormed := by
  induction entries with
  | nil => trivial
  | cons entry entries ih =>
    rw [List.forall_mem_cons] at wellFormed
    exact ⟨Text.wellFormed_of entry.1, wellFormed.1, ih wellFormed.2⟩

/-- The root of the plain resume data. -/
def plainRoot (lt : Libtorrent Params) (params : Params) : Value :=
  .dict (.of (lt.writeResumeData params))

/-- The root of the resume data with client data. -/
def splicedRoot (lt : Libtorrent Params) (params : Params) (value : Value) : Value :=
  .dict (.of (assign rbtDataKey value (lt.writeResumeData params)))

theorem plainRoot_bytes : writeResumeData lt params = (plainRoot lt params).bytes := by
  simp only [writeResumeData, Libtorrent.writeResumeDataBuf, Libtorrent.entries, bencode,
    bencodePairs_node, plainRoot, Value.bytes]

theorem splicedRoot_bytes :
    bencode (assign rbtDataKey (.preformatted value.bytes) (lt.entries params)) =
      (splicedRoot lt params value).bytes := by
  simp only [Libtorrent.entries, bencode, bencodePairs_assign, splicedRoot, Value.bytes]

/-- The buffer is exactly this value. -/
def IsValue (blob : Bytes) (value : Value) : Prop := value.WellFormed ∧ value.bytes = blob

/-- A `bdecode` without arguments accepts the value. -/
def Decodable (lt : Libtorrent Params) (value : Value) : Prop :=
  (lt.depth value : Int) ≤ DEPTH_LIMIT ∧ (lt.tokens value : Int) ≤ TOKEN_LIMIT

/-- The client data is accepted, one level down and beside the other keys. -/
def Fits (lt : Libtorrent Params) (params : Params) (value : Value) : Prop :=
  Decodable lt (plainRoot lt params) ∧ (lt.depth value : Int) + 1 ≤ DEPTH_LIMIT ∧
    ((lt.tokens (plainRoot lt params) + (lt.tokens (.str (.of rbtDataKey)) + lt.tokens value) : Nat) :
      Int) ≤ TOKEN_LIMIT

/-- The default limits or larger ones. -/
def Larger (lt : Libtorrent Params) (limits : Option LoadTorrentLimits) : Prop :=
  lt.defaults.maxDecodeDepth ≤ (toLtLoadLimits lt limits).maxDecodeDepth ∧
    lt.defaults.maxDecodeTokens ≤ (toLtLoadLimits lt limits).maxDecodeTokens

/-- The decode of a read with limits accepts the value. -/
def Within (lt : Libtorrent Params) (limits : LoadTorrentLimits) (value : Value) : Prop :=
  (lt.depth value : Int) ≤ limits.maxDecodeDepth ∧ (lt.tokens value : Int) ≤ limits.maxDecodeTokens

/-- libtorrent takes back the plain resume data. -/
def Reads (lt : Libtorrent Params) (limits : Option LoadTorrentLimits) (params restored : Params) :
    Prop :=
  Within lt (toLtLoadLimits lt limits) (plainRoot lt params) ∧
    lt.readRoot (toLtLoadLimits lt limits) (plainRoot lt params) = .ok restored

/-- Client data that is not one value a `bdecode` without arguments accepts. -/
def Refused (lt : Libtorrent Params) (blob : Bytes) : Prop :=
  blob ≠ [] ∧ ¬∃ value, IsValue blob value ∧ Decodable lt value

/-- What is written is read back: the params as from the plain resume data, and the client
data. -/
def Survives (lt : Libtorrent Params) (limits : Option LoadTorrentLimits) (params : Params)
    (blob : Bytes) : Prop :=
  ∀ bytes, writeResumeDataWith lt params blob = .ok bytes →
    ∃ restored, readResumeData lt (writeResumeData lt params) limits = .ok (restored, none) ∧
      readResumeData lt bytes limits = .ok (restored, if blob = [] then none else some blob)

instance : Decidable (Decodable lt value) := inferInstanceAs (Decidable (_ ∧ _))

instance : Decidable (Fits lt params value) := inferInstanceAs (Decidable (_ ∧ _ ∧ _))

theorem value_bytes_ne_nil (value : Value) : value.bytes.length ≠ 0 := by
  cases value <;> simp [Value.bytes, Text.bytes]

instance (limits : LoadTorrentLimits) : Decidable (Within lt limits value) :=
  inferInstanceAs (Decidable (_ ∧ _))

theorem isValue_unique {value' : Value} (isValue : IsValue blob value)
    (isValue' : IsValue blob value') : value = value' :=
  (bytes_unique isValue.1 isValue'.1 (congrArg (· ++ []) (isValue.2.trans isValue'.2.symm))).1

section Lawful

variable (lawful : lt.Lawful)

include lawful

theorem plainRoot_wellFormed (params : Params) : (plainRoot lt params).WellFormed :=
  wellFormed_of (lawful.write_wellFormed params)

theorem splicedRoot_wellFormed (params : Params) (wellFormed : value.WellFormed) :
    (splicedRoot lt params value).WellFormed := by
  apply wellFormed_of
  intro entry listed
  rcases mem_assign listed with rfl | before
  · exact wellFormed
  · exact lawful.write_wellFormed params entry before

theorem splicedRoot_decodable_iff : Decodable lt (splicedRoot lt params value) ↔
    Fits lt params value := by
  have depth := lawful.depth_assign _ _ value (lawful.write_unknown params)
  have tokens := lawful.tokens_assign _ _ value (lawful.write_unknown params)
  simp only [Decodable, Fits, splicedRoot, plainRoot, depth, tokens]
  omega

/-- The key finds the client data, and only there. -/
theorem splicedRoot_find : (splicedRoot lt params value).find rbtDataKey = some value :=
  find_assign (lawful.write_unknown params)

theorem plainRoot_find : (plainRoot lt params).find rbtDataKey = none :=
  find_of_none (lawful.write_unknown params)

/-- A buffer that begins with a value is decoded to it, within the limits. -/
theorem bdecode_append (rest : Bytes) (wellFormed : root.WellFormed) (depth tokens : Int) :
    lt.bdecode (root.bytes ++ rest) depth tokens =
      if (lt.depth root : Int) ≤ depth ∧ (lt.tokens root : Int) ≤ tokens then some root
      else none := by
  split
  case isTrue within =>
    exact (lawful.bdecode_iff _ _ _ _).mpr ⟨⟨rest, rfl⟩, wellFormed, within⟩
  case isFalse beyond =>
    cases decoded : lt.bdecode (root.bytes ++ rest) depth tokens with
    | none => rfl
    | some found =>
      obtain ⟨⟨rest', same⟩, foundFormed, within⟩ := (lawful.bdecode_iff _ _ _ _).mp decoded
      -- no buffer begins with two values
      obtain ⟨rfl, -⟩ := bytes_unique wellFormed foundFormed same
      exact absurd within beyond

/-! ## Writing -/

/-- Client data is accepted exactly when it is one value that decodes alone. -/
theorem write_ok_iff {bytes : Bytes} (given : blob ≠ []) :
    writeResumeDataWith lt params blob = .ok bytes ↔
      ∃ value, IsValue blob value ∧ Decodable lt value ∧
        bytes = (splicedRoot lt params value).bytes := by
  have long : blob.length ≠ 0 := by simpa using given
  unfold writeResumeDataWith ctWriteResumeDataBufEx
  rw [if_neg long]
  constructor
  · intro written
    cases decoded : lt.bdecode blob DEPTH_LIMIT TOKEN_LIMIT with
    | none => simp [decoded] at written
    | some value =>
      obtain ⟨⟨rest, same⟩, wellFormed, within⟩ := (lawful.bdecode_iff _ _ _ _).mp decoded
      simp only [decoded] at written
      split at written
      · cases written
      case isFalse whole =>
        -- the binding refuses what is left over behind the value
        have spent : rest = [] := by
          rw [same, List.length_append] at whole
          apply List.eq_nil_of_length_eq_zero
          omega
        rw [spent, List.append_nil] at same
        subst same
        exact ⟨value, ⟨wellFormed, rfl⟩, within,
          (Except.ok.inj written).symm.trans splicedRoot_bytes⟩
  · rintro ⟨value, ⟨wellFormed, rfl⟩, within, rfl⟩
    have decoded := bdecode_append lawful [] wellFormed DEPTH_LIMIT TOKEN_LIMIT
    rw [List.append_nil, if_pos (show _ ∧ _ from within)] at decoded
    simp [decoded, splicedRoot_bytes]

/-! ## Reading -/

/-- The raw value under the key, if the second decode succeeds. -/
theorem read_append (limits : Option LoadTorrentLimits) (rest : Bytes)
    (wellFormed : root.WellFormed) :
    readResumeData lt (root.bytes ++ rest) limits =
      (lt.readResumeData (root.bytes ++ rest) (toLtLoadLimits lt limits)).map fun params =>
        (params, if Decodable lt root then (root.find rbtDataKey).map Value.bytes else none) := by
  unfold readResumeData ctReadResumeDataEx
  cases lt.readResumeData (root.bytes ++ rest) (toLtLoadLimits lt limits) with
  | error e => rfl
  | ok params =>
    simp only [bdecode_append lawful rest wellFormed, Except.map]
    by_cases decodable : Decodable lt root
    · simp only [if_pos decodable, if_pos (show _ ∧ _ from decodable)]
      cases root.find rbtDataKey with
      | none => rfl
      | some value => simp [value_bytes_ne_nil value]
    · simp only [if_neg decodable, if_neg (show ¬(_ ∧ _) from decodable)]
      rfl

/-- What an accepted buffer begins with. -/
theorem accepted_root {extra : Option Bytes}
    (read : readResumeData lt buf limits = .ok (params, extra)) :
    ∃ (root : Value) (rest : Bytes), buf = root.bytes ++ rest ∧ root.WellFormed := by
  unfold readResumeData ctReadResumeDataEx Libtorrent.readResumeData at read
  cases decoded : lt.bdecode buf (toLtLoadLimits lt limits).maxDecodeDepth
      (toLtLoadLimits lt limits).maxDecodeTokens with
  | none => simp [decoded, Except.map] at read
  | some root =>
    obtain ⟨⟨rest, same⟩, wellFormed, -⟩ := (lawful.bdecode_iff _ _ _ _).mp decoded
    exact ⟨root, rest, same, wellFormed⟩

/-- An accepted buffer: what it begins with, and what is read of it. -/
theorem accepted_read {extra : Option Bytes}
    (read : readResumeData lt buf limits = .ok (params, extra)) :
    ∃ (root : Value) (rest : Bytes), buf = root.bytes ++ rest ∧ root.WellFormed ∧
      lt.readResumeData buf (toLtLoadLimits lt limits) = .ok params ∧
      extra = if Decodable lt root then (root.find rbtDataKey).map Value.bytes else none := by
  obtain ⟨root, rest, rfl, wellFormed⟩ := accepted_root lawful read
  refine ⟨root, rest, rfl, wellFormed, ?_⟩
  rw [read_append lawful limits rest wellFormed] at read
  cases found : lt.readResumeData (root.bytes ++ rest) (toLtLoadLimits lt limits) with
  | error e => simp [found, Except.map] at read
  | ok params' =>
    simp only [found, Except.map, Except.ok.injEq, Prod.mk.injEq] at read
    obtain ⟨rfl, rfl⟩ := read
    exact ⟨rfl, rfl⟩

/-- libtorrent's own read: within the limits, it reads the root. -/
theorem lt_read_append (rest : Bytes) (wellFormed : root.WellFormed) (limits : LoadTorrentLimits) :
    lt.readResumeData (root.bytes ++ rest) limits =
      if Within lt limits root then lt.readRoot limits root else .error .bdecode := by
  unfold Libtorrent.readResumeData
  rw [bdecode_append lawful rest wellFormed]
  by_cases within : Within lt limits root
  · rw [if_pos within, if_pos (show _ ∧ _ from within)]
  · rw [if_neg within, if_neg (show ¬(_ ∧ _) from within)]

theorem lt_read_ok_iff (wellFormed : root.WellFormed) (limits : LoadTorrentLimits) :
    lt.readResumeData root.bytes limits = .ok params ↔
      Within lt limits root ∧ lt.readRoot limits root = .ok params := by
  have read := lt_read_append lawful [] wellFormed limits
  rw [List.append_nil] at read
  rw [read]
  by_cases within : Within lt limits root
  · simp [within]
  · simp [within]

/-- The two roots are read alike. -/
theorem splicedRoot_read (limits : LoadTorrentLimits) (value : Value) :
    lt.readRoot limits (splicedRoot lt params value) = lt.readRoot limits (plainRoot lt params) := by
  apply lawful.read_ignores
  intro key other
  exact find_assign_other (Ne.symm other) (lawful.write_unknown params)

/-- A value that decodes without arguments is within limits no smaller than the default. -/
theorem within_of_decodable (larger : Larger lt limits) (decodable : Decodable lt root) :
    Within lt (toLtLoadLimits lt limits) root := by
  obtain ⟨depth, tokens⟩ := decodable
  obtain ⟨maxDepth, maxTokens⟩ := larger
  rw [lawful.defaults_depth] at maxDepth
  rw [lawful.defaults_tokens] at maxTokens
  simp only [DEPTH_LIMIT, TOKEN_LIMIT] at depth tokens
  constructor
  · omega
  · omega

theorem read_plain_iff :
    readResumeData lt (writeResumeData lt params) limits = .ok (restored, none) ↔
    Reads lt limits params restored := by
  have read := read_append lawful limits [] (plainRoot_wellFormed lawful params)
  rw [List.append_nil] at read
  rw [plainRoot_bytes, read, plainRoot_find lawful, Option.map_none, ite_self, Reads,
    ← lt_read_ok_iff lawful (plainRoot_wellFormed lawful params)]
  cases lt.readResumeData (plainRoot lt params).bytes (toLtLoadLimits lt limits) with
  | error e => simp [Except.map]
  | ok found => simp [Except.map]

/-- The spliced buffer gives the client data back exactly when the whole decodes without
arguments. -/
theorem read_spliced_iff (wellFormed : value.WellFormed) (larger : Larger lt limits) :
    readResumeData lt (splicedRoot lt params value).bytes limits =
        .ok (restored, some value.bytes) ↔
      lt.readRoot (toLtLoadLimits lt limits) (plainRoot lt params) = .ok restored ∧
        Fits lt params value := by
  have formed := splicedRoot_wellFormed lawful params wellFormed
  have read := read_append lawful limits [] formed
  rw [List.append_nil] at read
  rw [read, splicedRoot_find lawful, Option.map_some, ← splicedRoot_decodable_iff lawful,
    ← splicedRoot_read lawful _ value]
  constructor
  · intro survived
    cases found : lt.readResumeData (splicedRoot lt params value).bytes
        (toLtLoadLimits lt limits) with
    | error e => simp [found, Except.map] at survived
    | ok params' =>
      simp only [found, Except.map, Except.ok.injEq, Prod.mk.injEq] at survived
      obtain ⟨rfl, kept⟩ := survived
      have decodable := (Option.ite_none_right_eq_some.mp kept).1
      exact ⟨((lt_read_ok_iff lawful formed _).mp found).2, decodable⟩
  · rintro ⟨readable, decodable⟩
    have found := (lt_read_ok_iff lawful formed _).mpr
      ⟨within_of_decodable lawful larger decodable, readable⟩
    simp [found, Except.map, decodable]

/-! ## Both -/

theorem survives_nil_iff :
    Survives lt limits params [] ↔ ∃ restored, Reads lt limits params restored := by
  have written : writeResumeDataWith lt params [] = .ok (writeResumeData lt params) := rfl
  constructor
  · intro survives
    obtain ⟨restored, read, -⟩ := survives _ written
    exact ⟨restored, (read_plain_iff lawful).mp read⟩
  · rintro ⟨restored, reads⟩ bytes wrote
    obtain rfl := Except.ok.inj (written.symm.trans wrote)
    have read := (read_plain_iff lawful).mpr reads
    exact ⟨restored, read, read⟩

theorem survives_value_iff (isValue : IsValue blob value) (decodable : Decodable lt value)
    (larger : Larger lt limits) : Survives lt limits params blob ↔
      (∃ restored, Reads lt limits params restored) ∧ Fits lt params value := by
  obtain ⟨wellFormed, rfl⟩ := isValue
  have given : value.bytes ≠ [] := fun empty => value_bytes_ne_nil value (by rw [empty]; rfl)
  constructor
  · intro survives
    obtain ⟨restored, read, back⟩ := survives _
      ((write_ok_iff lawful given).mpr ⟨value, ⟨wellFormed, rfl⟩, decodable, rfl⟩)
    rw [if_neg given] at back
    exact ⟨⟨restored, (read_plain_iff lawful).mp read⟩,
      ((read_spliced_iff lawful wellFormed larger).mp back).2⟩
  · rintro ⟨⟨restored, reads⟩, fits⟩ bytes wrote
    obtain ⟨value', ⟨formed', same⟩, -, rfl⟩ := (write_ok_iff lawful given).mp wrote
    obtain rfl := isValue_unique ⟨formed', same⟩ ⟨wellFormed, rfl⟩
    refine ⟨restored, (read_plain_iff lawful).mpr reads, ?_⟩
    rw [if_neg given]
    exact (read_spliced_iff lawful wellFormed larger).mpr ⟨reads.2, fits⟩

theorem survives_iff (larger : Larger lt limits) : Survives lt limits params blob ↔
    Refused lt blob ∨ (∃ restored, Reads lt limits params restored) ∧
      (blob = [] ∨ ∃ value, IsValue blob value ∧ Fits lt params value) := by
  by_cases given : blob = []
  · subst given
    rw [survives_nil_iff lawful]
    simp [Refused]
  by_cases accepted : ∃ value, IsValue blob value ∧ Decodable lt value
  · obtain ⟨value, isValue, decodable⟩ := accepted
    rw [survives_value_iff lawful isValue decodable larger]
    constructor
    · rintro ⟨reads, fits⟩
      exact .inr ⟨reads, .inr ⟨value, isValue, fits⟩⟩
    · rintro (⟨-, refused⟩ | ⟨reads, empty | ⟨value', isValue', fits⟩⟩)
      · exact absurd ⟨value, isValue, decodable⟩ refused
      · exact absurd empty given
      · rw [isValue_unique isValue isValue']
        exact ⟨reads, fits⟩
  · constructor
    · intro _
      exact .inl ⟨given, accepted⟩
    · rintro - bytes wrote
      obtain ⟨value, isValue, decodable, -⟩ := (write_ok_iff lawful given).mp wrote
      exact absurd ⟨value, isValue, decodable⟩ accepted

theorem write_error (given : blob ≠ []) (unfit : ¬∃ value, IsValue blob value) :
    ∃ e, writeResumeDataWith lt params blob = .error e := by
  cases written : writeResumeDataWith lt params blob with
  | error e => exact ⟨e, rfl⟩
  | ok bytes =>
    obtain ⟨value, isValue, -⟩ := (write_ok_iff lawful given).mp written
    exact absurd ⟨value, isValue⟩ unfit

/-- An accepted buffer gives its client data unless it has some and does not decode without
arguments. -/
theorem read_extra {extra : Option Bytes}
    (read : readResumeData lt buf limits = .ok (params, extra)) :
    ∃ (root : Value) (rest : Bytes), buf = root.bytes ++ rest ∧ root.WellFormed ∧
      (extra = (root.find rbtDataKey).map Value.bytes ↔
        root.find rbtDataKey = none ∨ Decodable lt root) := by
  obtain ⟨root, rest, begins, wellFormed, -, rfl⟩ := accepted_read lawful read
  refine ⟨root, rest, begins, wellFormed, ?_⟩
  by_cases decodable : Decodable lt root
  · simp [decodable]
  · cases root.find rbtDataKey with
    | none => simp
    | some value => simp [decodable]

end Lawful

/-! ## The claim for all client data and all buffers -/

/-- Written client data is refused or survives exactly when it fits beside the rest; what is not
one value is refused; an accepted buffer gives what is under its key exactly when it has none or
decodes without arguments. -/
theorem client_data_survives_iff (lawful : lt.Lawful) :
    (∀ limits params blob, Larger lt limits → (Survives lt limits params blob ↔
      Refused lt blob ∨ (∃ restored, Reads lt limits params restored) ∧
        (blob = [] ∨ ∃ value, IsValue blob value ∧ Fits lt params value))) ∧
    (∀ params blob, blob ≠ [] → (¬∃ value, IsValue blob value) →
      ∃ e, writeResumeDataWith lt params blob = .error e) ∧
    ∀ buf limits params extra, readResumeData lt buf limits = .ok (params, extra) →
      ∃ (root : Value) (rest : Bytes), buf = root.bytes ++ rest ∧ root.WellFormed ∧
        (extra = (root.find rbtDataKey).map Value.bytes ↔
          root.find rbtDataKey = none ∨ Decodable lt root) := by
  refine ⟨?_, ?_, ?_⟩
  · intro limits params blob larger
    exact survives_iff lawful larger
  · intro params blob given unfit
    exact write_error lawful given unfit
  · intro buf limits params extra read
    exact read_extra lawful read

section Reference

/-- `file-format` and `libtorrent resume file`. -/
def fileFormatKey : Bytes := [102, 105, 108, 101, 45, 102, 111, 114, 109, 97, 116]
def fileFormat : Bytes :=
  [108, 105, 98, 116, 111, 114, 114, 101, 110, 116, 32, 114, 101, 115, 117, 109, 101, 32, 102, 105,
    108, 101]

/-- Any resume data, over a decoder that counts every value and every end. -/
def counted (writeResumeData : Params → List (Bytes × Value))
    (readRoot : LoadTorrentLimits → Value → Except Error Params) : Libtorrent Params where
  depth := Value.depth
  tokens := Value.tokens
  bdecode buf depth tokens :=
    (decode buf).bind fun found =>
      if (found.1.depth : Int) ≤ depth ∧ (found.1.tokens : Int) ≤ tokens then some found.1 else none
  defaults := ⟨10000000, 2000000, 100, 3000000, 100, 100⟩
  writeResumeData
  readRoot

theorem counted_lawful {write : Params → List (Bytes × Value)}
    {readRoot : LoadTorrentLimits → Value → Except Error Params}
    (formed : ∀ params, ∀ entry ∈ write params, entry.2.WellFormed)
    (unknown : ∀ params, rbtDataKey ∉ (write params).map Prod.fst)
    (ignores : ∀ limits pairs pairs', (∀ key, key ≠ rbtDataKey → pairs.find key = pairs'.find key) →
      readRoot limits (.dict pairs) = readRoot limits (.dict pairs')) :
    (counted write readRoot).Lawful where
  bdecode_iff buf depth tokens value := by
    constructor
    · intro decoded
      obtain ⟨⟨found, rest⟩, begins, checked⟩ := Option.bind_eq_some_iff.mp decoded
      obtain ⟨within, single⟩ := Option.ite_none_right_eq_some.mp checked
      obtain rfl := Option.some.inj single
      obtain ⟨same, wellFormed⟩ := decode_iff.mp begins
      exact ⟨⟨rest, same⟩, wellFormed, within⟩
    · rintro ⟨⟨rest, rfl⟩, wellFormed, within⟩
      apply Option.bind_eq_some_iff.mpr
      exact ⟨_, decode_iff.mpr ⟨rfl, wellFormed⟩, if_pos within⟩
  defaults_depth := rfl
  defaults_tokens := rfl
  depth_assign entries key value absent := by
    simp only [counted, Value.depth, depth_assign absent]
    omega
  tokens_assign entries key value absent := by
    simp only [counted, Value.tokens, tokens_assign absent]
    omega
  write_wellFormed := formed
  write_unknown := unknown
  read_ignores := ignores

/-- Resume data of nothing but its file format. -/
def reference : Libtorrent Unit :=
  counted (fun _ => [(fileFormatKey, .str (.of fileFormat))]) fun _ root =>
    match root.find fileFormatKey with
    | some (.str text) => if text.payload = fileFormat then .ok () else .error (.resumeData "tag")
    | _ => .error (.resumeData "tag")

theorem reference_lawful : reference.Lawful := by
  apply counted_lawful
  · intro params entry listed
    obtain rfl := List.mem_singleton.mp listed
    exact Text.wellFormed_of fileFormat
  · intro params
    exact show rbtDataKey ∉ [fileFormatKey] by decide
  · intro limits pairs pairs' same
    simp only [Value.find, same fileFormatKey (by decide)]

/-- Lists within one another. -/
def nested : Nat → Value
  | 0 => .int [48]
  | n + 1 => .list (.cons (nested n) .nil)

theorem nested_wellFormed (n : Nat) : (nested n).WellFormed := by
  induction n with
  | zero => rfl
  | succ n ih => exact ⟨ih, trivial⟩

theorem nested_depth (n : Nat) : (nested n).depth = n := by
  induction n with
  | zero => rfl
  | succ n ih => simp [nested, Value.depth, Items.depth, ih]

theorem nested_tokens (n : Nat) : (nested n).tokens = 2 * n + 1 := by
  induction n with
  | zero => rfl
  | succ n ih =>
    simp only [nested, Value.tokens, Items.tokens, ih]
    omega

theorem nested_decodable {n : Nat} (shallow : n ≤ 100) : Decodable reference (nested n) := by
  have depth : reference.depth (nested n) = n := nested_depth n
  have tokens : reference.tokens (nested n) = 2 * n + 1 := nested_tokens n
  rw [Decodable, depth, tokens, DEPTH_LIMIT, TOKEN_LIMIT]
  omega

theorem nested_not_fits : ¬Fits reference () (nested 100) := by
  rintro ⟨-, depth, -⟩
  have deep : reference.depth (nested 100) = 100 := nested_depth 100
  rw [deep, DEPTH_LIMIT] at depth
  omega

/-- Limits that allow deeper nesting. -/
def wideLimits : LoadTorrentLimits := { reference.defaults with maxDecodeDepth := 1000 }

/-- The buffer with the deepest client data. -/
def deepRoot : Value := splicedRoot reference () (nested 100)

theorem deepRoot_depth : reference.depth deepRoot = 101 := by
  have depth := reference_lawful.depth_assign (reference.writeResumeData ()) rbtDataKey (nested 100)
    (reference_lawful.write_unknown ())
  have inner : reference.depth (nested 100) = 100 := nested_depth 100
  have outer : reference.depth (plainRoot reference ()) = 1 := rfl
  rw [plainRoot] at outer
  rw [deepRoot, splicedRoot, depth, inner, outer]
  omega

theorem deepRoot_tokens : reference.tokens deepRoot = 206 := by
  have tokens := reference_lawful.tokens_assign (reference.writeResumeData ()) rbtDataKey
    (nested 100) (reference_lawful.write_unknown ())
  have inner : reference.tokens (nested 100) = 201 := nested_tokens 100
  have outer : reference.tokens (plainRoot reference ()) = 4 := rfl
  have key : reference.tokens (.str (.of rbtDataKey)) = 1 := rfl
  rw [plainRoot] at outer
  rw [deepRoot, splicedRoot, tokens, inner, outer, key]

theorem deepRoot_wellFormed : deepRoot.WellFormed :=
  splicedRoot_wellFormed reference_lawful () (nested_wellFormed 100)

theorem deep_read_error : readResumeData reference deepRoot.bytes none = .error .bdecode := by
  have read := read_append reference_lawful none [] deepRoot_wellFormed
  have beyond : ¬Within reference (toLtLoadLimits reference none) deepRoot := by
    rintro ⟨depth, -⟩
    rw [deepRoot_depth] at depth
    exact absurd depth (by decide)
  rw [lt_read_append reference_lawful [] deepRoot_wellFormed, if_neg beyond, List.append_nil] at read
  exact read

theorem deep_read_wide :
    readResumeData reference deepRoot.bytes (some wideLimits) = .ok ((), none) := by
  have read := read_append reference_lawful (some wideLimits) [] deepRoot_wellFormed
  have within : Within reference (toLtLoadLimits reference (some wideLimits)) deepRoot := by
    rw [Within, deepRoot_depth, deepRoot_tokens]
    decide
  have beyond : ¬Decodable reference deepRoot := fun decodable =>
    nested_not_fits ((splicedRoot_decodable_iff reference_lawful).mp decodable)
  rw [lt_read_append reference_lawful [] deepRoot_wellFormed, if_pos within, if_neg beyond,
    List.append_nil] at read
  rw [read, deepRoot, splicedRoot_read reference_lawful]
  rfl

end Reference

/-- One integer survives, and is what the written buffer gives; half of one is refused. -/
theorem client_data_survives_integer :
    Survives reference none () (nested 0).bytes ∧
      (∃ e, writeResumeDataWith reference () [105] = .error e) ∧
      ∃ (root : Value) (rest : Bytes),
        (splicedRoot reference () (nested 0)).bytes = root.bytes ++ rest ∧ root.WellFormed ∧
          (some (nested 0).bytes = (root.find rbtDataKey).map Value.bytes ↔
            root.find rbtDataKey = none ∨ Decodable reference root) := by
  obtain ⟨survives, refuses, accepted⟩ := client_data_survives_iff reference_lawful
  have formed := nested_wellFormed 0
  have fits : Fits reference () (nested 0) := by
    refine ⟨⟨?_, ?_⟩, ?_, ?_⟩ <;> decide +kernel
  have larger : Larger reference none := ⟨Int.le_refl _, Int.le_refl _⟩
  have reads : Reads reference none () () := by
    refine ⟨⟨?_, ?_⟩, rfl⟩ <;> decide +kernel
  refine ⟨?_, ?_, ?_⟩
  · apply (survives none () _ larger).mpr
    exact .inr ⟨⟨(), reads⟩, .inr ⟨nested 0, ⟨formed, rfl⟩, fits⟩⟩
  · apply refuses () _ (by decide)
    rintro ⟨value, wellFormed, same⟩
    have decoded := decode_iff.mpr ⟨(List.append_nil value.bytes).symm, wellFormed⟩
    have cut : decode [105] = none := rfl
    rw [same, cut] at decoded
    cases decoded
  · exact accepted _ none () _ ((read_spliced_iff reference_lawful formed larger).mpr ⟨rfl, fits⟩)

/-- Lists nested as deep as a `bdecode` allows are accepted as client data.  The written buffer is
refused at the default limits; with larger ones it is read with the client data lost. -/
theorem client_data_lost :
    (∃ bytes, writeResumeDataWith reference () (nested 100).bytes = .ok bytes ∧
      readResumeData reference bytes none = .error .bdecode ∧
      readResumeData reference bytes (some wideLimits) = .ok ((), none)) ∧
    ¬Survives reference none () (nested 100).bytes ∧
      ¬Survives reference (some wideLimits) () (nested 100).bytes := by
  have accepted := nested_decodable (Nat.le_refl 100)
  have isValue : IsValue (nested 100).bytes (nested 100) := ⟨nested_wellFormed 100, rfl⟩
  have given : (nested 100).bytes ≠ [] := fun empty =>
    value_bytes_ne_nil (nested 100) (by rw [empty]; rfl)
  refine ⟨?_, ?_, ?_⟩
  · refine ⟨_, (write_ok_iff reference_lawful given).mpr ⟨_, isValue, accepted, rfl⟩, ?_, ?_⟩
    · exact deep_read_error
    · exact deep_read_wide
  · intro survives
    have larger : Larger reference none := ⟨Int.le_refl _, Int.le_refl _⟩
    exact nested_not_fits ((survives_value_iff reference_lawful isValue accepted larger).mp survives).2
  · intro survives
    have larger : Larger reference (some wideLimits) := by
      constructor <;> decide
    exact nested_not_fits ((survives_value_iff reference_lawful isValue accepted larger).mp survives).2

end Rsbtd.ResumeData
