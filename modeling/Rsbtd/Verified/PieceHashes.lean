import Mathlib.Data.List.Sort
import Rsbtd.Verified.CreatedTorrents

/-!
# The caller's file indices

libtorrent's builder has the caller's files in an order of its own, with pad files
between them.  `Located` says where file `i` of the caller is.  The hashes that
`set_hash2` puts into the builder are, read back through the map, those of a plain
store keyed by the caller's indices.
-/

namespace Rsbtd.CreateTorrent

open Checks
open Keyed (Store)

/-- An entry that is not padding. -/
def CtFileEntry.real (entry : CtFileEntry) : Bool := !entry.flags.padFile

/-- What the builder promises: the files are the caller's, under their paths, in some
order and between pad files of its own. -/
structure Libtorrent.Lawful (lt : Libtorrent) : Prop where
  files : ∀ {files pieceSize flags built}, lt.createTorrent files pieceSize flags = .ok built →
    ((built.fileList.filter CtFileEntry.real).map CtFileEntry.path).Perm
      ((files.filter CtFileEntry.real).map CtFileEntry.path)
  pieceLength : ∀ {files pieceSize flags built},
    lt.createTorrent files pieceSize flags = .ok built → 0 < built.pieceLength
  v1Only : ∀ {files pieceSize flags built},
    lt.createTorrent files pieceSize flags = .ok built → built.v1Only = flags.v1Only
  /-- A torrent of version 1 only takes no v2 hashes; any other does, for a piece of a file. -/
  setHash2 : ∀ {built : Built} {file piece : Nat} {entry hash},
    built.fileList[file]? = some entry → entry.real = true →
      (piece : Int) < pieces entry.size built.pieceLength → allZeros hash = false →
        (lt.setHash2 built file piece hash = .ok () ↔ built.v1Only = false)

/-- The files by path, each followed by padding to the next piece. -/
def padded (length : Int) : List CtFileEntry → List CtFileEntry
  | [] => []
  | [last] => [last]
  | entry :: rest =>
    if entry.size % length = 0 then entry :: padded length rest
    else
      entry :: ⟨".pad".toList.map (·.toUInt8), length - entry.size % length,
        ⟨true, false, false, false⟩, 0, []⟩ :: padded length rest

def sorted : Libtorrent where
  maxFileSize := 2 ^ 48 - 1
  maxFileOffset := 2 ^ 48 - 1
  createTorrent files pieceSize flags :=
    let length := if pieceSize = 0 then 16384 else pieceSize
    .ok ⟨padded length ((files.filter CtFileEntry.real).insertionSort (·.path ≤ ·.path)), length,
      flags.v1Only⟩
  setHash2 built _ _ _ := if built.v1Only then .error "not a v2 torrent" else .ok ()

theorem filter_padded {length : Int} {entries : List CtFileEntry} :
    (padded length entries).filter CtFileEntry.real = entries.filter CtFileEntry.real := by
  fun_induction padded length entries with
  | case1 => rfl
  | case2 => rfl
  | case3 entry rest _ _ ih => rw [List.filter_cons, List.filter_cons, ih]
  | case4 entry rest _ _ ih =>
    rw [List.filter_cons, List.filter_cons_of_neg (by simp [CtFileEntry.real]), List.filter_cons,
      ih]

theorem sorted_lawful : sorted.Lawful where
  files {files _ _ _} made := by
    obtain rfl := Except.ok.inj made
    rw [filter_padded]
    have perm := List.perm_insertionSort (fun a b : CtFileEntry => a.path ≤ b.path)
      (files.filter CtFileEntry.real)
    have kept := (perm.filter CtFileEntry.real).map CtFileEntry.path
    simpa only [List.filter_filter, Bool.and_self] using kept
  pieceLength made := by
    obtain rfl := Except.ok.inj made
    simp only
    split <;> omega
  v1Only made := by
    obtain rfl := Except.ok.inj made
    rfl
  setHash2 {built _ _ _ _} _ _ _ _ := by
    cases kind : built.v1Only <;> simp [sorted, kind]

/-! ## The map by path -/

section ByPath

variable {display : Path → String} {known found : List (Path × Nat)} {entry : CtFileEntry}
  {entries : List CtFileEntry} {path : Path} {i c : Nat}

theorem byPath_ok (fresh : ∀ e ∈ entries, e.real = true → known.lookup e.path = none)
    (nodup : ((entries.filter CtFileEntry.real).map CtFileEntry.path).Nodup) :
    ∃ found, byPath display i known entries = .ok found := by
  induction entries generalizing i known with
  | nil => exact ⟨known, rfl⟩
  | cons e rest ih =>
    have later : ∀ g ∈ rest, g.real = true → known.lookup g.path = none := fun g member =>
      fresh g (List.mem_cons_of_mem e member)
    unfold byPath
    split
    case isTrue pad =>
      have skipped : e.real = false := by simp [CtFileEntry.real, pad]
      rw [List.filter_cons_of_neg (by simp [skipped])] at nodup
      exact ih later nodup
    case isFalse notPad =>
      have real : e.real = true := by simpa [CtFileEntry.real] using notPad
      rw [List.filter_cons_of_pos real, List.map_cons, List.nodup_cons] at nodup
      rw [fresh e List.mem_cons_self real, if_neg (by simp)]
      refine ih (fun g member here => ?_) nodup.2
      have other : g.path ≠ e.path := fun same =>
        nodup.1 (List.mem_map.mpr ⟨g, List.mem_filter.mpr ⟨member, here⟩, same⟩)
      rw [List.lookup_cons, beq_false_of_ne other]
      exact later g member here

/-- The map has the entries it started with and the files of the list. -/
theorem byPath_lookup (built : byPath display i known entries = .ok found) :
    found.lookup path = some c ↔ known.lookup path = some c ∨
      ∃ k entry, entries[k]? = some entry ∧ entry.real = true ∧ entry.path = path ∧ c = i + k := by
  induction entries generalizing i known with
  | nil =>
    obtain rfl := Except.ok.inj built
    simp
  | cons e rest ih =>
    -- An index into the rest is one less than the index into the list.
    have shift : ∀ known' : List (Path × Nat), (known'.lookup path = some c ∨
        ∃ k entry, rest[k]? = some entry ∧ entry.real = true ∧ entry.path = path ∧
          c = i + 1 + k) ↔
        known'.lookup path = some c ∨ ∃ k entry, (e :: rest)[k + 1]? = some entry ∧
          entry.real = true ∧ entry.path = path ∧ c = i + (k + 1) := by
      intro known'
      simp only [List.getElem?_cons_succ, Nat.add_assoc, Nat.add_comm 1]
    unfold byPath at built
    split at built
    case isTrue pad =>
      rw [ih built, shift]
      refine or_congr_right ⟨fun ⟨k, rest⟩ => ⟨k + 1, rest⟩, ?_⟩
      rintro ⟨k, entry, here, real, rest⟩
      cases k with
      | zero =>
        obtain rfl : e = entry := by simpa using here
        simp [CtFileEntry.real, pad] at real
      | succ k => exact ⟨k, entry, here, real, rest⟩
    case isFalse notPad =>
      split at built
      case isTrue => cases built
      case isFalse new =>
        have absent : known.lookup e.path = none := Option.not_isSome_iff_eq_none.mp new
        rw [ih built, shift, List.lookup_cons]
        by_cases same : path = e.path
        · subst same
          simp only [beq_self_eq_true, absent]
          constructor
          · rintro (here | ⟨k, rest⟩)
            · exact .inr ⟨0, e, rfl, by simpa [CtFileEntry.real] using notPad, rfl,
                (Option.some.inj here).symm⟩
            · exact .inr ⟨k + 1, rest⟩
          · rintro (old | ⟨k, entry, here, real, path, place⟩)
            · cases old
            · cases k with
              | zero => exact .inl (congrArg some place.symm)
              | succ k => exact .inr ⟨k, entry, here, real, path, place⟩
        · rw [beq_false_of_ne same]
          refine or_congr_right ⟨fun ⟨k, rest⟩ => ⟨k + 1, rest⟩, ?_⟩
          rintro ⟨k, entry, here, real, path, place⟩
          cases k with
          | zero =>
            obtain rfl : e = entry := by simpa using here
            exact absurd path.symm same
          | succ k => exact ⟨k, entry, here, real, path, place⟩

end ByPath

/-! ## The wrapper agrees -/

section Wrapper

variable {windows : Bool} {display : Path → String} {lt : Libtorrent} {files : List FileEntry}
  {pieceSize : Nat} {flags : CreateFlags} {ct : CtCreateTorrent} {e : String}

def exclusive : String := "create_torrent: v1_only and v2_only are mutually exclusive"

def tooLarge : String := "create_torrent: file sizes exceed libtorrent's supported total"

theorem ctTotalSize_of_sizes (lt : Libtorrent) (i : Nat) (total : Int)
    (sizes : ∀ f ∈ files, 0 ≤ f.size) :
    ctTotalSize lt i total (files.map FileEntry.ct) = .ok (total + totalSize files) ∨
      ctTotalSize lt i total (files.map FileEntry.ct) = .error tooLarge := by
  induction files generalizing i total with
  | nil => exact .inl (by simp [ctTotalSize, totalSize])
  | cons f rest ih =>
    have nonneg : ¬ f.ct.size < 0 := not_lt.mpr (sizes f List.mem_cons_self)
    rw [List.map_cons, ctTotalSize, if_neg nonneg]
    split
    case isTrue => exact .inr rfl
    case isFalse =>
      have rest := ih (i + 1) (total + f.size) fun g member =>
        sizes g (List.mem_cons_of_mem f member)
      rw [Int.add_assoc] at rest
      exact rest

/-- What the binding let through fails the wrapper's checks for two reasons only. -/
theorem ctCheck_error (accepted : validate windows display files pieceSize = .ok ())
    (failed : ctCheck lt (files.map FileEntry.ct) pieceSize flags = .error e) :
    e = exclusive ∨ e = tooLarge := by
  obtain ⟨formed, fits⟩ := layout_accepted_iff.mp accepted
  simp only [ctCheck, bind_eq_error, require_eq_error, require_eq_ok, exists_const] at failed
  rcases failed with ⟨tooBig, _⟩ | ⟨_, ⟨_, rfl⟩ | ⟨_, failed⟩⟩
  · refine absurd ?_ tooBig
    by_cases given : pieceSize = 0
    · omega
    · exact (fits given).2.1
  · exact .inl rfl
  · rcases ctTotalSize_of_sizes lt 0 0 formed.sizes with total | large
    · rw [total, Int.zero_add] at failed
      rcases failed with failed | ⟨_, same, many, _⟩
      · cases failed
      · obtain rfl := Except.ok.inj same
        refine absurd (fun given => ?_) many
        have count := (fits (by omega)).2.2.2
        rw [pieces_eq _ (by omega : (0 : Int) < pieceSize)] at count
        simp only [List.length_map]
        omega
    · rw [large] at failed
      rcases failed with same | ⟨_, same, _⟩
      · exact .inr (Except.error.inj same).symm
      · cases same

theorem real_paths : ((files.map FileEntry.ct).filter CtFileEntry.real).map CtFileEntry.path =
    (files.filter fun f => f.ct.real).map FileEntry.path := by
  rw [List.filter_map, List.map_map]
  rfl

theorem WellFormed.real_nodup (formed : WellFormed windows files) :
    (((files.map FileEntry.ct).filter CtFileEntry.real).map CtFileEntry.path).Nodup := by
  rw [real_paths]
  exact formed.paths.sublist ((List.filter_sublist).map _)

/-- The pieces of an accepted list fit, pad files and all, and below the binding only
libtorrent can still refuse it, for its limits or on its own account. -/
theorem accepted_layout_is_built (lawful : lt.Lawful)
    (accepted : validate windows display files pieceSize = .ok ()) :
    (pieceSize ≠ 0 → (files.map fun f => pieces f.size pieceSize).sum ≤ MAX_PIECE_COUNT) ∧
      ∀ e, new windows display lt files pieceSize flags = .error e →
        e = exclusive ∨ e = tooLarge ∨
          lt.createTorrent (files.map FileEntry.ct) pieceSize flags = .error e := by
  obtain ⟨formed, fits⟩ := layout_accepted_iff.mp accepted
  constructor
  · intro given
    have positive : (0 : Int) < pieceSize := by omega
    -- The check of the binding allows a piece for each file on top of the content.
    have padded := sum_pieces_le files positive
    have count := (fits given).2.2.2
    rw [pieces_eq _ positive] at count
    split at count <;> omega
  · intro e failed
    simp only [new, ctCreateTorrentNew, bind_eq_error, accepted, reduceCtorEq, false_or,
      true_and, exists_const, pure, Except.pure, and_false, or_false] at failed
    rcases failed with failed | ⟨_, _, failed | ⟨built, made, failed⟩⟩
    · exact (ctCheck_error accepted failed).imp_right .inl
    · exact .inr (.inr failed)
    · -- two real files of the builder never have one path
      have nodup := (lawful.files made).nodup_iff.mpr formed.real_nodup
      obtain ⟨known, found⟩ := @byPath_ok display [] built.fileList 0 (by simp) nodup
      rw [found] at failed
      cases failed

/-- Two files of three pieces together, in the other order. -/
def twoFiles : List FileEntry :=
  [⟨[114, 47, 98], 20000, ⟨false, false, false, false⟩, none, none⟩,
    ⟨[114, 47, 97], 1, ⟨false, false, false, false⟩, some 7, none⟩]

def noFlags : CreateFlags := ⟨false, false, false, false, false, false, true⟩

theorem accepted_layout_is_built_two :
    (twoFiles.map fun f => pieces f.size 16384).sum = 3 ∧ 3 ≤ (MAX_PIECE_COUNT : Int) := by
  have accepted : validate false (fun _ => "") twoFiles 16384 = .ok () := by decide +kernel
  have count : (twoFiles.map fun f => pieces f.size 16384).sum = 3 := by decide +kernel
  have fits := (@accepted_layout_is_built _ _ _ _ _ noFlags sorted_lawful accepted).1 (by decide)
  exact ⟨count, count ▸ fits⟩

end Wrapper

/-! ## Where the files are -/

/-- The builder's file of that path. -/
def Built.realEntry (built : Built) (path : Path) : Option CtFileEntry :=
  built.fileList.find? fun entry => entry.real && entry.path == path

/-- Each file of the caller is in the builder's list, and the map says where. -/
structure Located (files : List FileEntry) (ct : CtCreateTorrent) : Prop where
  length : ct.fileMap.length = files.length
  pad : ∀ (i : Nat) (f : FileEntry), files[i]? = some f → f.ct.real = false →
    ct.fileMap[i]? = some (-1)
  real : ∀ (i : Nat) (f : FileEntry), files[i]? = some f → f.ct.real = true →
    ∃ (c : Nat) (entry : CtFileEntry), ct.fileMap[i]? = some (c : Int) ∧
      ct.fileList[c]? = some entry ∧ ct.realEntry f.path = some entry

section Files

variable {windows : Bool} {display : Path → String} {lt : Libtorrent} {files : List FileEntry}
  {pieceSize : Nat} {flags : CreateFlags} {ct : CtCreateTorrent} {built : Built}

theorem realEntry_spec {entry : CtFileEntry} {path : Path}
    (found : built.realEntry path = some entry) : entry.real = true ∧ entry.path = path := by
  simpa using List.find?_some found

theorem realEntry_eq_some {entry : CtFileEntry} {path : Path}
    (nodup : ((built.fileList.filter CtFileEntry.real).map CtFileEntry.path).Nodup) :
    built.realEntry path = some entry ↔
      entry ∈ built.fileList ∧ entry.real = true ∧ entry.path = path := by
  constructor
  · intro found
    exact ⟨List.mem_of_find?_eq_some found, realEntry_spec found⟩
  · rintro ⟨member, real, rfl⟩
    cases found : built.realEntry entry.path with
    | none =>
      have none := List.find?_eq_none.mp found entry member
      simp [real] at none
    | some other =>
      have holds := realEntry_spec found
      have member' : other ∈ built.fileList := List.mem_of_find?_eq_some found
      exact congrArg some (List.inj_on_of_nodup_map nodup
        (List.mem_filter.mpr ⟨member', holds.1⟩) (List.mem_filter.mpr ⟨member, real⟩) holds.2)

theorem located_new (lawful : lt.Lawful)
    (made : new windows display lt files pieceSize flags = .ok ct) :
    WellFormed windows files ∧ 0 < ct.pieceLength ∧ ct.v1Only = flags.v1Only ∧
      ct.hashes = .empty ∧ Located files ct := by
  simp only [new, ctCreateTorrentNew, bind_eq_ok] at made
  obtain ⟨_, accepted, _, _, built, constructed, known, found, same⟩ := made
  obtain rfl := Except.ok.inj same
  obtain ⟨formed, _⟩ := layout_accepted_iff.mp accepted
  have paths := lawful.files constructed
  have nodup := paths.nodup_iff.mpr formed.real_nodup
  have lookup : ∀ path c, known.lookup path = some c ↔
      ∃ entry, built.fileList[c]? = some entry ∧ entry.real = true ∧ entry.path = path := by
    intro path c
    rw [byPath_lookup found]
    simp
  refine ⟨formed, lawful.pieceLength constructed, lawful.v1Only constructed, rfl, by simp,
    fun i f here pad => ?_, fun i f here real => ?_⟩
  · -- a pad file's path is no other file's
    have unknown : known.lookup f.path = none := by
      cases entry : known.lookup f.path with
      | none => rfl
      | some c =>
        obtain ⟨e, place, real, path⟩ := (lookup _ c).mp entry
        have known := paths.mem_iff.mp (List.mem_map.mpr
          ⟨e, List.mem_filter.mpr ⟨List.mem_of_getElem? place, real⟩, path⟩)
        rw [real_paths, List.mem_map] at known
        obtain ⟨g, member, same⟩ := known
        obtain ⟨member, genuine⟩ := List.mem_filter.mp member
        obtain rfl := List.inj_on_of_nodup_map formed.paths member (List.mem_of_getElem? here) same
        rw [pad] at genuine
        cases genuine
    simp [here, FileEntry.ct, unknown]
  · have member : f.path ∈ ((files.map FileEntry.ct).filter CtFileEntry.real).map
        CtFileEntry.path := by
      rw [real_paths]
      exact List.mem_map.mpr ⟨f, List.mem_filter.mpr ⟨List.mem_of_getElem? here, real⟩, rfl⟩
    obtain ⟨entry, member, path⟩ := List.mem_map.mp (paths.mem_iff.mpr member)
    obtain ⟨member, genuine⟩ := List.mem_filter.mp member
    obtain ⟨c, bound, place⟩ := List.getElem_of_mem member
    have place : built.fileList[c]? = some entry := by rw [List.getElem?_eq_getElem bound, place]
    have position := (lookup f.path c).mpr ⟨entry, place, genuine, path⟩
    exact ⟨c, entry, by simp [here, FileEntry.ct, position], place,
      (realEntry_eq_some nodup).mpr ⟨member, genuine, path⟩⟩

end Files

/-! ## Hashes -/

structure Call where
  fileIndex : UInt32
  piece : UInt32
  hash : Hash
deriving DecidableEq

/-- A call of `set_hash2`; one that fails leaves the handle as it is. -/
def CtCreateTorrent.apply (lt : Libtorrent) (ct : CtCreateTorrent) (call : Call) :
    CtCreateTorrent :=
  match setHash2 lt ct call.fileIndex call.piece call.hash with
  | .ok ct => ct
  | .error _ => ct

/-- The calls that name a piece of a file of the caller, in range of an `i32`; none if the
torrent is of version 1 only. -/
def accepts (files : List FileEntry) (built : Built) (call : Call) : Bool :=
  !built.v1Only && decide (call.fileIndex.toNat < 2 ^ 31) && decide (call.piece.toNat < 2 ^ 31) &&
    !allZeros call.hash &&
      match files[call.fileIndex.toNat]? with
      | none => false
      | some f =>
        f.ct.real && (built.realEntry f.path).any fun entry =>
          decide ((call.piece.toNat : Int) < pieces entry.size built.pieceLength)

/-- The same on a store that is keyed by the caller's indices. -/
def plainApply (files : List FileEntry) (built : Built) (store : Store (Nat × Nat) Hash)
    (call : Call) : Store (Nat × Nat) Hash :=
  if accepts files built call then
    store.set (call.fileIndex.toNat, call.piece.toNat) call.hash
  else store

section Hashes

variable {windows : Bool} {display : Path → String} {lt : Libtorrent} {files : List FileEntry}
  {pieceSize : Nat} {flags : CreateFlags} {ct ct' : CtCreateTorrent} {call : Call}
  {store : Store (Nat × Nat) Hash}

theorem toInt_toInt32 (n : UInt32) :
    n.toInt32.toInt = if n.toNat < 2 ^ 31 then (n.toNat : Int) else n.toNat - 2 ^ 32 := by
  rw [Int32.toInt, UInt32.toBitVec_toInt32, BitVec.toInt_eq_toNat_cond, UInt32.toNat_toBitVec]
  split <;> split <;> omega

theorem setHash2_accepted (lawful : lt.Lawful) (located : Located files ct)
    (accepted : accepts files ct.toBuilt call = true) :
    ∃ (c : Nat), ct.fileMap[call.fileIndex.toNat]? = some (c : Int) ∧
      setHash2 lt ct call.fileIndex call.piece call.hash =
        .ok { ct with hashes := ct.hashes.set (c, call.piece.toNat) call.hash } := by
  unfold accepts at accepted
  split at accepted
  case h_1 => simp at accepted
  case h_2 f here =>
    simp only [Bool.and_eq_true, decide_eq_true_eq, Bool.not_eq_true'] at accepted
    obtain ⟨⟨⟨⟨kind, index⟩, small⟩, hash⟩, real, inside⟩ := accepted
    obtain ⟨c, entry, place, listed, found⟩ := located.real _ f here real
    rw [found, Option.any_some, decide_eq_true_eq] at inside
    have stored := (lawful.setHash2 listed (realEntry_spec found).1 inside hash).mpr kind
    have bound : call.fileIndex.toNat < files.length := (List.getElem?_eq_some_iff.mp here).1
    refine ⟨c, place, ?_⟩
    rw [setHash2, toInt_toInt32, toInt_toInt32, if_pos index, if_pos small, ctSetHash2,
      located.length, if_neg (by omega)]
    simp only [Int.toNat_natCast, List.getD_eq_getElem?_getD, place, Option.getD_some, listed,
      Option.map_some]
    rw [if_neg (by omega), if_neg, if_neg (by simp [hash]), stored]
    · rfl
    · simp only [pieces] at inside
      omega

theorem setHash2_refused (lawful : lt.Lawful) (located : Located files ct)
    (refused : accepts files ct.toBuilt call = false) :
    ∃ e, setHash2 lt ct call.fileIndex call.piece call.hash = .error e := by
  rw [setHash2, toInt_toInt32, toInt_toInt32, ctSetHash2, located.length]
  have fits := call.fileIndex.toNat_lt
  -- an index past the `i32` range arrives negative
  by_cases index : call.fileIndex.toNat < 2 ^ 31
  case neg => exact ⟨_, if_pos (.inl (by rw [if_neg index]; omega))⟩
  rw [if_pos index]
  by_cases bound : call.fileIndex.toNat < files.length
  case neg => exact ⟨_, if_pos (.inr (by omega))⟩
  rw [if_neg (by omega)]
  have here := List.getElem?_eq_getElem bound
  simp only [Int.toNat_natCast, List.getD_eq_getElem?_getD]
  cases real : files[call.fileIndex.toNat].ct.real with
  | false =>
    rw [located.pad _ _ here real]
    exact ⟨_, if_pos (by decide)⟩
  | true =>
    obtain ⟨c, entry, place, listed, found⟩ := located.real _ _ here real
    simp only [place, Option.getD_some, Int.toNat_natCast, listed, Option.map_some]
    rw [if_neg (by omega)]
    have fits := call.piece.toNat_lt
    by_cases small : call.piece.toNat < 2 ^ 31
    case neg => exact ⟨_, if_pos (.inl (by rw [if_neg small]; omega))⟩
    rw [if_pos small]
    split
    case isTrue => exact ⟨_, rfl⟩
    case isFalse inside =>
      split
      case isTrue => exact ⟨_, rfl⟩
      case isFalse hash =>
        have inside : (call.piece.toNat : Int) < pieces entry.size ct.pieceLength := by
          simp only [pieces]
          omega
        have kind : ct.v1Only ≠ false := by
          rintro kind
          simp only [accepts, kind, index, small, hash, here, real, found, inside, decide_true,
            Bool.true_and, Option.any_some, Bool.not_false] at refused
          cases refused
        rw [Int.toNat_natCast]
        cases stored : lt.setHash2 ct.toBuilt c call.piece.toNat call.hash with
        | error e => exact ⟨e, rfl⟩
        | ok =>
          -- the binding has passed the call on, and only a v1-only torrent refuses it then
          have taken := lawful.setHash2 listed (realEntry_spec found).1 inside
            (by simpa using hash)
          exact absurd (taken.mp stored) kind

/-- The builder after some calls, and the plain store after the same ones. -/
structure Mirrors (files : List FileEntry) (ct ct' : CtCreateTorrent)
    (store : Store (Nat × Nat) Hash) : Prop where
  built : ct'.toBuilt = ct.toBuilt
  fileMap : ct'.fileMap = ct.fileMap
  hashes : ∀ (i c : Nat) (f : FileEntry), files[i]? = some f → f.ct.real = true →
    ct.fileMap[i]? = some (c : Int) → ∀ p, ct'.hashes (c, p) = store (i, p)

theorem Mirrors.located (mirrors : Mirrors files ct ct' store) (located : Located files ct) :
    Located files ct' := by
  obtain ⟨built, fileMap, _⟩ := mirrors
  refine ⟨by rw [fileMap]; exact located.length, fun i f here pad => ?_, fun i f here real => ?_⟩
  · rw [fileMap]
    exact located.pad i f here pad
  · obtain ⟨c, entry, place, listed, found⟩ := located.real i f here real
    exact ⟨c, entry, by rwa [fileMap], by rwa [built], by rwa [built]⟩

/-- Two files of the caller are two files of the builder. -/
theorem Located.injective (located : Located files ct) (formed : WellFormed windows files)
    {i j c : Nat} {f g : FileEntry} (first : files[i]? = some f) (second : files[j]? = some g)
    (real : f.ct.real = true) (real' : g.ct.real = true)
    (here : ct.fileMap[i]? = some (c : Int)) (there : ct.fileMap[j]? = some (c : Int)) :
    i = j := by
  obtain ⟨c₁, entry₁, place₁, listed₁, found₁⟩ := located.real i f first real
  obtain ⟨c₂, entry₂, place₂, listed₂, found₂⟩ := located.real j g second real'
  have same₁ : c₁ = c := Int.ofNat.inj (Option.some.inj (place₁.symm.trans here))
  have same₂ : c₂ = c := Int.ofNat.inj (Option.some.inj (place₂.symm.trans there))
  have same : entry₁ = entry₂ := by
    rw [same₁] at listed₁
    rw [same₂] at listed₂
    exact Option.some.inj (listed₁.symm.trans listed₂)
  have paths : f.path = g.path := by
    rw [← (realEntry_spec found₁).2, ← (realEntry_spec found₂).2, same]
  have inside : i < (files.map FileEntry.path).length := by
    simpa using (List.getElem?_eq_some_iff.mp first).1
  exact (List.getElem?_inj inside formed.paths).mp (by simp [first, second, paths])

theorem Mirrors.apply (lawful : lt.Lawful) (mirrors : Mirrors files ct ct' store)
    (located : Located files ct) (formed : WellFormed windows files) (call : Call) :
    Mirrors files ct (ct'.apply lt call) (plainApply files ct.toBuilt store call) := by
  unfold CtCreateTorrent.apply plainApply
  cases accepted : accepts files ct.toBuilt call with
  | false =>
    obtain ⟨e, failed⟩ := setHash2_refused lawful (mirrors.located located)
      (mirrors.built ▸ accepted)
    rw [failed, if_neg (by simp)]
    exact mirrors
  | true =>
    obtain ⟨c, place, set⟩ := setHash2_accepted lawful (mirrors.located located)
      (mirrors.built ▸ accepted)
    rw [set, if_pos rfl]
    refine ⟨mirrors.built, mirrors.fileMap, fun i d f here real there p => ?_⟩
    rw [mirrors.fileMap] at place
    have named : ∃ g, files[call.fileIndex.toNat]? = some g ∧ g.ct.real = true := by
      unfold accepts at accepted
      split at accepted
      case h_1 => simp at accepted
      case h_2 g here =>
        simp only [Bool.and_eq_true] at accepted
        exact ⟨g, here, accepted.2.1⟩
    obtain ⟨g, listed, genuine⟩ := named
    have kept := mirrors.hashes i d f here real there p
    by_cases same : (i, p) = (call.fileIndex.toNat, call.piece.toNat)
    · obtain ⟨rfl, rfl⟩ := Prod.mk.inj same
      obtain rfl : c = d := Int.ofNat.inj (Option.some.inj (place.symm.trans there))
      simp only [Store.set_self]
    · -- the slot of another file, or another piece of this one
      have other : (d, p) ≠ (c, call.piece.toNat) := by
        rintro equal
        obtain ⟨rfl, rfl⟩ := Prod.mk.inj equal
        exact same (Prod.mk.injEq .. ▸
          ⟨located.injective formed here listed real genuine there place, rfl⟩)
      simp only [Store.set_other other, Store.set_other same]
      exact kept

/-- The hashes in the builder are, file by file, those of a plain store under the
caller's indices after the same calls; a call is refused when it names no piece, or when the
torrent is of version 1 only. -/
theorem set_hash2_refines (lawful : lt.Lawful)
    (made : new windows display lt files pieceSize flags = .ok ct) (calls : List Call) :
    (∀ i f, files[i]? = some f → f.flags.padFile = false →
      ∃ (c : Nat) (entry : CtFileEntry), ct.fileList[c]? = some entry ∧ entry.path = f.path ∧
        entry.flags.padFile = false ∧
        ∀ p, (calls.foldl (CtCreateTorrent.apply lt) ct).hashes (c, p) =
          calls.foldl (plainApply files ct.toBuilt) .empty (i, p)) ∧
      ct.v1Only = flags.v1Only ∧
      ∀ call : Call, (∃ ct', setHash2 lt (calls.foldl (CtCreateTorrent.apply lt) ct)
        call.fileIndex call.piece call.hash = .ok ct') ↔ accepts files ct.toBuilt call = true := by
  obtain ⟨formed, _, kind, fresh, located⟩ := located_new lawful made
  have mirrors : Mirrors files ct (calls.foldl (CtCreateTorrent.apply lt) ct)
      (calls.foldl (plainApply files ct.toBuilt) .empty) := by
    have start : Mirrors files ct ct .empty := ⟨rfl, rfl, fun _ _ _ _ _ _ _ => by rw [fresh]; rfl⟩
    -- over the calls, from any handle and store that mirror each other
    have grown : ∀ ct' store, Mirrors files ct ct' store →
        Mirrors files ct (calls.foldl (CtCreateTorrent.apply lt) ct')
          (calls.foldl (plainApply files ct.toBuilt) store) := by
      induction calls with
      | nil => exact fun _ _ mirrors => mirrors
      | cons call rest ih =>
        exact fun _ _ mirrors => ih _ _ (mirrors.apply lawful located formed call)
    exact grown ct .empty start
  refine ⟨?_, kind, ?_⟩
  · intro i f here file
    have real : f.ct.real = true := by simp [CtFileEntry.real, FileEntry.ct, file]
    obtain ⟨c, entry, place, listed, found⟩ := located.real i f here real
    obtain ⟨genuine, path⟩ := realEntry_spec found
    have plain : entry.flags.padFile = false := by simpa [CtFileEntry.real] using genuine
    exact ⟨c, entry, listed, path, plain, mirrors.hashes i c f here real place⟩
  · intro call
    have located' := mirrors.located located
    cases accepted : accepts files ct.toBuilt call with
    | false =>
      obtain ⟨e, failed⟩ := setHash2_refused lawful located' (mirrors.built ▸ accepted)
      rw [failed]
      simp
    | true =>
      obtain ⟨c, _, set⟩ := setHash2_accepted lawful located' (mirrors.built ▸ accepted)
      exact ⟨fun _ => rfl, fun _ => ⟨_, set⟩⟩

def twoHashes : List Call := [⟨0, 1, [7]⟩, ⟨1, 0, [8]⟩, ⟨0, 2, [9]⟩]

/-- The builder has the caller's first file last, and the third call names a piece that it does not
have. -/
theorem set_hash2_refines_two : ∃ (ct : CtCreateTorrent) (c : Nat),
    ct.fileList[c]?.map CtFileEntry.path = some [114, 47, 98] ∧
      (∀ p, (twoHashes.foldl (CtCreateTorrent.apply sorted) ct).hashes (c, p) =
        twoHashes.foldl (plainApply twoFiles ct.toBuilt) .empty (0, p)) ∧
      ¬ ∃ ct', setHash2 sorted (twoHashes.foldl (CtCreateTorrent.apply sorted) ct) 0 2 [9] =
        .ok ct' := by
  have refused : (new false (fun _ => "") sorted twoFiles 16384 noFlags).toOption.map
      (fun ct => accepts twoFiles ct.toBuilt ⟨0, 2, [9]⟩) = some false := by
    decide +kernel
  cases made : new false (fun _ => "") sorted twoFiles 16384 noFlags with
  | error e =>
    rw [made] at refused
    cases refused
  | ok ct =>
    rw [made] at refused
    have refused : accepts twoFiles ct.toBuilt ⟨0, 2, [9]⟩ = false := Option.some.inj refused
    obtain ⟨hashes, -, taken⟩ := set_hash2_refines sorted_lawful made twoHashes
    obtain ⟨c, entry, listed, path, _, hashes⟩ := hashes 0 _ rfl rfl
    refine ⟨ct, c, by rw [listed, Option.map_some, path], hashes, fun stored => ?_⟩
    rw [(taken ⟨0, 2, [9]⟩).mp stored] at refused
    cases refused

end Hashes

end Rsbtd.CreateTorrent
