import Mathlib.Algebra.Ring.Int.Defs
import Mathlib.Algebra.Ring.Nat
import Rsbtd.Checks.Basic
import Rsbtd.Keyed.Store

/-!
# Creating a torrent

`CreateTorrent::new` and `set_hash2`, and `ct_create_torrent_new` and
`ct_create_torrent_set_hash2` below them.  libtorrent's builder sorts the files
and puts pad files between them, so the handle has a map from the caller's file
indices to the builder's.  The builder itself is a parameter.

A path is its bytes.  `display` is the text an error shows for one.
-/

namespace Rsbtd.CreateTorrent

open Checks (require)
open Keyed (Store)

abbrev Path := List UInt8

def slash : UInt8 := 47
def backslash : UInt8 := 92
def dot : UInt8 := 46

/-- `split_path`; `windows` is the target the crate is built for. -/
def splitPath (windows : Bool) (path : Path) : List Path :=
  path.splitOnP fun b => b == slash || (windows && b == backslash)

structure FileFlags where
  padFile : Bool
  hidden : Bool
  executable : Bool
  symlink : Bool
deriving DecidableEq, Repr

structure FileEntry where
  path : Path
  size : Int
  flags : FileFlags
  mtime : Option Int
  symlinkTarget : Option Path
deriving DecidableEq, Repr

structure CreateFlags where
  modificationTime : Bool
  symlinks : Bool
  v2Only : Bool
  v1Only : Bool
  canonicalFiles : Bool
  noAttributes : Bool
  canonicalFilesNoTailPadding : Bool
deriving DecidableEq, Repr

/-- `ct_create_file_entry` and `lt::create_file_entry`. -/
structure CtFileEntry where
  path : Path
  size : Int
  flags : FileFlags
  mtime : Int
  symlink : Path
deriving DecidableEq, Repr

abbrev Hash := List UInt8

/-- What the wrapper needs of libtorrent's builder. -/
structure Built where
  /-- `file_list()`. -/
  fileList : List CtFileEntry
  pieceLength : Int
  v1Only : Bool
deriving DecidableEq, Repr

structure Libtorrent where
  maxFileSize : Int
  maxFileOffset : Int
  createTorrent : List CtFileEntry → Nat → CreateFlags → Except String Built
  /-- The builder's own `set_hash2`, which throws or stores the hash. -/
  setHash2 : Built → (file piece : Nat) → Hash → Except String Unit

/-- The handle, with what the builder's own `set_hash2` has stored. -/
structure CtCreateTorrent extends Built where
  fileMap : List Int
  hashes : Store (Nat × Nat) Hash

def MAX_PIECE_SIZE : Nat := 128 * 1024 * 1024

/-- `lt::file_storage::max_num_pieces` too. -/
def MAX_PIECE_COUNT : Nat := 2 ^ 30 - 1

def i64Min : Int := -2 ^ 63
def i64Max : Int := 2 ^ 63 - 1

def saturatingSub (a b : Int) : Int := max i64Min (min i64Max (a - b))

/-! ## The wrapper -/

section Wrapper

variable (display : Path → String) (lt : Libtorrent)

/-- The loop over the entries, from entry `i` on. -/
def ctTotalSize (i : Nat) (total : Int) : List CtFileEntry → Except String Int
  | [] => .ok total
  | f :: rest =>
    if f.size < 0 then
      .error ("create_torrent: file entry " ++ toString i ++ " has a negative size")
    else if lt.maxFileSize < f.size ∨ lt.maxFileOffset - f.size < total then
      .error "create_torrent: file sizes exceed libtorrent's supported total"
    else ctTotalSize (i + 1) (total + f.size) rest

def ctCheck (files : List CtFileEntry) (pieceSize : Nat) (flags : CreateFlags) :
    Except String Unit := do
  require (pieceSize ≤ 128 * 1024 * 1024) ("create_torrent: piece_size " ++ toString pieceSize ++
    " out of range (0 = auto, max 128 MiB)")
  require (¬ (flags.v1Only ∧ flags.v2Only))
    "create_torrent: v1_only and v2_only are mutually exclusive"
  let total ← ctTotalSize lt 0 0 files
  let last : Int := if total % pieceSize ≠ 0 then 1 else 0
  let budget : Int := MAX_PIECE_COUNT - last - files.length
  require (0 < pieceSize → total / pieceSize ≤ budget)
    "create_torrent: total size / piece_size exceeds the maximum piece count"

/-- Where each file that is not a pad file is in the builder's list, from index `i` on. -/
def byPath (i : Nat) (known : List (Path × Nat)) :
    List CtFileEntry → Except String (List (Path × Nat))
  | [] => .ok known
  | entry :: rest =>
    if entry.flags.padFile then byPath (i + 1) known rest
    else if (known.lookup entry.path).isSome then
      .error ("create_torrent: duplicate path " ++ display entry.path)
    else byPath (i + 1) ((entry.path, i) :: known) rest

/-- `ct_create_torrent_new`. -/
def ctCreateTorrentNew (files : List CtFileEntry) (pieceSize : Nat) (flags : CreateFlags) :
    Except String CtCreateTorrent := do
  ctCheck lt files pieceSize flags
  let built ← lt.createTorrent files pieceSize flags
  let known ← byPath display 0 [] built.fileList
  return {
    toBuilt := built
    -- a pad file of the caller is not in the builder's list
    fileMap := files.map fun f => ((known.lookup f.path).map Int.ofNat).getD (-1)
    hashes := .empty }

def allZeros (hash : Hash) : Bool := hash.all (· == 0)

/-- `ct_create_torrent_set_hash2`. -/
def ctSetHash2 (lt : Libtorrent) (ct : CtCreateTorrent) (fileIndex piece : Int) (hash : Hash) :
    Except String CtCreateTorrent :=
  if fileIndex < 0 ∨ (ct.fileMap.length : Int) ≤ fileIndex then
    .error ("set_hash2: file index " ++ toString fileIndex ++ " out of range (num_files = " ++
      toString ct.fileMap.length ++ ")")
  else
    let canonIndex := ct.fileMap.getD fileIndex.toNat (-1)
    if canonIndex < 0 then
      .error ("set_hash2: file index " ++ toString fileIndex ++ " is a pad file")
    else
      let size := (ct.fileList[canonIndex.toNat]?.map CtFileEntry.size).getD 0
      let filePieces := (size + ct.pieceLength - 1) / ct.pieceLength
      if piece < 0 ∨ filePieces ≤ piece then
        .error ("set_hash2: piece " ++ toString piece ++ " out of range for file " ++
          toString fileIndex ++ " (file pieces = " ++ toString filePieces ++ ")")
      else if allZeros hash then
        .error "set_hash2: an all-zero hash is not a valid piece hash"
      else
        (lt.setHash2 ct.toBuilt canonIndex.toNat piece.toNat hash).map fun _ =>
          { ct with hashes := ct.hashes.set (canonIndex.toNat, piece.toNat) hash }

end Wrapper

/-! ## The binding -/

section Binding

variable (windows : Bool) (display : Path → String) (lt : Libtorrent)

def checkPieceSize (pieceSize : Nat) : Except String Unit := do
  require (pieceSize ≠ 0 → pieceSize ≤ MAX_PIECE_SIZE) "piece_size exceeds 128 MiB maximum"
  require (pieceSize ≠ 0 → 16 * 1024 ≤ pieceSize) "piece_size is below the 16 KiB minimum"
  require (pieceSize ≠ 0 → 2 ^ pieceSize.log2 = pieceSize) "piece_size must be a power of two"

/-- The variables of the loop over the entries. -/
structure Scan where
  totalSize : Int
  seenPaths : List Path
  commonRoot : Option Path
deriving DecidableEq, Repr

/-- The layout of a multi-file torrent. -/
def Scan.inRoot (scan : Scan) (path : Path) (components : List Path) :
    Except String (Option Path) :=
  match components with
  | root :: _ :: _ =>
    match scan.commonRoot with
    | none => .ok (some root)
    | some expected =>
      if expected ≠ root then
        .error ("path " ++ display path ++ " is outside the root directory " ++
          display expected ++ ": all files of a multi-file torrent share one root")
      else .ok (some expected)
  | _ =>
    .error ("path " ++ display path ++
      " must be inside the torrent's root directory (multi-file layout)")

def Scan.nextRoot (many : Bool) (scan : Scan) (path : Path) (components : List Path) :
    Except String (Option Path) :=
  if many then scan.inRoot display path components else .ok scan.commonRoot

def plain (component : Path) : Bool :=
  !(component == [] || component == [dot] || component == [dot, dot])

/-- One round of the loop; `many` is whether there is more than one entry. -/
def Scan.entry (many : Bool) (scan : Scan) (f : FileEntry) : Except String Scan := do
  require (0 ≤ f.size) "file entry has a negative size"
  require (scan.totalSize + f.size ≤ i64Max) "total file size overflows"
  require (f.path ≠ []) "file entry has an empty path"
  require (f.path ∉ scan.seenPaths) ("duplicate path " ++ display f.path)
  let components := splitPath windows f.path
  require (components.all plain)
    ("path " ++ display f.path ++ " has an empty, `.`, or `..` component")
  let commonRoot ← scan.nextRoot display many f.path components
  return ⟨scan.totalSize + f.size, f.path :: scan.seenPaths, commonRoot⟩

def checkPieceCount (pieceSize files : Nat) (totalSize : Int) : Except String Unit :=
  let last : Int := if totalSize % pieceSize ≠ 0 then 1 else 0
  let budget := saturatingSub (saturatingSub MAX_PIECE_COUNT last) (min files i64Max)
  require (pieceSize ≠ 0 → totalSize / pieceSize ≤ budget)
    "total size / piece_size exceeds the maximum piece count"

/-- What `new` checks before it calls the wrapper. -/
def validate (files : List FileEntry) (pieceSize : Nat) : Except String Unit := do
  checkPieceSize pieceSize
  let scan ← files.foldlM (Scan.entry windows display (decide (1 < files.length))) ⟨0, [], none⟩
  checkPieceCount pieceSize files.length scan.totalSize

def FileEntry.ct (f : FileEntry) : CtFileEntry where
  path := f.path
  size := f.size
  flags := f.flags
  mtime := f.mtime.getD 0
  symlink := f.symlinkTarget.getD []

/-- `CreateTorrent::new`. -/
def new (files : List FileEntry) (pieceSize : Nat) (flags : CreateFlags) :
    Except String CtCreateTorrent := do
  validate windows display files pieceSize
  ctCreateTorrentNew display lt (files.map FileEntry.ct) pieceSize flags

/-- `set_hash2`; the indices are cast to `i32`. -/
def setHash2 (ct : CtCreateTorrent) (fileIndex piece : UInt32) (hash : Hash) :
    Except String CtCreateTorrent :=
  ctSetHash2 lt ct fileIndex.toInt32.toInt piece.toInt32.toInt hash

end Binding

end Rsbtd.CreateTorrent
