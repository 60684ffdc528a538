import Rsbtd.WebUi.FilePriorities
import Rsbtd.WebUi.JsString

/-!
# The tree of files

`fileTree.ts`: the paths of the files to a tree, and the tree flattened to rows with the
collapsed directories skipped.
-/

namespace Rsbtd.WebUi

/-- A file with what the tree reads of it; sizes are exact. -/
structure TreeFile extends TorrentFile where
  path : JsString
  size : Int
  progressBytes : Int
deriving DecidableEq, Repr

structure FileTreeRow where
  /-- Unique path-based id. -/
  id : JsString
  depth : Nat
  name : JsString
  isDir : Bool
  /-- Leaf file, absent for directories. -/
  file : Option TreeFile
  size : Int
  progressBytes : Int
  /-- Uniform priority of descendants, or null when mixed. -/
  priority : Option Int
  fileIndexes : List Nat
deriving DecidableEq, Repr

/-- `dirs` is keyed by the names, in the order they were first set. -/
inductive DirNode where
  | mk (name path : JsString) (dirs : List DirNode) (files : List TreeFile)

namespace DirNode

def name : DirNode → JsString
  | mk name _ _ _ => name

def path : DirNode → JsString
  | mk _ path _ _ => path

end DirNode

/-! ### Paths to tree -/

def isSeparator (u : CodeUnit) : Bool := u == unit '\\' || u == unit '/'

def pathParts (path : JsString) : List JsString :=
  (path.splitOnP isSeparator).filter fun part => part ≠ []

def childPath (path part : JsString) : JsString :=
  if path = [] then part else path ++ unit '/' :: part

/-- Walks down the parts, making the directories that are missing. -/
def DirNode.insert (file : TreeFile) : List JsString → DirNode → DirNode
  | [], .mk name path dirs files => .mk name path dirs (files ++ [file])
  | part :: rest, .mk name path dirs files =>
    if dirs.any fun child => child.name = part then
      .mk name path
        (dirs.map fun child => if child.name = part then child.insert file rest else child) files
    else
      -- a directory that is new goes behind the others
      .mk name path (dirs ++ [(mk part (childPath path part) [] []).insert file rest]) files

/-- The directories above a file. -/
def TreeFile.dirParts (file : TreeFile) : List JsString := (pathParts file.path).dropLast

def buildTree (files : List TreeFile) (showPadFiles : Bool) : DirNode :=
  files.foldl (fun root file =>
    if !showPadFiles && file.isPadFile then root else root.insert file file.dirParts)
    (.mk [] [] [] [])

/-! ### Tree to rows -/

@[ext]
structure Aggregate where
  size : Int
  progressBytes : Int
  priority : Option Int
  fileIndexes : List Nat
  any : Bool
deriving DecidableEq, Repr

namespace Aggregate

def empty : Aggregate := ⟨0, 0, none, [], false⟩

def merge (agg : Aggregate) (size progress priority : Int) (indexes : List Nat) : Aggregate where
  size := agg.size + size
  progressBytes := agg.progressBytes + progress
  priority :=
    if agg.any then if agg.priority = some priority then some priority else none
    else some priority
  fileIndexes := agg.fileIndexes ++ indexes
  any := true

/-- Merges a directory that holds any file; a mixed one makes the aggregate mixed. -/
def mergeDir (agg sub : Aggregate) : Aggregate :=
  if sub.any then
    -- a mixed directory has no priority to compare; -1 stands in for it
    let merged :=
      agg.merge sub.size sub.progressBytes (sub.priority.getD (-1)) sub.fileIndexes
    if sub.priority = none then { merged with priority := none } else merged
  else agg

end Aggregate

/-- A directory's row before its children are visited. -/
def placeholderRow (depth : Nat) (dir : DirNode) : FileTreeRow :=
  ⟨dir.path, depth, dir.name, true, none, 0, 0, none, []⟩

def FileTreeRow.fill (row : FileTreeRow) (sub : Aggregate) : FileTreeRow :=
  { row with
    size := sub.size
    progressBytes := sub.progressBytes
    priority := sub.priority
    fileIndexes := sub.fileIndexes }

def fileId (index : Nat) : JsString := js "f:" ++ (Nat.toDigits 10 index).map unit

def fileRow (depth : Nat) (file : TreeFile) : FileTreeRow where
  id := fileId file.index
  depth := depth
  name := (file.path.splitOnP isSeparator).getLast?.getD file.path
  isDir := false
  file := some file
  size := file.size
  progressBytes := file.progressBytes
  priority := some file.priority
  fileIndexes := [file.index]

/-- The body of the loop over the files of a directory. -/
def visitFile (depth : Nat) (hidden : Bool) (s : Aggregate × List FileTreeRow)
    (file : TreeFile) : Aggregate × List FileTreeRow :=
  (s.1.merge file.size file.progressBytes file.priority [file.index],
    if hidden then s.2 else s.2 ++ [fileRow depth file])

section

variable (collapsed : JsString → Bool)

mutual

/-- The aggregate of a directory, and the rows with those of its content added. -/
def visit (depth : Nat) (hidden : Bool) (rows : List FileTreeRow) :
    DirNode → Aggregate × List FileTreeRow
  | .mk _ _ dirs files =>
    files.foldl (visitFile depth hidden) (visitDirs depth hidden (.empty, rows) dirs)
termination_by structural node => node

def visitDirs (depth : Nat) (hidden : Bool) (s : Aggregate × List FileTreeRow) :
    List DirNode → Aggregate × List FileTreeRow
  | [] => s
  | dir :: rest =>
    -- the row stands before its content and is filled in after it
    let rowIndex := s.2.length
    let rows := if hidden then s.2 else s.2 ++ [placeholderRow depth dir]
    let sub := visit (depth + 1) (hidden || collapsed dir.path) rows dir
    let rows := if hidden then sub.2 else sub.2.modify rowIndex fun row => row.fill sub.1
    visitDirs depth hidden (s.1.mergeDir sub.1, rows) rest
termination_by structural dirs => dirs

end

end

def buildFileTree (files : List TreeFile) (showPadFiles : Bool) (collapsed : JsString → Bool) :
    List FileTreeRow :=
  (visit collapsed 0 false [] (buildTree files showPadFiles)).2

end Rsbtd.WebUi
