import Mathlib.Data.List.Infix
import Rsbtd.Sequence.Partition
import Rsbtd.WebUi.FileTree

/-!
# Trees of files

A node at some directories holds the files below these directories and no others, and so do
its children.  What is visited is described twice: the rows that are shown with directories
collapsed, and the aggregate of the files below a node.
-/

namespace Rsbtd.WebUi

variable {path part : JsString} {parts p q : List JsString} {file : TreeFile}

/-! ## Paths -/

/-- A part of a path. -/
structure PathPart (part : JsString) : Prop where
  nonempty : part ≠ []
  whole : ∀ u ∈ part, isSeparator u = false

def joinPath (parts : List JsString) : JsString := parts.foldl childPath []

theorem joinPath_append_singleton (parts : List JsString) (part : JsString) :
    joinPath (parts ++ [part]) = childPath (joinPath parts) part :=
  List.foldl_append

theorem whole_of_mem_splitOnP (mem : part ∈ path.splitOnP isSeparator) :
    ∀ u ∈ part, isSeparator u = false := by
  induction path generalizing part with
  | nil =>
    rw [List.splitOnP_nil, List.mem_singleton] at mem
    rw [mem]
    exact fun u inside => absurd inside List.not_mem_nil
  | cons v path ih =>
    rw [List.splitOnP_cons_eq_if_modifyHead] at mem
    split at mem
    case isTrue =>
      obtain rfl | later := List.mem_cons.mp mem
      · exact fun u inside => absurd inside List.not_mem_nil
      · exact ih later
    case isFalse other =>
      cases pieces : path.splitOnP isSeparator with
      | nil => exact absurd pieces (List.splitOnP_ne_nil _ _)
      | cons first rest =>
        rw [pieces, List.modifyHead_cons] at mem
        rw [pieces] at ih
        obtain rfl | later := List.mem_cons.mp mem
        · rintro u inside
          obtain rfl | after := List.mem_cons.mp inside
          · exact Bool.eq_false_iff.mpr other
          · exact ih List.mem_cons_self u after
        · exact ih (List.mem_cons_of_mem _ later)

theorem part_of_mem_pathParts (mem : part ∈ pathParts path) : PathPart part := by
  obtain ⟨piece, nonempty⟩ := List.mem_filter.mp mem
  exact ⟨of_decide_eq_true nonempty, whole_of_mem_splitOnP piece⟩

theorem pathParts_of_part (one : PathPart part) : pathParts part = [part] := by
  rw [pathParts, List.splitOnP_eq_singleton one.whole, List.filter_singleton,
    decide_eq_true one.nonempty]
  rfl

theorem pathParts_childPath (one : PathPart part) :
    pathParts (childPath path part) = pathParts path ++ [part] := by
  rw [childPath]
  split
  case isTrue root =>
    rw [root, pathParts_of_part one]
    rfl
  case isFalse =>
    rw [pathParts, List.splitOnP_append_cons _ _ (by decide), List.filter_append]
    exact congrArg (pathParts path ++ ·) (pathParts_of_part one)

theorem pathParts_joinPath (all : ∀ part ∈ parts, PathPart part) :
    pathParts (joinPath parts) = parts := by
  induction parts using List.reverseRecOn with
  | nil => rfl
  | append_singleton parts part ih =>
    rw [joinPath_append_singleton, pathParts_childPath (all part (by simp)),
      ih fun other mem => all other (List.mem_append_left _ mem)]

namespace TreeFile

theorem part_of_mem_dirParts (mem : part ∈ file.dirParts) : PathPart part :=
  part_of_mem_pathParts (List.dropLast_subset _ mem)

/-- The parts of a directory above a file. -/
theorem part_of_prefix (above : p <+: file.dirParts) (mem : part ∈ p) : PathPart part :=
  part_of_mem_dirParts (above.subset mem)

end TreeFile

/-! ## Nodes -/

/-- The files below some directories. -/
def filesIn (p : List JsString) (files : List TreeFile) : List TreeFile :=
  files.filter fun file => p.isPrefixOf file.dirParts

theorem mem_filesIn {files : List TreeFile} :
    file ∈ filesIn p files ↔ file ∈ files ∧ p <+: file.dirParts := by
  rw [filesIn, List.mem_filter, List.isPrefixOf_iff_prefix]

theorem filesIn_filesIn {files : List TreeFile} (deeper : p <+: q) :
    filesIn q (filesIn p files) = filesIn q files := by
  rw [filesIn, filesIn, List.filter_filter]
  apply List.filter_congr
  intro file _
  rw [Bool.and_eq_left_iff_imp, List.isPrefixOf_iff_prefix, List.isPrefixOf_iff_prefix]
  exact deeper.trans

theorem filesIn_append_inside (files : List TreeFile) (above : p <+: file.dirParts) :
    filesIn p (files ++ [file]) = filesIn p files ++ [file] := by
  rw [filesIn, List.filter_append, List.filter_singleton, List.isPrefixOf_iff_prefix.mpr above]
  rfl

theorem filesIn_append_outside (files : List TreeFile) (aside : ¬p <+: file.dirParts) :
    filesIn p (files ++ [file]) = filesIn p files := by
  rw [← List.isPrefixOf_iff_prefix, Bool.not_eq_true] at aside
  rw [filesIn, List.filter_append, List.filter_singleton, aside]
  exact List.append_nil _

/-- The node at these directories holds these files, all of which are below. -/
inductive Holds : List JsString → DirNode → List TreeFile → Prop where
  | mk {p : List JsString} {name : JsString} {dirs : List DirNode} {files : List TreeFile}
    (inside : ∀ file ∈ files, p <+: file.dirParts)
    (distinct : (dirs.map DirNode.name).Nodup)
    (covered : ∀ file ∈ files, ∀ part, p ++ [part] <+: file.dirParts →
      part ∈ dirs.map DirNode.name)
    (needed : ∀ dir ∈ dirs, ∃ file ∈ files, p ++ [dir.name] <+: file.dirParts)
    (below : ∀ dir ∈ dirs, Holds (p ++ [dir.name]) dir (filesIn (p ++ [dir.name]) files)) :
    Holds p (.mk name (joinPath p) dirs (files.filter fun file => file.dirParts = p)) files

theorem Holds.path_eq {node : DirNode} {files : List TreeFile} (holds : Holds p node files) :
    node.path = joinPath p := by
  cases holds
  rfl

theorem holds_empty (p : List JsString) (name : JsString) :
    Holds p (.mk name (joinPath p) [] []) [] := by
  refine @Holds.mk p name [] [] ?_ List.nodup_nil ?_ ?_ ?_
  · exact fun file mem => absurd mem List.not_mem_nil
  · exact fun file mem => absurd mem List.not_mem_nil
  · exact fun dir mem => absurd mem List.not_mem_nil
  · exact fun dir mem => absurd mem List.not_mem_nil

@[simp] theorem DirNode.name_insert (file : TreeFile) (parts : List JsString) (node : DirNode) :
    (node.insert file parts).name = node.name := by
  cases node with
  | mk name path dirs files =>
    cases parts with
    | nil => rfl
    | cons part rest =>
      rw [insert]
      split <;> rfl

theorem not_prefix_of_append (p : List JsString) (name : JsString) : ¬p ++ [name] <+: p := by
  intro above
  have length := above.length_le
  rw [List.length_append, List.length_singleton] at length
  omega

theorem append_prefix_cons (p rest : List JsString) (name : JsString) :
    p ++ [name] <+: p ++ part :: rest ↔ name = part := by
  rw [List.prefix_append_right_inj, List.cons_prefix_cons, and_iff_left List.nil_prefix]

/-- A file in the directory itself. -/
theorem holds_insert_file {node : DirNode} {files : List TreeFile} (holds : Holds p node files)
    (own : file.dirParts = p) : Holds p (node.insert file []) (files ++ [file]) := by
  have aside : ∀ name, ¬p ++ [name] <+: file.dirParts := by
    intro name
    rw [own]
    exact not_prefix_of_append p name
  cases holds with
  | mk inside distinct covered needed below =>
    have files_ : (files.filter fun file => file.dirParts = p) ++ [file] =
        (files ++ [file]).filter fun file => file.dirParts = p := by
      rw [List.filter_append, List.filter_singleton, decide_eq_true own]
      rfl
    rw [DirNode.insert, files_]
    constructor
    · rw [List.forall_mem_append]
      exact ⟨inside, List.forall_mem_singleton.mpr (own ▸ List.prefix_rfl)⟩
    · exact distinct
    · intro other mem part above
      obtain earlier | last := List.mem_append.mp mem
      · exact covered other earlier part above
      · rw [List.mem_singleton.mp last] at above
        exact absurd above (aside part)
    · intro dir mem
      obtain ⟨other, earlier, above⟩ := needed dir mem
      exact ⟨other, List.mem_append_left _ earlier, above⟩
    · intro dir mem
      rw [filesIn_append_outside files (aside dir.name)]
      exact below dir mem

section Below

variable {node : DirNode} {name : JsString} {dirs : List DirNode} {own files : List TreeFile}
  {rest : List JsString}

theorem below_iff (split : file.dirParts = p ++ part :: rest) (name : JsString) :
    p ++ [name] <+: file.dirParts ↔ name = part := by
  rw [split, append_prefix_cons]

theorem own_append (split : file.dirParts = p ++ part :: rest) (files : List TreeFile) :
    ((files ++ [file]).filter fun file => file.dirParts = p) =
      files.filter fun file => file.dirParts = p := by
  have other : file.dirParts ≠ p := by
    rw [split]
    simp
  rw [List.filter_append, List.filter_singleton, decide_eq_false other]
  exact List.append_nil _

theorem inside_append (split : file.dirParts = p ++ part :: rest)
    (inside : ∀ file ∈ files, p <+: file.dirParts) :
    ∀ other ∈ files ++ [file], p <+: other.dirParts := by
  rw [List.forall_mem_append]
  exact ⟨inside, List.forall_mem_singleton.mpr (split ▸ List.prefix_append p _)⟩

/-- A file below a directory that is there. -/
theorem holds_insert_known (holds : Holds p (.mk name path dirs own) files)
    (split : file.dirParts = p ++ part :: rest) (known : part ∈ dirs.map DirNode.name)
    (step : ∀ child ∈ dirs, child.name = part →
      Holds (p ++ [part]) (child.insert file rest) (filesIn (p ++ [part]) files ++ [file])) :
    Holds p (.mk name path
      (dirs.map fun child => if child.name = part then child.insert file rest else child) own)
      (files ++ [file]) := by
  have names : (dirs.map fun child =>
      if child.name = part then child.insert file rest else child).map DirNode.name =
      dirs.map DirNode.name := by
    rw [List.map_map]
    apply List.map_congr_left
    intro child _
    rw [Function.comp_apply]
    split
    · rw [DirNode.name_insert]
    · rfl
  cases holds with
  | mk inside distinct covered needed below =>
    rw [← own_append split]
    constructor
    · exact inside_append split inside
    · rw [names]
      exact distinct
    · rw [names]
      intro other mem name above
      obtain earlier | last := List.mem_append.mp mem
      · exact covered other earlier name above
      · rw [List.mem_singleton.mp last, below_iff split] at above
        rw [above]
        exact known
    · intro changed mem
      have kept : changed.name ∈ dirs.map DirNode.name := by
        rw [← names]
        exact List.mem_map_of_mem mem
      obtain ⟨before, listed, same⟩ := List.mem_map.mp kept
      obtain ⟨other, earlier, above⟩ := needed before listed
      exact ⟨other, List.mem_append_left _ earlier, same ▸ above⟩
    · intro changed mem
      obtain ⟨before, listed, rfl⟩ := List.mem_map.mp mem
      split
      case isTrue here =>
        rw [DirNode.name_insert, here,
          filesIn_append_inside files ((below_iff split _).mpr rfl)]
        exact step before listed here
      case isFalse aside =>
        rw [filesIn_append_outside files fun above => aside ((below_iff split _).mp above)]
        exact below before listed

/-- The first file below a directory. -/
theorem holds_insert_new (holds : Holds p (.mk name path dirs own) files)
    (split : file.dirParts = p ++ part :: rest) (unnamed : part ∉ dirs.map DirNode.name)
    {child : DirNode} (named : child.name = part) (made : Holds (p ++ [part]) child [file]) :
    Holds p (.mk name path (dirs ++ [child]) own) (files ++ [file]) := by
  cases holds with
  | mk inside distinct covered needed below =>
    have nothing : filesIn (p ++ [part]) files = [] := by
      apply List.filter_eq_nil_iff.mpr
      intro other mem above
      exact unnamed (covered other mem part (List.isPrefixOf_iff_prefix.mp above))
    rw [← own_append split]
    constructor
    · exact inside_append split inside
    · rw [List.map_append, List.map_singleton, named, List.nodup_append]
      refine ⟨distinct, List.nodup_singleton _, ?_⟩
      intro name mem last new
      rw [List.mem_singleton.mp new]
      rintro rfl
      exact unnamed mem
    · rw [List.map_append, List.map_singleton, named]
      intro other mem name above
      obtain earlier | last := List.mem_append.mp mem
      · exact List.mem_append_left _ (covered other earlier name above)
      · rw [List.mem_singleton.mp last, below_iff split] at above
        exact List.mem_append_right _ (List.mem_singleton.mpr above)
    · intro dir mem
      obtain earlier | last := List.mem_append.mp mem
      · obtain ⟨other, before, above⟩ := needed dir earlier
        exact ⟨other, List.mem_append_left _ before, above⟩
      · refine ⟨file, List.mem_append_right _ (List.mem_singleton.mpr rfl), ?_⟩
        rw [List.mem_singleton.mp last, named]
        exact (below_iff split _).mpr rfl
    · intro dir mem
      obtain earlier | last := List.mem_append.mp mem
      · have aside : dir.name ≠ part := fun same => unnamed (same ▸ List.mem_map_of_mem earlier)
        rw [filesIn_append_outside files fun above => aside ((below_iff split _).mp above)]
        exact below dir earlier
      · rw [List.mem_singleton.mp last, named,
          filesIn_append_inside files ((below_iff split _).mpr rfl), nothing]
        exact made

theorem holds_insert (holds : Holds p node files) (split : file.dirParts = p ++ rest) :
    Holds p (node.insert file rest) (files ++ [file]) := by
  induction rest generalizing p node files with
  | nil =>
    rw [List.append_nil] at split
    exact holds_insert_file holds split
  | cons part rest ih =>
    have split' : file.dirParts = p ++ [part] ++ rest := by
      rw [split, List.append_assoc]
      rfl
    have path_ := holds.path_eq
    cases node with
    | mk name path dirs own =>
      rw [DirNode.insert]
      split
      case isTrue found =>
        obtain ⟨dir, listed, named⟩ := List.any_eq_true.mp found
        refine holds_insert_known holds split
          (List.mem_map.mpr ⟨dir, listed, of_decide_eq_true named⟩) ?_
        rintro child mem rfl
        cases holds with
        | mk inside distinct covered needed below => exact ih (below child mem) split'
      case isFalse missing =>
        refine holds_insert_new holds split ?_ (DirNode.name_insert file rest _) ?_
        · intro mem
          obtain ⟨dir, listed, named⟩ := List.mem_map.mp mem
          exact missing (List.any_eq_true.mpr ⟨dir, listed, decide_eq_true named⟩)
        · have made := ih (holds_empty (p ++ [part]) part) split'
          rw [joinPath_append_singleton, ← path_] at made
          exact made

end Below

/-- The files that the tree is built of. -/
def shownFiles (files : List TreeFile) (showPadFiles : Bool) : List TreeFile :=
  files.filter fun file => showPadFiles || !file.isPadFile

theorem holds_buildTree (files : List TreeFile) (showPadFiles : Bool) :
    Holds [] (buildTree files showPadFiles) (shownFiles files showPadFiles) := by
  induction files using List.reverseRecOn with
  | nil => exact holds_empty [] []
  | append_singleton files file ih =>
    rw [buildTree, List.foldl_append, List.foldl_cons, List.foldl_nil, shownFiles,
      List.filter_append, List.filter_singleton]
    cases skipped : !showPadFiles && file.isPadFile with
    | true =>
      have out : (showPadFiles || !file.isPadFile) = false := by
        rw [← Bool.not_not (showPadFiles || !file.isPadFile), Bool.not_or, Bool.not_not, skipped]
        rfl
      rw [out]
      simpa [buildTree, shownFiles] using ih
    | false =>
      have kept : (showPadFiles || !file.isPadFile) = true := by
        rw [← Bool.not_not (showPadFiles || !file.isPadFile), Bool.not_or, Bool.not_not, skipped]
        rfl
      rw [kept]
      exact holds_insert ih rfl

/-! ## Visits -/

theorem DirNode.induction {P : DirNode → Prop}
    (step : ∀ name path dirs files, (∀ dir ∈ dirs, P dir) → P (.mk name path dirs files)) :
    ∀ node, P node :=
  @DirNode.rec P (fun dirs => ∀ dir ∈ dirs, P dir) step
    (fun _ mem => absurd mem List.not_mem_nil)
    (fun _ _ first rest => List.forall_mem_cons.mpr ⟨first, rest⟩)

mutual

/-- The files below a node, in the order of the visit. -/
def DirNode.filesBelow : DirNode → List TreeFile
  | .mk _ _ dirs files => filesBelowAll dirs ++ files
termination_by structural node => node

def filesBelowAll : List DirNode → List TreeFile
  | [] => []
  | dir :: rest => dir.filesBelow ++ filesBelowAll rest
termination_by structural dirs => dirs

end

theorem DirNode.filesBelow_mk (name path : JsString) (dirs : List DirNode)
    (files : List TreeFile) :
    (DirNode.mk name path dirs files).filesBelow = dirs.flatMap filesBelow ++ files := by
  have all : filesBelowAll dirs = dirs.flatMap filesBelow := by
    induction dirs with
    | nil => rfl
    | cons dir rest ih => rw [filesBelowAll, ih, List.flatMap_cons]
  rw [filesBelow, all]

/-- The common priority. -/
def uniform : List TreeFile → Option Int
  | [] => none
  | file :: rest => if rest.all (·.priority = file.priority) then some file.priority else none

theorem uniform_eq_some {files : List TreeFile} {priority : Int} :
    uniform files = some priority ↔ files ≠ [] ∧ ∀ file ∈ files, file.priority = priority := by
  cases files with
  | nil => simp [uniform]
  | cons file rest =>
    rw [uniform]
    constructor
    · intro same
      split at same
      case isTrue all =>
        obtain rfl := Option.some.inj same
        refine ⟨List.cons_ne_nil _ _, List.forall_mem_cons.mpr ⟨rfl, ?_⟩⟩
        exact fun other mem => of_decide_eq_true (List.all_eq_true.mp all other mem)
      case isFalse => cases same
    · rintro ⟨-, all⟩
      obtain ⟨rfl, others⟩ := List.forall_mem_cons.mp all
      exact if_pos (List.all_eq_true.mpr fun other mem => decide_eq_true (others other mem))

namespace Aggregate

/-- What a visit makes of the files. -/
def of (files : List TreeFile) : Aggregate where
  size := (files.map (·.size)).sum
  progressBytes := (files.map (·.progressBytes)).sum
  priority := uniform files
  fileIndexes := files.map (·.index)
  any := !files.isEmpty

variable {files more : List TreeFile}

theorem any_of : (of files).any = true ↔ files ≠ [] := by
  rw [of, Bool.not_eq_true', List.isEmpty_eq_false_iff]

/-- A part of files with a common priority. -/
theorem uniform_of_subset {priority : Int} (common : uniform files = some priority)
    (nonempty : more ≠ []) (among : more ⊆ files) : uniform more = some priority :=
  uniform_eq_some.mpr ⟨nonempty, fun file mem => (uniform_eq_some.mp common).2 file (among mem)⟩

/-- Files of one priority after others. -/
theorem uniform_append {priority : Int} (common : uniform more = some priority) :
    uniform (files ++ more) =
      if (of files).any then if uniform files = some priority then some priority else none
      else some priority := by
  obtain ⟨nonempty, all⟩ := uniform_eq_some.mp common
  split
  case isFalse empty =>
    rw [any_of, not_not] at empty
    rw [empty, List.nil_append, common]
  case isTrue filled =>
    split
    case isTrue same =>
      refine uniform_eq_some.mpr ⟨List.append_ne_nil_of_right_ne_nil _ nonempty, ?_⟩
      exact List.forall_mem_append.mpr ⟨(uniform_eq_some.mp same).2, all⟩
    case isFalse other =>
      rw [Option.eq_none_iff_forall_ne_some]
      intro joint found
      have last := uniform_of_subset found nonempty (List.subset_append_right files more)
      have first := uniform_of_subset found (any_of.mp filled) (List.subset_append_left files more)
      rw [common] at last
      exact other (first.trans last.symm)

theorem uniform_append_mixed (nonempty : more ≠ []) (mixed : uniform more = none) :
    uniform (files ++ more) = none := by
  rw [Option.eq_none_iff_forall_ne_some]
  intro joint found
  have last := uniform_of_subset found nonempty (List.subset_append_right files more)
  rw [mixed] at last
  cases last

theorem size_append (files more : List TreeFile) :
    (of (files ++ more)).size = (of files).size + (of more).size := by
  simp [of]

theorem progressBytes_append (files more : List TreeFile) :
    (of (files ++ more)).progressBytes = (of files).progressBytes + (of more).progressBytes := by
  simp [of]

/-- Merging files, with what is left to say about their priority. -/
theorem merge_of {agg : Aggregate} (priority : Int) (nonempty : more ≠ [])
    (merged : agg = (of files).merge (of more).size (of more).progressBytes priority
      (of more).fileIndexes) :
    { agg with priority := uniform (files ++ more) } = of (files ++ more) := by
  rw [merged]
  apply Aggregate.ext
  · exact (size_append files more).symm
  · exact (progressBytes_append files more).symm
  · rfl
  · exact (List.map_append).symm
  · exact (any_of.mpr (List.append_ne_nil_of_right_ne_nil _ nonempty)).symm

theorem merge_uniform {priority : Int} (common : uniform more = some priority) :
    (of files).merge (of more).size (of more).progressBytes priority (of more).fileIndexes =
      of (files ++ more) := by
  rw [← merge_of priority (uniform_eq_some.mp common).1 rfl, uniform_append common]
  rfl

theorem merge_file (file : TreeFile) :
    (of files).merge file.size file.progressBytes file.priority [file.index] =
      of (files ++ [file]) := by
  rw [← @merge_uniform files [file] _ rfl]
  simp [of]

theorem mergeDir_of (files more : List TreeFile) :
    (of files).mergeDir (of more) = of (files ++ more) := by
  rw [mergeDir]
  split
  case isFalse empty =>
    rw [any_of, not_not] at empty
    rw [empty, List.append_nil]
  case isTrue filled =>
    have nonempty := any_of.mp filled
    cases common : uniform more with
    | none =>
      have mixed : (of more).priority = none := common
      rw [if_pos mixed, ← merge_of _ nonempty rfl, uniform_append_mixed nonempty common]
    | some priority =>
      have same : (of more).priority = some priority := common
      rw [if_neg (by rw [same]; exact Option.some_ne_none _), same, Option.getD_some]
      exact merge_uniform common

end Aggregate

section Visit

variable (collapsed : JsString → Bool)

def dirRow (depth : Nat) (dir : DirNode) : FileTreeRow :=
  (placeholderRow depth dir).fill (.of dir.filesBelow)

mutual

/-- The rows of a node's content. -/
def DirNode.rows (depth : Nat) : DirNode → List FileTreeRow
  | .mk _ _ dirs files => rowsAll depth dirs ++ files.map (fileRow depth)
termination_by structural node => node

def rowsAll (depth : Nat) : List DirNode → List FileTreeRow
  | [] => []
  | dir :: rest =>
    (dirRow depth dir :: if collapsed dir.path then [] else dir.rows (depth + 1)) ++
      rowsAll depth rest
termination_by structural dirs => dirs

end

/-- A directory and what is shown below. -/
def dirBlock (depth : Nat) (dir : DirNode) : List FileTreeRow :=
  dirRow depth dir :: if collapsed dir.path then [] else dir.rows collapsed (depth + 1)

variable {collapsed}

theorem DirNode.rows_mk (depth : Nat) (name path : JsString) (dirs : List DirNode)
    (files : List TreeFile) :
    (DirNode.mk name path dirs files).rows collapsed depth =
      dirs.flatMap (dirBlock collapsed depth) ++ files.map (fileRow depth) := by
  have all : rowsAll collapsed depth dirs = dirs.flatMap (dirBlock collapsed depth) := by
    induction dirs with
    | nil => rfl
    | cons dir rest ih =>
      rw [rowsAll, ih, List.flatMap_cons]
      rfl
  rw [rows, all]

/-- Filling the placeholder once its children are behind it. -/
theorem modify_placeholder (depth : Nat) (dir : DirNode) (rows below : List FileTreeRow)
    (sub : Aggregate) :
    (rows ++ [placeholderRow depth dir] ++ below).modify rows.length (fun row => row.fill sub) =
      rows ++ (placeholderRow depth dir).fill sub :: below := by
  rw [List.append_assoc, List.singleton_append, List.modify_eq_take_cons_drop (by simp)]
  simp

theorem foldl_visitFile {depth : Nat} {hidden : Bool} (files more : List TreeFile)
    (rows : List FileTreeRow) :
    more.foldl (visitFile depth hidden) (.of files, rows) =
      (.of (files ++ more), rows ++ if hidden then [] else more.map (fileRow depth)) := by
  induction more generalizing files rows with
  | nil =>
    rw [List.foldl_nil, List.append_nil, List.map_nil, ite_self, List.append_nil]
  | cons file more ih =>
    rw [List.foldl_cons, visitFile, Aggregate.merge_file, ih, List.append_assoc]
    cases hidden with
    | true => rfl
    | false =>
      rw [if_neg Bool.false_ne_true, if_neg Bool.false_ne_true, if_neg Bool.false_ne_true,
        List.append_assoc]
      rfl

theorem visitDirs_eq {depth : Nat} {hidden : Bool} {dirs : List DirNode}
    (each : ∀ dir ∈ dirs, ∀ hidden rows, visit collapsed (depth + 1) hidden rows dir =
      (.of dir.filesBelow, rows ++ if hidden then [] else dir.rows collapsed (depth + 1)))
    (files : List TreeFile) (rows : List FileTreeRow) :
    visitDirs collapsed depth hidden (.of files, rows) dirs =
      (.of (files ++ dirs.flatMap DirNode.filesBelow),
        rows ++ if hidden then [] else dirs.flatMap (dirBlock collapsed depth)) := by
  induction dirs generalizing files rows with
  | nil =>
    rw [visitDirs, List.flatMap_nil, List.flatMap_nil, List.append_nil, ite_self, List.append_nil]
  | cons dir dirs ih =>
    obtain ⟨first, others⟩ := List.forall_mem_cons.mp each
    rw [visitDirs]
    cases hidden with
    | true =>
      have inner := first true rows
      rw [if_pos rfl, List.append_nil] at inner
      rw [if_pos rfl, Bool.true_or, inner, if_pos rfl, Aggregate.mergeDir_of, ih others,
        List.flatMap_cons, List.append_assoc]
      rfl
    | false =>
      have inner := first (collapsed dir.path) (rows ++ [placeholderRow depth dir])
      rw [if_neg Bool.false_ne_true, Bool.false_or, inner, if_neg Bool.false_ne_true]
      dsimp only
      rw [modify_placeholder, Aggregate.mergeDir_of, ih others, List.flatMap_cons,
        List.flatMap_cons, List.append_assoc, List.append_assoc]
      rfl

theorem visit_eq (node : DirNode) : ∀ (depth : Nat) (hidden : Bool) (rows : List FileTreeRow),
    visit collapsed depth hidden rows node =
      (.of node.filesBelow, rows ++ if hidden then [] else node.rows collapsed depth) := by
  induction node using DirNode.induction with
  | step name path dirs files ih =>
    intro depth hidden rows
    have empty : Aggregate.empty = .of [] := rfl
    rw [visit, empty, visitDirs_eq fun dir mem hidden rows => ih dir mem (depth + 1) hidden rows,
      foldl_visitFile, DirNode.filesBelow_mk, List.nil_append, List.append_assoc, DirNode.rows_mk]
    cases hidden with
    | true => rfl
    | false => rfl

end Visit

end Rsbtd.WebUi
