import Mathlib.Data.List.Infix
import Rsbtd.Verified.FileTrees

/-!
# Rows of the tree of files

The rows with directories collapsed are those of the whole tree that have no collapsed
directory above, in the same order.  A directory's row has the aggregate of the files that
the tree holds below it.  These are all but the pad files, unless pad files are shown.
-/

namespace Rsbtd.WebUi

open Sequence

variable {p q : List JsString} {node : DirNode} {files : List TreeFile} {file : TreeFile}
  {depth : Nat} {row : FileTreeRow} {collapsed : JsString → Bool}

/-! ## Files -/

/-- Where a file goes below some directories. -/
theorem child_prefix_iff {parts : List JsString} {name : JsString}
    (above : p <+: parts) : p ++ [name] <+: parts ↔ parts[p.length]? = some name := by
  obtain ⟨rest, rfl⟩ := above
  cases rest with
  | nil => simp [not_prefix_of_append]
  | cons part rest =>
    rw [append_prefix_cons, List.getElem?_append_right (Nat.le_refl _), Nat.sub_self,
      List.getElem?_cons_zero, Option.some.injEq, eq_comm]

theorem eq_iff_getElem?_none {parts : List JsString} (above : p <+: parts) :
    parts = p ↔ parts[p.length]? = none := by
  obtain ⟨rest, rfl⟩ := above
  cases rest with
  | nil => simp
  | cons part rest => simp

theorem filesBelow_perm (holds : Holds p node files) : node.filesBelow.Perm files := by
  induction holds with
  | @mk p name dirs files inside distinct covered needed below ih =>
    have groups := perm_groups (fun file : TreeFile => file.dirParts[p.length]?) distinct
      files fun file mem part keyed =>
        covered file mem part ((child_prefix_iff (inside file mem)).mpr keyed)
    have own : (files.filter fun file => file.dirParts[p.length]? = none) =
        files.filter fun file => file.dirParts = p := by
      apply List.filter_congr
      intro file mem
      exact decide_eq_decide.mpr (eq_iff_getElem?_none (inside file mem)).symm
    have child : ∀ name, (files.filter fun file => file.dirParts[p.length]? = some name) =
        filesIn (p ++ [name]) files := by
      intro name
      apply List.filter_congr
      intro file mem
      rw [Bool.eq_iff_iff, decide_eq_true_iff, List.isPrefixOf_iff_prefix,
        child_prefix_iff (inside file mem)]
    rw [own, List.flatMap_map] at groups
    simp only [child] at groups
    rw [DirNode.filesBelow_mk]
    exact ((List.Perm.flatMap_left dirs ih).append_right _).trans groups.symm

/-! ## Rows -/

/-- The directories above a row. -/
def FileTreeRow.above (row : FileTreeRow) : List JsString :=
  match row.file with
  | some file => file.dirParts
  | none => (pathParts row.id).dropLast

/-- None of the directories on the way is collapsed. -/
def uncollapsed (collapsed : JsString → Bool) (parts : List JsString) : Bool :=
  parts.inits.all fun dir => dir = [] || !collapsed (joinPath dir)

def FileTreeRow.visible (collapsed : JsString → Bool) (row : FileTreeRow) : Bool :=
  uncollapsed collapsed row.above

/-- The row of a directory. -/
structure DirectoryRow (files : List TreeFile) (row : FileTreeRow) (q : List JsString) : Prop where
  isDir : row.isDir = true
  file : row.file = none
  id : row.id = joinPath q
  used : ∃ file ∈ files, q <+: file.dirParts
  filled : ∃ blank below, row = FileTreeRow.fill blank (.of below) ∧ below.Perm (filesIn q files)

/-- What a row below some directories is. -/
inductive RowBelow (p : List JsString) (files : List TreeFile) (row : FileTreeRow) : Prop where
  | directory (part : JsString) (rest : List JsString)
    (own : DirectoryRow files row (p ++ part :: rest))
  | file (file : TreeFile) (depth : Nat) (listed : file ∈ files) (above : p <+: file.dirParts)
    (own : row = fileRow depth file)

theorem RowBelow.of_child {name : JsString}
    (below : RowBelow (p ++ [name]) (filesIn (p ++ [name]) files) row) : RowBelow p files row := by
  cases below with
  | directory part rest own =>
    have split : p ++ [name] ++ part :: rest = p ++ name :: part :: rest :=
      List.append_assoc _ _ _
    obtain ⟨file, listed, above⟩ := own.used
    obtain ⟨blank, below, filled, perm⟩ := own.filled
    rw [filesIn_filesIn (List.prefix_append _ _)] at perm
    rw [split] at own above perm
    exact .directory name (part :: rest) ⟨own.isDir, own.file, own.id,
      ⟨file, (mem_filesIn.mp listed).1, above⟩, blank, below, filled, perm⟩
  | file file depth listed above own =>
    exact .file file depth (mem_filesIn.mp listed).1 ((List.prefix_append p _).trans above) own

theorem directoryRow_dirRow {dir : DirNode} (depth : Nat)
    (holds : Holds (p ++ [dir.name]) dir (filesIn (p ++ [dir.name]) files))
    (used : ∃ file ∈ files, p ++ [dir.name] <+: file.dirParts) :
    DirectoryRow files (dirRow depth dir) (p ++ [dir.name]) where
  isDir := rfl
  file := rfl
  id := holds.path_eq
  used := used
  filled := ⟨placeholderRow depth dir, dir.filesBelow, rfl, filesBelow_perm holds⟩

theorem rows_below (holds : Holds p node files) :
    ∀ depth, ∀ row ∈ node.rows collapsed depth, RowBelow p files row := by
  induction holds with
  | @mk p name dirs files inside distinct covered needed below ih =>
    intro depth row mem
    rw [DirNode.rows_mk] at mem
    obtain inDirs | inFiles := List.mem_append.mp mem
    · obtain ⟨dir, listed, inBlock⟩ := List.mem_flatMap.mp inDirs
      obtain rfl | deeper := List.mem_cons.mp inBlock
      · exact .directory dir.name []
          (directoryRow_dirRow depth (below dir listed) (needed dir listed))
      · split at deeper
        · exact absurd deeper List.not_mem_nil
        · exact (ih dir listed (depth + 1) row deeper).of_child
    · obtain ⟨file, own, rfl⟩ := List.mem_map.mp inFiles
      have listed := (List.mem_filter.mp own).1
      exact .file file depth listed (inside file listed) rfl

theorem DirectoryRow.parts (own : DirectoryRow files row q) : pathParts row.id = q := by
  obtain ⟨file, -, above⟩ := own.used
  rw [own.id]
  exact pathParts_joinPath fun part mem => file.part_of_prefix above mem

theorem DirectoryRow.above_eq (own : DirectoryRow files row q) : row.above = q.dropLast := by
  rw [FileTreeRow.above, own.file]
  exact congrArg List.dropLast own.parts

theorem RowBelow.above (below : RowBelow p files row) : p <+: row.above := by
  cases below with
  | directory part rest own =>
    rw [own.above_eq, List.dropLast_append_of_ne_nil (List.cons_ne_nil _ _)]
    exact List.prefix_append _ _
  | file file depth listed above own => exact own ▸ above

/-! ## Collapsed directories -/

theorem uncollapsed_iff {parts : List JsString} : uncollapsed collapsed parts = true ↔
    ∀ dir, dir <+: parts → dir ≠ [] → collapsed (joinPath dir) = false := by
  simp only [uncollapsed, List.all_eq_true, List.mem_inits, Bool.or_eq_true,
    decide_eq_true_iff, Bool.not_eq_true']
  exact forall_congr' fun dir => imp_congr_right fun _ => or_iff_not_imp_left

/-- The rows shown are those of the whole tree that are visible. -/
theorem rows_eq_filter (holds : Holds p node files)
    (open_ : ∀ dir, dir <+: p → dir ≠ [] → collapsed (joinPath dir) = false) :
    ∀ depth, node.rows collapsed depth =
      (node.rows (fun _ => false) depth).filter (·.visible collapsed) := by
  induction holds with
  | @mk p name dirs files inside distinct covered needed below ih =>
    intro depth
    have visible : ∀ row : FileTreeRow, row.above = p → row.visible collapsed = true := by
      rintro row rfl
      exact uncollapsed_iff.mpr open_
    rw [DirNode.rows_mk, DirNode.rows_mk, List.filter_append, List.filter_flatMap]
    congr 1
    · apply List.flatMap_congr
      intro dir listed
      have shown : (dirRow depth dir).visible collapsed = true := by
        apply visible
        rw [(directoryRow_dirRow depth (below dir listed) (needed dir listed)).above_eq,
          List.dropLast_concat]
      rw [dirBlock, dirBlock, if_neg Bool.false_ne_true, List.filter_cons_of_pos shown]
      congr 1
      have path := (below dir listed).path_eq
      split
      case isTrue closed =>
        refine (List.filter_eq_nil_iff.mpr fun row mem seen => ?_).symm
        rw [path, uncollapsed_iff.mp seen _ (rows_below (below dir listed) _ row mem).above
          (List.append_ne_nil_of_right_ne_nil _ (List.cons_ne_nil _ _))] at closed
        cases closed
      case isFalse opened =>
        refine ih dir listed (fun above prefix_ nonempty => ?_) (depth + 1)
        obtain rfl | earlier := List.prefix_concat_iff.mp prefix_
        · rw [path] at opened
          exact Bool.eq_false_iff.mpr opened
        · exact open_ above earlier nonempty
    · refine (List.filter_eq_self.mpr fun row mem => ?_).symm
      obtain ⟨file, own, rfl⟩ := List.mem_map.mp mem
      exact visible _ (of_decide_eq_true (List.mem_filter.mp own).2)

/-- All rows, with nothing collapsed. -/
def allRows (files : List TreeFile) (showPadFiles : Bool) : List FileTreeRow :=
  (buildTree files showPadFiles).rows (fun _ => false) 0

theorem buildFileTree_eq (files : List TreeFile) (showPadFiles : Bool)
    (collapsed : JsString → Bool) :
    buildFileTree files showPadFiles collapsed =
      (allRows files showPadFiles).filter (·.visible collapsed) := by
  rw [buildFileTree, visit_eq, if_neg Bool.false_ne_true, List.nil_append]
  apply rows_eq_filter (holds_buildTree files showPadFiles)
  intro dir above nonempty
  exact absurd (List.prefix_nil.mp above) nonempty

theorem rowBelow_of_mem {showPadFiles : Bool} (mem : row ∈ allRows files showPadFiles) :
    RowBelow [] (shownFiles files showPadFiles) row :=
  rows_below (holds_buildTree files showPadFiles) 0 row mem

/-- The row of a directory at the root. -/
theorem exists_directoryRow {showPadFiles : Bool} {part : JsString} {rest : List JsString}
    (listed : file ∈ shownFiles files showPadFiles) (dirs : file.dirParts = part :: rest) :
    ∃ row ∈ allRows files showPadFiles,
      DirectoryRow (shownFiles files showPadFiles) row [part] := by
  have holds := holds_buildTree files showPadFiles
  rw [allRows]
  cases node : buildTree files showPadFiles with
  | mk name path children own =>
    rw [node] at holds
    cases holds with
    | mk inside distinct covered needed below =>
      have above : [] ++ [part] <+: file.dirParts := by
        rw [dirs]
        exact List.prefix_append [part] rest
      obtain ⟨dir, child, rfl⟩ := List.mem_map.mp (covered file listed part above)
      refine ⟨dirRow 0 dir, ?_, directoryRow_dirRow 0 (below dir child) ⟨file, listed, above⟩⟩
      rw [DirNode.rows_mk]
      exact List.mem_append_left _ (List.mem_flatMap.mpr ⟨dir, child, List.mem_cons_self⟩)

/-- The files of the rows. -/
theorem filterMap_rows (node : DirNode) :
    ∀ depth, (node.rows (fun _ => false) depth).filterMap (·.file) = node.filesBelow := by
  induction node using DirNode.induction with
  | step name path dirs files ih =>
    intro depth
    rw [DirNode.rows_mk, DirNode.filesBelow_mk, List.filterMap_append, List.filterMap_flatMap,
      List.filterMap_map]
    congr 1
    · apply List.flatMap_congr
      intro dir listed
      rw [dirBlock, if_neg Bool.false_ne_true, List.filterMap_cons_none rfl]
      exact ih dir listed (depth + 1)
    · exact List.filterMap_some

end Rsbtd.WebUi
