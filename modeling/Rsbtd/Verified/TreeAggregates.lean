import Mathlib.Algebra.BigOperators.Group.List.Basic
import Rsbtd.Verified.TreeRows

/-!
# Aggregates of the tree of files

The tree is as it should be exactly if no pad file in a directory is shown: such a file counts
in the aggregates of the directories above it.
-/

namespace Rsbtd.WebUi

variable {files : List TreeFile} {showPadFiles : Bool} {collapsed other : JsString → Bool}
  {row : FileTreeRow} {q : List JsString}

/-- The files below a directory's row, without pad files. -/
def descendants (files : List TreeFile) (row : FileTreeRow) : List TreeFile :=
  files.filter fun file => !file.isPadFile && (pathParts row.id).isPrefixOf file.dirParts

structure AggregatesDescendants (files : List TreeFile) (row : FileTreeRow) : Prop where
  size : row.size = ((descendants files row).map (·.size)).sum
  progressBytes : row.progressBytes = ((descendants files row).map (·.progressBytes)).sum
  fileIndexes : row.fileIndexes.Perm ((descendants files row).map (·.index))
  common : ∀ priority, row.priority = some priority →
    ∀ file ∈ descendants files row, file.priority = priority
  mixed : row.priority = none ↔
    ∃ file ∈ descendants files row, ∃ other ∈ descendants files row,
      file.priority ≠ other.priority

/-- No directory above the row is toggled. -/
def FileTreeRow.unaffected (collapsed other : JsString → Bool) (row : FileTreeRow) : Bool :=
  row.above.inits.all fun dir => dir = [] || collapsed (joinPath dir) = other (joinPath dir)

/-- What the tree should be. -/
structure FaithfulTree (files : List TreeFile) (showPadFiles : Bool)
    (collapsed : JsString → Bool) : Prop where
  aggregates : ∀ row ∈ buildFileTree files showPadFiles collapsed, row.isDir = true →
    AggregatesDescendants files row
  leaves : ((buildFileTree files showPadFiles collapsed).filterMap (·.file)).Perm
    (files.filter fun file =>
      (showPadFiles || !file.isPadFile) && uncollapsed collapsed file.dirParts)
  toggled : ∀ other,
    (buildFileTree files showPadFiles collapsed).filter (·.unaffected collapsed other) =
      (buildFileTree files showPadFiles other).filter (·.unaffected collapsed other)

/-! ## Rows and files -/

theorem visible_of_unaffected (unaffected : row.unaffected collapsed other = true) :
    row.visible collapsed = row.visible other := by
  simp only [FileTreeRow.unaffected, List.all_eq_true, List.mem_inits, Bool.or_eq_true,
    decide_eq_true_iff] at unaffected
  rw [Bool.eq_iff_iff, FileTreeRow.visible, FileTreeRow.visible, uncollapsed_iff,
    uncollapsed_iff]
  refine forall_congr' fun dir => imp_congr_right fun above => imp_congr_right fun nonempty => ?_
  rw [(unaffected dir above).resolve_left nonempty]

theorem toggled_rows (files : List TreeFile) (showPadFiles : Bool)
    (collapsed other : JsString → Bool) :
    (buildFileTree files showPadFiles collapsed).filter (·.unaffected collapsed other) =
      (buildFileTree files showPadFiles other).filter (·.unaffected collapsed other) := by
  rw [buildFileTree_eq, buildFileTree_eq, List.filter_filter, List.filter_filter]
  apply List.filter_congr
  intro row _
  cases unaffected : row.unaffected collapsed other with
  | false => rfl
  | true => rw [visible_of_unaffected unaffected]

theorem file_visible (row : FileTreeRow) :
    (if row.visible collapsed = true then row.file else none) =
      row.file.filter fun file => uncollapsed collapsed file.dirParts := by
  rw [FileTreeRow.visible, FileTreeRow.above]
  cases row.file with
  | none => rw [ite_self, Option.filter_none]
  | some file => rw [Option.filter_some]

theorem files_of_rows (files : List TreeFile) (showPadFiles : Bool) (collapsed : JsString → Bool) :
    ((buildFileTree files showPadFiles collapsed).filterMap (·.file)).Perm
      (files.filter fun file =>
        (showPadFiles || !file.isPadFile) && uncollapsed collapsed file.dirParts) := by
  have shown := filesBelow_perm (holds_buildTree files showPadFiles)
  rw [← filterMap_rows _ 0] at shown
  have visible := shown.filter fun file => uncollapsed collapsed file.dirParts
  rw [List.filter_filterMap, shownFiles, List.filter_filter] at visible
  rw [buildFileTree_eq, allRows, List.filterMap_filter]
  simp only [file_visible]
  simpa only [Bool.and_comm] using visible

/-! ## Aggregates -/

theorem uniform_eq_none (nonempty : files ≠ []) : uniform files = none ↔
    ∃ file ∈ files, ∃ other ∈ files, file.priority ≠ other.priority := by
  constructor
  · intro mixed
    by_contra same
    push Not at same
    obtain ⟨file, rest, rfl⟩ := List.exists_cons_of_ne_nil nonempty
    have common := uniform_eq_some.mpr
      ⟨nonempty, fun other mem => same other mem file List.mem_cons_self⟩
    rw [mixed] at common
    cases common
  · rintro ⟨file, mem, other, mem', differ⟩
    rw [Option.eq_none_iff_forall_ne_some]
    intro priority common
    have all := (uniform_eq_some.mp common).2
    exact differ ((all file mem).trans (all other mem').symm)

theorem aggregates_of_perm (own : DirectoryRow (shownFiles files showPadFiles) row q)
    (same : filesIn q (shownFiles files showPadFiles) = descendants files row) :
    AggregatesDescendants files row := by
  obtain ⟨file, listed, above⟩ := own.used
  obtain ⟨blank, below, filled, perm⟩ := own.filled
  have nonempty : below ≠ [] :=
    List.ne_nil_of_mem (perm.mem_iff.mpr (mem_filesIn.mpr ⟨listed, above⟩))
  rw [same] at perm
  have priority : row.priority = uniform below := filled ▸ rfl
  constructor
  · have size : row.size = (below.map (·.size)).sum := filled ▸ rfl
    rw [size]
    exact (perm.map _).sum_eq
  · have progressBytes : row.progressBytes = (below.map (·.progressBytes)).sum := filled ▸ rfl
    rw [progressBytes]
    exact (perm.map _).sum_eq
  · have fileIndexes : row.fileIndexes = below.map (·.index) := filled ▸ rfl
    rw [fileIndexes]
    exact perm.map _
  · intro common same file mem
    rw [priority] at same
    exact (uniform_eq_some.mp same).2 file (perm.mem_iff.mpr mem)
  · rw [priority, uniform_eq_none nonempty]
    simp only [perm.mem_iff]

theorem exists_dirParts {file : TreeFile} :
    2 ≤ (pathParts file.path).length ↔ ∃ part rest, file.dirParts = part :: rest := by
  rw [← List.ne_nil_iff_exists_cons, TreeFile.dirParts, ← List.length_pos_iff, List.length_dropLast]
  omega

/-- A pad file is shown that is in a directory. -/
def PadInside (files : List TreeFile) (showPadFiles : Bool) : Prop :=
  showPadFiles = true ∧
    ∃ file ∈ files, file.isPadFile = true ∧ 2 ≤ (pathParts file.path).length

theorem filesIn_shownFiles (padless : ¬PadInside files showPadFiles)
    (own : DirectoryRow (shownFiles files showPadFiles) row q) (nonempty : q ≠ []) :
    filesIn q (shownFiles files showPadFiles) = descendants files row := by
  rw [filesIn, shownFiles, List.filter_filter, descendants, own.parts]
  apply List.filter_congr
  intro file listed
  cases pad : file.isPadFile with
  | false => rw [Bool.not_false, Bool.or_true, Bool.and_true, Bool.true_and]
  | true =>
    rw [Bool.not_true, Bool.or_false, Bool.false_and, Bool.and_eq_false_imp]
    intro above
    rw [List.isPrefixOf_iff_prefix] at above
    rw [Bool.eq_false_iff]
    intro shown
    refine padless ⟨shown, file, listed, pad, exists_dirParts.mpr ?_⟩
    exact List.exists_cons_of_ne_nil fun none_ => nonempty (List.prefix_nil.mp (none_ ▸ above))

theorem aggregates_of_padless (padless : ¬PadInside files showPadFiles)
    (mem : row ∈ allRows files showPadFiles) (isDir : row.isDir = true) :
    AggregatesDescendants files row := by
  cases rowBelow_of_mem mem with
  | directory part rest own =>
    exact aggregates_of_perm own (filesIn_shownFiles padless own (by simp))
  | file file depth listed above own =>
    rw [own] at isDir
    cases isDir

/-- A pad file counts in the directory at the root that it is in. -/
theorem not_aggregates_of_padInside (inside : PadInside files showPadFiles) :
    ∃ row ∈ allRows files showPadFiles, row.above = [] ∧ row.isDir = true ∧
      ¬AggregatesDescendants files row := by
  obtain ⟨shown, file, listed, pad, deep⟩ := inside
  obtain ⟨part, rest, dirs⟩ := exists_dirParts.mp deep
  have all : shownFiles files showPadFiles = files := by
    apply List.filter_eq_self.mpr
    intro file _
    rw [shown, Bool.true_or]
  have among : file ∈ shownFiles files showPadFiles := by
    rw [all]
    exact listed
  obtain ⟨row, mem, own⟩ := exists_directoryRow among dirs
  refine ⟨row, mem, own.above_eq, own.isDir, fun aggregates => ?_⟩
  obtain ⟨blank, below, filled, perm⟩ := own.filled
  have fileIndexes : row.fileIndexes = below.map (·.index) := filled ▸ rfl
  have length := aggregates.fileIndexes.length_eq
  have unpadded : descendants files row = (filesIn [part] files).filter fun file =>
      !file.isPadFile := by
    rw [descendants, own.parts, filesIn, List.filter_filter]
  rw [fileIndexes, List.length_map, List.length_map, perm.length_eq, all, unpadded] at length
  have counted := List.length_filter_eq_length_iff.mp length.symm file
    (mem_filesIn.mpr ⟨listed, dirs ▸ List.prefix_append [part] rest⟩)
  rw [pad] at counted
  cases counted

/-- The aggregates, the leaves and the rows that stay when directories are toggled. -/
theorem faithfulTree_iff (files : List TreeFile) (showPadFiles : Bool)
    (collapsed : JsString → Bool) :
    FaithfulTree files showPadFiles collapsed ↔
      ¬(showPadFiles = true ∧
        ∃ file ∈ files, file.isPadFile = true ∧ 2 ≤ (pathParts file.path).length) := by
  constructor
  · intro faithful inside
    obtain ⟨row, mem, root, isDir, wrong⟩ := not_aggregates_of_padInside inside
    refine wrong (faithful.aggregates row ?_ isDir)
    rw [buildFileTree_eq]
    refine List.mem_filter.mpr ⟨mem, uncollapsed_iff.mpr fun dir above nonempty => ?_⟩
    rw [root] at above
    exact absurd (List.prefix_nil.mp above) nonempty
  · intro padless
    refine ⟨fun row mem isDir => ?_, files_of_rows files showPadFiles collapsed,
      toggled_rows files showPadFiles collapsed⟩
    rw [buildFileTree_eq] at mem
    exact aggregates_of_padless padless (List.mem_filter.mp mem).1 isDir

/-- A file of 100 bytes in a directory, and a pad file of 28. -/
def paddedFiles : List TreeFile :=
  [⟨⟨0, 4, false⟩, js "d/a", 100, 50⟩, ⟨⟨1, 0, true⟩, js "d/p", 28, 28⟩]

/-- The directory has 128 bytes when pad files are shown, and a mixed priority. -/
theorem paddedFiles_counted :
    (buildFileTree paddedFiles true fun _ => false).head? =
        some ⟨js "d", 0, js "d", true, none, 128, 78, none, [0, 1]⟩ ∧
      ¬FaithfulTree paddedFiles true fun _ => false := by
  have first : (buildFileTree paddedFiles true fun _ => false).head? =
      some ⟨js "d", 0, js "d", true, none, 128, 78, none, [0, 1]⟩ := by decide +kernel
  refine ⟨first, fun faithful => ?_⟩
  have size := (faithful.aggregates _ (List.mem_of_mem_head? first) rfl).size
  exact absurd size (by decide +kernel)

end Rsbtd.WebUi
