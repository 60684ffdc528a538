import Rsbtd.Verified.TreeRows

/-!
# Ids of the rows of the tree of files

A directory's id is its path and a file's is its index behind `f:`, in one namespace.  They
are apart unless a directory at the root has the name of a file's id.
-/

namespace Rsbtd.WebUi

variable {files : List TreeFile} {file other : TreeFile} {showPadFiles : Bool} {p q : List JsString}
  {a b row : FileTreeRow} {node : DirNode} {depth : Nat} {m n : Nat}

/-! ## Ids of files -/

theorem unit_digit {c : Char} (digit : c.isDigit = true) :
    Char.ofNat (unit c).toNat = c ∧ isSeparator (unit c) = false := by
  have all : ∀ n < 128, (Char.ofNat n).isDigit = true →
      Char.ofNat (unit (Char.ofNat n)).toNat = Char.ofNat n ∧
        isSeparator (unit (Char.ofNat n)) = false := by decide
  have small : c.toNat < 128 := by
    rw [Char.isDigit, Bool.and_eq_true, decide_eq_true_iff, decide_eq_true_iff] at digit
    have bound : c.toNat ≤ 57 := digit.2
    omega
  have own := all c.toNat small
  rw [Char.ofNat_toNat] at own
  exact own digit

theorem digit_of_mem {c : Char} (mem : c ∈ Nat.toDigits 10 n) : c.isDigit = true :=
  Nat.isDigit_of_mem_toDigits (by decide) (by decide) mem

theorem fileId_inj (same : fileId m = fileId n) : m = n := by
  have read : ∀ k, ((Nat.toDigits 10 k).map unit).map (fun u => Char.ofNat u.toNat) =
      Nat.toDigits 10 k := by
    intro k
    rw [List.map_map]
    calc (Nat.toDigits 10 k).map ((fun u => Char.ofNat u.toNat) ∘ unit)
      _ = (Nat.toDigits 10 k).map id :=
        List.map_congr_left fun c mem => (unit_digit (digit_of_mem mem)).1
      _ = Nat.toDigits 10 k := List.map_id _
  have digits := List.append_cancel_left same
  have texts : Nat.toDigits 10 m = Nat.toDigits 10 n := by rw [← read m, digits, read n]
  rw [← Nat.ofDigitChars_toDigits (b := 10) (n := m) (by decide) (by decide), texts,
    Nat.ofDigitChars_toDigits (by decide) (by decide)]

theorem part_fileId (n : Nat) : PathPart (fileId n) where
  nonempty := List.append_ne_nil_of_left_ne_nil (by decide) _
  whole u mem := by
    obtain first | digits := List.mem_append.mp mem
    · have all : ((js "f:").all fun u => !isSeparator u) = true := by decide +kernel
      simpa using List.all_eq_true.mp all u first
    · obtain ⟨c, listed, rfl⟩ := List.mem_map.mp digits
      exact (unit_digit (digit_of_mem listed)).2

/-! ## Apart -/

/-- No directory at the root has the name of a file's id. -/
def Apart (files : List TreeFile) : Prop :=
  ∀ file ∈ files, ∀ other ∈ files, file.dirParts.head? ≠ some (fileId other.index)

theorem dir_ne_file (apart : Apart files) (own : DirectoryRow files row q)
    (listed : file ∈ files) : row.id ≠ fileId file.index := by
  intro same
  have parts := own.parts
  rw [same, pathParts_of_part (part_fileId _)] at parts
  obtain ⟨inside, mem, above⟩ := own.used
  rw [← parts] at above
  obtain ⟨rest, split⟩ := above
  refine apart inside mem file listed ?_
  rw [← split]
  rfl

/-- The directory of a directory's row, and that of a file. -/
def FileTreeRow.place (row : FileTreeRow) : List JsString :=
  match row.file with
  | some file => file.dirParts
  | none => pathParts row.id

theorem DirectoryRow.place_eq (own : DirectoryRow files row q) : row.place = q := by
  rw [FileTreeRow.place, own.file]
  exact own.parts

theorem RowBelow.place (below : RowBelow p files row) : p <+: row.place := by
  cases below with
  | directory part rest own =>
    rw [own.place_eq]
    exact List.prefix_append _ _
  | file file depth listed above own => exact own ▸ above

section

variable (unique : (files.map (·.index)).Nodup) (apart : Apart files)
include unique apart

/-- Rows of one id are at one place. -/
theorem eq_of_id (first : RowBelow p files a) (second : RowBelow p files b) (same : a.id = b.id) :
    a.file = b.file ∧ a.place = b.place := by
  cases first with
  | directory part rest own =>
    cases second with
    | directory part' rest' own' =>
      refine ⟨own.file.trans own'.file.symm, ?_⟩
      rw [FileTreeRow.place, FileTreeRow.place, own.file, own'.file]
      exact congrArg pathParts same
    | file file depth listed above own' =>
      rw [own'] at same
      exact absurd same (dir_ne_file apart own listed)
  | file file depth listed above own =>
    cases second with
    | directory part rest own' =>
      rw [own] at same
      exact absurd same.symm (dir_ne_file apart own' listed)
    | file file' depth' listed' above' own' =>
      rw [own, own'] at same
      have equal : file = file' :=
        List.inj_on_of_nodup_map unique listed listed' (fileId_inj same)
      rw [own, own', equal]
      exact ⟨rfl, rfl⟩

end

theorem rowBelow_block {dir : DirNode}
    (holds : Holds (p ++ [dir.name]) dir (filesIn (p ++ [dir.name]) files))
    (used : ∃ file ∈ files, p ++ [dir.name] <+: file.dirParts)
    (mem : row ∈ dirBlock (fun _ => false) depth dir) :
    RowBelow p files row ∧ p ++ [dir.name] <+: row.place := by
  obtain rfl | deeper := List.mem_cons.mp mem
  · have own := directoryRow_dirRow depth holds used
    refine ⟨.directory dir.name [] own, ?_⟩
    rw [own.place_eq]
  · rw [if_neg Bool.false_ne_true] at deeper
    have below := rows_below holds _ row deeper
    exact ⟨below.of_child, below.place⟩

theorem pairwise_ids (holds : Holds p node files) (unique : (files.map (·.index)).Nodup)
    (apart : Apart files) :
    ∀ depth, (node.rows (fun _ => false) depth).Pairwise fun a b => a.id ≠ b.id := by
  induction holds with
  | @mk p name dirs files inside distinct covered needed below ih =>
    intro depth
    have own : ∀ file ∈ files.filter (fun file => file.dirParts = p),
        RowBelow p files (fileRow depth file) ∧ (fileRow depth file).place = p := by
      intro file mem
      obtain ⟨listed, here⟩ := List.mem_filter.mp mem
      exact ⟨.file file depth listed (inside file listed) rfl, of_decide_eq_true here⟩
    rw [DirNode.rows_mk, List.pairwise_append, List.pairwise_flatMap]
    refine ⟨⟨fun dir listed => ?_, ?_⟩, ?_, fun a inDirs b inFiles same => ?_⟩
    · have one := directoryRow_dirRow depth (below dir listed) (needed dir listed)
      rw [dirBlock, if_neg Bool.false_ne_true, List.pairwise_cons]
      refine ⟨fun b deeper same => ?_, ?_⟩
      · have inner := rows_below (below dir listed) _ b deeper
        obtain ⟨leaf, placed⟩ :=
          eq_of_id unique apart (.directory dir.name [] one) inner.of_child same
        cases inner with
        | directory part rest own' =>
          rw [one.place_eq, own'.place_eq, List.self_eq_append_right] at placed
          cases placed
        | file file depth' listed' above own' =>
          rw [one.file, own'] at leaf
          cases leaf
      · refine ih dir listed ?_ ?_ (depth + 1)
        · exact (List.filter_sublist.map _).nodup unique
        · intro file mem other mem'
          exact apart file (mem_filesIn.mp mem).1 other (mem_filesIn.mp mem').1
    · have names : dirs.Pairwise fun d e => d.name ≠ e.name := List.pairwise_map.mp distinct
      apply names.imp_of_mem
      intro d e listed listed' differ a mem b mem' same
      obtain ⟨first, placed⟩ := rowBelow_block (below d listed) (needed d listed) mem
      obtain ⟨second, placed'⟩ := rowBelow_block (below e listed') (needed e listed') mem'
      rw [(eq_of_id unique apart first second same).2] at placed
      have equal := List.prefix_of_prefix_length_le placed placed' (by simp)
      exact differ ((append_prefix_cons p [] d.name).mp equal)
    · rw [List.pairwise_map]
      have indexes : files.Pairwise fun file other => file.index ≠ other.index :=
        List.pairwise_map.mp unique
      exact (indexes.filter _).imp fun differ same => differ (fileId_inj same)
    · obtain ⟨dir, listed, mem⟩ := List.mem_flatMap.mp inDirs
      obtain ⟨file, mem', rfl⟩ := List.mem_map.mp inFiles
      obtain ⟨first, placed⟩ := rowBelow_block (below dir listed) (needed dir listed) mem
      obtain ⟨second, here⟩ := own file mem'
      rw [(eq_of_id unique apart first second same).2, here] at placed
      exact not_prefix_of_append p _ placed

/-! ## Ids of the tree -/

theorem exists_fileRow (listed : file ∈ shownFiles files showPadFiles) :
    ∃ row ∈ allRows files showPadFiles, row.file = some file ∧ row.id = fileId file.index := by
  have below := (filesBelow_perm (holds_buildTree files showPadFiles)).mem_iff.mpr listed
  rw [← filterMap_rows _ 0] at below
  obtain ⟨row, mem, leaf⟩ := List.mem_filterMap.mp below
  refine ⟨row, mem, leaf, ?_⟩
  cases rowBelow_of_mem mem with
  | directory part rest own =>
    rw [own.file] at leaf
    cases leaf
  | file other depth listed' above own =>
    rw [own] at leaf
    obtain rfl := Option.some.inj leaf
    rw [own]
    rfl

theorem buildFileTree_opened (files : List TreeFile) (showPadFiles : Bool) :
    buildFileTree files showPadFiles (fun _ => false) = allRows files showPadFiles := by
  rw [buildFileTree_eq]
  exact List.filter_eq_self.mpr fun row _ => uncollapsed_iff.mpr fun _ _ _ => rfl

/-- The ids are distinct, whatever is collapsed, exactly if no directory at the root has the
name of a file's id. -/
theorem treeIds_iff (files : List TreeFile) (showPadFiles : Bool)
    (distinct : (files.map (·.index)).Nodup) :
    (∀ collapsed, ((buildFileTree files showPadFiles collapsed).map (·.id)).Nodup) ↔
      ∀ file ∈ shownFiles files showPadFiles, ∀ other ∈ shownFiles files showPadFiles,
        file.dirParts.head? ≠ some (fileId other.index) := by
  constructor
  · intro nodup file listed other listed' named
    have all := nodup fun _ => false
    rw [buildFileTree_opened] at all
    obtain ⟨part, rest, dirs⟩ : ∃ part rest, file.dirParts = part :: rest :=
      List.exists_cons_of_ne_nil fun none_ => by simp [none_] at named
    rw [dirs, List.head?_cons, Option.some.injEq] at named
    obtain ⟨row, mem, own⟩ := exists_directoryRow listed dirs
    obtain ⟨row', mem', leaf, id⟩ := exists_fileRow listed'
    have same : row.id = row'.id := by rw [own.id, id, named]; rfl
    have equal : row = row' := List.inj_on_of_nodup_map all mem mem' same
    rw [← equal, own.file] at leaf
    cases leaf
  · intro apart collapsed
    rw [buildFileTree_eq]
    have unique : ((shownFiles files showPadFiles).map (·.index)).Nodup :=
      (List.filter_sublist.map _).nodup distinct
    have pairwise := pairwise_ids (holds_buildTree files showPadFiles) unique apart 0
    exact List.pairwise_map.mpr (pairwise.filter _)

def plainFile (index : Nat) (path : JsString) : TreeFile := ⟨⟨index, 4, false⟩, path, 100, 50⟩

theorem treeIds_plain :
    ((buildFileTree [plainFile 0 (js "d/a"), plainFile 1 (js "d/b")] false fun _ => false).map
      (·.id)).Nodup :=
  (treeIds_iff _ false (by decide)).mpr (by decide +kernel) _

/-- A directory with the name of the id of the file in it. -/
theorem treeIds_shared :
    (buildFileTree [plainFile 0 (js "f:0/a")] false fun _ => false).map (·.id) =
        [js "f:0", js "f:0"] ∧
      ¬∀ (files : List TreeFile) (showPadFiles : Bool), (files.map (·.index)).Nodup →
        ∀ collapsed, ((buildFileTree files showPadFiles collapsed).map (·.id)).Nodup := by
  have ids : (buildFileTree [plainFile 0 (js "f:0/a")] false fun _ => false).map (·.id) =
      [js "f:0", js "f:0"] := by decide +kernel
  refine ⟨ids, fun distinct => ?_⟩
  have nodup := distinct [plainFile 0 (js "f:0/a")] false (by decide) fun _ => false
  rw [ids] at nodup
  exact absurd nodup (by decide)

end Rsbtd.WebUi
