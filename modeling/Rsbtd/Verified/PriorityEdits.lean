import Rsbtd.Transition.Runs
import Rsbtd.WebUi.FilePriorities

/-!
# What becomes of a choice of priority

A choice is submitted again as long as it is pending, and a pending edit is dropped when a
snapshot agrees with it, whenever that was read.  It may be dropped safely if everything
the tab can still see agrees as well.  Then every list has every choice, and the daemon has
them once all is through.
-/

namespace Rsbtd.WebUi

open Transition

variable {files : List TorrentFile} {overrides pending choices : Priorities} {i : Nat} {p : Int}

/-- The file has the priority, if it is there. -/
def Gives (files : List TorrentFile) (i : Nat) (p : Int) : Prop :=
  ∀ file ∈ files, file.index = i → file.priority = p

/-! ### Lists -/

theorem index_lt_maxIndex {m : Int} (listed : i ∈ files.map TorrentFile.index) :
    (i : Int) ≤ files.foldl (fun m file => max m file.index) m := by
  have grows : ∀ (files : List TorrentFile) (m : Int),
      m ≤ files.foldl (fun m file => max m file.index) m := by
    intro files
    induction files with
    | nil => exact Int.le_refl
    | cons file files ih => exact fun m => Int.le_trans (Int.le_max_left _ _) (ih _)
  induction files generalizing m with
  | nil => cases listed
  | cons file files ih =>
    rcases List.mem_cons.mp listed with rfl | later
    · exact Int.le_trans (Int.le_max_right _ _) (grows files _)
    · exact ih later

theorem length_foldl_set {list : List Int} :
    (files.foldl (fun list file => list.set file.index file.priority) list).length =
      list.length := by
  induction files generalizing list with
  | nil => rfl
  | cons file files ih => rw [List.foldl_cons, ih, List.length_set]

theorem foldl_set_of_gives {list : List Int} (gives : Gives files i p) (inside : i < list.length)
    (there : i ∈ files.map TorrentFile.index ∨ list[i]? = some p) :
    (files.foldl (fun list file => list.set file.index file.priority) list)[i]? = some p := by
  induction files generalizing list with
  | nil =>
    rcases there with listed | there
    · cases listed
    · exact there
  | cons file files ih =>
    obtain ⟨first, others⟩ := List.forall_mem_cons.mp gives
    rw [List.foldl_cons]
    apply ih others (by simpa using inside)
    by_cases same : file.index = i
    · right
      rw [← same, first same]
      exact List.getElem?_set_self (same ▸ inside)
    · rcases there with listed | there
      · rcases List.mem_cons.mp listed with own | later
        · exact absurd own.symm same
        · exact .inl later
      · exact .inr (by rw [List.getElem?_set_ne same]; exact there)

/-- The list has the pending edit of a file, or else what the snapshot gives. -/
theorem buildPriorityList_get (listed : i ∈ files.map TorrentFile.index)
    (chosen : overrides i = some p ∨ overrides i = none ∧ Gives files i p) :
    (buildPriorityList files overrides)[i]? = some p := by
  have inside : i < (files.foldl (fun m file => max m file.index) (-1 : Int) + 1).toNat := by
    have bound := index_lt_maxIndex (m := -1) listed
    omega
  have length : i < (List.replicate
      (files.foldl (fun m file => max m file.index) (-1 : Int) + 1).toNat (4 : Int)).length := by
    simpa using inside
  rw [buildPriorityList, List.getElem?_mapIdx]
  rcases chosen with own | ⟨absent, gives⟩
  · rw [own, List.getElem?_eq_getElem (by rw [length_foldl_set]; exact length)]
    rfl
  · rw [foldl_set_of_gives gives length (.inl listed), absent]
    rfl

theorem gives_setFilePriorities {list : List Int} (there : list[i]? = some p)
    (pads : ∀ file ∈ files, file.index = i → file.isPadFile = true → p = 0) :
    Gives (setFilePriorities list files) i p := by
  intro file listed index
  obtain ⟨before, member, rfl⟩ := List.mem_map.mp listed
  have own : before.index = i := index
  have value : list.getD before.index 4 = p := by
    rw [own, List.getD_eq_getElem?_getD, there]
    rfl
  cases pad : before.isPadFile with
  | true => simp [pads before member own pad]
  | false => simpa using value

theorem index_setFilePriorities {list : List Int} :
    (setFilePriorities list files).map TorrentFile.index = files.map TorrentFile.index := by
  simp [setFilePriorities, Function.comp_def]

/-! ### Pending edits -/

theorem dropAgreed_eq_some : dropAgreed pending files i = some p ↔
    pending i = some p ∧ ∀ file ∈ files, file.index = i → file.priority ≠ p := by
  unfold dropAgreed
  split
  case isTrue agreed =>
    obtain ⟨file, listed, same⟩ := List.any_eq_true.mp agreed
    simp only [Bool.and_eq_true, decide_eq_true_eq] at same
    obtain ⟨index, own⟩ := same
    simp only [reduceCtorEq, false_iff]
    rintro ⟨there, differs⟩
    exact differs file listed index (Option.some.inj (own.symm.trans there))
  case isFalse differs =>
    constructor
    · intro there
      refine ⟨there, ?_⟩
      intro file listed index same
      apply differs
      refine List.any_eq_true.mpr ⟨file, listed, ?_⟩
      simp [index, there, same]
    · exact And.left

namespace FilesTab

theorem setAll_get {indexes : List Nat} : setAll choices indexes p i =
    if i ∈ indexes then some p else choices i := by
  unfold setAll
  induction indexes generalizing choices with
  | nil => simp
  | cons index indexes ih =>
    rw [List.foldl_cons, ih]
    by_cases same : i = index
    · simp [same]
    · simp [same]

/-- The list of a submission the daemon has not seen. -/
def unapplied (s : FilesTab) : Option (List Int) :=
  match s.phase with
  | .submitting submission => if submission.applied then none else some submission.list
  | _ => none

def through (s : FilesTab) : Bool :=
  match s.phase with
  | .submitting _ => false
  | _ => true

/-- All the tab can still see of the file, without another edit of it, is this priority. -/
structure Everywhere (s : FilesTab) (i : Nat) (p : Int) : Prop where
  shown : Gives s.files i p
  daemon : Gives s.daemon i p
  read : ∀ snapshot ∈ s.reading, Gives snapshot i p
  submitted : ∀ list, s.unapplied = some list → list[i]? = some p

/-- What the daemon has, once it has seen the submission on its way. -/
def Lands (s : FilesTab) (i : Nat) (p : Int) : Prop :=
  match s.unapplied with
  | some list => list[i]? = some p
  | none => Gives s.daemon i p

/-- An edit is not dropped while something the tab can still see differs from it, be it for
a snapshot that agrees or for a submission that was built before the edit and failed; and
pad files are not given a priority but 0. -/
def Spares (s : FilesTab) : Action → Prop
  | .edit indexes priority =>
    ∀ file ∈ s.daemon, file.isPadFile = true → file.index ∈ indexes → priority = 0
  | .deliver => ∀ snapshot reading, s.reading = snapshot :: reading → ∀ file ∈ snapshot,
    s.pending file.index = some file.priority →
      Everywhere { s with files := snapshot, reading := reading } file.index file.priority
  | .fail => ∀ submission, s.phase = .submitting submission → ∀ i ∈ submission.edited, ∀ p,
    s.pending i = some p → Everywhere { s with phase := .idle } i p
  | _ => True

/-- Every choice is pending or safe, and on its way to the daemon. -/
structure Kept (indexes : List Nat) (s : FilesTab) : Prop where
  shown : s.files.map TorrentFile.index = indexes
  had : s.daemon.map TorrentFile.index = indexes
  read : ∀ snapshot ∈ s.reading, snapshot.map TorrentFile.index = indexes
  chosen : ∀ i p, s.pending i = some p → s.choices i = some p
  pads : ∀ file ∈ s.daemon, file.isPadFile = true → ∀ p, s.choices file.index = some p → p = 0
  held : ∀ i ∈ indexes, ∀ p, s.choices i = some p → s.pending i = some p ∨ s.Everywhere i p
  lands : ∀ i ∈ indexes, ∀ p, s.choices i = some p → 0 < s.queued ∨ s.Lands i p
  included : ∀ submission, s.phase = .submitting submission → ∀ i p, s.pending i = some p →
    (submission.included i).isSome ∨ i ∈ submission.edited

variable {s t : FilesTab} {indexes : List Nat}

theorem Everywhere.lands (e : s.Everywhere i p) : s.Lands i p := by
  unfold Lands
  split
  case h_1 list unseen => exact e.submitted list unseen
  case h_2 => exact e.daemon

theorem unapplied_noteEdited (s : FilesTab) (edited : List Nat) :
    unapplied { s with phase := noteEdited edited s.phase } = s.unapplied := by
  unfold unapplied
  cases s.phase <;> rfl

theorem Everywhere.congr (e : s.Everywhere i p) (shown : t.files = s.files)
    (daemon : t.daemon = s.daemon) (reading : ∀ snapshot ∈ t.reading, snapshot ∈ s.reading)
    (unseen : t.unapplied = s.unapplied) : t.Everywhere i p :=
  ⟨shown ▸ e.shown, daemon ▸ e.daemon,
    fun snapshot listed => e.read snapshot (reading snapshot listed), unseen ▸ e.submitted⟩

theorem Lands.congr (l : s.Lands i p) (daemon : t.daemon = s.daemon)
    (unseen : t.unapplied = s.unapplied) : t.Lands i p := by
  unfold Lands at *
  rw [unseen, daemon]
  exact l

/-- Any list that is built has the choices. -/
theorem Kept.built (k : Kept indexes s) (listed : i ∈ indexes) (choice : s.choices i = some p) :
    (buildPriorityList s.files s.pending)[i]? = some p := by
  apply buildPriorityList_get (k.shown ▸ listed)
  cases entry : s.pending i with
  | some own =>
    left
    rw [k.chosen i own entry] at choice
    exact choice
  | none =>
    right
    rcases k.held i listed p choice with held | safe
    · rw [entry] at held
      cases held
    · exact ⟨rfl, safe.shown⟩

theorem Kept.edit (k : Kept indexes s) {edited : List Nat} {priority : Int}
    (spares : Spares s (.edit edited priority)) :
    Kept indexes { s with
      pending := setAll s.pending edited priority
      queued := s.queued + 1
      phase := noteEdited edited s.phase
      choices := setAll s.choices edited priority } := by
  refine ⟨k.shown, k.had, k.read, ?_, ?_, ?_, ?_, ?_⟩
  · intro i p there
    simp only [setAll_get] at there ⊢
    split at there
    case isTrue own => rw [if_pos own, there]
    case isFalse other => rw [if_neg other, k.chosen i p there]
  · intro file listed pad p choice
    simp only [setAll_get] at choice
    split at choice
    case isTrue own => exact Option.some.inj choice ▸ spares file listed pad own
    case isFalse => exact k.pads file listed pad p choice
  · intro i listed p choice
    simp only [setAll_get] at choice ⊢
    split at choice
    case isTrue own => exact .inl (by rw [if_pos own, choice])
    case isFalse other =>
      rw [if_neg other]
      refine (k.held i listed p choice).imp id ?_
      intro safe
      exact safe.congr rfl rfl (fun _ listed => listed) (unapplied_noteEdited s edited)
  · intro i listed p choice
    exact .inl (Nat.succ_pos _)
  · intro submission phase i p there
    cases before : s.phase with
    | submitting earlier =>
      simp only [before, noteEdited, ChainPhase.submitting.injEq] at phase
      subst phase
      simp only [setAll_get] at there
      split at there
      case isTrue own => exact .inr (List.mem_append_right _ own)
      case isFalse =>
        exact (k.included earlier before i p there).imp_right (List.mem_append_left _)
    | idle => simp [before, noteEdited] at phase
    | refetching => simp [before, noteEdited] at phase

theorem Kept.submit (k : Kept indexes s) {queued : Nat} :
    Kept indexes { s with
      queued := queued
      phase := .submitting ⟨buildPriorityList s.files s.pending, false, s.pending, []⟩ } := by
  refine ⟨k.shown, k.had, k.read, k.chosen, k.pads, ?_, ?_, ?_⟩
  · intro i listed p choice
    refine (k.held i listed p choice).imp id ?_
    intro safe
    refine ⟨safe.shown, safe.daemon, safe.read, ?_⟩
    intro list unseen
    obtain rfl := Option.some.inj unseen
    exact k.built listed choice
  · intro i listed p choice
    exact .inr (k.built listed choice)
  · intro submission phase i p there
    obtain rfl := ChainPhase.submitting.inj phase
    exact .inl (Option.isSome_of_eq_some there)

theorem Kept.apply (k : Kept indexes s) {submission : Submission}
    (phase : s.phase = .submitting submission) (unseen : submission.applied = false) :
    Kept indexes { s with
      phase := .submitting { submission with applied := true }
      daemon := setFilePriorities submission.list s.daemon } := by
  have own : s.unapplied = some submission.list := by simp [unapplied, phase, unseen]
  have gives : ∀ i p, s.choices i = some p → submission.list[i]? = some p →
      Gives (setFilePriorities submission.list s.daemon) i p := by
    intro i p choice there
    apply gives_setFilePriorities there
    intro file listed index pad
    exact k.pads file listed pad p (index ▸ choice)
  refine ⟨k.shown, index_setFilePriorities.trans k.had, k.read, k.chosen, ?_, ?_, ?_, ?_⟩
  · intro file listed pad p choice
    obtain ⟨before, member, rfl⟩ := List.mem_map.mp listed
    exact k.pads before member pad p choice
  · intro i listed p choice
    refine (k.held i listed p choice).imp id ?_
    intro safe
    refine ⟨safe.shown, gives i p choice (safe.submitted _ own), safe.read, ?_⟩
    simp [unapplied]
  · intro i listed p choice
    refine (k.lands i listed p choice).imp id ?_
    intro lands
    simp only [Lands, own] at lands
    exact gives i p choice lands
  · intro later phase' i p there
    obtain rfl := ChainPhase.submitting.inj phase'
    exact k.included submission phase i p there

theorem Kept.fail (k : Kept indexes s) {submission : Submission}
    (phase : s.phase = .submitting submission) (spares : Spares s .fail) :
    Kept indexes { s with
      pending := .empty
      phase := .idle
      choices := withoutFailed s.choices submission } := by
  -- a choice that is left was not in the submission, and is not pending or is spared
  have left : ∀ i ∈ indexes, ∀ p, withoutFailed s.choices submission i = some p →
      Everywhere { s with phase := .idle } i p := by
    intro i listed p choice
    unfold withoutFailed at choice
    split at choice
    · cases choice
    case isFalse kept =>
      rcases k.held i listed p choice with held | safe
      · have edited : i ∈ submission.edited := by
          rcases k.included submission phase i p held with included | edited
          · simpa [included] using kept
          · exact edited
        exact spares submission phase i edited p held
      · exact ⟨safe.shown, safe.daemon, safe.read, by simp [unapplied]⟩
  refine ⟨k.shown, k.had, k.read, by simp, ?_, ?_, ?_, by simp⟩
  · intro file listed pad p choice
    simp only [withoutFailed] at choice
    split at choice
    · cases choice
    · exact k.pads file listed pad p choice
  · intro i listed p choice
    have safe := left i listed p choice
    exact .inr ⟨safe.shown, safe.daemon, safe.read, safe.submitted⟩
  · intro i listed p choice
    exact .inr (left i listed p choice).lands

theorem Kept.deliver (k : Kept indexes s) {snapshot : List TorrentFile}
    {reading : List (List TorrentFile)} (first : s.reading = snapshot :: reading)
    (spares : Spares s .deliver) :
    Kept indexes { s with
      files := snapshot
      pending := dropAgreed s.pending snapshot
      reading := reading } := by
  have among : ∀ other ∈ reading, other ∈ s.reading := by
    intro other listed
    rw [first]
    exact List.mem_cons_of_mem _ listed
  have head : snapshot ∈ s.reading := by
    rw [first]
    exact List.mem_cons_self
  refine ⟨k.read snapshot head, k.had, fun other listed => k.read other (among other listed), ?_,
    k.pads, ?_, k.lands, ?_⟩
  · intro i p there
    exact k.chosen i p (dropAgreed_eq_some.mp there).1
  · intro i listed p choice
    rcases k.held i listed p choice with held | safe
    · by_cases agrees : ∃ file ∈ snapshot, file.index = i ∧ file.priority = p
      · obtain ⟨file, member, index, agreed⟩ := agrees
        right
        subst index agreed
        have safe := spares snapshot reading first file member held
        exact ⟨safe.shown, safe.daemon, safe.read, safe.submitted⟩
      · left
        apply dropAgreed_eq_some.mpr
        refine ⟨held, ?_⟩
        intro file member index agreed
        exact agrees ⟨file, member, index, agreed⟩
    · right
      exact ⟨safe.read snapshot head, safe.daemon,
        fun other listed => safe.read other (among other listed), safe.submitted⟩
  · intro submission phase i p there
    exact k.included submission phase i p (dropAgreed_eq_some.mp there).1

theorem Kept.refetch (k : Kept indexes s) {phase : ChainPhase}
    (through : ∀ submission, phase ≠ .submitting submission) (seen : s.unapplied = none) :
    Kept indexes { s with phase := phase } := by
  have unseen : unapplied { s with phase := phase } = s.unapplied := by
    rw [seen]
    cases phase with
    | submitting submission => exact absurd rfl (through submission)
    | idle => rfl
    | refetching => rfl
  refine ⟨k.shown, k.had, k.read, k.chosen, k.pads, ?_, ?_, ?_⟩
  · intro i listed p choice
    refine (k.held i listed p choice).imp id ?_
    intro safe
    exact safe.congr rfl rfl (fun _ listed => listed) unseen
  · intro i listed p choice
    refine (k.lands i listed p choice).imp id ?_
    intro lands
    exact lands.congr rfl unseen
  · intro submission phase'
    exact absurd phase' (through submission)

/-- Fewer snapshots are read, or one that is what the daemon has. -/
theorem Kept.reread (k : Kept indexes s) {reading : List (List TorrentFile)}
    (among : ∀ snapshot ∈ reading, snapshot ∈ s.reading ∨ snapshot = s.daemon) :
    Kept indexes { s with reading := reading } := by
  refine ⟨k.shown, k.had, ?_, k.chosen, k.pads, ?_, k.lands, k.included⟩
  · intro snapshot listed
    rcases among snapshot listed with before | rfl
    · exact k.read snapshot before
    · exact k.had
  · intro i listed p choice
    refine (k.held i listed p choice).imp id ?_
    intro safe
    refine ⟨safe.shown, safe.daemon, ?_, safe.submitted⟩
    intro snapshot listed
    rcases among snapshot listed with before | rfl
    · exact safe.read snapshot before
    · exact safe.daemon

theorem Kept.step {a : Action} (k : Kept indexes s) (spares : Spares s a)
    (stepped : step s a = some t) : Kept indexes t := by
  cases a with
  | edit edited priority =>
    simp only [FilesTab.step, Option.some.injEq] at stepped
    subst stepped
    -- of a pad file only the priority 0 is chosen
    exact k.edit spares
  | submit =>
    simp only [FilesTab.step] at stepped
    split at stepped
    · simp only [Option.some.injEq] at stepped
      subst stepped
      exact k.submit
    · cases stepped
  | apply =>
    simp only [FilesTab.step] at stepped
    split at stepped
    case h_1 submission phase =>
      split at stepped
      · cases stepped
      case isFalse valid =>
        simp only [Option.some.injEq] at stepped
        subst stepped
        simp only [Bool.or_eq_true, not_or, Bool.not_eq_true] at valid
        exact k.apply phase valid.1
    · cases stepped
  | succeed =>
    simp only [FilesTab.step] at stepped
    split at stepped
    case h_1 submission phase =>
      split at stepped
      case isTrue applied =>
        simp only [Option.some.injEq] at stepped
        subst stepped
        exact k.refetch (by simp) (by simp [unapplied, phase, applied])
      · cases stepped
    · cases stepped
  | fail =>
    simp only [FilesTab.step] at stepped
    split at stepped
    case h_1 submission phase =>
      simp only [Option.some.injEq] at stepped
      subst stepped
      -- what the failed submission leaves of the choices has arrived everywhere
      exact k.fail phase spares
    · cases stepped
  | refetched =>
    simp only [FilesTab.step] at stepped
    split at stepped
    case h_1 phase =>
      simp only [Option.some.injEq] at stepped
      subst stepped
      exact k.refetch (by simp) (by simp [unapplied, phase])
    · cases stepped
  | read =>
    simp only [FilesTab.step, Option.some.injEq] at stepped
    subst stepped
    apply k.reread
    intro snapshot listed
    simpa using listed
  | deliver =>
    simp only [FilesTab.step] at stepped
    split at stepped
    case h_1 snapshot reading first =>
      simp only [Option.some.injEq] at stepped
      subst stepped
      -- the snapshot agrees only with edits that have arrived everywhere
      exact k.deliver first spares
    · cases stepped
  | unchanged =>
    simp only [FilesTab.step] at stepped
    split at stepped
    case h_1 snapshot reading first =>
      split at stepped
      · simp only [Option.some.injEq] at stepped
        subst stepped
        apply k.reread
        intro other listed
        left
        rw [first]
        exact List.mem_cons_of_mem _ listed
      · cases stepped
    · cases stepped
  | cancel read =>
    simp only [FilesTab.step, Option.some.injEq] at stepped
    subst stepped
    apply k.reread
    intro snapshot listed
    exact .inl (List.mem_of_mem_eraseIdx listed)

theorem Kept.opened (files : List TorrentFile) :
    Kept (files.map TorrentFile.index) (opened files) := by
  refine ⟨rfl, rfl, ?_, ?_, ?_, ?_, ?_, ?_⟩ <;> simp [FilesTab.opened]

/-- In every run that spares pending edits: a list that is built has the user's choice for
each file, and once no submission is queued or on its way, so does the daemon. -/
theorem file_priorities {files : List TorrentFile} {s : FilesTab}
    (run : Run step Spares (opened files) s) :
    (∀ t, step s .submit = some t → ∀ submission, t.phase = .submitting submission →
      ∀ i ∈ files.map TorrentFile.index, ∀ p, s.choices i = some p →
        submission.list[i]? = some p) ∧
    (s.queued = 0 → s.through = true →
      ∀ i ∈ files.map TorrentFile.index, ∀ p, s.choices i = some p → Gives s.daemon i p) := by
  have k : Kept (files.map TorrentFile.index) s :=
    run.invariant (.opened files) (fun _ _ _ _ kept spares stepped => kept.step spares stepped)
  constructor
  · intro t stepped submission phase i listed p choice
    simp only [step] at stepped
    split at stepped
    · simp only [Option.some.injEq] at stepped
      subst stepped
      obtain rfl := ChainPhase.submitting.inj phase
      exact k.built listed choice
    · cases stepped
  · intro none_queued settled i listed p choice
    rcases k.lands i listed p choice with queued | lands
    · omega
    · have seen : s.unapplied = none := by
        unfold unapplied
        split
        case h_1 submission phase => simp [through, phase] at settled
        case h_2 => rfl
      simpa only [Lands, seen] using lands

/-- An edit is submitted and the daemon has it once all is through. -/
theorem file_priorities_edited : ∃ s : FilesTab,
    Run step Spares (opened [⟨0, 4, false⟩, ⟨1, 4, false⟩]) s ∧ s.queued = 0 ∧ s.through = true ∧
      s.choices 1 = some 7 ∧ Gives s.daemon 1 7 := by
  have run : Run step Spares (opened [⟨0, 4, false⟩, ⟨1, 4, false⟩]) _ :=
    .tail (a := .succeed)
      (.tail (a := .apply)
        (.tail (a := .submit)
          (.tail (a := .edit [1] 7) .refl (by simp [Spares, opened]) rfl) trivial rfl)
        trivial rfl)
      trivial rfl
  exact ⟨_, run, rfl, rfl, rfl, (file_priorities run).2 rfl rfl 1 (by simp) 7 rfl⟩

/-- A file is set from 4 to 7 and back while a poll is on its way that was read before: its
answer agrees with the second edit, which is dropped, and once the first has been applied
and its snapshot is there, the second submission undoes the second edit. -/
def setAndBack : List Action :=
  [.read, .edit [0] 7, .submit, .edit [0] 4, .deliver, .apply, .succeed, .read, .deliver,
    .refetched]

theorem stale_agreement :
    (∃ s, Run step (fun _ _ => True) (opened [⟨0, 4, false⟩]) s ∧ s.choices 0 = some 4 ∧
      (step s .submit).bind unapplied = some [7]) ∧
    ∃ s, Run step (fun _ _ => True) (opened [⟨0, 4, false⟩]) s ∧ s.choices 0 = some 4 ∧
      s.queued = 0 ∧ s.through = true ∧ s.daemon = [⟨0, 7, false⟩] := by
  have submitted : (exec step (fun _ _ => true) (opened [⟨0, 4, false⟩]) setAndBack).map (fun s =>
      decide (s.choices 0 = some 4 ∧ (step s .submit).bind unapplied = some [7])) = some true := by
    decide +kernel
  have ended : (exec step (fun _ _ => true) (opened [⟨0, 4, false⟩])
      (setAndBack ++ [.submit, .apply, .succeed])).map (fun s =>
        decide (s.choices 0 = some 4 ∧ s.queued = 0 ∧ s.through = true ∧
          s.daemon = [⟨0, 7, false⟩])) = some true := by
    decide +kernel
  obtain ⟨s, run, holds⟩ := exists_run_of_exec submitted
  obtain ⟨t, run', holds'⟩ := exists_run_of_exec ended
  exact ⟨⟨s, run.mono (by simp), of_decide_eq_true holds⟩,
    ⟨t, run'.mono (by simp), of_decide_eq_true holds'⟩⟩

end FilesTab

end Rsbtd.WebUi
