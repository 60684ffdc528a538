import Rsbtd.Keyed.Store

/-!
# Priorities of files

The files tab of a torrent, `FilesTab.tsx` and `buildPriorityList` of `fileTree.ts`.  A
change of priority is submitted with the complete list, one submission after another.
Snapshots of the files are read from the daemon at any time and arrive in the order they
were read; what a snapshot brings besides priorities is left out.
-/

namespace Rsbtd.WebUi

structure TorrentFile where
  index : Nat
  priority : Int
  isPadFile : Bool
deriving DecidableEq, Repr

/-- The overrides of `buildPriorityList`. -/
abbrev Priorities := Keyed.Store Nat Int

/-- Full-length priorities list with `overrides` applied on top of the snapshot. -/
def buildPriorityList (files : List TorrentFile) (overrides : Priorities) : List Int :=
  let maxIndex : Int := files.foldl (fun m file => max m file.index) (-1)
  let list := List.replicate (maxIndex + 1).toNat 4
  let list := files.foldl (fun list file => list.set file.index file.priority) list
  list.mapIdx fun index priority => (overrides index).getD priority

/-- What `setFilePriorities` does to the files.  Pad files always stay at 0, and files
beyond the end of the list are reset to the default priority. -/
def setFilePriorities (list : List Int) (files : List TorrentFile) : List TorrentFile :=
  files.map fun file =>
    { file with priority := if file.isPadFile then 0 else list.getD file.index 4 }

/-- `pending` once a snapshot is there: an entry is dropped when the snapshot agrees. -/
def dropAgreed (pending : Priorities) (files : List TorrentFile) : Priorities := fun index =>
  if files.any fun file => file.index = index && pending index = some file.priority then none
  else pending index

/-- A request on its way.  `included` are the edits that were pending when it was built and
`edited` the files edited since, which nothing reads but `choices`. -/
structure Submission where
  list : List Int
  applied : Bool
  included : Priorities
  edited : List Nat

/-- Where the first link of `submitChain` is that is not through. -/
inductive ChainPhase where
  | idle
  | submitting (submission : Submission)
  | refetching

/-- `files` is `filesRef.current`, `queued` the submissions of `submitChain` that wait for
the first.  `daemon` are the files as the daemon has them, and `reading` the snapshots read
from it that did not arrive yet.  `choices` is the priority the user last chose for each
file, until a submission that included the choice fails; no code has it. -/
structure FilesTab where
  files : List TorrentFile
  pending : Priorities
  queued : Nat
  phase : ChainPhase
  daemon : List TorrentFile
  reading : List (List TorrentFile)
  choices : Priorities

namespace FilesTab

/-- The tab with the files as the daemon has them. -/
def opened (files : List TorrentFile) : FilesTab := ⟨files, .empty, 0, .idle, files, [], .empty⟩

inductive Action where
  | edit (indexes : List Nat) (priority : Int)
  | submit
  | apply
  | succeed
  | fail
  | refetched
  | read
  | deliver
  | unchanged
  | cancel (read : Nat)

/-- Sets the priority of every index. -/
def setAll (choices : Priorities) (indexes : List Nat) (priority : Int) : Priorities :=
  indexes.foldl (fun choices index => choices.set index priority) choices

def noteEdited (indexes : List Nat) : ChainPhase → ChainPhase
  | .submitting submission =>
    .submitting { submission with edited := submission.edited ++ indexes }
  | phase => phase

/-- The choices that were not included in the submission. -/
def withoutFailed (choices : Priorities) (submission : Submission) : Priorities := fun index =>
  if (submission.included index).isSome && !submission.edited.contains index then none
  else choices index

def step (s : FilesTab) : Action → Option FilesTab
  | .edit indexes priority => some
    { s with
      pending := setAll s.pending indexes priority
      queued := s.queued + 1
      phase := noteEdited indexes s.phase
      choices := setAll s.choices indexes priority }
  | .submit =>
    match s.phase, s.queued with
    | .idle, queued + 1 => some
      { s with
        queued := queued
        phase := .submitting ⟨buildPriorityList s.files s.pending, false, s.pending, []⟩ }
    | _, _ => none
  | .apply =>
    match s.phase with
    | .submitting submission =>
      -- the daemon validates every priority before it changes one
      if submission.applied || submission.list.any fun p => p < 0 || 7 < p then none
      else some
        { s with
          phase := .submitting { submission with applied := true }
          daemon := setFilePriorities submission.list s.daemon }
    | _ => none
  | .succeed =>
    match s.phase with
    | .submitting submission =>
      if submission.applied then some { s with phase := .refetching } else none
    | _ => none
  | .fail =>
    match s.phase with
    | .submitting submission => some
      { s with
        pending := .empty
        phase := .idle
        choices := withoutFailed s.choices submission }
    | _ => none
  | .refetched =>
    match s.phase with
    | .refetching => some { s with phase := .idle }
    | _ => none
  | .read => some { s with reading := s.reading ++ [s.daemon] }
  | .deliver =>
    match s.reading with
    | snapshot :: reading => some
      { s with
        files := snapshot
        pending := dropAgreed s.pending snapshot
        reading := reading }
    | [] => none
  | .unchanged =>
    -- a snapshot equal to the last one keeps its object, and no effect runs
    match s.reading with
    | snapshot :: reading => if snapshot = s.files then some { s with reading := reading } else none
    | [] => none
  | .cancel read => some { s with reading := s.reading.eraseIdx read }

end FilesTab

end Rsbtd.WebUi
