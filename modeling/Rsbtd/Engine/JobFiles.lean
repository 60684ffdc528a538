import Rsbtd.Engine.Jobs

/-!
# The output files of creation jobs

`write_atomic` replaces the file at a job's output path in one rename, or leaves it
alone when it fails; its temporary file has a name of its own.  A worker whose
commit was lost to a cancel removes the file again, and does not look whether the
removal succeeds.  `Disk.changes` is a history: which job did what to which path.
-/

namespace Rsbtd.Jobs

structure Change where
  job : Nat
  path : String
  /-- The bytes written; none for a removal. -/
  bytes : Option Bytes
deriving DecidableEq

abbrev Files := String → Option Bytes

def Change.apply (files : Files) (c : Change) : Files := Function.update files c.path c.bytes

def replay (files : Files) (changes : List Change) : Files := changes.foldl Change.apply files

structure Disk where
  state : State
  files : Files
  changes : List Change

/-- A step, and whether the file can be removed. -/
structure DiskAction where
  action : Action
  removable : Bool

/-- What a worker's step does to the file at the output path. -/
def Job.change (j : Job) (id : Nat) (removable : Bool) : WorkerStep → Option Change
  | .writeAtomic (.ok _) =>
    match j.worker, j.snapshot.outputPath with
    | .publishing (.ok bytes), some path => some ⟨id, path, some bytes⟩
    | _, _ => none
  | .removeFile =>
    if removable then j.snapshot.outputPath.map fun path => ⟨id, path, none⟩ else none
  | _ => none

namespace Disk

def init (files : Files) : Disk := ⟨.init, files, []⟩

def change (d : Disk) (a : DiskAction) : Option Change :=
  match a.action with
  | .work id step => (d.state.jobs id).bind fun j => j.change id a.removable step
  | _ => none

def step (d : Disk) (a : DiskAction) : Option Disk :=
  (d.state.step a.action).map fun state =>
    match d.change a with
    | none => { d with state }
    | some c => ⟨state, c.apply d.files, d.changes ++ [c]⟩

end Disk

end Rsbtd.Jobs
