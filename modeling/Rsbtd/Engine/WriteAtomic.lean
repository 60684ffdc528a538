import Rsbtd.Files.Directory
import Rsbtd.Text.Str
import Rsbtd.Transition.Runs

/-!
# Writing a file atomically

Calls of `write_atomic` in one directory, each at its own place of the function.  A call
takes a number of `TMP_SEQ`, which wraps, writes to a file named after it, and renames
that to its target.  What is synced is not modelled further.
-/

namespace Rsbtd.WriteAtomic

open Files

/-- `.tmp` -/
def extension : Text := ['.', 't', 'm', 'p']

/-- The name of a file in the directory, which is not that of a temporary file. -/
structure Target where
  name : Text
  plain : ¬ extension <:+ name

/-- The temporary file of a call before which there were `seq` others, in the process `pid`. -/
def tmpName (pid seq : Nat) (target : Target) : Text :=
  target.name ++ ['.'] ++ Text.decimal pid ++ ['.'] ++ Text.decimal (seq % UInt64.size) ++ extension

inductive Phase where
  /-- The name of the temporary file is made. -/
  | named
  /-- The file is open, and so many bytes are written. -/
  | writing (file written : Nat)
  | synced
  | renamed
  | failed
  | returned (ok : Bool)
deriving DecidableEq, Repr

structure Call where
  target : Target
  bytes : Content
  phase : Phase

/-- A step of a call; `ok` is whether the operation succeeds. -/
inductive CallStep where
  | create (ok : Bool)
  /-- So many more bytes are written. -/
  | write (count : Nat)
  | writeFails
  | sync (ok : Bool)
  | rename (ok : Bool)
  /-- Removes the temporary file, and returns the error. -/
  | remove
  /-- Syncs the directory, whether that succeeds or not, and returns. -/
  | finish
deriving DecidableEq, Repr

/-- Where the call is next, and what the directory is. -/
def Call.advance (c : Call) (tmp : Text) (dir : Directory Text) :
    CallStep → Option (Phase × Directory Text)
  | .create ok =>
    match c.phase with
    | .named =>
      if ok then some (.writing (dir.opened tmp) 0, dir.create tmp) else some (.failed, dir)
    | _ => none
  | .write count =>
    match c.phase with
    | .writing file written =>
      if 0 < count ∧ written + count ≤ c.bytes.length then
        some (.writing file (written + count),
          dir.write file written ((c.bytes.drop written).take count))
      else
        none
    | _ => none
  | .writeFails =>
    match c.phase with
    | .writing _ written => if written < c.bytes.length then some (.failed, dir) else none
    | _ => none
  | .sync ok =>
    match c.phase with
    | .writing _ written =>
      if written = c.bytes.length then some (if ok then .synced else .failed, dir) else none
    | _ => none
  | .rename ok =>
    match c.phase with
    | .synced =>
      if ok then (dir.rename tmp c.target.name).map fun dir => (.renamed, dir)
      else some (.failed, dir)
    | _ => none
  | .remove =>
    match c.phase with
    | .failed => some (.returned false, dir.remove tmp)
    | _ => none
  | .finish =>
    match c.phase with
    | .renamed => some (.returned true, dir)
    | _ => none

structure State where
  dir : Directory Text
  /-- The calls in the order they took their numbers. -/
  calls : List Call

inductive Action where
  | start (target : Target) (bytes : Content)
  | call (seq : Nat) (step : CallStep)

def State.init (dir : Directory Text) : State := { dir, calls := [] }

def step (pid : Nat) (s : State) : Action → Option State
  | .start target bytes => some { s with calls := s.calls ++ [⟨target, bytes, .named⟩] }
  | .call seq act =>
    match s.calls[seq]? with
    | none => none
    | some c =>
      (c.advance (tmpName pid seq c.target) s.dir act).map fun next =>
        { dir := next.2, calls := s.calls.set seq { c with phase := next.1 } }

/-- Any interleaving of any calls. -/
abbrev Reaches (pid : Nat) (s t : State) : Prop :=
  Transition.Run (step pid) (fun _ _ => True) s t

end Rsbtd.WriteAtomic
