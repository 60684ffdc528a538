import Rsbtd.Engine.Registry
import Rsbtd.Transition.Runs

/-!
# Restoring the state directory

`Engine::restore`: scan the directory, mint and splice a uuid into legacy
records, move every record to its canonical name and post its add; then await
the adds in order, register the torrents and delete the records that lost.

A restore may fail at any call, and crash before any.  `Bindings` are the calls
that read and write a record; a torrent of the session is its position in
`State.session`, which is its id and its token.  The pump registers the same
torrents under the same uuids, and is left out.
-/

namespace Rsbtd.Restore

/-- The `.resume` files of the directory; other files are not looked at. -/
inductive Name where
  | resumeFile (uuid : Uuid)
  | other (stem : Nat)
deriving DecidableEq, Repr

/-- `β` are the bytes of a file, `α` the add params of a record, `ρ` the bytes
under its client data key and `τ` what tells torrents apart. -/
structure Bindings (τ α ρ β : Type) where
  /-- Reads no client data in a file that is too large for its second decode. -/
  readResumeData : β → Option (α × Option ρ)
  writeResumeDataWith : α → ρ → Option β
  torrent : α → τ
  toBencode : Uuid → ρ
  /-- `serde_bencode::from_bytes`: the uuid of the blob, where it has the key. -/
  fromBytes : ρ → Option (Option Uuid)
  /-- The bytes under the client data key, whether they are read or not. -/
  clientData : β → Option ρ
  /-- A file of these params and client data is not too large. -/
  fits : α → ρ → Bool

variable {τ α ρ β : Type}

namespace Bindings

/-- `RsbtData::from_bencode`; `fresh` is what `Uuid::new_v4` returns. -/
def fromBencode (b : Bindings τ α ρ β) (raw : Option ρ) (fresh : Uuid) : Option Uuid :=
  match raw with
  | none => some fresh
  | some bytes => (b.fromBytes bytes).map fun uuid => uuid.getD fresh

end Bindings

inductive Pc (α : Type) where
  /-- No engine runs. -/
  | down
  | next
  | quarantine (path : Name)
  | splice (path : Name) (atp : α) (uuid : Uuid)
  | rename (path : Name) (atp : α) (uuid : Uuid)
  | add (atp : α) (uuid : Uuid)
  /-- The adds before the `k`-th were awaited. -/
  | drain (k : Nat)
  | delete (loser : Uuid) (k : Nat)
  /-- `Engine::restore` returned. -/
  | up
deriving DecidableEq, Repr

structure State (τ α β : Type) where
  dir : AList fun _ : Name => β
  /-- The uuids minted so far, and those that were there before. -/
  known : List Uuid
  pc : Pc α
  /-- Entries of the directory the iteration has to yield yet. -/
  pending : List Name
  session : List τ
  adds : List (Uuid × Option TorrentId)
  registry : Registry

inductive Action where
  | start
  /-- `next_entry` yields the path, and the file can be read. -/
  | entry (path : Name) (fresh : Uuid) (ok : Bool)
  | eof
  /-- The next call of the restore. -/
  | perform (ok : Bool)
  | crash

namespace Action

/-- Not a failure and not a crash. -/
def isClean : Action → Bool
  | start | eof => true
  | entry _ _ ok | perform ok => ok
  | crash => false

end Action

namespace State

def initial (dir : AList fun _ : Name => β) (known : List Uuid) : State τ α β where
  dir
  known
  pc := .down
  pending := []
  session := []
  adds := []
  registry := .new

variable (s : State τ α β)

/-- The process ends; the directory stays. -/
def crash : State τ α β := initial s.dir s.known

/-- The body of the loop, up to the first call that changes the directory. -/
def entry (b : Bindings τ α ρ β) (path : Name) (fresh : Uuid) (ok : Bool) : State τ α β :=
  let s := { s with pending := s.pending.filter (· ≠ path) }
  match if ok then s.dir.lookup path else none with
  -- unreadable: skipped, and left in place
  | none => s
  | some bytes =>
    match b.readResumeData bytes with
    | none => { s with pc := .quarantine path }
    | some (atp, raw) =>
      let s := { s with known := fresh :: s.known }
      match b.fromBencode raw fresh with
      | none => { s with pc := .quarantine path }
      | some uuid =>
        -- a record without client data gets the minted uuid before it is renamed
        { s with pc := if raw.isNone then .splice path atp uuid else .rename path atp uuid }

/-- `fs::rename` onto the canonical name, replacing what was there.  Whether the
iteration yields a name that was replaced is unspecified. -/
def rename (path : Name) (atp : α) (uuid : Uuid) : State τ α β :=
  match s.dir.lookup path with
  | none => { s with pc := .next }
  | some bytes =>
    { s with
      dir := (s.dir.erase path).insert (.resumeFile uuid) bytes
      pending := s.pending.filter (· ≠ .resumeFile uuid)
      pc := .add atp uuid }

/-- The session's torrent for an add: the existing one, or a new one. -/
def add [DecidableEq τ] (torrent : τ) (uuid : Uuid) : State τ α β :=
  { s with
    -- the add of a torrent that the session has resolves to it
    session := if torrent ∈ s.session then s.session else s.session ++ [torrent]
    adds := s.adds ++ [(uuid, some (s.session.idxOf torrent))]
    pc := .next }

/-- One add is awaited. -/
def drain (k : Nat) (ok : Bool) : State τ α β :=
  match s.adds[k]? with
  | none => { s with pc := .up }
  | some (_, none) => { s with pc := .drain (k + 1) }
  | some (uuid, some id) =>
    if ok then
      let (registry, entry) := s.registry.upsert id id uuid
      { s with
        registry
        -- registered under another uuid: this record is a duplicate
        pc := if entry.uuid ≠ uuid then .delete uuid (k + 1) else .drain (k + 1) }
    else { s with pc := .drain (k + 1) }

def perform [DecidableEq τ] (b : Bindings τ α ρ β) (ok : Bool) : Option (State τ α β) :=
  match s.pc with
  | .quarantine path =>
    some { s with dir := if ok then s.dir.erase path else s.dir, pc := .next }
  | .splice path atp uuid =>
    match if ok then b.writeResumeDataWith atp (b.toBencode uuid) else none with
    | none => some { s with pc := .next }
    | some spliced => some { s with dir := s.dir.insert path spliced, pc := .rename path atp uuid }
  | .rename path atp uuid =>
    if path = .resumeFile uuid then some { s with pc := .add atp uuid }
    else if ok then some (s.rename path atp uuid)
    else some { s with pc := .next }
  | .add atp uuid =>
    if ok then some (s.add (b.torrent atp) uuid)
    else some { s with adds := s.adds ++ [(uuid, none)], pc := .next }
  | .drain k => some (s.drain k ok)
  | .delete loser k =>
    some { s with dir := if ok then s.dir.erase (.resumeFile loser) else s.dir, pc := .drain k }
  | .down | .next | .up => none

def step [DecidableEq τ] (b : Bindings τ α ρ β) (s : State τ α β) : Action → Option (State τ α β)
  | .start =>
    match s.pc with
    | .down => some { s with pc := .next, pending := s.dir.keys }
    | _ => none
  | .entry path fresh ok =>
    match s.pc with
    | .next => if fresh ∈ s.known then none else some (s.entry b path fresh ok)
    | _ => none
  | .eof =>
    match s.pc with
    | .next => if s.pending = [] then some { s with pc := .drain 0 } else none
    | _ => none
  | .perform ok => s.perform b ok
  | .crash => some s.crash

end State

end Rsbtd.Restore
