import Rsbtd.Engine.Restore
import Rsbtd.Verified.RegistryIndex

/-!
# What a restore never loses

Between any two steps, also after crashes and failed calls, every torrent that
had a valid record has one, and a record with a uuid is there unchanged or gone
for good.  A record is replaced or deleted only for another one of its torrent,
and an identity that is given out can be read again, unless `damages`.
-/

namespace Rsbtd.Restore

open Transition (Run)

variable {τ α ρ β : Type} {b : Bindings τ α ρ β} {s s' : State τ α β}
  {dir : AList fun _ : Name => β} {path name name' : Name} {bytes bytes' : β} {x y : τ}
  {u v uuid : Uuid} {atp : α}

/-! ## Records -/

namespace Bindings

/-- What is written can be read back, if it fits. -/
structure Lawful (b : Bindings τ α ρ β) : Prop where
  read_some : ∀ bytes atp raw, b.readResumeData bytes = some (atp, some raw) →
    b.clientData bytes = some raw
  write_torrent : ∀ bytes atp raw uuid bytes', b.readResumeData bytes = some (atp, raw) →
    b.writeResumeDataWith atp (b.toBencode uuid) = some bytes' →
      ∀ atp' raw', b.readResumeData bytes' = some (atp', raw') → b.torrent atp' = b.torrent atp
  read_write : ∀ bytes atp raw uuid, b.readResumeData bytes = some (atp, raw) →
    b.fits atp (b.toBencode uuid) = true →
      ∃ bytes' atp', b.writeResumeDataWith atp (b.toBencode uuid) = some bytes' ∧
        b.readResumeData bytes' = some (atp', some (b.toBencode uuid))
  from_to : ∀ uuid, b.fromBytes (b.toBencode uuid) = some (some uuid)

/-- A valid record: its torrent, and the uuid it carries. -/
def record (b : Bindings τ α ρ β) (bytes : β) : Option (τ × Option Uuid) :=
  (b.readResumeData bytes).bind fun read =>
    match b.clientData bytes with
    | none => some (b.torrent read.1, none)
    | some raw => (b.fromBytes raw).map fun uuid => (b.torrent read.1, uuid)

/-- The client data is there but has no uuid.  No release wrote such a record. -/
def Keyless (b : Bindings τ α ρ β) (bytes : β) : Prop :=
  ∃ atp raw, b.readResumeData bytes = some (atp, some raw) ∧ b.fromBytes raw = some none

/-- The file is read without the client data it has. -/
def Hidden (b : Bindings τ α ρ β) (bytes : β) : Prop :=
  ∃ atp, b.readResumeData bytes = some (atp, none) ∧ b.clientData bytes ≠ none

/-- A file that is read with client data. -/
theorem Lawful.record_some {raw : ρ} (lawful : b.Lawful)
    (read : b.readResumeData bytes = some (atp, some raw)) :
    b.record bytes = (b.fromBytes raw).map fun uuid => (b.torrent atp, uuid) := by
  simp [record, read, lawful.read_some bytes atp raw read]

/-- A file without client data. -/
theorem record_none (visible : ¬b.Hidden bytes) (read : b.readResumeData bytes = some (atp, none)) :
    b.record bytes = some (b.torrent atp, none) := by
  have absent : b.clientData bytes = none := by
    by_contra given
    exact visible ⟨atp, read, given⟩
  simp [record, read, absent]

/-- What is written for a record that fits. -/
theorem Lawful.record_write {raw : Option ρ} (lawful : b.Lawful)
    (read : b.readResumeData bytes = some (atp, raw))
    (written : b.writeResumeDataWith atp (b.toBencode uuid) = some bytes')
    (fits : b.fits atp (b.toBencode uuid) = true) :
    ∃ atp', b.readResumeData bytes' = some (atp', some (b.toBencode uuid)) ∧
      b.record bytes' = some (b.torrent atp, some uuid) := by
  obtain ⟨bytes'', atp', written', back⟩ := lawful.read_write bytes atp raw uuid read fits
  obtain rfl := Option.some.inj (written.symm.trans written')
  have torrent := lawful.write_torrent bytes atp raw uuid bytes' read written atp' _ back
  refine ⟨atp', back, ?_⟩
  simp [lawful.record_some back, lawful.from_to, torrent]

end Bindings

/-- The directory holds a record of the torrent with the uuid under the name. -/
def Carries (b : Bindings τ α ρ β) (dir : AList fun _ : Name => β) (name : Name) (x : τ)
    (u : Uuid) : Prop :=
  ∃ bytes, dir.lookup name = some bytes ∧ b.record bytes = some (x, some u)

/-- No two records carry one uuid, none hides it, and the minted uuids are new. -/
structure Separate (b : Bindings τ α ρ β) (dir : AList fun _ : Name => β) (known : List Uuid) :
    Prop where
  distinct : ∀ name name' x y u, Carries b dir name x u → Carries b dir name' y u → name = name'
  visible : ∀ name bytes, dir.lookup name = some bytes → ¬ b.Hidden bytes
  carried : ∀ name x u, Carries b dir name x u → u ∈ known
  named : ∀ u, dir.lookup (.resumeFile u) ≠ none → u ∈ known

/-- Besides, every record has a uuid or no client data. -/
structure Proper (b : Bindings τ α ρ β) (dir : AList fun _ : Name => β) (known : List Uuid) : Prop
    extends Separate b dir known where
  keyed : ∀ name bytes, dir.lookup name = some bytes → ¬ b.Keyless bytes

theorem Carries.inj (first : Carries b dir name x u) (second : Carries b dir name y v) :
    x = y ∧ u = v := by
  obtain ⟨bytes, here, record⟩ := first
  obtain ⟨bytes', here', record'⟩ := second
  obtain rfl := Option.some.inj (here.symm.trans here')
  simpa using record.symm.trans record'

theorem Carries.of_eq {dir' : AList fun _ : Name => β} (same : dir'.lookup name = dir.lookup name)
    (carries : Carries b dir name x u) : Carries b dir' name x u := by
  obtain ⟨bytes, here, record⟩ := carries
  exact ⟨bytes, same.trans here, record⟩

/-! ## The condition -/

/-- The rename of a record replaces a valid record of another torrent. -/
def State.clobbers [DecidableEq τ] (b : Bindings τ α ρ β) (s : State τ α β) : Action → Bool
  | .perform true =>
    match s.pc with
    | .rename path atp uuid =>
      decide (path ≠ .resumeFile uuid) &&
        ((s.dir.lookup (.resumeFile uuid)).bind b.record).any fun record =>
          decide (record.1 ≠ b.torrent atp)
    | _ => false
  | _ => false

/-- A legacy record is given a uuid that is not read again: it is too large then. -/
def State.outgrows (b : Bindings τ α ρ β) (s : State τ α β) : Action → Bool
  | .perform true =>
    match s.pc with
    | .splice _ atp uuid => !b.fits atp (b.toBencode uuid)
    | _ => false
  | _ => false

def State.damages [DecidableEq τ] (b : Bindings τ α ρ β) (s : State τ α β) (a : Action) : Bool :=
  s.clobbers b a || s.outgrows b a

theorem State.damages_eq_false [DecidableEq τ] {a : Action} : s.damages b a = false ↔
    s.clobbers b a = false ∧ s.outgrows b a = false := by
  simp [State.damages]

/-! ## The invariant -/

/-- What the restore knows about the record at hand. -/
def State.Holding (b : Bindings τ α ρ β) (s : State τ α β) : Prop :=
  match s.pc with
  | .quarantine path => ∀ bytes, s.dir.lookup path = some bytes → b.record bytes = none
  | .splice path atp uuid =>
    (∃ bytes, s.dir.lookup path = some bytes ∧ b.readResumeData bytes = some (atp, none)) ∧
      uuid ∈ s.known ∧ s.dir.lookup (.resumeFile uuid) = none ∧
      ∀ name x, ¬ Carries b s.dir name x uuid
  | .rename path atp uuid => Carries b s.dir path (b.torrent atp) uuid
  | .add atp uuid => Carries b s.dir (.resumeFile uuid) (b.torrent atp) uuid
  | .delete loser _ => ∃ id e, (loser, some id) ∈ s.adds ∧ s.registry.get id = some e ∧
      e.uuid ≠ loser
  | .down | .next | .drain _ | .up => True

/-- The adds are not awaited yet. -/
def Pc.isScanning : Pc α → Bool
  | .drain _ | .delete _ _ | .up => false
  | _ => true

/-- The record of an add is in place, or it was deleted as a duplicate. -/
def State.Posted (b : Bindings τ α ρ β) (s : State τ α β) (u : Uuid) (id : TorrentId) : Prop :=
  ∃ x, s.session[id]? = some x ∧ (Carries b s.dir (.resumeFile u) x u ∨
    s.dir.lookup (.resumeFile u) = none ∧ ∃ e, s.registry.get id = some e ∧ e.uuid ≠ u)

structure State.Safe (b : Bindings τ α ρ β) (s : State τ α β) : Prop where
  proper : Proper b s.dir s.known
  holding : s.Holding b
  session : s.session.Nodup
  posted : ∀ u id, (u, some id) ∈ s.adds → s.Posted b u id
  functional : ∀ u i j, (u, some i) ∈ s.adds → (u, some j) ∈ s.adds → i = j
  scanning : s.pc.isScanning = true → s.registry = .new
  registry : s.registry.Indexed
  registered : ∀ u e, s.registry.find u = some e →
    e.token = e.id ∧ (e.uuid, some e.id) ∈ s.adds

/-- Every torrent of the directory the runs started from still has a record. -/
def Covers (b : Bindings τ α ρ β) (before after : AList fun _ : Name => β) : Prop :=
  ∀ name bytes record, before.lookup name = some bytes → b.record bytes = some record →
    ∃ name' bytes' record', after.lookup name' = some bytes' ∧
      b.record bytes' = some record' ∧ record'.1 = record.1

/-- The uuid that is about to be spliced into a record. -/
def Pc.minted : Pc α → Option Uuid
  | .splice _ _ uuid => some uuid
  | _ => none

/-- Its records with a uuid are there unchanged, or gone for good. -/
def Preserves (b : Bindings τ α ρ β) (before : AList fun _ : Name => β) (s : State τ α β) : Prop :=
  ∀ name bytes x u, before.lookup name = some bytes → b.record bytes = some (x, some u) →
    (∃ name', s.dir.lookup name' = some bytes) ∨
      u ∈ s.known ∧ s.pc.minted ≠ some u ∧ ∀ name' y, ¬ Carries b s.dir name' y u

/-- What one step does to the records. -/
structure Shift (b : Bindings τ α ρ β) (s s' : State τ α β) : Prop where
  covers : Covers b s.dir s'.dir
  moved : ∀ name bytes x u, s.dir.lookup name = some bytes → b.record bytes = some (x, some u) →
    (∃ name', s'.dir.lookup name' = some bytes) ∨ ∀ name' y, ¬ Carries b s'.dir name' y u
  origin : ∀ name y u, Carries b s'.dir name y u →
    (∃ name' y', Carries b s.dir name' y' u) ∨ s.pc.minted = some u
  known : ∀ u ∈ s.known, u ∈ s'.known
  minted : ∀ u, s'.pc.minted = some u → s.pc.minted = some u ∨ u ∉ s.known

theorem Covers.refl (dir : AList fun _ : Name => β) : Covers b dir dir :=
  fun name bytes record here valid => ⟨name, bytes, record, here, valid, rfl⟩

theorem Covers.trans {first second third : AList fun _ : Name => β} (one : Covers b first second)
    (two : Covers b second third) : Covers b first third := by
  intro name bytes record here valid
  obtain ⟨name', bytes', record', here', valid', same'⟩ := one name bytes record here valid
  obtain ⟨name'', bytes'', record'', here'', valid'', same''⟩ :=
    two name' bytes' record' here' valid'
  exact ⟨name'', bytes'', record'', here'', valid'', same''.trans same'⟩

/-- A minted uuid is in no record yet. -/
theorem State.Safe.minted (safe : s.Safe b) (minted : s.pc.minted = some u) :
    u ∈ s.known ∧ ∀ name y, ¬ Carries b s.dir name y u := by
  have holding := safe.holding
  cases pc : s.pc <;> simp only [Pc.minted, pc] at minted
  case splice path atp uuid =>
    obtain rfl := Option.some.inj minted
    simp only [State.Holding, pc] at holding
    exact ⟨holding.2.1, holding.2.2.2⟩
  all_goals cases minted

theorem Preserves.shift (preserves : Preserves b dir s) (safe : s.Safe b) (shift : Shift b s s') :
    Preserves b dir s' := by
  intro name bytes x u here valid
  obtain ⟨name', here'⟩ | ⟨known, unminted, gone⟩ := preserves name bytes x u here valid
  · obtain kept | gone := shift.moved name' bytes x u here' valid
    · exact .inl kept
    · have carries : Carries b s.dir name' x u := ⟨bytes, here', valid⟩
      have known := safe.proper.carried name' x u carries
      refine .inr ⟨shift.known u known, fun minted => ?_, gone⟩
      obtain old | fresh := shift.minted u minted
      · exact (safe.minted old).2 name' x carries
      · exact fresh known
  · refine .inr ⟨shift.known u known, fun minted => ?_, fun name' y carries => ?_⟩
    · obtain old | fresh := shift.minted u minted
      · exact unminted old
      · exact fresh known
    · obtain ⟨name'', y', before⟩ | minted := shift.origin name' y u carries
      · exact gone name'' y' before
      · exact unminted minted

/-! ## Steps that leave the directory alone -/

theorem Proper.mono {known known' : List Uuid} (proper : Proper b dir known)
    (subset : ∀ u ∈ known, u ∈ known') : Proper b dir known' where
  distinct := proper.distinct
  visible := proper.visible
  keyed := proper.keyed
  carried := fun name x u carries => subset u (proper.carried name x u carries)
  named := fun u here => subset u (proper.named u here)

section Goto

variable {known : List Uuid} {pending : List Name} {pc : Pc α}

theorem State.Safe.goto (safe : s.Safe b) (subset : ∀ u ∈ s.known, u ∈ known)
    (holding : ({ s with known, pending, pc } : State τ α β).Holding b)
    (scanning : pc.isScanning = true → s.registry = .new) :
    ({ s with known, pending, pc } : State τ α β).Safe b where
  proper := safe.proper.mono subset
  holding := holding
  session := safe.session
  posted := safe.posted
  functional := safe.functional
  scanning := scanning
  registry := safe.registry
  registered := safe.registered

theorem Shift.of_dir (dir : s'.dir = s.dir) (subset : ∀ u ∈ s.known, u ∈ s'.known)
    (minted : ∀ u, s'.pc.minted = some u → s.pc.minted = some u ∨ u ∉ s.known) :
    Shift b s s' where
  covers := by
    rw [dir]
    exact .refl _
  moved name bytes x u here _ := .inl ⟨name, by rwa [dir]⟩
  origin name y u carries := .inl ⟨name, y, by rwa [dir] at carries⟩
  known := subset
  minted := minted

/-- The loop goes on, with the record as it was. -/
theorem next_safe (safe : s.Safe b) (scanning : s.pc.isScanning = true) :
    ({ s with pending, pc := .next } : State τ α β).Safe b ∧
      Shift b s { s with pending, pc := .next } :=
  ⟨safe.goto (fun _ known => known) trivial fun _ => safe.scanning scanning,
    .of_dir rfl (fun _ known => known) fun _ minted => by cases minted⟩

/-- The next add is awaited. -/
theorem drain_next_safe (safe : s.Safe b) (k : Nat) :
    ({ s with pc := .drain k } : State τ α β).Safe b ∧ Shift b s { s with pc := .drain k } :=
  ⟨safe.goto (fun _ known => known) trivial (fun later => by cases later),
    .of_dir rfl (fun _ known => known) fun _ minted => by cases minted⟩

end Goto

theorem crash_safe (safe : s.Safe b) : s.crash.Safe b ∧ Shift b s s.crash := by
  refine ⟨?_, .of_dir rfl (fun _ known => known) fun _ minted => by cases minted⟩
  exact
    { proper := safe.proper
      holding := trivial
      session := List.nodup_nil
      posted := by simp [State.crash, State.initial]
      functional := by simp [State.crash, State.initial]
      scanning := fun _ => rfl
      registry := .new
      registered := by simp [State.crash, State.initial, Registry.find, Registry.new] }

/-! ## Reading a record -/

/-- What the loop makes of a directory entry. -/
inductive Entered (b : Bindings τ α ρ β) (s : State τ α β) (path : Name) (fresh : Uuid)
    (ok : Bool) : List Uuid → Pc α → Prop where
  | skipped (unread : ok = true → s.dir.lookup path = none) : Entered b s path fresh ok s.known s.pc
  | corrupt {bytes : β} {known : List Uuid} (here : s.dir.lookup path = some bytes)
      (invalid : b.record bytes = none) (grown : ∀ u ∈ s.known, u ∈ known) :
      Entered b s path fresh ok known (.quarantine path)
  | legacy {bytes : β} {atp : α} (here : s.dir.lookup path = some bytes)
      (read : b.readResumeData bytes = some (atp, none)) :
      Entered b s path fresh ok (fresh :: s.known) (.splice path atp fresh)
  | carries {atp : α} {uuid : Uuid} (here : Carries b s.dir path (b.torrent atp) uuid) :
      Entered b s path fresh ok (fresh :: s.known) (.rename path atp uuid)

theorem entry_entered (lawful : b.Lawful) (proper : Proper b s.dir s.known) (path : Name)
    (fresh : Uuid) (ok : Bool) :
    ∃ known pc, Entered b s path fresh ok known pc ∧ s.entry b path fresh ok =
      { s with known, pc, pending := s.pending.filter (· ≠ path) } := by
  unfold State.entry
  cases found : (if ok then s.dir.lookup path else none) with
  | none =>
    have unread : ok = true → s.dir.lookup path = none := by
      rintro rfl
      simpa using found
    exact ⟨_, _, .skipped unread, by simp [found]⟩
  | some bytes =>
    have here : s.dir.lookup path = some bytes := by
      cases ok with
      | true => simpa using found
      | false => cases found
    cases read : b.readResumeData bytes with
    | none =>
      have invalid : b.record bytes = none := by simp [Bindings.record, read]
      exact ⟨_, _, .corrupt here invalid fun _ known => known, by simp [found, read]⟩
    | some parsed =>
      obtain ⟨atp, raw⟩ := parsed
      cases raw with
      | none => exact ⟨_, _, .legacy here read, by simp [found, read, Bindings.fromBencode]⟩
      | some raw =>
        cases decoded : b.fromBytes raw with
        | none =>
          have invalid : b.record bytes = none := by simp [lawful.record_some read, decoded]
          refine ⟨_, _, .corrupt here invalid fun _ => List.mem_cons_of_mem fresh, ?_⟩
          simp [found, read, Bindings.fromBencode, decoded]
        | some uuid =>
          cases uuid with
          | none => exact absurd ⟨atp, raw, read, decoded⟩ (proper.keyed path bytes here)
          | some uuid =>
            have record : b.record bytes = some (b.torrent atp, some uuid) := by
              simp [lawful.record_some read, decoded]
            refine ⟨_, _, .carries ⟨bytes, here, record⟩, ?_⟩
            simp [found, read, Bindings.fromBencode, decoded]

theorem entry_safe {fresh : Uuid} {ok : Bool} (lawful : b.Lawful) (safe : s.Safe b)
    (pc : s.pc = .next) (new : fresh ∉ s.known) :
    (s.entry b path fresh ok).Safe b ∧ Shift b s (s.entry b path fresh ok) := by
  have scanning : s.registry = .new := safe.scanning (by rw [pc]; rfl)
  obtain ⟨known, pc', entered, same⟩ := entry_entered lawful safe.proper path fresh ok
  rw [same]
  cases entered with
  | skipped unread =>
    exact ⟨safe.goto (fun _ known => known) (by simp [State.Holding, pc]) fun _ => scanning,
      .of_dir rfl (fun _ known => known) fun _ minted => .inl minted⟩
  | corrupt here invalid grown =>
    refine ⟨safe.goto grown ?_ fun _ => scanning,
      .of_dir rfl grown fun _ minted => by cases minted⟩
    intro bytes' here'
    obtain rfl := Option.some.inj (here.symm.trans here')
    exact invalid
  | legacy here read =>
    have grown : ∀ u ∈ s.known, u ∈ fresh :: s.known := fun _ => List.mem_cons_of_mem fresh
    -- the minted uuid was not known, so no file is named after it and no record carries it
    refine ⟨safe.goto grown ⟨⟨_, here, read⟩, List.mem_cons_self, ?_, ?_⟩ fun _ => scanning,
      .of_dir rfl grown fun u minted => ?_⟩
    · by_contra named
      exact new (safe.proper.named fresh named)
    · exact fun name x carries => new (safe.proper.carried name x fresh carries)
    · obtain rfl := Option.some.inj minted
      exact .inr new
  | carries here =>
    have grown : ∀ u ∈ s.known, u ∈ fresh :: s.known := fun _ => List.mem_cons_of_mem fresh
    exact ⟨safe.goto grown here fun _ => scanning,
      .of_dir rfl grown fun _ minted => by cases minted⟩

/-! ## Steps that change the directory -/

/-- The records of the torrents that were posted stay in place. -/
theorem State.Posted.of_eq {dir' : AList fun _ : Name => β} {pc : Pc α} {pending : List Name}
    {id : TorrentId}
    (same : ∀ x, Carries b s.dir (.resumeFile u) x u → Carries b dir' (.resumeFile u) x u)
    (gone : s.dir.lookup (.resumeFile u) = none → dir'.lookup (.resumeFile u) = none)
    (posted : s.Posted b u id) :
    ({ s with dir := dir', pending, pc } : State τ α β).Posted b u id := by
  obtain ⟨x, torrent, carries | ⟨absent, lost⟩⟩ := posted
  · exact ⟨x, torrent, .inl (same x carries)⟩
  · exact ⟨x, torrent, .inr ⟨gone absent, lost⟩⟩

theorem lookup_erase_some (here : (dir.erase path).lookup name = some bytes) :
    name ≠ path ∧ dir.lookup name = some bytes := by
  by_cases same : name = path
  · rw [same, AList.lookup_erase] at here
    cases here
  · rw [AList.lookup_erase_ne same] at here
    exact ⟨same, here⟩

theorem Carries.of_erase (carries : Carries b (dir.erase path) name x u) :
    name ≠ path ∧ Carries b dir name x u := by
  obtain ⟨bytes, here, record⟩ := carries
  obtain ⟨different, here⟩ := lookup_erase_some here
  exact ⟨different, bytes, here, record⟩

theorem Carries.erase (carries : Carries b dir name x u) (different : name ≠ path) :
    Carries b (dir.erase path) name x u :=
  carries.of_eq (AList.lookup_erase_ne different)

theorem Proper.erase {known : List Uuid} (proper : Proper b dir known) (path : Name) :
    Proper b (dir.erase path) known where
  distinct := fun name name' x y u first second =>
    proper.distinct name name' x y u first.of_erase.2 second.of_erase.2
  visible := fun name bytes here => proper.visible name bytes (lookup_erase_some here).2
  keyed := fun name bytes here => proper.keyed name bytes (lookup_erase_some here).2
  carried := fun name x u carries => proper.carried name x u carries.of_erase.2
  named := by
    intro u here
    obtain ⟨bytes, here⟩ := Option.ne_none_iff_exists'.mp here
    exact proper.named u (by simp [(lookup_erase_some here).2])

/-- A file that is no record is moved away. -/
theorem quarantine_safe (safe : s.Safe b) (pc : s.pc = .quarantine path) :
    ({ s with dir := s.dir.erase path, pc := .next } : State τ α β).Safe b ∧
      Shift b s { s with dir := s.dir.erase path, pc := .next } := by
  have invalid := safe.holding
  simp only [State.Holding, pc] at invalid
  have apart (name : Name) (bytes : β) (record : τ × Option Uuid)
      (here : s.dir.lookup name = some bytes) (valid : b.record bytes = some record) :
      name ≠ path := by
    rintro rfl
    cases (invalid bytes here).symm.trans valid
  have kept (name : Name) (bytes : β) (record : τ × Option Uuid)
      (here : s.dir.lookup name = some bytes) (valid : b.record bytes = some record) :
      (s.dir.erase path).lookup name = some bytes := by
    rw [AList.lookup_erase_ne (apart name bytes record here valid)]
    exact here
  constructor
  · exact
      { proper := safe.proper.erase path
        holding := trivial
        session := safe.session
        posted := fun u id mine => by
          apply (safe.posted u id mine).of_eq
          · rintro x ⟨bytes, here, valid⟩
            exact ⟨bytes, kept _ bytes _ here valid, valid⟩
          · intro absent
            by_cases same : Name.resumeFile u = path
            · rw [same, AList.lookup_erase]
            · rwa [AList.lookup_erase_ne same]
        functional := safe.functional
        scanning := fun _ => safe.scanning (by rw [pc]; rfl)
        registry := safe.registry
        registered := safe.registered }
  · exact
      { covers := fun name bytes record here valid =>
          ⟨name, bytes, record, kept name bytes record here valid, valid, rfl⟩
        moved := fun name bytes x u here valid => .inl ⟨name, kept name bytes _ here valid⟩
        origin := fun name y u carries => .inl ⟨name, y, carries.of_erase.2⟩
        known := fun _ known => known
        minted := fun _ minted => by cases minted }

theorem lookup_insert_cases (here : (dir.insert path bytes').lookup name = some bytes) :
    name = path ∧ bytes = bytes' ∨ name ≠ path ∧ dir.lookup name = some bytes := by
  by_cases same : name = path
  · rw [same, AList.lookup_insert] at here
    exact .inl ⟨same, (Option.some.inj here).symm⟩
  · rw [AList.lookup_insert_ne same] at here
    exact .inr ⟨same, here⟩

/-- The minted uuid is written into a legacy record, under its old name. -/
theorem splice_safe {spliced : β} (lawful : b.Lawful) (safe : s.Safe b)
    (pc : s.pc = .splice path atp uuid)
    (written : b.writeResumeDataWith atp (b.toBencode uuid) = some spliced)
    (fits : b.fits atp (b.toBencode uuid) = true) :
    ({ s with dir := s.dir.insert path spliced, pc := .rename path atp uuid } :
      State τ α β).Safe b ∧
    Shift b s { s with dir := s.dir.insert path spliced, pc := .rename path atp uuid } := by
  have holding := safe.holding
  simp only [State.Holding, pc] at holding
  obtain ⟨⟨legacy, here, read⟩, known, unnamed, unused⟩ := holding
  -- a legacy record whose client data is not hidden has no uuid, and gets one that is read again
  obtain ⟨atp', back, marked⟩ := lawful.record_write read written fits
  have unmarked := Bindings.record_none (safe.proper.visible path legacy here) read
  -- a record with a uuid is at another name
  have kept (name : Name) (x : τ) (u : Uuid) (carries : Carries b s.dir name x u) :
      name ≠ path := by
    rintro rfl
    obtain ⟨bytes, found, valid⟩ := carries
    obtain rfl := Option.some.inj (here.symm.trans found)
    cases unmarked.symm.trans valid
  have carried (name : Name) (x : τ) (u : Uuid)
      (carries : Carries b (s.dir.insert path spliced) name x u) :
      name = path ∧ u = uuid ∨ Carries b s.dir name x u := by
    obtain ⟨bytes, found, valid⟩ := carries
    obtain ⟨same, rfl⟩ | ⟨_, old⟩ := lookup_insert_cases found
    · have uuids := marked.symm.trans valid
      simp only [Option.some.injEq, Prod.mk.injEq] at uuids
      exact .inl ⟨same, uuids.2.symm⟩
    · exact .inr ⟨bytes, old, valid⟩
  constructor
  · exact
      { proper :=
          { distinct := by
              intro name name' x y u first second
              obtain ⟨rfl, rfl⟩ | old := carried name x u first
              · obtain ⟨rfl, _⟩ | old' := carried name' y u second
                · rfl
                · exact absurd old' (unused name' y)
              · obtain ⟨_, rfl⟩ | old' := carried name' y u second
                · exact absurd old (unused name x)
                · exact safe.proper.distinct name name' x y u old old'
            visible := by
              intro name bytes found
              obtain ⟨_, rfl⟩ | ⟨_, old⟩ := lookup_insert_cases found
              · rintro ⟨atp'', read', _⟩
                cases back.symm.trans read'
              · exact safe.proper.visible name bytes old
            keyed := by
              intro name bytes found
              obtain ⟨_, rfl⟩ | ⟨_, old⟩ := lookup_insert_cases found
              · rintro ⟨atp'', raw, read', keyless⟩
                have same := back.symm.trans read'
                simp only [Option.some.injEq, Prod.mk.injEq] at same
                rw [← same.2, lawful.from_to] at keyless
                cases keyless
              · exact safe.proper.keyed name bytes old
            carried := by
              intro name x u carries
              obtain ⟨_, rfl⟩ | old := carried name x u carries
              · exact known
              · exact safe.proper.carried name x u old
            named := by
              intro u found
              obtain ⟨bytes, found⟩ := Option.ne_none_iff_exists'.mp found
              obtain ⟨same, _⟩ | ⟨_, old⟩ := lookup_insert_cases found
              · exact safe.proper.named u (by rw [same]; simp [here])
              · exact safe.proper.named u (by simp [old]) }
        holding := ⟨_, AList.lookup_insert _, marked⟩
        session := safe.session
        posted := by
          intro u id mine
          have unregistered := safe.scanning (by rw [pc]; rfl)
          obtain ⟨x, torrent, carries | ⟨_, e, found, _⟩⟩ := safe.posted u id mine
          · exact ⟨x, torrent, .inl
              (carries.of_eq (AList.lookup_insert_ne (kept _ x u carries)))⟩
          · rw [unregistered] at found
            cases found
        functional := safe.functional
        scanning := fun _ => safe.scanning (by rw [pc]; rfl)
        registry := safe.registry
        registered := safe.registered }
  · exact
      { covers := by
          intro name bytes record found valid
          by_cases same : name = path
          · subst same
            obtain rfl := Option.some.inj (here.symm.trans found)
            obtain rfl := Option.some.inj (unmarked.symm.trans valid)
            exact ⟨_, _, _, AList.lookup_insert _, marked, rfl⟩
          · exact ⟨name, bytes, record, (AList.lookup_insert_ne same).trans found, valid, rfl⟩
        moved := by
          intro name bytes x u found valid
          exact .inl ⟨name, (AList.lookup_insert_ne
            (kept name x u ⟨bytes, found, valid⟩)).trans found⟩
        origin := by
          intro name y u carries
          obtain ⟨_, rfl⟩ | old := carried name y u carries
          · exact .inr (by rw [pc]; rfl)
          · exact .inl ⟨name, y, old⟩
        known := fun _ known => known
        minted := fun _ minted => by cases minted }

/-- A record moves to its canonical name; at most a record of its torrent makes
room for it. -/
theorem rename_safe {pending : List Name} (safe : s.Safe b) (pc : s.pc = .rename path atp uuid)
    (different : path ≠ .resumeFile uuid) (here : s.dir.lookup path = some bytes)
    (own : ∀ bytes' record, s.dir.lookup (.resumeFile uuid) = some bytes' →
      b.record bytes' = some record → record.1 = b.torrent atp) :
    ({ s with
      dir := (s.dir.erase path).insert (.resumeFile uuid) bytes
      pending, pc := .add atp uuid } : State τ α β).Safe b ∧
    Shift b s { s with
      dir := (s.dir.erase path).insert (.resumeFile uuid) bytes
      pending, pc := .add atp uuid } := by
  have source : Carries b s.dir path (b.torrent atp) uuid := by
    have holding := safe.holding
    simpa only [State.Holding, pc] using holding
  have marked : b.record bytes = some (b.torrent atp, some uuid) := by
    obtain ⟨bytes', here', record⟩ := source
    obtain rfl := Option.some.inj (here.symm.trans here')
    exact record
  have unregistered := safe.scanning (by rw [pc]; rfl)
  -- no other file carries this uuid, so the one that is replaced loses none
  have only (name : Name) (x : τ) (carries : Carries b s.dir name x uuid) : name = path :=
    safe.proper.distinct name path x _ uuid carries source
  have found_cases (name : Name) (bytes' : β)
      (found : ((s.dir.erase path).insert (.resumeFile uuid) bytes).lookup name = some bytes') :
      name = .resumeFile uuid ∧ bytes' = bytes ∨
        name ≠ .resumeFile uuid ∧ name ≠ path ∧ s.dir.lookup name = some bytes' := by
    obtain new | ⟨apart, old⟩ := lookup_insert_cases found
    · exact .inl new
    · exact .inr ⟨apart, lookup_erase_some old⟩
  have elsewhere (name : Name) (apart : name ≠ .resumeFile uuid) (moved : name ≠ path) :
      ((s.dir.erase path).insert (.resumeFile uuid) bytes).lookup name = s.dir.lookup name := by
    rw [AList.lookup_insert_ne apart, AList.lookup_erase_ne moved]
  have arrived : ((s.dir.erase path).insert (.resumeFile uuid) bytes).lookup
      (.resumeFile uuid) = some bytes := AList.lookup_insert _
  have carried (name : Name) (x : τ) (u : Uuid)
      (carries : Carries b ((s.dir.erase path).insert (.resumeFile uuid) bytes) name x u) :
      name = .resumeFile uuid ∧ u = uuid ∨ u ≠ uuid ∧ Carries b s.dir name x u := by
    obtain ⟨bytes', found, valid⟩ := carries
    obtain ⟨same, rfl⟩ | ⟨_, moved, old⟩ := found_cases name bytes' found
    · have uuids := marked.symm.trans valid
      simp only [Option.some.injEq, Prod.mk.injEq] at uuids
      exact .inl ⟨same, uuids.2.symm⟩
    · refine .inr ⟨?_, bytes', old, valid⟩
      rintro rfl
      exact moved (only name x ⟨bytes', old, valid⟩)
  constructor
  · exact
      { proper :=
          { distinct := by
              intro name name' x y u first second
              obtain ⟨rfl, rfl⟩ | ⟨other, old⟩ := carried name x u first
              · obtain ⟨rfl, _⟩ | ⟨other, _⟩ := carried name' y u second
                · rfl
                · exact absurd rfl other
              · obtain ⟨_, rfl⟩ | ⟨_, old'⟩ := carried name' y u second
                · exact absurd rfl other
                · exact safe.proper.distinct name name' x y u old old'
            visible := by
              intro name bytes' found
              obtain ⟨_, rfl⟩ | ⟨_, _, old⟩ := found_cases name bytes' found
              · exact safe.proper.visible path _ here
              · exact safe.proper.visible name bytes' old
            keyed := by
              intro name bytes' found
              obtain ⟨_, rfl⟩ | ⟨_, _, old⟩ := found_cases name bytes' found
              · exact safe.proper.keyed path _ here
              · exact safe.proper.keyed name bytes' old
            carried := by
              intro name x u carries
              obtain ⟨_, rfl⟩ | ⟨_, old⟩ := carried name x u carries
              · exact safe.proper.carried path _ _ source
              · exact safe.proper.carried name x u old
            named := by
              intro u found
              obtain ⟨bytes', found⟩ := Option.ne_none_iff_exists'.mp found
              obtain ⟨same, _⟩ | ⟨_, _, old⟩ := found_cases _ bytes' found
              · cases same
                exact safe.proper.carried path _ _ source
              · exact safe.proper.named u (by simp [old]) }
        holding := ⟨bytes, arrived, marked⟩
        session := safe.session
        posted := by
          intro u id mine
          obtain ⟨x, torrent, carries | ⟨_, e, found, _⟩⟩ := safe.posted u id mine
          · have apart : u ≠ uuid := by
              rintro rfl
              exact different (only _ x carries).symm
            refine ⟨x, torrent, .inl (carries.of_eq (elsewhere _ ?_ ?_))⟩
            · simpa using apart
            · rintro rfl
              exact apart (carries.inj source).2
          · rw [unregistered] at found
            cases found
        functional := safe.functional
        scanning := fun _ => unregistered
        registry := safe.registry
        registered := safe.registered }
  · exact
      { covers := by
          intro name bytes' record found valid
          by_cases moved : name = path
          · subst moved
            obtain rfl := Option.some.inj (here.symm.trans found)
            exact ⟨_, _, _, arrived, valid, rfl⟩
          · by_cases replaced : name = .resumeFile uuid
            · -- what is replaced, if it was a record, was one of the same torrent
              subst replaced
              exact ⟨_, _, _, arrived, marked, (own bytes' record found valid).symm⟩
            · exact ⟨name, bytes', record, (elsewhere name replaced moved).trans found, valid, rfl⟩
        moved := by
          intro name bytes' x u found valid
          by_cases moved : name = path
          · subst moved
            obtain rfl := Option.some.inj (here.symm.trans found)
            exact .inl ⟨_, arrived⟩
          · by_cases replaced : name = .resumeFile uuid
            · -- the replaced record was the only one with its uuid
              refine .inr fun name' y carries => ?_
              obtain ⟨_, rfl⟩ | ⟨other, old⟩ := carried name' y u carries
              · exact moved (only name x ⟨bytes', found, valid⟩)
              · obtain rfl := safe.proper.distinct name name' x y u ⟨bytes', found, valid⟩ old
                rw [replaced] at carries
                exact other (carries.inj ⟨bytes, arrived, marked⟩).2
            · exact .inl ⟨name, (elsewhere name replaced moved).trans found⟩
        origin := by
          intro name y u carries
          obtain ⟨_, rfl⟩ | ⟨_, old⟩ := carried name y u carries
          · exact .inl ⟨path, _, source⟩
          · exact .inl ⟨name, y, old⟩
        known := fun _ known => known
        minted := fun _ minted => by cases minted }

/-! ## Adding and awaiting -/

/-- The index of an element in a list that it is appended to, if it is new. -/
theorem getElem?_idxOf_append [DecidableEq τ] (session : List τ) (x : τ) :
    (if x ∈ session then session else session ++ [x])[session.idxOf x]? = some x := by
  by_cases known : x ∈ session
  · rw [if_pos known, List.getElem?_eq_getElem (List.idxOf_lt_length_of_mem known),
      List.getElem_idxOf]
  · rw [if_neg known, List.idxOf_eq_length known]
    simp

theorem getElem?_append_of_known [DecidableEq τ] {session : List τ} {id : Nat}
    (here : session[id]? = some x) (y : τ) :
    (if y ∈ session then session else session ++ [y])[id]? = some x := by
  by_cases known : y ∈ session
  · rwa [if_pos known]
  · rw [if_neg known, List.getElem?_append_left (List.getElem?_eq_some_iff.mp here).1]
    exact here

theorem add_safe [DecidableEq τ] (safe : s.Safe b) (pc : s.pc = .add atp uuid) :
    (s.add (b.torrent atp) uuid).Safe b ∧ Shift b s (s.add (b.torrent atp) uuid) := by
  have placed : Carries b s.dir (.resumeFile uuid) (b.torrent atp) uuid := by
    have holding := safe.holding
    simpa only [State.Holding, pc] using holding
  have unregistered := safe.scanning (by rw [pc]; rfl)
  have posted (u : Uuid) (id : TorrentId) (mine : (u, some id) ∈ s.adds) :
      ∃ x, s.session[id]? = some x ∧ Carries b s.dir (.resumeFile u) x u := by
    obtain ⟨x, torrent, carries | ⟨_, e, found, _⟩⟩ := safe.posted u id mine
    · exact ⟨x, torrent, carries⟩
    · rw [unregistered] at found
      cases found
  have own := getElem?_idxOf_append s.session (b.torrent atp)
  have nodup : (s.add (b.torrent atp) uuid).session.Nodup := by
    unfold State.add
    by_cases known : b.torrent atp ∈ s.session
    · simpa only [if_pos known] using safe.session
    · simp only [if_neg known]
      exact List.nodup_append_comm.mp (List.nodup_cons.mpr ⟨known, safe.session⟩)
  -- the torrents of two adds of one record are the same
  have again (j : TorrentId) (mine : (uuid, some j) ∈ s.adds) :
      j = s.session.idxOf (b.torrent atp) := by
    obtain ⟨x, torrent, carries⟩ := posted uuid j mine
    obtain rfl := (carries.inj placed).1
    have kept := getElem?_append_of_known torrent (b.torrent atp)
    have inside := (List.getElem?_eq_some_iff.mp kept).1
    exact (List.getElem?_inj inside nodup).mp (kept.trans own.symm)
  refine ⟨?_, .of_dir rfl (fun _ known => known) fun _ minted => by cases minted⟩
  exact
    { proper := safe.proper
      holding := trivial
      session := nodup
      posted := by
        intro u id mine
        obtain old | new := List.mem_append.mp mine
        · obtain ⟨x, torrent, carries⟩ := posted u id old
          exact ⟨x, getElem?_append_of_known torrent _, .inl carries⟩
        · obtain ⟨rfl, rfl⟩ : u = uuid ∧ id = s.session.idxOf (b.torrent atp) := by
            simpa using new
          exact ⟨b.torrent atp, own, .inl placed⟩
      functional := by
        intro u i j first second
        obtain old | new := List.mem_append.mp first
        · obtain old' | new' := List.mem_append.mp second
          · exact safe.functional u i j old old'
          · obtain ⟨rfl, rfl⟩ : u = uuid ∧ j = s.session.idxOf (b.torrent atp) := by
              simpa using new'
            exact again i old
        · obtain ⟨rfl, rfl⟩ : u = uuid ∧ i = s.session.idxOf (b.torrent atp) := by
            simpa using new
          obtain old' | new' := List.mem_append.mp second
          · exact (again j old').symm
          · simpa using (List.mem_singleton.mp new').symm
      scanning := fun _ => unregistered
      registry := safe.registry
      registered := fun u e found =>
        ⟨(safe.registered u e found).1, List.mem_append_left _ (safe.registered u e found).2⟩ }

/-- The registration of a torrent loses no other one. -/
theorem get_upsert_of_get {r : Registry} {id id' : TorrentId} {token : Token} {e : TorrentEntry}
    (indexed : r.Indexed) (indexed' : (r.upsert id token uuid).1.Indexed)
    (unknown : r.get id = none) (unused : r.find uuid = none) (found : r.get id' = some e) :
    (r.upsert id token uuid).1.get id' = some e := by
  obtain ⟨same, stored⟩ := indexed.get_iff.mp found
  rw [indexed'.get_iff, Registry.upsert_find_new unknown, if_neg]
  · exact ⟨same, stored⟩
  · rintro other
    rw [other, unused] at stored
    cases stored

/-- What a step of the registration may do to the state. -/
inductive Drained (s : State τ α β) (k : Nat) (ok : Bool) : State τ α β → Prop where
  | finished (none : s.adds[k]? = none) : Drained s k ok { s with pc := .up }
  | skipped {add : Uuid × Option TorrentId} (here : s.adds[k]? = some add)
      (failed : ok = true → add.2 = none) : Drained s k ok { s with pc := .drain (k + 1) }
  | known {uuid : Uuid} {id : TorrentId} {e : TorrentEntry}
      (here : s.adds[k]? = some (uuid, some id)) (found : s.registry.get id = some e)
      (same : e.uuid = uuid) :
      Drained s k ok { s with pc := .drain (k + 1) }
  | loser {uuid : Uuid} {id : TorrentId} {e : TorrentEntry}
      (here : s.adds[k]? = some (uuid, some id)) (found : s.registry.get id = some e)
      (other : e.uuid ≠ uuid) :
      Drained s k ok { s with pc := .delete uuid (k + 1) }
  | new {uuid : Uuid} {id : TorrentId} (here : s.adds[k]? = some (uuid, some id))
      (unknown : s.registry.get id = none) :
      Drained s k ok { s with
        registry := (s.registry.upsert id id uuid).1
        pc := .drain (k + 1) }

theorem drain_drained (s : State τ α β) (k : Nat) (ok : Bool) : Drained s k ok (s.drain k ok) := by
  unfold State.drain
  cases here : s.adds[k]? with
  | none => exact .finished here
  | some add =>
    obtain ⟨uuid, id⟩ := add
    cases id with
    | none => exact .skipped here fun _ => rfl
    | some id =>
      cases ok with
      | false => exact .skipped here (by simp)
      | true =>
        cases found : s.registry.get id with
        | some e =>
          by_cases same : e.uuid = uuid
          · simpa [Registry.upsert_of_registered found, same] using Drained.known here found same
          · simpa [Registry.upsert_of_registered found, same] using Drained.loser here found same
        | none =>
          have entry := (Registry.upsert_of_unregistered id uuid found).1
          simpa [entry] using Drained.new here found

/-- A torrent that is not registered has not lent its uuid to another. -/
theorem State.Safe.unused {id : TorrentId} (safe : s.Safe b) (mine : (uuid, some id) ∈ s.adds)
    (unknown : s.registry.get id = none) : s.registry.find uuid = none := by
  by_contra used
  obtain ⟨e, found⟩ := Option.ne_none_iff_exists'.mp used
  have named := safe.registry.uuid uuid e found
  obtain ⟨_, added⟩ := safe.registered uuid e found
  rw [named] at added
  obtain rfl := safe.functional uuid e.id id added mine
  have known := safe.registry.get_iff.mpr ⟨rfl, by rwa [named]⟩
  cases unknown.symm.trans known

theorem drain_safe (safe : s.Safe b) (k : Nat) (ok : Bool) :
    (s.drain k ok).Safe b ∧ Shift b s (s.drain k ok) := by
  have same : ∀ u ∈ s.known, u ∈ s.known := fun _ known => known
  have drained := drain_drained s k ok
  generalize s.drain k ok = t at drained ⊢
  cases drained with
  | finished none =>
    exact ⟨safe.goto same trivial (fun later => by cases later),
      .of_dir rfl same fun _ minted => by cases minted⟩
  | skipped here failed => exact drain_next_safe safe _
  | known here found kept => exact drain_next_safe safe _
  | loser here found other =>
    have holding : ∃ id e, (_, some id) ∈ s.adds ∧ s.registry.get id = some e ∧ e.uuid ≠ _ :=
      ⟨_, _, List.mem_of_getElem? here, found, other⟩
    exact ⟨safe.goto same holding (fun later => by cases later),
      .of_dir rfl same fun _ minted => by cases minted⟩
  | @new uuid id here unknown =>
    have mine := List.mem_of_getElem? here
    have unused := safe.unused mine unknown
    have indexed : (s.registry.upsert id id uuid).1.Indexed := by
      apply safe.registry.upsert_new unknown unused
      rintro e found token
      rw [(safe.registered e.uuid e found).1] at token
      cases unknown.symm.trans (safe.registry.get_iff.mpr ⟨token, found⟩)
    refine ⟨?_, .of_dir rfl same fun _ minted => by cases minted⟩
    exact
      { proper := safe.proper
        holding := trivial
        session := safe.session
        posted := by
          intro u id' mine
          obtain ⟨x, torrent, carries | ⟨absent, e, found, other⟩⟩ := safe.posted u id' mine
          · exact ⟨x, torrent, .inl carries⟩
          · have kept := get_upsert_of_get safe.registry indexed unknown unused found
            exact ⟨x, torrent, .inr ⟨absent, e, kept, other⟩⟩
        functional := safe.functional
        scanning := fun later => by cases later
        registry := indexed
        registered := by
          intro u e found
          rw [Registry.upsert_find_new unknown] at found
          by_cases here : u = uuid
          · rw [if_pos here] at found
            obtain rfl := Option.some.inj found
            exact ⟨rfl, mine⟩
          · rw [if_neg here] at found
            exact safe.registered u e found }

/-- The record of a registered torrent is in place. -/
theorem State.Safe.winner {id : TorrentId} {e : TorrentEntry} (safe : s.Safe b)
    (found : s.registry.get id = some e) :
    ∃ x, s.session[id]? = some x ∧ Carries b s.dir (.resumeFile e.uuid) x e.uuid := by
  obtain ⟨rfl, stored⟩ := safe.registry.get_iff.mp found
  obtain ⟨x, torrent, carries | ⟨_, e', found', other⟩⟩ :=
    safe.posted e.uuid e.id (safe.registered e.uuid e stored).2
  · exact ⟨x, torrent, carries⟩
  · obtain rfl := Option.some.inj (found.symm.trans found')
    exact absurd rfl other

/-- The record of a duplicate is deleted; its torrent keeps another one. -/
theorem delete_safe {k : Nat} (safe : s.Safe b) (pc : s.pc = .delete u k) :
    ({ s with dir := s.dir.erase (.resumeFile u), pc := .drain k } : State τ α β).Safe b ∧
      Shift b s { s with dir := s.dir.erase (.resumeFile u), pc := .drain k } := by
  have holding := safe.holding
  simp only [State.Holding, pc] at holding
  obtain ⟨id, e, mine, found, other⟩ := holding
  -- the torrent keeps the record of the add that came first
  obtain ⟨x, torrent, kept⟩ := safe.winner found
  have elsewhere : Name.resumeFile e.uuid ≠ .resumeFile u := by simpa using other
  -- the deleted file, if there is one, is the record of the duplicate
  have own (bytes : β) (here : s.dir.lookup (.resumeFile u) = some bytes) :
      b.record bytes = some (x, some u) := by
    obtain ⟨y, torrent', ⟨bytes', here', record⟩ | ⟨absent, _⟩⟩ := safe.posted u id mine
    · obtain rfl := Option.some.inj (here.symm.trans here')
      obtain rfl := Option.some.inj (torrent.symm.trans torrent')
      exact record
    · cases absent.symm.trans here
  constructor
  · exact
      { proper := safe.proper.erase _
        holding := trivial
        session := safe.session
        posted := by
          intro v id' mine'
          by_cases same : v = u
          · subst same
            obtain rfl := safe.functional v id id' mine mine'
            exact ⟨x, torrent, .inr ⟨AList.lookup_erase _ _, e, found, other⟩⟩
          · apply (safe.posted v id' mine').of_eq
            · exact fun y carries => carries.erase (by simpa using same)
            · intro absent
              rwa [AList.lookup_erase_ne (by simpa using same)]
        functional := safe.functional
        scanning := fun later => by cases later
        registry := safe.registry
        registered := safe.registered }
  · exact
      { covers := by
          intro name bytes record here valid
          by_cases same : name = .resumeFile u
          · subst same
            obtain rfl := Option.some.inj (valid.symm.trans (own bytes here))
            obtain ⟨bytes', here', record'⟩ := kept.erase elsewhere
            exact ⟨_, bytes', _, here', record', rfl⟩
          · exact ⟨name, bytes, record, (AList.lookup_erase_ne same).trans here, valid, rfl⟩
        moved := by
          intro name bytes y v here valid
          by_cases same : name = .resumeFile u
          · subst same
            refine .inr fun name' y' carries => ?_
            obtain ⟨apart, old⟩ := carries.of_erase
            exact apart (safe.proper.distinct _ _ y' y v old ⟨bytes, here, valid⟩)
          · exact .inl ⟨name, (AList.lookup_erase_ne same).trans here⟩
        origin := fun name y _ carries => .inl ⟨name, y, carries.of_erase.2⟩
        known := fun _ known => known
        minted := fun _ minted => by cases minted }

/-! ## Whole runs -/

theorem perform_safe [DecidableEq τ] {ok : Bool} (lawful : b.Lawful) (safe : s.Safe b)
    (harmless : s.damages b (.perform ok) = false) (stepped : s.perform b ok = some s') :
    s'.Safe b ∧ Shift b s s' := by
  obtain ⟨apart, lasting⟩ := State.damages_eq_false.mp harmless
  unfold State.perform at stepped
  cases pc : s.pc with
  | quarantine path =>
    simp only [pc, Option.some.injEq] at stepped
    subst stepped
    cases ok with
    | true => exact quarantine_safe safe pc
    | false => exact next_safe safe (by rw [pc]; rfl)
  | splice path atp uuid =>
    -- the legacy record gets the minted uuid in place
    simp only [pc] at stepped
    cases written : (if ok then b.writeResumeDataWith atp (b.toBencode uuid) else none) with
    | none =>
      simp only [written, Option.some.injEq] at stepped
      subst stepped
      exact next_safe safe (by rw [pc]; rfl)
    | some spliced =>
      simp only [written, Option.some.injEq] at stepped
      subst stepped
      obtain ⟨rfl, written⟩ := Option.ite_none_right_eq_some.mp written
      exact splice_safe lawful safe pc written (by simpa [State.outgrows, pc] using lasting)
  | rename path atp uuid =>
    -- a record under its canonical name stays where it is
    have source : Carries b s.dir path (b.torrent atp) uuid := by
      have holding := safe.holding
      simpa only [State.Holding, pc] using holding
    simp only [pc] at stepped
    -- any other name is renamed over the canonical one, which `clobbers` speaks of
    by_cases canonical : path = .resumeFile uuid
    · rw [if_pos canonical] at stepped
      cases stepped
      have placed : Carries b s.dir (.resumeFile uuid) (b.torrent atp) uuid := by
        rwa [canonical] at source
      exact ⟨safe.goto (fun _ known => known) placed fun _ => safe.scanning (by rw [pc]; rfl),
        .of_dir rfl (fun _ known => known) fun _ minted => by cases minted⟩
    · rw [if_neg canonical] at stepped
      cases ok with
      | false =>
        cases stepped
        exact next_safe safe (by rw [pc]; rfl)
      | true =>
        cases stepped
        obtain ⟨bytes, here, _⟩ := source
        simp only [State.rename, here]
        apply rename_safe safe pc canonical here
        intro bytes' record here' valid
        simpa [State.clobbers, pc, canonical, here', valid] using apart
  | add atp uuid =>
    simp only [pc] at stepped
    cases ok with
    | true =>
      cases stepped
      exact add_safe safe pc
    | false =>
      cases stepped
      have old (u : Uuid) (id : TorrentId) (mine : (u, some id) ∈ s.adds ++ [(uuid, none)]) :
          (u, some id) ∈ s.adds := by simpa using mine
      refine ⟨?_, .of_dir rfl (fun _ known => known) fun _ minted => by cases minted⟩
      exact
        { proper := safe.proper
          holding := trivial
          session := safe.session
          posted := fun u id mine => safe.posted u id (old u id mine)
          functional := fun u i j first second =>
            safe.functional u i j (old u i first) (old u j second)
          scanning := fun _ => safe.scanning (by rw [pc]; rfl)
          registry := safe.registry
          registered := fun u e found => ⟨(safe.registered u e found).1,
            List.mem_append_left _ (safe.registered u e found).2⟩ }
  | drain k =>
    simp only [pc, Option.some.injEq] at stepped
    subst stepped
    exact drain_safe safe k ok
  | delete loser k =>
    -- the uuid under which the same torrent was registered already keeps its record
    simp only [pc, Option.some.injEq] at stepped
    subst stepped
    cases ok with
    | true => exact delete_safe safe pc
    | false => exact drain_next_safe safe k
  | down => simp [pc] at stepped
  | next => simp [pc] at stepped
  | up => simp [pc] at stepped

theorem step_safe [DecidableEq τ] {a : Action} (lawful : b.Lawful) (safe : s.Safe b)
    (harmless : s.damages b a = false) (stepped : s.step b a = some s') :
    s'.Safe b ∧ Shift b s s' := by
  cases a with
  | start =>
    simp only [State.step] at stepped
    split at stepped
    case h_1 pc =>
      cases stepped
      exact next_safe safe (by rw [pc]; rfl)
    case h_2 => cases stepped
  | entry path fresh ok =>
    simp only [State.step] at stepped
    split at stepped
    case h_1 pc =>
      obtain ⟨new, ⟨⟩⟩ := Option.ite_none_left_eq_some.mp stepped
      exact entry_safe lawful safe pc new
    case h_2 => cases stepped
  | eof =>
    simp only [State.step] at stepped
    split at stepped
    case h_1 pc =>
      obtain ⟨_, ⟨⟩⟩ := Option.ite_none_right_eq_some.mp stepped
      exact drain_next_safe safe 0
    case h_2 => cases stepped
  | perform ok => exact perform_safe lawful safe harmless stepped
  | crash =>
    cases stepped
    exact crash_safe safe

/-- Restores and crashes, one after the other. -/
abbrev RestoreRun [DecidableEq τ] (b : Bindings τ α ρ β) (ok : State τ α β → Action → Prop)
    (s t : State τ α β) : Prop :=
  Run (State.step b) ok s t

theorem initial_safe {known : List Uuid} (proper : Proper b dir known) :
    (State.initial dir known : State τ α β).Safe b where
  proper := proper
  holding := trivial
  session := List.nodup_nil
  posted := by simp [State.initial]
  functional := by simp [State.initial]
  scanning := fun _ => rfl
  registry := .new
  registered := by simp [State.initial, Registry.find, Registry.new]

/-- No torrent is lost, and no record is changed. -/
theorem safe_run [DecidableEq τ] (lawful : b.Lawful) {known : List Uuid}
    (proper : Proper b dir known)
    (run : RestoreRun b (fun s a => s.damages b a = false) (.initial dir known) s) :
    s.Safe b ∧ Covers b dir s.dir ∧ Preserves b dir s := by
  refine Run.invariant (I := fun t => t.Safe b ∧ Covers b dir t.dir ∧ Preserves b dir t)
    ⟨initial_safe proper, .refl dir, fun name _ _ _ here _ => .inl ⟨name, here⟩⟩ ?_ run
  rintro t a u _ ⟨safe, covers, preserves⟩ harmless stepped
  obtain ⟨safe', shift⟩ := step_safe lawful safe harmless stepped
  exact ⟨safe', covers.trans shift.covers, preserves.shift safe shift⟩

end Rsbtd.Restore
