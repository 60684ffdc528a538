import Rsbtd.Verified.RecordFormat

/-!
# What a complete restore establishes

A restore without failures ends with one canonical record per torrent, and with
every torrent registered under the uuid of its record.  No later restore changes
a file again.
-/

namespace Rsbtd.Restore

open Transition (Run exec exists_run_of_exec)
open Bencode (Bytes)

variable {τ α ρ β : Type} {b : Bindings τ α ρ β} {s s' t : State τ α β}
  {dir : AList fun _ : Name => β} {path name : Name} {u uuid : Uuid} {x : τ}

/-! ## No file is left out -/

/-- The file whose record the loop is at. -/
def Pc.file : Pc α → Option Name
  | .quarantine path | .splice path _ _ | .rename path _ _ => some path
  | .add _ uuid => some (.resumeFile uuid)
  | _ => none

/-- The adds that were awaited. -/
def State.drained (s : State τ α β) : Nat :=
  match s.pc with
  | .drain k | .delete _ k => k
  | .up => s.adds.length
  | _ => 0

/-- The duplicate that is about to be deleted. -/
def Pc.loser : Pc α → Option Uuid
  | .delete loser _ => some loser
  | _ => none

/-- Files are read, or will be; and awaited adds won or lost. -/
structure State.Tracked (s : State τ α β) : Prop where
  accounted : ∀ name, s.dir.lookup name ≠ none →
    name ∈ s.pending ∨ s.pc.file = some name ∨
      ∃ u id, name = .resumeFile u ∧ (u, some id) ∈ s.adds
  scanned : s.pc.isScanning = false → s.pending = []
  settled : ∀ i u id, i < s.drained → s.adds[i]? = some (u, some id) →
    ∃ e, s.registry.get id = some e ∧
      (e.uuid = u ∨ s.pc.loser = some u ∨ s.dir.lookup (.resumeFile u) = none)

theorem start_tracked :
    ({ s with pc := .next, pending := s.dir.keys } : State τ α β).Tracked where
  accounted := by
    intro name here
    exact .inl (AList.mem_keys.mpr (AList.lookup_isSome.mp (Option.isSome_iff_ne_none.mpr here)))
  scanned := fun later => by cases later
  settled := fun _ _ _ inside => by cases inside

theorem entry_tracked {fresh : Uuid} (lawful : b.Lawful) (safe : s.Safe b) (tracked : s.Tracked)
    (pc : s.pc = .next) : (s.entry b path fresh true).Tracked := by
  obtain ⟨known, pc', entered, same⟩ := entry_entered lawful safe.proper path fresh true
  rw [same]
  have scanning : pc'.isScanning = true := by
    cases entered <;> first | rfl | (rw [pc]; rfl)
  constructor
  case accounted =>
    intro name here
    by_cases own : name = path
    · subst own
      cases entered with
      | skipped unread => exact absurd (unread rfl) here
      | corrupt => exact .inr (.inl rfl)
      | legacy => exact .inr (.inl rfl)
      | carries => exact .inr (.inl rfl)
    · obtain waiting | held | posted := tracked.accounted name here
      · exact .inl (List.mem_filter.mpr ⟨waiting, by simpa using own⟩)
      · rw [pc] at held
        cases held
      · exact .inr (.inr posted)
  case scanned =>
    intro later
    cases scanning.symm.trans later
  case settled =>
    intro i u id inside
    exfalso
    cases entered <;> simp [State.drained, pc] at inside

theorem eof_tracked (tracked : s.Tracked) (pc : s.pc = .next) (empty : s.pending = []) :
    ({ s with pc := .drain 0 } : State τ α β).Tracked where
  accounted := by
    intro name here
    obtain waiting | held | posted := tracked.accounted name here
    · exact .inl waiting
    · rw [pc] at held
      cases held
    · exact .inr (.inr posted)
  scanned := fun _ => empty
  settled := fun _ _ _ inside => by cases inside

theorem drain_tracked {k : Nat} (safe : s.Safe b) (tracked : s.Tracked) (pc : s.pc = .drain k) :
    (s.drain k true).Tracked := by
  have empty : s.pending = [] := tracked.scanned (by rw [pc]; rfl)
  have accounted (name : Name) (here : s.dir.lookup name ≠ none) :
      ∃ u id, name = .resumeFile u ∧ (u, some id) ∈ s.adds := by
    obtain waiting | held | posted := tracked.accounted name here
    · rw [empty] at waiting
      cases waiting
    · rw [pc] at held
      cases held
    · exact posted
  -- it is enough to say what became of the `k`-th add
  have next (registry : Registry) (pc' : Pc α)
      (kept : ∀ id e, s.registry.get id = some e → registry.get id = some e)
      (bound : ∀ i, i < ({ s with registry, pc := pc' } : State τ α β).drained → i < k ∨ i = k)
      (own : ∀ u id, s.adds[k]? = some (u, some id) →
        ∃ e, registry.get id = some e ∧ (e.uuid = u ∨ pc'.loser = some u)) :
      ({ s with registry, pc := pc' } : State τ α β).Tracked := by
    constructor
    · exact fun name here => .inr (.inr (accounted name here))
    · exact fun _ => empty
    · intro i u id inside add
      obtain old | rfl := bound i inside
      · obtain ⟨e, found, won | lost | gone⟩ :=
          tracked.settled i u id (by simpa [State.drained, pc]) add
        · exact ⟨e, kept id e found, .inl won⟩
        · rw [pc] at lost
          cases lost
        · exact ⟨e, kept id e found, .inr (.inr gone)⟩
      · obtain ⟨e, found, won | lost⟩ := own u id add
        · exact ⟨e, found, .inl won⟩
        · exact ⟨e, found, .inr (.inl lost)⟩
  have same : ∀ id e, s.registry.get id = some e → s.registry.get id = some e :=
    fun _ _ found => found
  have safe' := (drain_safe safe k true).1
  have drained := drain_drained s k true
  generalize s.drain k true = t at drained safe' ⊢
  cases drained with
  | finished none =>
    apply next s.registry .up same
    · intro i inside
      exact .inl (lt_of_lt_of_le inside (List.getElem?_eq_none_iff.mp none))
    · intro u id add
      cases none.symm.trans add
  | skipped here failed =>
    apply next s.registry (.drain (k + 1)) same fun i => Nat.lt_succ_iff_lt_or_eq.mp
    intro u id add
    obtain rfl := Option.some.inj (here.symm.trans add)
    cases failed rfl
  | known here found won =>
    apply next s.registry (.drain (k + 1)) same fun i => Nat.lt_succ_iff_lt_or_eq.mp
    intro u id add
    cases here.symm.trans add
    exact ⟨_, found, .inl won⟩
  | loser here found other =>
    apply next s.registry (.delete _ (k + 1)) same fun i => Nat.lt_succ_iff_lt_or_eq.mp
    intro u id add
    cases here.symm.trans add
    exact ⟨_, found, .inr rfl⟩
  | new here unknown =>
    have unused := safe.unused (List.mem_of_getElem? here) unknown
    apply next _ (.drain (k + 1))
      (fun _ _ => get_upsert_of_get safe.registry safe'.registry unknown unused)
      fun i => Nat.lt_succ_iff_lt_or_eq.mp
    intro u id add
    cases here.symm.trans add
    exact ⟨_, (Registry.upsert_of_unregistered _ _ unknown).2, .inl rfl⟩

theorem delete_tracked {k : Nat} (tracked : s.Tracked) (pc : s.pc = .delete u k) :
    ({ s with dir := s.dir.erase (.resumeFile u), pc := .drain k } : State τ α β).Tracked := by
  constructor
  · intro name here
    obtain ⟨bytes, here⟩ := Option.ne_none_iff_exists'.mp here
    obtain ⟨_, here⟩ := lookup_erase_some here
    obtain waiting | held | posted := tracked.accounted name (by simp [here])
    · exact .inl waiting
    · rw [pc] at held
      cases held
    · exact .inr (.inr posted)
  · exact fun _ => tracked.scanned (by rw [pc]; rfl)
  · intro i v id inside add
    obtain ⟨e, found, won | lost | gone⟩ :=
      tracked.settled i v id (by simpa [State.drained, pc]) add
    · exact ⟨e, found, .inl won⟩
    · rw [pc] at lost
      obtain rfl := Option.some.inj lost
      exact ⟨e, found, .inr (.inr (AList.lookup_erase _ _))⟩
    · refine ⟨e, found, .inr (.inr ?_)⟩
      by_cases same : v = u
      · rw [same]
        exact AList.lookup_erase _ _
      · exact (AList.lookup_erase_ne (by simpa using same)).trans gone

/-- A step of the loop body: every file is still accounted for. -/
theorem scan_tracked (s' : State τ α β) (tracked : s.Tracked)
    (scanning : s'.pc.isScanning = true)
    (accounted : ∀ name, s'.dir.lookup name ≠ none → s'.pc.file = some name ∨
      s.pc.file ≠ some name ∧ s.dir.lookup name ≠ none ∧ (name ∈ s.pending → name ∈ s'.pending) ∨
      ∃ u id, name = .resumeFile u ∧ (u, some id) ∈ s'.adds)
    (adds : ∀ add ∈ s.adds, add ∈ s'.adds) : s'.Tracked where
  accounted := by
    intro name here
    obtain held | ⟨apart, old, waits⟩ | posted := accounted name here
    · exact .inr (.inl held)
    · obtain waiting | held | ⟨u, id, named, posted⟩ := tracked.accounted name old
      · exact .inl (waits waiting)
      · exact absurd held apart
      · exact .inr (.inr ⟨u, id, named, adds _ posted⟩)
    · exact .inr (.inr posted)
  scanned := by
    intro later
    cases scanning.symm.trans later
  settled := by
    intro i u id inside
    exfalso
    cases pc : s'.pc <;> simp [State.drained, Pc.isScanning, pc] at inside scanning

theorem perform_tracked [DecidableEq τ] (lawful : b.Lawful) (safe : s.Safe b) (tracked : s.Tracked)
    (lasting : s.outgrows b (.perform true) = false) (stepped : s.perform b true = some s') :
    s'.Tracked := by
  unfold State.perform at stepped
  cases pc : s.pc with
  | quarantine path =>
    simp only [pc, Option.some.injEq] at stepped
    subst stepped
    refine scan_tracked _ tracked rfl (fun name here => ?_) fun _ mine => mine
    obtain ⟨bytes, here⟩ := Option.ne_none_iff_exists'.mp here
    obtain ⟨apart, here⟩ := lookup_erase_some here
    refine .inr (.inl ⟨?_, by simp [here], fun waiting => waiting⟩)
    rw [pc]
    simpa [Pc.file] using Ne.symm apart
  | splice path atp uuid =>
    have holding := safe.holding
    simp only [State.Holding, pc] at holding
    obtain ⟨⟨bytes, _, read⟩, _⟩ := holding
    have fits : b.fits atp (b.toBencode uuid) = true := by
      simpa [State.outgrows, pc] using lasting
    -- a uuid that fits is written, so the record goes on to its rename
    obtain ⟨spliced, _, written, _⟩ := lawful.read_write bytes atp none uuid read fits
    simp only [pc, if_true, written] at stepped
    cases stepped
    refine scan_tracked _ tracked rfl (fun name here => ?_) fun _ mine => mine
    by_cases own : name = path
    · exact .inl (by rw [own]; rfl)
    · rw [AList.lookup_insert_ne own] at here
      refine .inr (.inl ⟨?_, here, fun waiting => waiting⟩)
      rw [pc]
      simpa [Pc.file] using Ne.symm own
  | rename path atp uuid =>
    simp only [pc] at stepped
    by_cases canonical : path = .resumeFile uuid
    · rw [if_pos canonical] at stepped
      cases stepped
      refine scan_tracked _ tracked rfl (fun name here => ?_) fun _ mine => mine
      by_cases own : name = path
      · exact .inl (by rw [own, canonical]; rfl)
      · refine .inr (.inl ⟨?_, here, fun waiting => waiting⟩)
        rw [pc]
        simpa [Pc.file] using Ne.symm own
    · rw [if_neg canonical] at stepped
      cases stepped
      have holding := safe.holding
      simp only [State.Holding, pc] at holding
      obtain ⟨bytes, source, _⟩ := holding
      simp only [State.rename, source]
      refine scan_tracked _ tracked rfl (fun name here => ?_) fun _ mine => mine
      by_cases own : name = .resumeFile uuid
      · exact .inl (by rw [own]; rfl)
      · rw [AList.lookup_insert_ne own] at here
        obtain ⟨bytes', here⟩ := Option.ne_none_iff_exists'.mp here
        obtain ⟨apart, here⟩ := lookup_erase_some here
        refine .inr (.inl ⟨?_, by simp [here], fun waiting =>
          List.mem_filter.mpr ⟨waiting, by simpa using own⟩⟩)
        rw [pc]
        simpa [Pc.file] using Ne.symm apart
  | add atp uuid =>
    simp only [pc] at stepped
    cases stepped
    refine scan_tracked _ tracked rfl (fun name here => ?_) fun _ => List.mem_append_left _
    by_cases own : name = .resumeFile uuid
    · exact .inr (.inr ⟨uuid, _, own, List.mem_append_right _ List.mem_cons_self⟩)
    · refine .inr (.inl ⟨?_, here, fun waiting => waiting⟩)
      rw [pc]
      simpa [Pc.file] using Ne.symm own
  | drain k =>
    simp only [pc, Option.some.injEq] at stepped
    subst stepped
    exact drain_tracked safe tracked pc
  | delete loser k =>
    simp only [pc, Option.some.injEq] at stepped
    subst stepped
    exact delete_tracked tracked pc
  | down => simp [pc] at stepped
  | next => simp [pc] at stepped
  | up => simp [pc] at stepped

/-- A restore without failures, from its start to its end. -/
theorem tracked_run [DecidableEq τ] (lawful : b.Lawful) (safe : s.Safe b) (down : s.pc = .down)
    (complete : RestoreRun b (fun s a => s.damages b a = false ∧ a.isClean = true) s t)
    (up : t.pc = .up) : t.Safe b ∧ t.Tracked := by
  have reached : t.Safe b ∧ (t.pc = .down ∨ t.Tracked) := by
    refine Run.invariant (I := fun t => t.Safe b ∧ (t.pc = .down ∨ t.Tracked))
      ⟨safe, .inl down⟩ ?_ complete
    rintro t a u _ ⟨safe, tracked⟩ ⟨harmless, clean⟩ stepped
    refine ⟨(step_safe lawful safe harmless stepped).1, .inr ?_⟩
    cases a with
    | start =>
      simp only [State.step] at stepped
      split at stepped
      case h_1 pc =>
        cases stepped
        exact start_tracked
      case h_2 => cases stepped
    | entry path fresh ok =>
      obtain rfl : ok = true := clean
      simp only [State.step] at stepped
      split at stepped
      case h_1 pc =>
        obtain ⟨_, ⟨⟩⟩ := Option.ite_none_left_eq_some.mp stepped
        exact entry_tracked lawful safe (tracked.resolve_left (by simp [pc])) pc
      case h_2 => cases stepped
    | eof =>
      simp only [State.step] at stepped
      split at stepped
      case h_1 pc =>
        obtain ⟨empty, ⟨⟩⟩ := Option.ite_none_right_eq_some.mp stepped
        exact eof_tracked (tracked.resolve_left (by simp [pc])) pc empty
      case h_2 => cases stepped
    | perform ok =>
      obtain rfl : ok = true := clean
      have lasting := (State.damages_eq_false.mp harmless).2
      refine perform_tracked lawful safe (tracked.resolve_left ?_) lasting stepped
      intro pc
      simp [State.step, State.perform, pc] at stepped
    | crash => cases clean
  exact ⟨reached.1, reached.2.resolve_left (by simp [up])⟩

/-! ## The restored engine -/

/-- The torrent is registered, with this entry. -/
def State.Registers (s : State τ α β) (x : τ) (e : TorrentEntry) : Prop :=
  s.registry.get e.id = some e ∧ s.session[e.id]? = some x

/-- What was there before the first restore, and what there is now. -/
structure Restored (b : Bindings τ α ρ β) (before : AList fun _ : Name => β) (s : State τ α β) :
    Prop where
  /-- Every torrent is registered once, and has one record, with that uuid. -/
  once : ∀ name bytes record, before.lookup name = some bytes → b.record bytes = some record →
    ∃ e, s.Registers record.1 e ∧ (∀ e' ∈ s.registry.list, s.Registers record.1 e' → e' = e) ∧
      Carries b s.dir (.resumeFile e.uuid) record.1 e.uuid ∧
      ∀ name' bytes' record', s.dir.lookup name' = some bytes' →
        b.record bytes' = some record' → record'.1 = record.1 → name' = .resumeFile e.uuid
  /-- A record with a uuid is unchanged, unless another one of its torrent won. -/
  kept : ∀ name bytes x u, before.lookup name = some bytes → b.record bytes = some (x, some u) →
    s.dir.lookup (.resumeFile u) = some bytes ∨ ∃ e, s.Registers x e ∧ e.uuid ≠ u

/-- A later state: no file has changed, and no torrent has another uuid. -/
structure Repeats (s s' : State τ α β) : Prop where
  dir : s'.dir = s.dir
  uuids : ∀ x e', s'.Registers x e' → ∃ e, s.Registers x e ∧ e.uuid = e'.uuid

/-- Every file is the record of a registered torrent. -/
theorem State.Tracked.registers (tracked : s.Tracked) (safe : s.Safe b) (up : s.pc = .up)
    (name : Name) (here : s.dir.lookup name ≠ none) :
    ∃ x e, s.Registers x e ∧ name = .resumeFile e.uuid ∧ Carries b s.dir name x e.uuid := by
  obtain waiting | held | ⟨u, id, rfl, posted⟩ := tracked.accounted name here
  · rw [tracked.scanned (by rw [up]; rfl)] at waiting
    cases waiting
  · rw [up] at held
    cases held
  · obtain ⟨i, add⟩ := List.getElem?_of_mem posted
    have inside : i < s.drained := by
      simpa [State.drained, up] using (List.getElem?_eq_some_iff.mp add).1
    obtain ⟨e, found, rfl | lost | gone⟩ := tracked.settled i u id inside add
    · obtain ⟨x, torrent, carries⟩ := safe.winner found
      obtain ⟨rfl, _⟩ := safe.registry.get_iff.mp found
      exact ⟨x, e, ⟨found, torrent⟩, rfl, carries⟩
    · rw [up] at lost
      cases lost
    · exact absurd gone here

theorem State.Registers.unique {e e' : TorrentEntry} (safe : s.Safe b) (first : s.Registers x e)
    (second : s.Registers x e') : e = e' := by
  -- the session has each torrent once, so its id is the same
  have inside := (List.getElem?_eq_some_iff.mp first.2).1
  have same := (List.getElem?_inj inside safe.session).mp (first.2.trans second.2.symm)
  exact Option.some.inj (first.1.symm.trans (same ▸ second.1))

/-- The record of a registered torrent carries the uuid it is registered under. -/
theorem State.Registers.carries {e : TorrentEntry} (safe : s.Safe b) (registers : s.Registers x e) :
    Carries b s.dir (.resumeFile e.uuid) x e.uuid := by
  obtain ⟨y, torrent, carries⟩ := safe.winner registers.1
  obtain rfl := Option.some.inj (registers.2.symm.trans torrent)
  exact carries

theorem restored_of_tracked (safe : s.Safe b) (tracked : s.Tracked) (up : s.pc = .up)
    (covers : Covers b dir s.dir) (preserves : Preserves b dir s) : Restored b dir s := by
  -- a record of the directory is the canonical one of its torrent
  have canonical (name : Name) (bytes : β) (record : τ × Option Uuid)
      (here : s.dir.lookup name = some bytes) (valid : b.record bytes = some record) :
      ∃ e, s.Registers record.1 e ∧ name = .resumeFile e.uuid ∧ record.2 = some e.uuid := by
    obtain ⟨x, e, registers, named, bytes', here', valid'⟩ :=
      tracked.registers safe up name (by simp [here])
    obtain rfl := Option.some.inj (here.symm.trans here')
    obtain rfl := Option.some.inj (valid.symm.trans valid')
    exact ⟨e, registers, named, rfl⟩
  constructor
  case once =>
    intro name bytes record here valid
    obtain ⟨name', bytes', record', here', valid', same⟩ := covers name bytes record here valid
    obtain ⟨e, registers, _, _⟩ := canonical name' bytes' record' here' valid'
    rw [same] at registers
    refine ⟨e, registers, fun e' _ other => other.unique safe registers,
      registers.carries safe, ?_⟩
    intro name'' bytes'' record'' here'' valid'' same''
    obtain ⟨e'', registers'', named, _⟩ := canonical name'' bytes'' record'' here'' valid''
    rw [same''] at registers''
    rw [named, registers''.unique safe registers]
  case kept =>
    intro name bytes x u here valid
    obtain ⟨name', here'⟩ | ⟨_, _, gone⟩ := preserves name bytes x u here valid
    · obtain ⟨e, _, named, carried⟩ := canonical name' bytes _ here' valid
      obtain rfl := Option.some.inj carried
      exact .inl (named ▸ here')
    · obtain ⟨name', bytes', record', here', valid', same⟩ := covers name bytes _ here valid
      obtain ⟨e, registers, _, _⟩ := canonical name' bytes' record' here' valid'
      rw [same] at registers
      refine .inr ⟨e, registers, ?_⟩
      rintro rfl
      exact gone _ x (registers.carries safe)

/-! ## Later restores -/

/-- Canonical records, one a torrent. -/
structure Steady (b : Bindings τ α ρ β) (dir : AList fun _ : Name => β) : Prop where
  canonical : ∀ name, dir.lookup name ≠ none → ∃ x u, name = .resumeFile u ∧ Carries b dir name x u
  single : ∀ x u v, Carries b dir (.resumeFile u) x u → Carries b dir (.resumeFile v) x v → u = v

theorem State.Tracked.steady (tracked : s.Tracked) (safe : s.Safe b) (up : s.pc = .up) :
    Steady b s.dir := by
  constructor
  · intro name here
    obtain ⟨x, e, _, named, carries⟩ := tracked.registers safe up name here
    exact ⟨x, e.uuid, named, carries⟩
  · rintro x u v ⟨bytes, here, valid⟩ ⟨bytes', here', valid'⟩
    obtain ⟨y, e, registers, _, carries⟩ :=
      tracked.registers safe up (.resumeFile u) (by simp [here])
    obtain ⟨y', e', registers', _, carries'⟩ :=
      tracked.registers safe up (.resumeFile v) (by simp [here'])
    obtain ⟨rfl, rfl⟩ := carries.inj ⟨bytes, here, valid⟩
    obtain ⟨rfl, rfl⟩ := carries'.inj ⟨bytes', here', valid'⟩
    rw [registers.unique safe registers']

/-- Nothing is about to change a file. -/
def Pc.isQuiet : Pc α → Bool
  | .quarantine _ | .splice _ _ _ | .delete _ _ => false
  | .rename path _ uuid => decide (path = .resumeFile uuid)
  | _ => true

structure State.Quiet (s : State τ α β) : Prop where
  pc : s.pc.isQuiet = true
  present : ∀ u id, (u, some id) ∈ s.adds → s.dir.lookup (.resumeFile u) ≠ none

theorem Steady.carries (steady : Steady b dir) {bytes : β} (here : dir.lookup name = some bytes) :
    ∃ x u, name = .resumeFile u ∧ b.record bytes = some (x, some u) := by
  obtain ⟨x, u, named, bytes', here', valid⟩ := steady.canonical name (by simp [here])
  obtain rfl := Option.some.inj (here.symm.trans here')
  exact ⟨x, u, named, valid⟩

/-- A step of a restore over a steady directory leaves it alone. -/
theorem step_quiet [DecidableEq τ] {a : Action} (lawful : b.Lawful) (steady : Steady b s.dir)
    (safe : s.Safe b) (quiet : s.Quiet) (stepped : s.step b a = some s') :
    s.damages b a = false ∧ s'.dir = s.dir ∧ s'.Quiet := by
  cases a with
  | start =>
    refine ⟨rfl, ?_⟩
    simp only [State.step] at stepped
    split at stepped
    case h_1 =>
      cases stepped
      exact ⟨rfl, rfl, quiet.present⟩
    case h_2 => cases stepped
  | entry path fresh ok =>
    refine ⟨rfl, ?_⟩
    simp only [State.step] at stepped
    split at stepped
    case h_1 pc =>
      obtain ⟨_, ⟨⟩⟩ := Option.ite_none_left_eq_some.mp stepped
      obtain ⟨known, pc', entered, same⟩ := entry_entered lawful safe.proper path fresh ok
      rw [same]
      refine ⟨rfl, ?_, quiet.present⟩
      cases entered with
      | skipped unread => exact quiet.pc
      | corrupt here invalid =>
        obtain ⟨x, u, _, valid⟩ := steady.carries here
        cases invalid.symm.trans valid
      | legacy here read =>
        -- every record carries a uuid by now, and none hides it
        obtain ⟨x, u, _, valid⟩ := steady.carries here
        cases (Bindings.record_none (safe.proper.visible path _ here) read).symm.trans valid
      | carries here =>
        obtain ⟨bytes, found, valid⟩ := here
        obtain ⟨x, u, named, valid'⟩ := steady.carries found
        have same := valid.symm.trans valid'
        simp only [Option.some.injEq, Prod.mk.injEq] at same
        rw [← same.2] at named
        exact decide_eq_true named
    case h_2 => cases stepped
  | eof =>
    refine ⟨rfl, ?_⟩
    simp only [State.step] at stepped
    split at stepped
    case h_1 =>
      obtain ⟨_, ⟨⟩⟩ := Option.ite_none_right_eq_some.mp stepped
      exact ⟨rfl, rfl, quiet.present⟩
    case h_2 => cases stepped
  | perform ok =>
    have calm := quiet.pc
    have holding := safe.holding
    simp only [State.step] at stepped
    unfold State.perform at stepped
    cases pc : s.pc with
    | quarantine path => simp [Pc.isQuiet, pc] at calm
    | splice path atp uuid => simp [Pc.isQuiet, pc] at calm
    | delete loser k => simp [Pc.isQuiet, pc] at calm
    | rename path atp uuid =>
      obtain rfl : path = .resumeFile uuid := by simpa [Pc.isQuiet, pc] using calm
      refine ⟨by cases ok <;> simp [State.damages, State.clobbers, State.outgrows, pc], ?_⟩
      simp only [pc, if_true] at stepped
      cases stepped
      exact ⟨rfl, rfl, quiet.present⟩
    | add atp uuid =>
      refine ⟨by cases ok <;> simp [State.damages, State.clobbers, State.outgrows, pc], ?_⟩
      simp only [State.Holding, pc] at stepped holding
      obtain ⟨bytes, here, _⟩ := holding
      cases ok with
      | true =>
        cases stepped
        refine ⟨rfl, rfl, fun u id mine => ?_⟩
        obtain old | new := List.mem_append.mp mine
        · exact quiet.present u id old
        · obtain ⟨rfl, _⟩ := Prod.mk.inj (List.mem_singleton.mp new)
          exact Option.ne_none_iff_exists'.mpr ⟨bytes, here⟩
      | false =>
        cases stepped
        exact ⟨rfl, rfl, fun u id mine => quiet.present u id (by simpa using mine)⟩
    | drain k =>
      refine ⟨by cases ok <;> simp [State.damages, State.clobbers, State.outgrows, pc], ?_⟩
      simp only [pc, Option.some.injEq] at stepped
      subst stepped
      have drained := drain_drained s k ok
      generalize s.drain k ok = t at drained ⊢
      cases drained with
      | finished none => exact ⟨rfl, rfl, quiet.present⟩
      | skipped here => exact ⟨rfl, rfl, quiet.present⟩
      | known here => exact ⟨rfl, rfl, quiet.present⟩
      | @loser uuid id e here found other =>
        -- both records are there, and they are of one torrent
        have mine := List.mem_of_getElem? here
        obtain ⟨x, torrent, winner⟩ := safe.winner found
        obtain ⟨y, torrent', carries | ⟨absent, _⟩⟩ := safe.posted uuid id mine
        · obtain rfl := Option.some.inj (torrent.symm.trans torrent')
          exact absurd (steady.single x _ _ winner carries) other
        · exact absurd absent (quiet.present uuid id mine)
      | new here => exact ⟨rfl, rfl, quiet.present⟩
    | down => simp [pc] at stepped
    | next => simp [pc] at stepped
    | up => simp [pc] at stepped
  | crash =>
    cases stepped
    exact ⟨rfl, rfl, rfl, by simp [State.crash, State.initial]⟩

/-- Runs from a restored engine, with any failures and crashes. -/
theorem quiet_run [DecidableEq τ] (lawful : b.Lawful) (safe : s.Safe b) (up : s.pc = .up)
    (steady : Steady b s.dir) (run : RestoreRun b (fun _ _ => True) s t) :
    t.Safe b ∧ t.dir = s.dir ∧ (t = s ∨ t.Quiet) := by
  refine Run.invariant (I := fun t => t.Safe b ∧ t.dir = s.dir ∧ (t = s ∨ t.Quiet))
    ⟨safe, rfl, .inl rfl⟩ ?_ run
  rintro t a u _ ⟨safe, same, rfl | quiet⟩ _ stepped
  · cases a with
    | crash =>
      cases stepped
      exact ⟨(crash_safe safe).1, rfl, .inr ⟨rfl, by simp [State.crash, State.initial]⟩⟩
    | perform ok => simp [State.step, State.perform, up] at stepped
    | start => simp [State.step, up] at stepped
    | entry path fresh ok => simp [State.step, up] at stepped
    | eof => simp [State.step, up] at stepped
  · -- over a steady directory no step does damage, so the later runs need no condition
    obtain ⟨harmless, dir, quiet'⟩ := step_quiet lawful (same ▸ steady) safe quiet stepped
    exact ⟨(step_safe lawful safe harmless stepped).1, dir.trans same, .inr quiet'⟩

/-- A complete restore after any restores, and whatever comes after it. -/
theorem complete_restore [DecidableEq τ] (lawful : b.Lawful) {known : List Uuid}
    (proper : Proper b dir known)
    (run : RestoreRun b (fun s a => s.damages b a = false) (.initial dir known) s)
    (down : s.pc = .down)
    (complete : RestoreRun b (fun s a => s.damages b a = false ∧ a.isClean = true) s t)
    (up : t.pc = .up) :
    Restored b dir t ∧ ∀ t', RestoreRun b (fun _ _ => True) t t' → Repeats t t' := by
  have safe := (safe_run lawful proper run).1
  obtain ⟨safe', tracked⟩ := tracked_run lawful safe down complete up
  obtain ⟨_, covers, preserves⟩ :=
    safe_run lawful proper (run.trans (complete.mono fun _ _ both => both.1))
  refine ⟨restored_of_tracked safe' tracked up covers preserves, fun t' later => ?_⟩
  -- what comes later is over a directory of canonical records, one a torrent
  have steady := tracked.steady safe' up
  obtain ⟨safe'', same, _⟩ := quiet_run lawful safe' up steady later
  refine ⟨same, fun x e' registers => ?_⟩
  have carries := registers.carries safe''
  rw [same] at carries
  obtain ⟨bytes, here, valid⟩ := carries
  obtain ⟨y, e, registers', _, carries'⟩ :=
    tracked.registers safe' up (.resumeFile e'.uuid) (by simp [here])
  obtain ⟨rfl, uuid⟩ := carries'.inj ⟨bytes, here, valid⟩
  exact ⟨e, registers', uuid⟩

/-- Restore is crash-safe and idempotent, short of a rename that replaces a
record of another torrent and of a legacy record that is too large with a uuid. -/
theorem restore_crash_safe [DecidableEq τ] {Params : Type} (format : RecordFormat τ Params)
    (lawful : format.Lawful) (dir : AList fun _ : Name => Bytes) (known : List Uuid)
    (proper : Proper format.bindings dir known) (s t : State τ Params Bytes)
    (run : RestoreRun format.bindings (fun s a => s.damages format.bindings a = false)
      (.initial dir known) s)
    (down : s.pc = .down)
    (complete : RestoreRun format.bindings
      (fun s a => s.damages format.bindings a = false ∧ a.isClean = true) s t)
    (up : t.pc = .up) :
    Restored format.bindings dir t ∧
      ∀ t', RestoreRun format.bindings (fun _ _ => True) t t' → Repeats t t' :=
  complete_restore (bindings_lawful lawful) proper run down complete up

/-! ## Directories of a few records -/

section Files

/-- The uuid of a record. -/
def Bindings.uuidOf (b : Bindings τ α ρ β) (bytes : β) : Option Uuid :=
  (b.record bytes).bind Prod.snd

def Bindings.isVisible (b : Bindings τ α ρ β) (bytes : β) : Bool :=
  match b.readResumeData bytes with
  | some (_, none) => (b.clientData bytes).isNone
  | _ => true

def Bindings.isKeyed (b : Bindings τ α ρ β) (bytes : β) : Bool :=
  match b.readResumeData bytes with
  | some (_, some raw) => b.fromBytes raw != some none
  | _ => true

/-- The uuid a name stands for. -/
def Name.uuid? : Name → Option Uuid
  | .resumeFile uuid => some uuid
  | .other _ => none

theorem Carries.uuidOf (carries : Carries b dir name x u) :
    ∃ bytes, ⟨name, bytes⟩ ∈ dir.entries ∧ b.uuidOf bytes = some u := by
  obtain ⟨bytes, here, valid⟩ := carries
  exact ⟨bytes, AList.mem_lookup_iff.mp here, by simp [Bindings.uuidOf, valid]⟩

theorem separate_of_entries {known : List Uuid}
    (distinct : ∀ e ∈ dir.entries, ∀ e' ∈ dir.entries,
      e.1 = e'.1 ∨ b.uuidOf e.2 = none ∨ b.uuidOf e.2 ≠ b.uuidOf e'.2)
    (each : ∀ e ∈ dir.entries, b.isVisible e.2 = true ∧ (∀ u ∈ b.uuidOf e.2, u ∈ known) ∧
      ∀ u ∈ e.1.uuid?, u ∈ known) : Separate b dir known := by
  constructor
  · intro name name' x y u first second
    obtain ⟨bytes, here, uuid⟩ := first.uuidOf
    obtain ⟨bytes', here', uuid'⟩ := second.uuidOf
    obtain same | none | apart := distinct _ here _ here'
    · exact same
    · cases uuid.symm.trans none
    · exact absurd (uuid.trans uuid'.symm) apart
  · rintro name bytes here ⟨atp, read, given⟩
    have visible := (each _ (AList.mem_lookup_iff.mp here)).1
    simp only [Bindings.isVisible, read, Option.isNone_iff_eq_none] at visible
    exact given visible
  · intro name x u carries
    obtain ⟨bytes, here, uuid⟩ := carries.uuidOf
    exact (each _ here).2.1 u uuid
  · intro u here
    obtain ⟨bytes, here⟩ := Option.ne_none_iff_exists'.mp here
    exact (each _ (AList.mem_lookup_iff.mp here)).2.2 u rfl

theorem keyed_of_entries (keyed : ∀ e ∈ dir.entries, b.isKeyed e.2 = true) {bytes : β}
    (here : dir.lookup name = some bytes) : ¬b.Keyless bytes := by
  rintro ⟨atp, raw, read, keyless⟩
  have keyed := keyed _ (AList.mem_lookup_iff.mp here)
  simp [Bindings.isKeyed, read, keyless] at keyed

end Files

/-- A legacy record, and two records of one torrent. -/
def threeRecords : AList fun _ : Name => Bytes :=
  ((AList.singleton (Name.other 0) (countedFile 8 none)).insert (.other 1)
    (countedFile 7 (some 2))).insert (.other 2) (countedFile 7 (some 3))

theorem threeRecords_proper : Proper countedFormat.bindings threeRecords [2, 3] where
  toSeparate := separate_of_entries (by decide +kernel) (by decide +kernel)
  keyed _ _ := keyed_of_entries (by decide +kernel)

/-- A restore that ends after the legacy record was rewritten, and a complete one. -/
def interruptedRestore : Option (State Nat Nat Bytes × State Nat Nat Bytes) :=
  let step := State.step countedFormat.bindings
  let harmless (s : State Nat Nat Bytes) a := !s.damages countedFormat.bindings a
  (exec step harmless (.initial threeRecords [2, 3])
    [.start, .entry (.other 0) 4 true, .perform true, .crash]).bind fun s =>
      (exec step (fun s a => harmless s a && a.isClean) s
        [.start, .entry (.other 0) 5 true, .perform true, .perform true,
          .entry (.other 1) 6 true, .perform true, .perform true,
          .entry (.other 2) 7 true, .perform true, .perform true,
          .entry (.resumeFile 4) 8 true, .perform true, .perform true,
          .eof, .perform true, .perform true, .perform true, .perform true, .perform true,
          .perform true]).map fun t => (s, t)

/-- A crash, a legacy record that was given its uuid before it, a duplicate, and a file that is
yielded again under its new name. -/
theorem restore_crash_safe_interrupted : ∃ s t : State Nat Nat Bytes,
    RestoreRun countedFormat.bindings (fun _ _ => True) (.initial threeRecords [2, 3]) s ∧
      RestoreRun countedFormat.bindings (fun _ a => a.isClean = true) s t ∧ t.session = [8, 7] ∧
      Restored countedFormat.bindings threeRecords t ∧
      ∀ t', RestoreRun countedFormat.bindings (fun _ _ => True) t t' → Repeats t t' := by
  have replayed : interruptedRestore.map (fun both =>
      decide (both.1.pc = .down ∧ both.2.pc = .up ∧ both.2.session = [8, 7])) = some true := by
    decide +kernel
  obtain ⟨⟨s, t⟩, both, ended⟩ := Option.map_eq_some_iff.mp replayed
  simp only [interruptedRestore, Option.bind_eq_some_iff, Option.map_eq_some_iff] at both
  obtain ⟨_, first, _, second, same⟩ := both
  obtain ⟨rfl, rfl⟩ := Prod.mk.inj same
  obtain ⟨down, up, session⟩ := of_decide_eq_true ended
  have run := Transition.run_of_exec first
  have complete := Transition.run_of_exec second
  have restored := restore_crash_safe countedFormat countedFormat_lawful threeRecords [2, 3]
    threeRecords_proper _ _ (run.mono (by simp)) down (complete.mono (by simp)) up
  exact ⟨_, _, run.mono (by simp), complete.mono (by simp), session, restored⟩

/-- Two records, of which one has the canonical name of the other. -/
def swappedNames : AList fun _ : Name => Bytes :=
  (AList.singleton (Name.resumeFile 1) (countedFile 7 (some 2))).insert (.other 0)
    (countedFile 8 (some 1))

theorem swappedNames_proper : Proper countedFormat.bindings swappedNames [1, 2] where
  toSeparate := separate_of_entries (by decide +kernel) (by decide +kernel)
  keyed _ _ := keyed_of_entries (by decide +kernel)

/-- Torrent 7 has the canonical name of torrent 8's record, and is lost. -/
theorem restore_replaces_record : ¬ ∀ (dir : AList fun _ : Name => Bytes) known
    (s t : State Nat Nat Bytes), Proper countedFormat.bindings dir known →
      RestoreRun countedFormat.bindings (fun _ _ => True) (.initial dir known) s → s.pc = .down →
      RestoreRun countedFormat.bindings (fun _ a => a.isClean = true) s t → t.pc = .up →
      Restored countedFormat.bindings dir t := by
  intro claim
  have replayed : (exec (State.step countedFormat.bindings) (fun _ a => a.isClean)
      (.initial swappedNames [1, 2])
      [.start, .entry (.other 0) 3 true, .perform true, .perform true, .eof, .perform true,
        .perform true]).map (fun t => decide (t.pc = .up) && decide (t.session = [8])) =
      some true := by
    decide +kernel
  obtain ⟨t, run, ended⟩ := exists_run_of_exec replayed
  obtain ⟨up, session⟩ : t.pc = .up ∧ t.session = [8] := by simpa using ended
  have restored := claim _ [1, 2] _ t swappedNames_proper .refl rfl run up
  obtain ⟨e, ⟨_, torrent⟩, _⟩ := restored.once (.resumeFile 1) (countedFile 7 (some 2)) (7, some 2)
    (by decide +kernel) (by decide +kernel)
  rw [session] at torrent
  cases id : e.id <;> simp [id] at torrent

end Rsbtd.Restore
