import Rsbtd.Verified.Restored

/-!
# Records without an identity

A record whose client data lacks the uuid key gets a uuid at every restore, and is
not rewritten: only a record without client data is.  Two restores that find only
such records of a torrent never agree on its uuid.  With no such record in the
directory, a second restore finds what the first one left.
-/

namespace Rsbtd.Restore

open Transition (Run exec)
open Bencode (Bytes Value)
open ResumeData (splicedRoot)

variable {τ α ρ β : Type} {b : Bindings τ α ρ β} {s s' t : State τ α β}
  {dir : AList fun _ : Name => β} {path name : Name} {u uuid fresh : Uuid} {x : τ} {atp : α}
  {known : List Uuid}

/-! ## Minted again -/

/-- A restore takes the file for a record of the torrent. -/
def Bindings.Accepts (b : Bindings τ α ρ β) (x : τ) (bytes : β) : Prop :=
  ∃ atp raw, b.readResumeData bytes = some (atp, raw) ∧ b.torrent atp = x ∧
    ∀ fresh, b.fromBencode raw fresh ≠ none

/-- Every record of the torrent lacks the key. -/
def OnlyKeyless (b : Bindings τ α ρ β) (x : τ) (dir : AList fun _ : Name => β) : Prop :=
  ∀ name bytes, dir.lookup name = some bytes → b.Accepts x bytes → b.Keyless bytes

/-- Minted since `known`. -/
def State.Mints (s : State τ α β) (known : List Uuid) (u : Uuid) : Prop := u ∈ s.known ∧ u ∉ known

/-- What the loop holds of the torrent. -/
def State.HoldsMinted (b : Bindings τ α ρ β) (x : τ) (known : List Uuid) (s : State τ α β) : Prop :=
  match s.pc with
  | .splice _ atp _ => (∃ bytes, b.readResumeData bytes = some (atp, none)) ∧ b.torrent atp ≠ x
  | .rename _ atp u | .add atp u => b.torrent atp = x → s.Mints known u
  | _ => True

/-- A restore begun with `known` gives the torrent only uuids it has minted itself. -/
structure State.Minting (b : Bindings τ α ρ β) (x : τ) (known : List Uuid) (s : State τ α β) :
    Prop where
  only : OnlyKeyless b x s.dir
  grown : ∀ u ∈ known, u ∈ s.known
  holds : s.HoldsMinted b x known
  inside : ∀ u id, (u, some id) ∈ s.adds → id < s.session.length
  adds : ∀ u id, (u, some id) ∈ s.adds → s.session[id]? = some x → s.Mints known u
  registered : ∀ u e, s.registry.find u = some e → (e.uuid, some e.id) ∈ s.adds

theorem minting_initial (only : OnlyKeyless b x dir) :
    (State.initial dir known : State τ α β).Minting b x known where
  only := only
  grown := fun _ listed => listed
  holds := trivial
  inside := by simp [State.initial]
  adds := by simp [State.initial]
  registered := by simp [State.initial, Registry.find, Registry.new]

theorem OnlyKeyless.erase (only : OnlyKeyless b x dir) : OnlyKeyless b x (dir.erase path) :=
  fun name bytes here => only name bytes (lookup_erase_some here).2

theorem OnlyKeyless.insert {bytes : β} (only : OnlyKeyless b x dir)
    (own : b.Accepts x bytes → b.Keyless bytes) : OnlyKeyless b x (dir.insert path bytes) := by
  intro name bytes' here accepted
  obtain ⟨-, rfl⟩ | ⟨-, here⟩ := lookup_insert_cases here
  · exact own accepted
  · exact only name bytes' here accepted

namespace State

/-- A step that leaves the adds and the registry alone. -/
theorem Minting.goto (minting : s.Minting b x known) {dir : AList fun _ : Name => β}
    {known' : List Uuid} {pending : List Name} {pc : Pc α} (only : OnlyKeyless b x dir)
    (grown : ∀ u ∈ s.known, u ∈ known')
    (holds : ({ s with dir, known := known', pending, pc } : State τ α β).HoldsMinted b x known) :
    ({ s with dir, known := known', pending, pc } : State τ α β).Minting b x known where
  only := only
  grown := fun u listed => grown u (minting.grown u listed)
  holds := holds
  inside := minting.inside
  adds := by
    intro u id listed torrent
    obtain ⟨minted, new⟩ := minting.adds u id listed torrent
    exact ⟨grown u minted, new⟩
  registered := minting.registered

theorem Minting.entry (minting : s.Minting b x known) (pc : s.pc = .next) (new : fresh ∉ s.known)
    (ok : Bool) : (s.entry b path fresh ok).Minting b x known := by
  have same : ∀ u ∈ s.known, u ∈ s.known := fun _ listed => listed
  have more : ∀ u ∈ s.known, u ∈ fresh :: s.known := fun _ => List.mem_cons_of_mem fresh
  unfold State.entry
  cases found : (if ok then s.dir.lookup path else none) with
  | none =>
    simp only [found]
    apply minting.goto minting.only same
    simp [HoldsMinted, pc]
  | some bytes =>
    have here : s.dir.lookup path = some bytes := (Option.ite_none_right_eq_some.mp found).2
    simp only [found]
    cases read : b.readResumeData bytes with
    | none => exact minting.goto minting.only same trivial
    | some parsed =>
      obtain ⟨atp, raw⟩ := parsed
      cases raw with
      | none =>
        -- no client data is read, so it is another torrent's
        apply minting.goto minting.only more
        refine ⟨⟨bytes, read⟩, fun torrent => ?_⟩
        obtain ⟨_, _, read', -⟩ := minting.only path bytes here
          ⟨atp, none, read, torrent, fun fresh => by simp [Bindings.fromBencode]⟩
        rw [read] at read'
        cases read'
      | some raw =>
        cases decoded : b.fromBytes raw with
        | none =>
          simp only [Bindings.fromBencode, decoded, Option.map_none]
          exact minting.goto minting.only more trivial
        | some uuid =>
          simp only [Bindings.fromBencode, decoded, Option.map_some]
          apply minting.goto minting.only more
          intro torrent
          -- the record lacks the key, so its uuid is the one that was just minted
          obtain ⟨_, _, read', keyless⟩ := minting.only path bytes here
            ⟨atp, some raw, read, torrent, fun fresh => by simp [Bindings.fromBencode, decoded]⟩
          rw [read] at read'
          obtain ⟨-, same⟩ := Prod.mk.inj (Option.some.inj read')
          obtain rfl := Option.some.inj same
          rw [decoded] at keyless
          obtain rfl := Option.some.inj keyless
          exact ⟨by simp, fun listed => new (minting.grown fresh listed)⟩

/-- The session's index of a torrent, before and after another one is added. -/
theorem getElem?_session [DecidableEq τ] {session : List τ} {y : τ} {id : Nat}
    (inside : id < session.length)
    (here : (if y ∈ session then session else session ++ [y])[id]? = some x) :
    session[id]? = some x := by
  by_cases known : y ∈ session
  · rwa [if_pos known] at here
  · rwa [if_neg known, List.getElem?_append_left inside] at here

theorem Minting.add [DecidableEq τ] (minting : s.Minting b x known) (pc : s.pc = .add atp uuid) :
    (s.add (b.torrent atp) uuid).Minting b x known := by
  have holds := minting.holds
  simp only [HoldsMinted, pc] at holds
  have own := getElem?_idxOf_append s.session (b.torrent atp)
  constructor
  · exact minting.only
  · exact minting.grown
  · trivial
  · intro u id listed
    rcases List.mem_append.mp listed with before | now
    · have inside := minting.inside u id before
      by_cases present : b.torrent atp ∈ s.session
      · simpa [State.add, present] using inside
      · simpa [State.add, present] using Nat.lt_succ_of_lt inside
    · obtain ⟨rfl, rfl⟩ : u = uuid ∧ id = s.session.idxOf (b.torrent atp) := by simpa using now
      exact (List.getElem?_eq_some_iff.mp own).1
  · intro u id listed torrent
    rcases List.mem_append.mp listed with before | now
    · exact minting.adds u id before (getElem?_session (minting.inside u id before) torrent)
    · obtain ⟨rfl, rfl⟩ : u = uuid ∧ id = s.session.idxOf (b.torrent atp) := by simpa using now
      exact holds (Option.some.inj (own.symm.trans torrent))
  · intro u e found
    exact List.mem_append_left _ (minting.registered u e found)

theorem Minting.drain (minting : s.Minting b x known) (k : Nat) (ok : Bool) :
    (s.drain k ok).Minting b x known := by
  have drained := drain_drained s k ok
  generalize s.drain k ok = t at drained ⊢
  cases drained with
  | finished | skipped | known | loser =>
    exact ⟨minting.only, minting.grown, trivial, minting.inside, minting.adds, minting.registered⟩
  | @new uuid id here unknown =>
    refine ⟨minting.only, minting.grown, trivial, minting.inside, minting.adds, ?_⟩
    intro u e found
    rw [Registry.upsert_find_new unknown] at found
    by_cases same : u = uuid
    · rw [if_pos same] at found
      obtain rfl := Option.some.inj found
      exact List.mem_of_getElem? here
    · rw [if_neg same] at found
      exact minting.registered u e found

theorem Minting.perform [DecidableEq τ] (lawful : b.Lawful) (minting : s.Minting b x known)
    {ok : Bool} (stepped : s.perform b ok = some s') : s'.Minting b x known := by
  have same : ∀ u ∈ s.known, u ∈ s.known := fun _ listed => listed
  have holds := minting.holds
  unfold State.perform at stepped
  cases pc : s.pc with
  | quarantine path =>
    simp only [pc, Option.some.injEq] at stepped
    subst stepped
    cases ok with
    | true => exact minting.goto minting.only.erase same trivial
    | false => exact minting.goto minting.only same trivial
  | splice path atp uuid =>
    simp only [pc, HoldsMinted] at stepped holds
    obtain ⟨⟨bytes, read⟩, other⟩ := holds
    cases written : (if ok then b.writeResumeDataWith atp (b.toBencode uuid) else none) with
    | none =>
      simp only [written, Option.some.injEq] at stepped
      subst stepped
      exact minting.goto minting.only same trivial
    | some spliced =>
      simp only [written, Option.some.injEq] at stepped
      subst stepped
      have written := (Option.ite_none_right_eq_some.mp written).2
      -- a record of another torrent is rewritten, and stays one of that torrent
      refine minting.goto (minting.only.insert ?_) same fun own => absurd own other
      rintro ⟨atp', raw', back, own, -⟩
      have torrent := lawful.write_torrent bytes atp none uuid spliced read written atp' raw' back
      exact absurd (torrent.symm.trans own) other
  | rename path atp uuid =>
    simp only [pc, HoldsMinted] at stepped holds
    by_cases canonical : path = .resumeFile uuid
    · rw [if_pos canonical] at stepped
      cases stepped
      exact minting.goto minting.only same holds
    · rw [if_neg canonical] at stepped
      cases ok with
      | false =>
        cases stepped
        exact minting.goto minting.only same trivial
      | true =>
        cases stepped
        unfold State.rename
        cases here : s.dir.lookup path with
        | none => exact minting.goto minting.only same trivial
        | some bytes =>
          have only : OnlyKeyless b x ((s.dir.erase path).insert (.resumeFile uuid) bytes) := by
            apply minting.only.erase.insert
            exact minting.only path bytes here
          apply minting.goto only same
          exact holds
  | add atp uuid =>
    simp only [pc] at stepped
    cases ok with
    | true =>
      cases stepped
      exact minting.add pc
    | false =>
      cases stepped
      refine ⟨minting.only, minting.grown, trivial, ?_, ?_, ?_⟩
      · intro u id listed
        exact minting.inside u id (by simpa using listed)
      · intro u id listed
        exact minting.adds u id (by simpa using listed)
      · intro u e found
        exact List.mem_append_left _ (minting.registered u e found)
  | drain k =>
    simp only [pc, Option.some.injEq] at stepped
    subst stepped
    exact minting.drain k ok
  | delete loser k =>
    simp only [pc, Option.some.injEq] at stepped
    subst stepped
    cases ok with
    | true => exact minting.goto minting.only.erase same trivial
    | false => exact minting.goto minting.only same trivial
  | down => simp [pc] at stepped
  | next => simp [pc] at stepped
  | up => simp [pc] at stepped

theorem Minting.step [DecidableEq τ] (lawful : b.Lawful) (minting : s.Minting b x known)
    {a : Action} (stepped : s.step b a = some s') : s'.Minting b x known := by
  have same : ∀ u ∈ s.known, u ∈ s.known := fun _ listed => listed
  cases a with
  | start =>
    simp only [State.step] at stepped
    split at stepped
    case h_1 =>
      cases stepped
      exact minting.goto minting.only same trivial
    case h_2 => cases stepped
  | entry path fresh ok =>
    simp only [State.step] at stepped
    split at stepped
    case h_1 pc =>
      obtain ⟨new, ⟨⟩⟩ := Option.ite_none_left_eq_some.mp stepped
      exact minting.entry pc new ok
    case h_2 => cases stepped
  | eof =>
    simp only [State.step] at stepped
    split at stepped
    case h_1 =>
      obtain ⟨-, ⟨⟩⟩ := Option.ite_none_right_eq_some.mp stepped
      exact minting.goto minting.only same trivial
    case h_2 => cases stepped
  | perform ok => exact minting.perform lawful stepped
  | crash =>
    cases stepped
    refine ⟨minting.only, minting.grown, trivial, ?_, ?_, ?_⟩
    · simp [State.crash, State.initial]
    · simp [State.crash, State.initial]
    · simp [State.crash, State.initial, Registry.find, Registry.new]

theorem Minting.run [DecidableEq τ] (lawful : b.Lawful) {ok : State τ α β → Action → Prop}
    (minting : s.Minting b x known) (run : RestoreRun b ok s t) : t.Minting b x known := by
  refine Run.invariant (I := fun t => t.Minting b x known) minting ?_ run
  intro t a u _ minting _ stepped
  exact minting.step lawful stepped

/-- The torrent is registered under a uuid of this restore. -/
theorem Minting.registers {e : TorrentEntry} (minting : s.Minting b x known)
    (registers : s.Registers x e) : s.Mints known e.uuid := by
  obtain ⟨found, torrent⟩ := registers
  obtain ⟨u, -, found⟩ := Option.bind_eq_some_iff.mp found
  exact minting.adds e.uuid e.id (minting.registered u e found) torrent

end State

/-! ## Two restores -/

/-- The torrent has one record, under this uuid. -/
structure Named (b : Bindings τ α ρ β) (dir : AList fun _ : Name => β) (x : τ) (u : Uuid) :
    Prop where
  here : ∃ bytes record, dir.lookup (.resumeFile u) = some bytes ∧ b.record bytes = some record ∧
    record.1 = x
  only : ∀ name bytes record, dir.lookup name = some bytes → b.record bytes = some record →
    record.1 = x → name = .resumeFile u

/-- Two restores register the torrent under one uuid, and leave one record for it, named after
that uuid. -/
def SameIdentity (b : Bindings τ α ρ β) (x : τ) (s t : State τ α β) : Prop :=
  ∃ e e', s.Registers x e ∧ t.Registers x e' ∧ e'.uuid = e.uuid ∧ Named b s.dir x e.uuid ∧
    Named b t.dir x e.uuid

theorem named_of_restored {before : AList fun _ : Name => β} (restored : Restored b before s)
    {bytes : β} {record : τ × Option Uuid} (here : before.lookup name = some bytes)
    (valid : b.record bytes = some record) :
    ∃ e, s.Registers record.1 e ∧ Carries b s.dir (.resumeFile e.uuid) record.1 e.uuid ∧
      Named b s.dir record.1 e.uuid := by
  obtain ⟨e, registers, -, ⟨bytes', here', valid'⟩, only⟩ :=
    restored.once name bytes record here valid
  exact ⟨e, registers, ⟨bytes', here', valid'⟩, ⟨bytes', _, here', valid', rfl⟩, only⟩

section Restores

variable [DecidableEq τ]

/-- With a uuid in every record that has client data, the second restore finds the uuids of the
first. -/
theorem same_identity (lawful : b.Lawful) (proper : Proper b dir known)
    (first : RestoreRun b (fun s a => s.damages b a = false ∧ a.isClean = true)
      (.initial dir known) s) (up : s.pc = .up)
    (second : RestoreRun b (fun s a => s.damages b a = false ∧ a.isClean = true) s.crash t)
    (again : t.pc = .up) {bytes : β} {record : τ × Option Uuid}
    (here : dir.lookup name = some bytes) (valid : b.record bytes = some record) :
    SameIdentity b record.1 s t := by
  obtain ⟨safe, tracked⟩ := tracked_run lawful (initial_safe proper) rfl first up
  obtain ⟨_, covers, preserves⟩ := safe_run lawful proper (first.mono fun _ _ both => both.1)
  have restored := restored_of_tracked safe tracked up covers preserves
  obtain ⟨e, registers, carries, named⟩ := named_of_restored restored here valid
  -- the second restore starts from the directory the first one left, and leaves it alone
  obtain ⟨bytes', here', valid'⟩ := carries
  have later : RestoreRun b (fun _ _ => True) s t :=
    Run.trans (.single (a := .crash) trivial rfl) (second.mono fun _ _ _ => trivial)
  obtain ⟨_, same, _⟩ := quiet_run lawful safe up (tracked.steady safe up) later
  have start := (crash_safe safe).1
  obtain ⟨safe', tracked'⟩ := tracked_run lawful start rfl second again
  obtain ⟨_, covers', preserves'⟩ :=
    safe_run lawful start.proper (second.mono fun _ _ both => both.1)
  have restored' := restored_of_tracked safe' tracked' again covers' preserves'
  obtain ⟨e', registers', ⟨bytes'', here'', valid''⟩, named'⟩ :=
    named_of_restored restored' here' valid'
  -- both have the one record of the torrent
  have uuids : Name.resumeFile e'.uuid = .resumeFile e.uuid :=
    named.only (.resumeFile e'.uuid) bytes'' _ (same ▸ here'') valid'' rfl
  have uuid : e'.uuid = e.uuid := by simpa using uuids
  exact ⟨e, e', registers, registers', uuid, named, uuid ▸ named'⟩

/-- With only records of the torrent that lack the uuid key, they never agree. -/
theorem other_identity (lawful : b.Lawful) (only : OnlyKeyless b x dir)
    {ok ok' : State τ α β → Action → Prop} (first : RestoreRun b ok (.initial dir known) s)
    (second : RestoreRun b ok' s.crash t) : ¬SameIdentity b x s t := by
  rintro ⟨e, e', registers, registers', same, -⟩
  have minting : s.Minting b x known := (minting_initial only).run lawful first
  have minting' : t.Minting b x s.known :=
    State.Minting.run lawful (minting_initial minting.only) second
  have before := (minting.registers registers).1
  have after := (minting'.registers registers').2
  rw [same] at after
  exact after before

/-- The two together, where no torrent has a record without the uuid key beside another one. -/
theorem same_identity_iff (lawful : b.Lawful) (separate : Separate b dir known)
    (unmixed : ∀ name bytes record, dir.lookup name = some bytes → b.record bytes = some record →
      b.Keyless bytes → OnlyKeyless b record.1 dir)
    (first : RestoreRun b (fun s a => s.damages b a = false ∧ a.isClean = true)
      (.initial dir known) s) (up : s.pc = .up)
    (second : RestoreRun b (fun s a => s.damages b a = false ∧ a.isClean = true) s.crash t)
    (again : t.pc = .up) :
    (∀ name bytes record, dir.lookup name = some bytes → b.record bytes = some record →
      SameIdentity b record.1 s t) ↔
    ∀ name bytes, dir.lookup name = some bytes → ¬b.Keyless bytes := by
  constructor
  · rintro stable name bytes here ⟨atp, raw, read, decoded⟩
    have valid : b.record bytes = some (b.torrent atp, none) := by
      simp [lawful.record_some read, decoded]
    have only := unmixed name bytes _ here valid ⟨atp, raw, read, decoded⟩
    exact other_identity lawful only first second (stable name bytes _ here valid)
  · intro keyed name bytes record here valid
    exact same_identity lawful ⟨separate, keyed⟩ first up second again here valid

/-- Where no torrent has a record without the uuid key beside another one, two restores keep the
identity of every record exactly when no record lacks the key. -/
theorem identity_stable_iff {Params : Type} (format : RecordFormat τ Params)
    (lawful : format.Lawful) (dir : AList fun _ : Name => Bytes) (known : List Uuid)
    (separate : Separate format.bindings dir known)
    (unmixed : ∀ name bytes record, dir.lookup name = some bytes →
      format.bindings.record bytes = some record → format.bindings.Keyless bytes →
        OnlyKeyless format.bindings record.1 dir)
    (s t : State τ Params Bytes)
    (first : RestoreRun format.bindings
      (fun s a => s.damages format.bindings a = false ∧ a.isClean = true) (.initial dir known) s)
    (up : s.pc = .up)
    (second : RestoreRun format.bindings
      (fun s a => s.damages format.bindings a = false ∧ a.isClean = true) s.crash t)
    (again : t.pc = .up) :
    (∀ name bytes record, dir.lookup name = some bytes →
      format.bindings.record bytes = some record →
        SameIdentity format.bindings record.1 s t) ↔
    ∀ name bytes, dir.lookup name = some bytes → ¬format.bindings.Keyless bytes :=
  same_identity_iff (bindings_lawful lawful) separate unmixed first up second again

end Restores

/-! ## One record -/

/-- The client data is the empty dictionary. -/
def keylessFile (torrent : Nat) : Bytes :=
  (splicedRoot countedFormat.libtorrent torrent (.dict .nil)).bytes

def oneRecord (bytes : Bytes) : AList fun _ : Name => Bytes := AList.singleton (Name.other 0) bytes

theorem oneRecord_lookup {bytes bytes' : Bytes}
    (here : (oneRecord bytes).lookup name = some bytes') :
    name = .other 0 ∧ bytes' = bytes := by
  have listed := AList.mem_lookup_iff.mp here
  rw [oneRecord, AList.singleton_entries, List.mem_singleton, Sigma.mk.injEq] at listed
  exact ⟨listed.1, eq_of_heq listed.2⟩

/-- Two restores of the one record, minting the uuids 3 and 4. -/
def twoRestores (bytes : Bytes) (uuid : Uuid) :
    Option (State Nat Nat Bytes × State Nat Nat Bytes) :=
  let restored (s : State Nat Nat Bytes) (path : Name) (fresh : Uuid) :=
    exec (State.step countedFormat.bindings)
      (fun s a => !s.damages countedFormat.bindings a && a.isClean) s
      [.start, .entry path fresh true, .perform true, .perform true, .eof, .perform true,
        .perform true]
  (restored (.initial (oneRecord bytes) [2]) (.other 0) 3).bind fun s =>
    (restored s.crash (.resumeFile uuid) 4).map fun t => (s, t)

theorem twoRestores_runs {bytes : Bytes} {uuid : Uuid}
    (up : (twoRestores bytes uuid).map (fun both => decide (both.1.pc = .up ∧ both.2.pc = .up)) =
      some true) :
    ∃ s t, RestoreRun countedFormat.bindings
        (fun s a => s.damages countedFormat.bindings a = false ∧ a.isClean = true)
        (.initial (oneRecord bytes) [2]) s ∧ s.pc = .up ∧
      RestoreRun countedFormat.bindings
        (fun s a => s.damages countedFormat.bindings a = false ∧ a.isClean = true)
        s.crash t ∧ t.pc = .up := by
  obtain ⟨⟨s, t⟩, both, up⟩ := Option.map_eq_some_iff.mp up
  simp only [twoRestores, Option.bind_eq_some_iff, Option.map_eq_some_iff] at both
  obtain ⟨_, first, _, second, same⟩ := both
  obtain ⟨rfl, rfl⟩ := Prod.mk.inj same
  have ended := of_decide_eq_true up
  exact ⟨_, _, (Transition.run_of_exec first).mono (by simp), ended.1,
    (Transition.run_of_exec second).mono (by simp), ended.2⟩

/-- The record has a uuid, and keeps it. -/
theorem identity_stable_one : ∃ s t : State Nat Nat Bytes,
    RestoreRun countedFormat.bindings (fun _ a => a.isClean = true)
        (.initial (oneRecord (countedFile 7 (some 2))) [2]) s ∧
      RestoreRun countedFormat.bindings (fun _ a => a.isClean = true) s.crash t ∧
      SameIdentity countedFormat.bindings 7 s t := by
  obtain ⟨s, t, first, up, second, again⟩ :=
    @twoRestores_runs (countedFile 7 (some 2)) 2 (by decide +kernel)
  have keyed : ∀ name bytes, (oneRecord (countedFile 7 (some 2))).lookup name = some bytes →
      ¬countedFormat.bindings.Keyless bytes :=
    fun _ _ => keyed_of_entries (by decide +kernel)
  have stable := (identity_stable_iff countedFormat countedFormat_lawful _ [2]
    (separate_of_entries (by decide +kernel) (by decide +kernel))
    (fun name bytes _ here _ keyless => absurd keyless (keyed name bytes here))
    s t first up second again).mpr keyed
  exact ⟨s, t, first.mono fun _ _ both => both.2, second.mono fun _ _ both => both.2,
    stable (.other 0) _ (7, some 2) rfl (by decide +kernel)⟩

/-- The record is a dictionary without the uuid key, and its torrent changes its uuid. -/
theorem identity_lost_keyless : ∃ s t : State Nat Nat Bytes,
    RestoreRun countedFormat.bindings (fun _ a => a.isClean = true)
        (.initial (oneRecord (keylessFile 7)) [2]) s ∧ s.pc = .up ∧
      RestoreRun countedFormat.bindings (fun _ a => a.isClean = true) s.crash t ∧ t.pc = .up ∧
      ¬SameIdentity countedFormat.bindings 7 s t := by
  obtain ⟨s, t, first, up, second, again⟩ := @twoRestores_runs (keylessFile 7) 3 (by decide +kernel)
  have only : OnlyKeyless countedFormat.bindings 7 (oneRecord (keylessFile 7)) := by
    intro name bytes here _
    obtain ⟨-, rfl⟩ := oneRecord_lookup here
    exact ⟨7, (Value.dict .nil).bytes, by decide +kernel, by decide +kernel⟩
  exact ⟨s, t, first.mono fun _ _ both => both.2, up, second.mono fun _ _ both => both.2, again,
    other_identity (bindings_lawful countedFormat_lawful) only first second⟩

end Rsbtd.Restore
