import Rsbtd.Engine.WriteAtomic

/-!
# Writes are atomic

A call touches two names: that of its temporary file, which is no other call's as long as
`TMP_SEQ` has not wrapped, and no target, and its target, which it touches in the one step
that renames.  So whatever the interleaving, a target holds what it held at first or what
some call put there whole.
-/

namespace Rsbtd.WriteAtomic

open Files Transition

variable {pid seq other : Nat} {target : Target} {c c' : Call} {tmp : Text} {phase : Phase}
  {d d' : Directory Text} {act : CallStep} {a : Action} {initial : Directory Text} {s t u : State}

/-! ## Names -/

theorem extension_suffix_tmpName : extension <:+ tmpName pid seq target := ⟨_, rfl⟩

theorem tmpName_ne_target (other : Target) : tmpName pid seq target ≠ other.name :=
  fun same => other.plain (same ▸ extension_suffix_tmpName)

/-- The number is what stands between the last two dots. -/
theorem seq_of_tmpName {target' : Target} (small : seq < UInt64.size)
    (small' : other < UInt64.size)
    (same : tmpName pid seq target = tmpName pid other target') : seq = other := by
  rw [tmpName, tmpName, List.append_cancel_right_eq] at same
  have digits : ∀ n, '.' ∉ Text.decimal n := fun n => Text.not_mem_decimal (by decide)
  have split := congrArg (Text.rsplitOnce '.') same
  rw [List.append_assoc _ ['.'] (Text.decimal (seq % _)),
    List.append_assoc _ ['.'] (Text.decimal (other % _)), List.singleton_append,
    List.singleton_append, Text.rsplitOnce_append (digits _), Text.rsplitOnce_append (digits _),
    Option.some.injEq, Prod.mk.injEq] at split
  have number := congrArg Text.parseDigits split.2
  rw [Text.parseDigits_decimal, Text.parseDigits_decimal] at number
  rw [← Nat.mod_eq_of_lt small, Option.some.inj number, Nat.mod_eq_of_lt small']

/-! ## One call -/

/-- The call has renamed its file. -/
def Phase.placed (phase : Phase) : Prop := phase = .renamed ∨ phase = .returned true

/-- What a call knows of its temporary file. -/
def Call.Holds (c : Call) (tmp : Text) (d : Directory Text) : Prop :=
  match c.phase with
  | .named | .failed => True
  | .writing file written =>
    d.links tmp = some file ∧ d.look tmp = some (c.bytes.take written) ∧ written ≤ c.bytes.length
  | .synced => d.look tmp = some c.bytes
  | .renamed | .returned _ => d.look tmp = none

/-- It knows nothing of other files. -/
theorem Call.Holds.frame (holds : c.Holds tmp d) (links : d'.links tmp = d.links tmp)
    (look : d'.look tmp = d.look tmp) : c.Holds tmp d' := by
  unfold Call.Holds at holds ⊢
  cases place : c.phase with
  | writing file written =>
    rw [place] at holds
    exact ⟨links.trans holds.1, look.trans holds.2.1, holds.2.2⟩
  | named => trivial
  | failed => trivial
  | synced =>
    rw [place] at holds
    exact look.trans holds
  | renamed =>
    rw [place] at holds
    exact look.trans holds
  | returned ok =>
    rw [place] at holds
    exact look.trans holds

/-- What a step of a call does. -/
structure Advanced (c : Call) (tmp : Text) (d : Directory Text) (phase : Phase)
    (d' : Directory Text) : Prop where
  holds : { c with phase }.Holds tmp d'
  links : ∀ name, name ≠ tmp → name ≠ c.target.name → d'.links name = d.links name
  look : ∀ name, name ≠ tmp → name ≠ c.target.name → d'.look name = d.look name
  /-- The target changes in one step, which puts the payload there. -/
  target : (phase = .renamed ∧ d'.look c.target.name = some c.bytes) ∨
    (phase ≠ .renamed ∧ d'.look c.target.name = d.look c.target.name)
  /-- A call that has renamed its file returns without an error, and no other does. -/
  success : phase = .returned true ↔ c.phase = .renamed
  running : ∀ ok, c.phase ≠ .returned ok

/-- A step that goes to a phase before the rename, and touches only the temporary file. -/
theorem Advanced.of_private (holds : { c with phase }.Holds tmp d')
    (links : ∀ name, name ≠ tmp → d'.links name = d.links name)
    (look : ∀ name, name ≠ tmp → d'.look name = d.look name) (differs : c.target.name ≠ tmp)
    (unplaced : phase ≠ .renamed) (success : phase = .returned true ↔ c.phase = .renamed)
    (running : ∀ ok, c.phase ≠ .returned ok) : Advanced c tmp d phase d' where
  holds := holds
  links name other _ := links name other
  look name other _ := look name other
  target := Or.inr ⟨unplaced, look _ differs⟩
  success := success
  running := running

/-- A failing step leaves the directory alone. -/
theorem Advanced.failed (unplaced : c.phase ≠ .renamed) (running : ∀ ok, c.phase ≠ .returned ok) :
    Advanced c tmp d .failed d where
  holds := trivial
  links _ _ _ := rfl
  look _ _ _ := rfl
  target := Or.inr ⟨by simp, rfl⟩
  success := iff_of_false (by simp) unplaced
  running := running

theorem advance_spec (stepped : c.advance tmp d act = some (phase, d')) (holds : c.Holds tmp d)
    (differs : c.target.name ≠ tmp) : Advanced c tmp d phase d' := by
  obtain ⟨target, bytes, place⟩ := c
  cases act with
  | create ok =>
    cases place with
    | named =>
      cases ok with
      | true =>
        obtain ⟨rfl, rfl⟩ := Prod.mk.inj (Option.some.inj stepped)
        apply Advanced.of_private
        · exact ⟨Directory.links_create, Directory.look_create, Nat.zero_le _⟩
        · exact fun name => Directory.links_create_of_ne
        · exact fun name => Directory.look_create_of_ne
        · exact differs
        all_goals simp
      | false =>
        obtain ⟨rfl, rfl⟩ := Prod.mk.inj (Option.some.inj stepped)
        exact Advanced.failed (by simp) (by simp)
    | _ => cases stepped
  | write count =>
    cases place with
    | writing file written =>
      -- what is written so far is a prefix of the payload
      obtain ⟨linked, read, bound⟩ := holds
      simp only [Call.advance] at stepped
      split at stepped
      · rename_i more
        obtain ⟨rfl, rfl⟩ := Prod.mk.inj (Option.some.inj stepped)
        have reached : (bytes.take written).length = written := List.length_take_of_le bound
        apply Advanced.of_private
        · refine ⟨linked, ?_, more.2⟩
          rw [Directory.look_write linked read reached, List.take_add]
        · exact fun name _ => rfl
        · exact fun name => Directory.look_write_of_ne linked
        · exact differs
        all_goals simp
      · cases stepped
    | _ => cases stepped
  | writeFails =>
    cases place with
    | writing file written =>
      simp only [Call.advance] at stepped
      split at stepped
      · obtain ⟨rfl, rfl⟩ := Prod.mk.inj (Option.some.inj stepped)
        exact Advanced.failed (by simp) (by simp)
      · cases stepped
    | _ => cases stepped
  | sync ok =>
    cases place with
    | writing file written =>
      obtain ⟨-, read, -⟩ := holds
      simp only [Call.advance] at stepped
      split at stepped
      · rename_i whole
        -- only a file with the whole payload is synced
        obtain ⟨rfl, rfl⟩ := Prod.mk.inj (Option.some.inj stepped)
        cases ok with
        | true =>
          apply Advanced.of_private _ (fun _ _ => rfl) (fun _ _ => rfl) differs
          · simp
          · simp
          · simp
          · simp only [if_true]
            exact read.trans (by rw [whole, List.take_length])
        | false =>
          exact Advanced.failed (by simp) (by simp)
      · cases stepped
    | _ => cases stepped
  | rename ok =>
    cases place with
    | synced =>
      cases ok with
      | true =>
        -- the one step in which the target changes
        obtain ⟨dir, renamed, next⟩ := Option.map_eq_some_iff.mp stepped
        obtain ⟨rfl, rfl⟩ := Prod.mk.inj next
        exact
          { holds := Directory.look_rename_source renamed differs.symm
            links := fun name => Directory.links_rename_of_ne renamed
            look := fun name => Directory.look_rename_of_ne renamed
            target := Or.inl ⟨rfl, (Directory.look_rename renamed).trans holds⟩
            success := by simp
            running := by simp }
      | false =>
        obtain ⟨rfl, rfl⟩ := Prod.mk.inj (Option.some.inj stepped)
        exact Advanced.failed (by simp) (by simp)
    | _ => cases stepped
  | remove =>
    cases place with
    | failed =>
      obtain ⟨rfl, rfl⟩ := Prod.mk.inj (Option.some.inj stepped)
      apply Advanced.of_private
      · exact Directory.look_remove
      · exact fun name => Directory.links_remove_of_ne
      · exact fun name => Directory.look_remove_of_ne
      · exact differs
      all_goals simp
    | _ => cases stepped
  | finish =>
    cases place with
    | renamed =>
      obtain ⟨rfl, rfl⟩ := Prod.mk.inj (Option.some.inj stepped)
      apply Advanced.of_private
      · exact holds
      · exact fun _ _ => rfl
      · exact fun _ _ => rfl
      · exact differs
      all_goals simp
    | _ => cases stepped

/-! ## One step of the state -/

theorem step_call (stepped : step pid s (.call seq act) = some t) :
    ∃ c phase, s.calls[seq]? = some c ∧
      c.advance (tmpName pid seq c.target) s.dir act = some (phase, t.dir) ∧
      t.calls = s.calls.set seq { c with phase } := by
  rw [step] at stepped
  cases running : s.calls[seq]? with
  | none =>
    rw [running] at stepped
    cases stepped
  | some c =>
    rw [running] at stepped
    obtain ⟨next, advanced, rfl⟩ := Option.map_eq_some_iff.mp stepped
    exact ⟨c, next.1, rfl, advanced, rfl⟩

theorem getElem?_set_self {calls : List Call} (running : calls[seq]? = some c) :
    (calls.set seq c')[seq]? = some c' := by
  rw [List.getElem?_set_self (List.getElem?_eq_some_iff.mp running).1]

/-- Every call knows its temporary file. -/
def State.Holds (pid : Nat) (s : State) : Prop :=
  ∀ (seq : Nat) (c : Call), s.calls[seq]? = some c → c.Holds (tmpName pid seq c.target) s.dir

/-- A call stays, with its target and its payload, and what it has renamed it has renamed. -/
theorem step_keeps (stepped : step pid s a = some t) (running : s.calls[seq]? = some c)
    (holds : s.Holds pid) :
    ∃ c', t.calls[seq]? = some c' ∧ c'.target = c.target ∧ c'.bytes = c.bytes ∧
      (c.phase.placed → c'.phase.placed) := by
  cases a with
  | start target bytes =>
    obtain rfl := Option.some.inj stepped
    exact ⟨c, List.getElem?_append_left (List.getElem?_eq_some_iff.mp running).1 ▸ running,
      rfl, rfl, id⟩
  | call k act =>
    obtain ⟨c₀, phase, runs, advanced, calls⟩ := step_call stepped
    by_cases same : k = seq
    · subst same
      obtain rfl : c₀ = c := Option.some.inj (runs.symm.trans running)
      have spec := advance_spec advanced (holds k c₀ runs) (tmpName_ne_target _).symm
      refine ⟨{ c₀ with phase }, by rw [calls, getElem?_set_self running], rfl, rfl, ?_⟩
      rintro (renamed | returned)
      · exact Or.inr (spec.success.mpr renamed)
      · exact absurd returned (spec.running true)
    · exact ⟨c, by rw [calls, List.getElem?_set_ne same, running], rfl, rfl, id⟩

/-- A call has just started, or it stood still, or it took the step. -/
theorem step_from (stepped : step pid s a = some t) (running : t.calls[seq]? = some c) :
    c.phase = .named ∨ s.calls[seq]? = some c ∨
      ∃ c₀ act, a = .call seq act ∧ s.calls[seq]? = some c₀ ∧ { c₀ with phase := c.phase } = c ∧
        c₀.advance (tmpName pid seq c₀.target) s.dir act = some (c.phase, t.dir) := by
  cases a with
  | start target bytes =>
    obtain rfl := Option.some.inj stepped
    rw [List.getElem?_append] at running
    split at running
    · exact Or.inr (Or.inl running)
    · left
      rw [List.getElem?_singleton] at running
      split at running
      · exact Option.some.inj running ▸ rfl
      · cases running
  | call k act =>
    obtain ⟨c₀, phase, runs, advanced, calls⟩ := step_call stepped
    by_cases same : k = seq
    · subst same
      rw [calls, getElem?_set_self runs] at running
      obtain rfl := Option.some.inj running
      exact Or.inr (Or.inr ⟨c₀, act, rfl, runs, rfl, advanced⟩)
    · rw [calls, List.getElem?_set_ne same] at running
      exact Or.inr (Or.inl running)

/-- So many calls have been made that `TMP_SEQ` has not wrapped. -/
def State.Numbered (s : State) : Prop := s.calls.length ≤ UInt64.size

theorem length_step (stepped : step pid s a = some t) : s.calls.length ≤ t.calls.length := by
  cases a with
  | start target bytes =>
    obtain rfl := Option.some.inj stepped
    simp
  | call k act =>
    obtain ⟨c, phase, -, -, calls⟩ := step_call stepped
    rw [calls, List.length_set]

/-- They were fewer before. -/
theorem State.Numbered.before (numbered : t.Numbered) (stepped : step pid s a = some t) :
    s.Numbered :=
  (length_step stepped).trans numbered

/-- No other call's temporary file changes. -/
theorem step_holds (stepped : step pid s a = some t) (holds : s.Holds pid)
    (numbered : t.Numbered) : t.Holds pid := by
  have own : ∀ {k : Nat} {c : Call}, s.calls[k]? = some c → k < UInt64.size := fun runs =>
    Nat.lt_of_lt_of_le (List.getElem?_eq_some_iff.mp runs).1 (numbered.before stepped)
  intro seq c running
  obtain named | before | ⟨c₀, act, -, runs, same, advanced⟩ := step_from stepped running
  · rw [Call.Holds, named]
    trivial
  · cases a with
    | start target bytes =>
      obtain rfl := Option.some.inj stepped
      exact holds seq c before
    | call k act =>
      obtain ⟨c₀, phase, runs, advanced, calls⟩ := step_call stepped
      have spec := advance_spec advanced (holds k c₀ runs) (tmpName_ne_target _).symm
      by_cases same : k = seq
      · subst same
        obtain rfl : c₀ = c := Option.some.inj (runs.symm.trans before)
        rw [calls, getElem?_set_self runs] at running
        have here := spec.holds
        rwa [Option.some.inj running] at here
      · -- one name would be one number, and one number one call
        have apart : tmpName pid seq c.target ≠ tmpName pid k c₀.target :=
          fun collide => same (seq_of_tmpName (own before) (own runs) collide).symm
        exact (holds seq c before).frame (spec.links _ apart (tmpName_ne_target _))
          (spec.look _ apart (tmpName_ne_target _))
  · have spec := advance_spec advanced (holds seq c₀ runs) (tmpName_ne_target _).symm
    have target : c₀.target = c.target := by rw [← same]
    have here := spec.holds
    rwa [same, target] at here

/-- A target changes when a call for it renames its file. -/
theorem step_target (stepped : step pid s a = some t) (holds : s.Holds pid) (target : Target) :
    t.dir.look target.name = s.dir.look target.name ∨
      ∃ seq act c, a = .call seq act ∧ t.calls[seq]? = some c ∧ c.target.name = target.name ∧
        c.phase = .renamed ∧ t.dir.look target.name = some c.bytes := by
  cases a with
  | start _ bytes =>
    obtain rfl := Option.some.inj stepped
    exact Or.inl rfl
  | call seq act =>
    obtain ⟨c, phase, runs, advanced, calls⟩ := step_call stepped
    have spec := advance_spec advanced (holds seq c runs) (tmpName_ne_target _).symm
    by_cases own : target.name = c.target.name
    · obtain ⟨renamed, put⟩ | ⟨-, kept⟩ := spec.target
      · right
        refine ⟨seq, act, { c with phase }, rfl, ?_, own.symm, renamed, own ▸ put⟩
        rw [calls, getElem?_set_self runs]
      · rw [own]
        exact Or.inl kept
    · exact Or.inl (spec.look _ (tmpName_ne_target target).symm own)

/-! ## Runs -/

theorem State.Numbered.start (numbered : t.Numbered) (reached : Reaches pid s t) :
    s.Numbered := by
  have grown : s.calls.length ≤ t.calls.length :=
    reached.invariant (I := fun t => s.calls.length ≤ t.calls.length) (Nat.le_refl _)
      fun _ _ _ _ grown _ stepped => grown.trans (length_step stepped)
  exact grown.trans numbered

/-- What holds at first and is kept by every step, as long as `TMP_SEQ` has not wrapped. -/
theorem State.Numbered.invariant {I : State → Prop} (numbered : t.Numbered)
    (reached : Reaches pid s t) (start : I s)
    (kept : ∀ u a v, Reaches pid s u → I u → step pid u a = some v → v.Numbered → I v) : I t := by
  revert numbered
  apply reached.invariant (I := fun t => t.Numbered → I t)
  · exact fun _ => start
  · intro u a v reached before _ stepped numbered
    exact kept u a v reached (before (numbered.before stepped)) stepped numbered

theorem reaches_holds (reached : Reaches pid (.init initial) s) (numbered : s.Numbered) :
    s.Holds pid := by
  apply numbered.invariant reached (I := fun s => s.Holds pid)
  · intro seq c running
    cases running
  · exact fun _ _ _ _ holds stepped numbered => step_holds stepped holds numbered

theorem reaches_keeps (reached : Reaches pid s t) (numbered : t.Numbered) (holds : s.Holds pid)
    (running : s.calls[seq]? = some c) :
    ∃ c', t.calls[seq]? = some c' ∧ c'.target = c.target ∧ c'.bytes = c.bytes ∧
      (c.phase.placed → c'.phase.placed) := by
  have both : t.Holds pid ∧ ∃ c', t.calls[seq]? = some c' ∧
      c'.target = c.target ∧ c'.bytes = c.bytes ∧ (c.phase.placed → c'.phase.placed) := by
    apply numbered.invariant reached (I := fun t => t.Holds pid ∧ ∃ c',
      t.calls[seq]? = some c' ∧ c'.target = c.target ∧ c'.bytes = c.bytes ∧
        (c.phase.placed → c'.phase.placed))
    · exact ⟨holds, c, running, rfl, rfl, id⟩
    · rintro u a v - ⟨holds, c', running, target, bytes, placed⟩ stepped numbered
      obtain ⟨c'', running', target', bytes', placed'⟩ := step_keeps stepped running holds
      exact ⟨step_holds stepped holds numbered, c'', running', target'.trans target,
        bytes'.trans bytes, fun before => placed' (placed before)⟩
  exact both.2

/-- A target holds what it held at first, or what some call put there. -/
def Whole (initial : Directory Text) (s : State) (target : Target) : Prop :=
  s.dir.look target.name = initial.look target.name ∨
    ∃ (seq : Nat) (c : Call), s.calls[seq]? = some c ∧ c.target.name = target.name ∧
      c.phase.placed ∧
      s.dir.look target.name = some c.bytes

theorem reaches_whole (reached : Reaches pid (.init initial) s) (numbered : s.Numbered)
    (target : Target) : Whole initial s target := by
  apply numbered.invariant reached (I := fun s => Whole initial s target)
  · exact Or.inl rfl
  · intro t a u reached whole stepped numbered
    have holds := reaches_holds reached (numbered.before stepped)
    obtain kept | ⟨seq, act, c, -, running, own, renamed, put⟩ := step_target stepped holds target
    · obtain first | ⟨seq, c, running, own, placed, held⟩ := whole
      · exact Or.inl (kept.trans first)
      · obtain ⟨c', running', target', bytes', placed'⟩ := step_keeps stepped running holds
        refine Or.inr ⟨seq, c', running', target' ▸ own, placed' placed, ?_⟩
        rw [kept, held, bytes']
    · exact Or.inr ⟨seq, c, running, own, Or.inl renamed, put⟩

/-- No step of a call that returns an error changes a target. -/
theorem target_unchanged_of_error (reached : Reaches pid (.init initial) s)
    (stepped : step pid s (.call seq act) = some t) (more : Reaches pid t u)
    (numbered : u.Numbered) (running : u.calls[seq]? = some c) (error : c.phase = .returned false)
    (target : Target) : t.dir.look target.name = s.dir.look target.name := by
  have middle := numbered.start more
  have holds := reaches_holds reached (middle.before stepped)
  obtain kept | ⟨k, act', c₀, same, placed, -, renamed, -⟩ := step_target stepped holds target
  · exact kept
  · obtain ⟨rfl, -⟩ := Action.call.inj same
    obtain ⟨c', running', -, -, stays⟩ :=
      reaches_keeps more numbered (step_holds stepped holds middle) placed
    obtain rfl : c' = c := Option.some.inj (running'.symm.trans running)
    obtain isRenamed | ok := stays (Or.inl renamed)
    · rw [error] at isRenamed
      cases isRenamed
    · rw [error] at ok
      cases ok

/-- A call that has renamed its file had its payload in place at that moment. -/
theorem placed_during_call (reached : Reaches pid (.init initial) s) (numbered : s.Numbered) :
    ∀ (seq : Nat) (c : Call), s.calls[seq]? = some c → c.phase.placed →
      ∃ (t : State) (c' : Call), Reaches pid (.init initial) t ∧ Reaches pid t s ∧
        t.calls[seq]? = some c' ∧ c'.target = c.target ∧ c'.bytes = c.bytes ∧ c'.phase = .renamed ∧
        t.dir.look c.target.name = some c.bytes := by
  apply numbered.invariant reached (I := fun s => ∀ (seq : Nat) (c : Call),
    s.calls[seq]? = some c → c.phase.placed →
      ∃ (t : State) (c' : Call), Reaches pid (.init initial) t ∧ Reaches pid t s ∧
        t.calls[seq]? = some c' ∧ c'.target = c.target ∧ c'.bytes = c.bytes ∧ c'.phase = .renamed ∧
        t.dir.look c.target.name = some c.bytes)
  · intro seq c running
    cases running
  · intro t a u reached ih stepped numbered seq c running placed
    have last : Reaches pid t u := .single trivial stepped
    obtain named | before | ⟨c₀, act, -, runs, same, advanced⟩ := step_from stepped running
    · rw [named] at placed
      obtain wrong | wrong := placed
      · cases wrong
      · cases wrong
    · obtain ⟨v, c', first, rest, found⟩ := ih seq c before placed
      exact ⟨v, c', first, rest.trans last, found⟩
    · have spec := advance_spec advanced
        (reaches_holds reached (numbered.before stepped) seq c₀ runs) (tmpName_ne_target _).symm
      have target : c₀.target = c.target := by rw [← same]
      have bytes : c₀.bytes = c.bytes := by rw [← same]
      obtain renamed | returned := placed
      · obtain ⟨-, put⟩ | ⟨unplaced, -⟩ := spec.target
        · rw [target, bytes] at put
          exact ⟨u, c, reached.tail trivial stepped, .refl, running, rfl, rfl, renamed, put⟩
        · exact absurd renamed unplaced
      · -- it was renamed before, and returns now
        obtain ⟨v, c', first, rest, runs', target', bytes', renamed, put⟩ :=
          ih seq c₀ runs (Or.inl (spec.success.mp returned))
        rw [target, bytes] at put
        exact ⟨v, c', first, rest.trans last, runs', target'.trans target, bytes'.trans bytes,
          renamed, put⟩

/-- Names that no call is about stay as they were. -/
theorem others_unchanged (reached : Reaches pid (.init initial) s) (numbered : s.Numbered)
    {name : Text}
    (others : ∀ (seq : Nat) (c : Call), s.calls[seq]? = some c →
      name ≠ tmpName pid seq c.target ∧ name ≠ c.target.name) :
    s.dir.look name = initial.look name := by
  revert others
  apply numbered.invariant reached (I := fun s => (∀ (seq : Nat) (c : Call),
    s.calls[seq]? = some c → name ≠ tmpName pid seq c.target ∧ name ≠ c.target.name) →
      s.dir.look name = initial.look name)
  · exact fun _ => rfl
  · intro t a u reached ih stepped numbered others
    have holds := reaches_holds reached (numbered.before stepped)
    have before : ∀ (seq : Nat) (c : Call), t.calls[seq]? = some c →
        name ≠ tmpName pid seq c.target ∧ name ≠ c.target.name := by
      intro seq c running
      obtain ⟨c', running', target, -, -⟩ := step_keeps stepped running holds
      exact target ▸ others seq c' running'
    rw [← ih before]
    cases a with
    | start target bytes =>
      obtain rfl := Option.some.inj stepped
      rfl
    | call seq act =>
      obtain ⟨c, phase, runs, advanced, -⟩ := step_call stepped
      have spec := advance_spec advanced (holds seq c runs) (tmpName_ne_target _).symm
      exact spec.look name (before seq c runs).1 (before seq c runs).2

/-- When all calls have returned their temporary files are gone, and there are no new ones. -/
theorem no_tmp_left (reached : Reaches pid (.init initial) s) (numbered : s.Numbered)
    (returned : ∀ (seq : Nat) (c : Call), s.calls[seq]? = some c → ∃ ok, c.phase = .returned ok) :
    (∀ (seq : Nat) (c : Call), s.calls[seq]? = some c →
      s.dir.look (tmpName pid seq c.target) = none) ∧
    ∀ name, extension <:+ name →
      s.dir.look name = none ∨ s.dir.look name = initial.look name := by
  have gone : ∀ (seq : Nat) (c : Call), s.calls[seq]? = some c →
      s.dir.look (tmpName pid seq c.target) = none := by
    intro seq c running
    obtain ⟨ok, place⟩ := returned seq c running
    have holds := reaches_holds reached numbered seq c running
    rw [Call.Holds, place] at holds
    exact holds
  refine ⟨gone, fun name isTmp => ?_⟩
  by_cases own : ∃ seq c, s.calls[seq]? = some c ∧ name = tmpName pid seq c.target
  · obtain ⟨seq, c, running, rfl⟩ := own
    exact Or.inl (gone seq c running)
  · right
    apply others_unchanged reached numbered
    intro seq c running
    constructor
    · exact fun same => own ⟨seq, c, running, same⟩
    · rintro rfl
      exact c.target.plain isTmp

/-! ## Any interleaving of calls -/

theorem write_atomic_calls (pid : Nat) (initial : Directory Text) {s : State}
    (reached : Reaches pid (.init initial) s) (numbered : s.calls.length ≤ UInt64.size) :
    (∀ target, Whole initial s target) ∧
    (∀ (t u : State) (seq : Nat) act (c : Call) (target : Target), Reaches pid (.init initial) t →
      step pid t (.call seq act) = some u → Reaches pid u s → s.calls[seq]? = some c →
        c.phase = .returned false → u.dir.look target.name = t.dir.look target.name) ∧
    (∀ (seq : Nat) (c : Call), s.calls[seq]? = some c → c.phase = .returned true →
      ∃ (t : State) (c' : Call), Reaches pid (.init initial) t ∧ Reaches pid t s ∧
        t.calls[seq]? = some c' ∧ c'.target = c.target ∧ c'.bytes = c.bytes ∧ c'.phase = .renamed ∧
        t.dir.look c.target.name = some c.bytes) ∧
    ((∀ (seq : Nat) (c : Call), s.calls[seq]? = some c → ∃ ok, c.phase = .returned ok) →
      (∀ (seq : Nat) (c : Call), s.calls[seq]? = some c →
        s.dir.look (tmpName pid seq c.target) = none) ∧
      ∀ name, extension <:+ name →
        s.dir.look name = none ∨ s.dir.look name = initial.look name) := by
  refine ⟨reaches_whole reached numbered, ?_, ?_, no_tmp_left reached numbered⟩
  · intro t u seq act c target before stepped after running error
    exact target_unchanged_of_error before stepped after numbered running error target
  · intro seq c running ok
    exact placed_during_call reached numbered seq c running (Or.inr ok)

def file : Target := ⟨['f'], by decide⟩

/-- Two calls for one file, of which the first fails to sync what it has written. -/
def twoCalls : List Action :=
  [.start file [1, 2], .start file [3], .call 0 (.create true), .call 1 (.create true),
    .call 0 (.write 1), .call 1 (.write 1), .call 0 (.write 1), .call 1 (.sync true),
    .call 0 (.sync false), .call 1 (.rename true), .call 0 .remove, .call 1 .finish]

theorem write_atomic_twoCalls :
    ∃ s, Reaches 7 (.init .empty) s ∧ s.dir.look file.name = some [3] ∧ Whole .empty s file ∧
      ∀ name, extension <:+ name → s.dir.look name = none := by
  have ends : (exec (step 7) (fun _ _ => true) (.init .empty) twoCalls).map (fun s =>
      decide (s.calls.map Call.phase = [.returned false, .returned true] ∧
        s.dir.look file.name = some [3])) = some true := by decide
  obtain ⟨s, run, final⟩ := exists_run_of_exec ends
  obtain ⟨phases, held⟩ := of_decide_eq_true final
  have reached : Reaches 7 (.init .empty) s := run.mono fun _ _ _ => trivial
  have two : s.calls.length = 2 := by simpa using congrArg List.length phases
  obtain ⟨whole, -, -, temporary⟩ :=
    write_atomic_calls 7 .empty reached (by rw [two]; decide)
  have returned : ∀ (seq : Nat) (c : Call), s.calls[seq]? = some c →
      ∃ ok, c.phase = .returned ok := by
    intro seq c running
    have listed : c.phase ∈ s.calls.map Call.phase :=
      List.mem_map_of_mem (List.mem_of_getElem? running)
    rw [phases] at listed
    obtain first | second := List.mem_pair.mp listed
    · exact ⟨false, first⟩
    · exact ⟨true, second⟩
  refine ⟨s, reached, held, whole file, fun name isTmp => ?_⟩
  obtain gone | same := (temporary returned).2 name isTmp
  · exact gone
  · exact same

end Rsbtd.WriteAtomic
