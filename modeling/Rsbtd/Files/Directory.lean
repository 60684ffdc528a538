import Mathlib.Logic.Function.Basic
import Mathlib.Data.Option.Basic

/-!
# A directory of files

A name links to a file, and no two names to the same one.  A file that is open is
written through its number, whatever its name has become.  `look` is what reading a
name gives; each operation changes it at the names that it is about.
-/

namespace Rsbtd.Files

abbrev Content := List UInt8

structure Directory (ν : Type) where
  links : ν → Option Nat
  content : Nat → Content
  /-- The number of the next file. -/
  next : Nat
  numbered : ∀ name file, links name = some file → file < next
  single : ∀ a b file, links a = some file → links b = some file → a = b

namespace Directory

variable {ν : Type} {d d' : Directory ν} {name other source target : ν}
  {file : Nat} {offset : Nat} {bytes : Content}

def empty : Directory ν where
  links _ := none
  content _ := []
  next := 0
  numbered name file linked := by cases linked
  single a b file linked _ := by cases linked

def look (d : Directory ν) (name : ν) : Option Content := (d.links name).map d.content

/-- Writes the bytes to the open file, from the offset on. -/
def write (d : Directory ν) (file offset : Nat) (bytes : Content) : Directory ν :=
  { d with
    content := Function.update d.content file
      ((d.content file).take offset ++ bytes ++ (d.content file).drop (offset + bytes.length)) }

@[simp] theorem links_write : (d.write file offset bytes).links = d.links := rfl

/-- Bytes written at the end of the file are appended. -/
theorem look_write {before : Content} (linked : d.links name = some file)
    (read : d.look name = some before) (atEnd : before.length = offset) :
    (d.write file offset bytes).look name = some (before ++ bytes) := by
  have held : d.content file = before := by
    rw [look, linked, Option.map_some, Option.some.injEq] at read
    exact read
  have written : (d.write file offset bytes).content file =
      before.take offset ++ bytes ++ before.drop (offset + bytes.length) := by
    rw [← held]
    exact Function.update_self _ _ _
  rw [look, links_write, linked, Option.map_some, written, ← atEnd, List.take_length,
    List.drop_eq_nil_of_le (Nat.le_add_right _ _), List.append_nil]

theorem look_write_of_ne (linked : d.links name = some file) (differs : other ≠ name) :
    (d.write file offset bytes).look other = d.look other := by
  rw [look, look, links_write]
  apply Option.map_congr
  intro f linkedOther
  apply Function.update_of_ne
  rintro rfl
  exact differs (d.single other name f linkedOther linked)

/-- The file that creating a name opens. -/
def opened (d : Directory ν) (name : ν) : Nat := (d.links name).getD d.next

variable [DecidableEq ν]

/-- Creates the file, or empties it if it exists. -/
def create (d : Directory ν) (name : ν) : Directory ν where
  links := Function.update d.links name (some (d.opened name))
  content := Function.update d.content (d.opened name) []
  next := d.next + 1
  numbered a file linked := by
    have bound : d.opened name < d.next + 1 := by
      rw [opened]
      cases links : d.links name with
      | none => exact Nat.lt_succ_self _
      | some f => exact Nat.lt_succ_of_lt (d.numbered name f links)
    by_cases same : a = name
    · rw [same, Function.update_self, Option.some.injEq] at linked
      exact linked ▸ bound
    · rw [Function.update_of_ne same] at linked
      exact Nat.lt_succ_of_lt (d.numbered a file linked)
  single a b file linkedA linkedB := by
    -- another name does not link to the file opened: that is its own, or a new one
    have apart : ∀ c, c ≠ name → d.links c ≠ some (d.opened name) := by
      intro c differs linked
      rw [opened] at linked
      cases links : d.links name with
      | none =>
        rw [links] at linked
        exact absurd (d.numbered c _ linked) (Nat.lt_irrefl _)
      | some f =>
        rw [links] at linked
        exact differs (d.single c name f linked links)
    by_cases isA : a = name
    · by_cases isB : b = name
      · rw [isA, isB]
      · rw [isA, Function.update_self, Option.some.injEq] at linkedA
        rw [Function.update_of_ne isB, ← linkedA] at linkedB
        exact absurd linkedB (apart b isB)
    · rw [Function.update_of_ne isA] at linkedA
      by_cases isB : b = name
      · rw [isB, Function.update_self, Option.some.injEq] at linkedB
        rw [← linkedB] at linkedA
        exact absurd linkedA (apart a isA)
      · rw [Function.update_of_ne isB] at linkedB
        exact d.single a b file linkedA linkedB

def remove (d : Directory ν) (name : ν) : Directory ν where
  links := Function.update d.links name none
  content := d.content
  next := d.next
  numbered a file linked := by
    by_cases same : a = name
    · rw [same, Function.update_self] at linked
      cases linked
    · rw [Function.update_of_ne same] at linked
      exact d.numbered a file linked
  single a b file linkedA linkedB := by
    have there : ∀ c, Function.update d.links name none c = some file →
        d.links c = some file := by
      intro c linked
      by_cases same : c = name
      · rw [same, Function.update_self] at linked
        cases linked
      · rwa [Function.update_of_ne same] at linked
    exact d.single a b file (there a linkedA) (there b linkedB)

/-- Gives a file another name, in place of the file that had it. -/
def move (d : Directory ν) (source target : ν) (file : Nat) (linked : d.links source = some file) :
    Directory ν where
  links := Function.update (Function.update d.links source none) target (some file)
  content := d.content
  next := d.next
  numbered a f linkedA := by
    by_cases isTarget : a = target
    · rw [isTarget, Function.update_self, Option.some.injEq] at linkedA
      exact linkedA ▸ d.numbered source file linked
    · rw [Function.update_of_ne isTarget] at linkedA
      exact (d.remove source).numbered a f linkedA
  single a b f linkedA linkedB := by
    have moved : ∀ c, c ≠ target → Function.update d.links source none c ≠ some file := by
      intro c _ linkedC
      by_cases isSource : c = source
      · rw [isSource, Function.update_self] at linkedC
        cases linkedC
      · rw [Function.update_of_ne isSource] at linkedC
        exact isSource (d.single c source file linkedC linked)
    by_cases isA : a = target
    · by_cases isB : b = target
      · rw [isA, isB]
      · rw [isA, Function.update_self, Option.some.injEq] at linkedA
        rw [Function.update_of_ne isB, ← linkedA] at linkedB
        exact absurd linkedB (moved b isB)
    · rw [Function.update_of_ne isA] at linkedA
      by_cases isB : b = target
      · rw [isB, Function.update_self, Option.some.injEq] at linkedB
        rw [← linkedB] at linkedA
        exact absurd linkedA (moved a isA)
      · rw [Function.update_of_ne isB] at linkedB
        exact (d.remove source).single a b f linkedA linkedB

/-- `rename`, which fails if there is no such file. -/
def rename (d : Directory ν) (source target : ν) : Option (Directory ν) :=
  if linked : (d.links source).isSome then
    some (d.move source target ((d.links source).get linked) (Option.some_get linked).symm)
  else
    none

/-! ## What is read afterwards -/

theorem links_create : (d.create name).links name = some (d.opened name) :=
  Function.update_self _ _ _

theorem links_create_of_ne (differs : other ≠ name) :
    (d.create name).links other = d.links other :=
  Function.update_of_ne differs _ _

/-- No other name links to the file that creating a name opens. -/
theorem links_ne_opened (differs : other ≠ name) : d.links other ≠ some (d.opened name) := by
  intro linked
  have after : (d.create name).links other = some (d.opened name) :=
    (links_create_of_ne differs).trans linked
  exact differs ((d.create name).single other name _ after links_create)

theorem look_create : (d.create name).look name = some [] := by
  rw [look, links_create, Option.map_some]
  exact congrArg some (Function.update_self _ _ _)

theorem look_create_of_ne (differs : other ≠ name) : (d.create name).look other = d.look other := by
  rw [look, look, links_create_of_ne differs]
  apply Option.map_congr
  intro file linked
  apply Function.update_of_ne
  rintro rfl
  exact links_ne_opened differs linked

theorem links_remove_of_ne (differs : other ≠ name) :
    (d.remove name).links other = d.links other :=
  Function.update_of_ne differs _ _

theorem look_remove : (d.remove name).look name = none := by
  have unlinked : (d.remove name).links name = none := Function.update_self _ _ _
  rw [look, unlinked, Option.map_none]

theorem look_remove_of_ne (differs : other ≠ name) : (d.remove name).look other = d.look other := by
  rw [look, look, links_remove_of_ne differs]
  rfl

theorem rename_eq_some (renamed : d.rename source target = some d') :
    ∃ file, d.links source = some file ∧
      d'.links = Function.update (Function.update d.links source none) target (some file) ∧
      d'.content = d.content := by
  rw [rename] at renamed
  split at renamed
  · rename_i linked
    rw [Option.some.injEq] at renamed
    subst renamed
    exact ⟨_, (Option.some_get linked).symm, rfl, rfl⟩
  · cases renamed

theorem look_rename (renamed : d.rename source target = some d') :
    d'.look target = d.look source := by
  obtain ⟨file, linked, links, content⟩ := rename_eq_some renamed
  rw [look, look, links, content, linked, Function.update_self]

theorem look_rename_source (renamed : d.rename source target = some d')
    (differs : source ≠ target) : d'.look source = none := by
  obtain ⟨file, -, links, -⟩ := rename_eq_some renamed
  rw [look, links, Function.update_of_ne differs, Function.update_self, Option.map_none]

theorem links_rename_of_ne (renamed : d.rename source target = some d') (isSource : other ≠ source)
    (isTarget : other ≠ target) : d'.links other = d.links other := by
  obtain ⟨file, -, links, -⟩ := rename_eq_some renamed
  rw [links, Function.update_of_ne isTarget, Function.update_of_ne isSource]

theorem look_rename_of_ne (renamed : d.rename source target = some d') (isSource : other ≠ source)
    (isTarget : other ≠ target) : d'.look other = d.look other := by
  obtain ⟨file, -, -, content⟩ := rename_eq_some renamed
  rw [look, look, links_rename_of_ne renamed isSource isTarget, content]

end Directory

end Rsbtd.Files
