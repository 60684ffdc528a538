import Mathlib.Algebra.Order.BigOperators.Group.List
import Mathlib.Data.List.Nodup
import Mathlib.Data.List.Perm.Basic
import Mathlib.Tactic.Ring
import Rsbtd.Bindings.CreateTorrent

/-!
# The file lists a torrent is made from

The loop of `CreateTorrent::new` accepts a list exactly when it is `WellFormed`.
`Accepts` is that for the part of the list that is still ahead, and is proved
along the loop.  The wrapper's own checks then have nothing left to find except
libtorrent's limits, and its index map takes a file of the caller to the one file
of the builder with that path.
-/

namespace Rsbtd.CreateTorrent

open Checks
open Keyed (Store)

section Layout

variable {windows many : Bool} {display : Path → String} {files rest : List FileEntry}
  {f : FileEntry} {scan next : Scan} {pieceSize : Nat}

/-- The file is in the directory `root`, at some depth. -/
def Rooted (windows : Bool) (root : Path) (f : FileEntry) : Prop :=
  ∃ name rest, splitPath windows f.path = root :: name :: rest

def totalSize (files : List FileEntry) : Int := (files.map FileEntry.size).sum

/-- A list of files that makes a torrent. -/
structure WellFormed (windows : Bool) (files : List FileEntry) : Prop where
  sizes : ∀ f ∈ files, 0 ≤ f.size
  total : totalSize files ≤ i64Max
  paths : (files.map FileEntry.path).Nodup
  components : ∀ f ∈ files, ∀ c ∈ splitPath windows f.path, c ≠ [] ∧ c ≠ [dot] ∧ c ≠ [dot, dot]
  root : 1 < files.length → ∃ root, ∀ f ∈ files, Rooted windows root f

/-- The pieces a file takes when it starts at a piece boundary. -/
def pieces (size length : Int) : Int := (size + length - 1) / length

/-- A piece size that is left to libtorrent, or one with few enough pieces. -/
def PieceSizeFits (files : List FileEntry) (pieceSize : Nat) : Prop :=
  pieceSize ≠ 0 → 16 * 1024 ≤ pieceSize ∧ pieceSize ≤ MAX_PIECE_SIZE ∧ pieceSize.isPowerOfTwo ∧
    pieces (totalSize files) pieceSize + files.length ≤ MAX_PIECE_COUNT

/-- What the loop still asks of the files ahead. -/
structure Accepts (windows many : Bool) (scan : Scan) (files : List FileEntry) : Prop where
  sizes : ∀ f ∈ files, 0 ≤ f.size
  total : scan.totalSize + totalSize files ≤ i64Max
  fresh : ∀ f ∈ files, f.path ∉ scan.seenPaths
  paths : (files.map FileEntry.path).Nodup
  components : ∀ f ∈ files, (splitPath windows f.path).all plain = true
  root : many = true → ∃ root, (∀ old, scan.commonRoot = some old → old = root) ∧
    ∀ f ∈ files, Rooted windows root f

@[simp] theorem totalSize_cons : totalSize (f :: rest) = f.size + totalSize rest := rfl

theorem totalSize_nonneg (sizes : ∀ f ∈ files, 0 ≤ f.size) : 0 ≤ totalSize files :=
  List.sum_nonneg (by simpa using sizes)

theorem plain_eq_true {c : Path} : plain c = true ↔ c ≠ [] ∧ c ≠ [dot] ∧ c ≠ [dot, dot] := by
  simp [plain, and_assoc]

theorem path_ne_nil (components : (splitPath windows f.path).all plain = true) : f.path ≠ [] := by
  intro empty
  rw [empty] at components
  simp [splitPath, plain] at components

theorem inRoot_eq_ok {path : Path} {components : List Path} {root : Option Path} :
    scan.inRoot display path components = .ok root ↔
      ∃ first name more, components = first :: name :: more ∧ root = some first ∧
        ∀ old, scan.commonRoot = some old → old = first := by
  unfold Scan.inRoot
  split
  case h_1 first name more =>
    split
    case h_1 unset => simp [unset, eq_comm]
    case h_2 expected set =>
      split
      case isTrue different => simp [set, different]
      case isFalse same =>
        have same : expected = first := by simpa using same
        simp [set, same, eq_comm]
  case h_2 short =>
    refine ⟨fun failed => ?_, ?_⟩
    · cases failed
    rintro ⟨first, name, more, long, _⟩
    exact absurd long (short first name more)

theorem entry_eq_ok : scan.entry windows display many f = .ok next ↔
    (0 ≤ f.size ∧ scan.totalSize + f.size ≤ i64Max ∧ f.path ∉ scan.seenPaths ∧
      (splitPath windows f.path).all plain = true) ∧
    ∃ root, scan.nextRoot display many f.path (splitPath windows f.path) = .ok root ∧
      next = ⟨scan.totalSize + f.size, f.path :: scan.seenPaths, root⟩ := by
  simp only [Scan.entry, bind_eq_ok, require_eq_ok, exists_const, pure, Except.pure,
    Except.ok.injEq, eq_comm (a := next)]
  constructor
  · rintro ⟨size, total, _, fresh, components, rest⟩
    exact ⟨⟨size, total, fresh, components⟩, rest⟩
  · rintro ⟨⟨size, total, fresh, components⟩, rest⟩
    exact ⟨size, total, path_ne_nil components, fresh, components, rest⟩

theorem Accepts.cons_iff (display : Path → String) : Accepts windows many scan (f :: rest) ↔
    ∃ next, scan.entry windows display many f = .ok next ∧ Accepts windows many next rest := by
  constructor
  · intro accepts
    have nodup := List.nodup_cons.mp accepts.paths
    have later := totalSize_nonneg fun g member => accepts.sizes g (List.mem_cons_of_mem f member)
    have total := accepts.total
    rw [totalSize_cons] at total
    have fresh : ∀ g ∈ rest, g.path ∉ f.path :: scan.seenPaths := fun g member seen =>
      (List.mem_cons.mp seen).elim (fun same => nodup.1 (List.mem_map.mpr ⟨g, member, same⟩))
        (accepts.fresh g (List.mem_cons_of_mem f member))
    have here : 0 ≤ f.size ∧ scan.totalSize + f.size ≤ i64Max ∧ f.path ∉ scan.seenPaths ∧
        (splitPath windows f.path).all plain = true :=
      ⟨accepts.sizes f List.mem_cons_self, by omega, accepts.fresh f List.mem_cons_self,
        accepts.components f List.mem_cons_self⟩
    have tail : ∀ root, (many = true → ∃ top, root = some top ∧
        ∀ g ∈ rest, Rooted windows top g) →
        Accepts windows many ⟨scan.totalSize + f.size, f.path :: scan.seenPaths, root⟩ rest := by
      intro root rooted
      refine ⟨fun g member => accepts.sizes g (List.mem_cons_of_mem f member), by
        simp only; omega, fresh, nodup.2,
        fun g member => accepts.components g (List.mem_cons_of_mem f member), fun multi => ?_⟩
      obtain ⟨top, same, below⟩ := rooted multi
      exact ⟨top, fun old here => by simpa [same] using here.symm, below⟩
    -- With one file the common root is neither read nor set.
    cases many with
    | false => exact ⟨_, entry_eq_ok.mpr ⟨here, _, rfl, rfl⟩, tail _ (by simp)⟩
    | true =>
      obtain ⟨root, before, rooted⟩ := accepts.root rfl
      obtain ⟨name, more, split⟩ := rooted f List.mem_cons_self
      refine ⟨_, entry_eq_ok.mpr ⟨here, some root, ?_, rfl⟩, tail _ fun _ =>
        ⟨root, rfl, fun g member => rooted g (List.mem_cons_of_mem f member)⟩⟩
      exact inRoot_eq_ok.mpr ⟨root, name, more, split, rfl, before⟩
  · rintro ⟨next, accepted, accepts⟩
    obtain ⟨⟨size, _, fresh, components⟩, root, chosen, rfl⟩ := entry_eq_ok.mp accepted
    have ahead := accepts.fresh
    simp only [List.mem_cons, not_or] at ahead
    refine ⟨?_, ?_, ?_, ?_, ?_, fun multi => ?_⟩
    · simpa using ⟨size, accepts.sizes⟩
    · have total := accepts.total
      simp only [totalSize_cons] at total ⊢
      omega
    · simpa using ⟨fresh, fun g member => (ahead g member).2⟩
    · refine List.nodup_cons.mpr ⟨fun again => ?_, accepts.paths⟩
      obtain ⟨g, member, same⟩ := List.mem_map.mp again
      exact (ahead g member).1 same
    · exact List.forall_mem_cons.mpr ⟨components, accepts.components⟩
    · obtain ⟨top, same, below⟩ := accepts.root multi
      rw [Scan.nextRoot, multi, if_pos rfl] at chosen
      obtain ⟨first, name, more, split, rfl, before⟩ := inRoot_eq_ok.mp chosen
      obtain rfl := same first rfl
      exact ⟨first, before, List.forall_mem_cons.mpr ⟨⟨name, more, split⟩, below⟩⟩

/-- The loop runs to its end exactly on the lists it accepts, with their total. -/
theorem scan_ok_iff (bounded : scan.totalSize ≤ i64Max) :
    (∃ last, files.foldlM (Scan.entry windows display many) scan = .ok last ∧
      last.totalSize = scan.totalSize + totalSize files) ↔ Accepts windows many scan files := by
  induction files generalizing scan with
  | nil =>
    refine ⟨fun _ => ⟨by simp, by simpa [totalSize] using bounded, by simp, List.nodup_nil,
      by simp, fun _ => ?_⟩, fun _ => ⟨scan, rfl, by simp [totalSize]⟩⟩
    cases set : scan.commonRoot with
    | none => exact ⟨[], by simp, by simp⟩
    | some root => exact ⟨root, by simp, by simp⟩
  | cons f rest ih =>
    rw [Accepts.cons_iff display]
    constructor
    · rintro ⟨last, replayed, total⟩
      obtain ⟨next, accepted, replayed⟩ := foldlM_cons_eq_ok.mp replayed
      obtain ⟨⟨_, fits, _, _⟩, _, _, rfl⟩ := entry_eq_ok.mp accepted
      exact ⟨_, accepted, (ih fits).mp ⟨last, replayed, by simp_all; omega⟩⟩
    · rintro ⟨next, accepted, accepts⟩
      obtain ⟨⟨_, fits, _, _⟩, _, _, rfl⟩ := entry_eq_ok.mp accepted
      obtain ⟨last, replayed, total⟩ := (ih fits).mpr accepts
      exact ⟨last, foldlM_cons_eq_ok.mpr ⟨_, accepted, replayed⟩, by simp_all; omega⟩

theorem scan_total {last : Scan}
    (replayed : files.foldlM (Scan.entry windows display many) scan = .ok last) :
    last.totalSize = scan.totalSize + totalSize files := by
  induction files generalizing scan with
  | nil =>
    obtain rfl := foldlM_nil_eq_ok.mp replayed
    simp [totalSize]
  | cons f rest ih =>
    obtain ⟨next, accepted, replayed⟩ := foldlM_cons_eq_ok.mp replayed
    obtain ⟨_, _, _, rfl⟩ := entry_eq_ok.mp accepted
    have total := ih replayed
    simp only [totalSize_cons] at total ⊢
    omega

theorem accepts_iff_wellFormed :
    Accepts windows (decide (1 < files.length)) ⟨0, [], none⟩ files ↔ WellFormed windows files := by
  constructor
  · intro accepts
    refine ⟨accepts.sizes, by simpa using accepts.total, accepts.paths, fun f member c component =>
      plain_eq_true.mp (List.all_eq_true.mp (accepts.components f member) c component),
      fun multi => ?_⟩
    obtain ⟨root, _, rooted⟩ := accepts.root (decide_eq_true multi)
    exact ⟨root, rooted⟩
  · intro formed
    refine ⟨formed.sizes, by simpa using formed.total, by simp, formed.paths, fun f member =>
      List.all_eq_true.mpr fun c component =>
        plain_eq_true.mpr (formed.components f member c component), fun multi => ?_⟩
    obtain ⟨root, rooted⟩ := formed.root (of_decide_eq_true multi)
    exact ⟨root, by simp, rooted⟩

/-! ### Pieces -/

/-- The quotient and one more for what is left over. -/
theorem pieces_eq (size : Int) {length : Int} (positive : 0 < length) :
    pieces size length = size / length + if size % length ≠ 0 then 1 else 0 := by
  have parts := Int.mul_ediv_add_emod size length
  have low := Int.emod_nonneg size positive.ne'
  have high := Int.emod_lt_of_pos size positive
  -- The whole pieces come out of the quotient, what is left over decides about one more.
  have shape : size + length - 1 = (size % length + length - 1) + length * (size / length) := by
    omega
  rw [pieces, shape, Int.add_mul_ediv_left _ _ positive.ne']
  split
  case isTrue more =>
    have one : (size % length + length - 1) / length = 1 := by
      rw [show size % length + length - 1 = (size % length - 1) + length * 1 by ring,
        Int.add_mul_ediv_left _ _ positive.ne', Int.ediv_eq_zero_of_lt (by omega) (by omega)]
      rfl
    omega
  case isFalse even =>
    have none : size % length = 0 := by simpa using even
    rw [Int.ediv_eq_zero_of_lt (by omega) (by omega)]
    omega

theorem ediv_add_ediv_le {a b length : Int} (positive : 0 < length) :
    a / length + b / length ≤ (a + b) / length := by
  rw [Int.le_ediv_iff_mul_le positive, Int.add_mul]
  exact Int.add_le_add (Int.ediv_mul_le a positive.ne') (Int.ediv_mul_le b positive.ne')

/-- Padding each file to a piece boundary costs at most a piece for each. -/
theorem sum_pieces_le (files : List FileEntry) {length : Int} (positive : 0 < length) :
    (files.map fun f => pieces f.size length).sum ≤ totalSize files / length + files.length := by
  induction files with
  | nil => simp [totalSize]
  | cons f rest ih =>
    have here := pieces_eq f.size positive
    have whole := ediv_add_ediv_le (a := f.size) (b := totalSize rest) positive
    simp only [List.map_cons, List.sum_cons, List.length_cons, totalSize_cons, Nat.cast_add,
      Nat.cast_one]
    split at here <;> omega

theorem checkPieceSize_eq_ok {u : Unit} : checkPieceSize pieceSize = .ok u ↔
    (pieceSize ≠ 0 → 16 * 1024 ≤ pieceSize ∧ pieceSize ≤ MAX_PIECE_SIZE ∧
      pieceSize.isPowerOfTwo) := by
  have power : pieceSize ≠ 0 → (2 ^ pieceSize.log2 = pieceSize ↔ pieceSize.isPowerOfTwo) := by
    intro _
    refine ⟨fun same => ⟨_, same.symm⟩, ?_⟩
    rintro ⟨k, rfl⟩
    rw [Nat.log2_two_pow]
  simp only [checkPieceSize, bind_eq_ok, require_eq_ok, exists_const]
  constructor
  · rintro ⟨high, low, two⟩ given
    exact ⟨low given, high given, (power given).mp (two given)⟩
  · intro all
    exact ⟨fun given => (all given).2.1, fun given => (all given).1,
      fun given => (power given).mpr (all given).2.2⟩

theorem checkPieceCount_eq_ok {total : Int} (nonneg : 0 ≤ total) {n : Nat} :
    checkPieceCount pieceSize n total = .ok () ↔
      (pieceSize ≠ 0 → pieces total pieceSize + n ≤ MAX_PIECE_COUNT) := by
  rw [checkPieceCount, require_eq_ok]
  refine imp_congr_right fun given => ?_
  have positive : (0 : Int) < pieceSize := by omega
  rw [pieces_eq total positive]
  have quotient : 0 ≤ total / (pieceSize : Int) := Int.ediv_nonneg nonneg positive.le
  -- neither subtraction can saturate
  simp only [saturatingSub, i64Min, i64Max, MAX_PIECE_COUNT]
  split <;> omega

/-- What `CreateTorrent::new` lets through are the well-formed lists. -/
theorem layout_accepted_iff : validate windows display files pieceSize = .ok () ↔
    WellFormed windows files ∧ PieceSizeFits files pieceSize := by
  have loop := @scan_ok_iff windows (decide (1 < files.length)) display files ⟨0, [], none⟩
    (by simp [i64Max])
  rw [accepts_iff_wellFormed] at loop
  simp only [validate, bind_eq_ok, checkPieceSize_eq_ok, exists_const]
  constructor
  · rintro ⟨size, last, replayed, count⟩
    have total := scan_total replayed
    have formed := loop.mp ⟨last, replayed, total⟩
    rw [total, Int.zero_add, checkPieceCount_eq_ok (totalSize_nonneg formed.sizes)] at count
    exact ⟨formed, fun given => ⟨(size given).1, (size given).2.1, (size given).2.2, count given⟩⟩
  · rintro ⟨formed, fits⟩
    obtain ⟨last, replayed, total⟩ := loop.mpr formed
    refine ⟨fun given => ⟨(fits given).1, (fits given).2.1, (fits given).2.2.1⟩, last, replayed, ?_⟩
    rw [total, Int.zero_add, checkPieceCount_eq_ok (totalSize_nonneg formed.sizes)]
    exact fun given => (fits given).2.2.2

end Layout

end Rsbtd.CreateTorrent
