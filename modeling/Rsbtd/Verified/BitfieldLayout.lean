import Rsbtd.Bindings.Bitfield

/-!
# One layout of bitfields

The packers and the readers agree on where a bit is: what is packed is read back, and
the web UI reads the pieces that the bitfield of libtorrent has.  The operators of the
web UI keep 32 bits of an index, so it reads the bits again from 2^32 on.
-/

namespace Rsbtd.Bitfield

open Bits

variable {bytes : List UInt8} {field : PieceBitfield} {i : Nat}

/-! ## The conversions -/

theorem bitfield_to_bools_pack (view : BitfieldView) (bits : List Bool) (rest : List UInt8)
    (short : bits.length < 2147483648)
    (packed : view.bytes = some ((bools_to_bitfield bits).1 ++ rest))
    (counted : view.num_bits = (bools_to_bitfield bits).2) :
    bitfield_to_bools view = bits := by
  have count : view.num_bits.toNatClampNeg = bits.length := by
    rw [counted]
    exact Int32.toNatClampNeg_ofNat_of_lt short
  have slice : (pack bits ++ rest).take ((bits.length + 7) / 8) = pack bits := by
    rw [← length_pack, List.take_left']
    rfl
  rw [bitfield_to_bools, packed]
  dsimp only [bools_to_bitfield]
  rw [count, slice]
  split
  · rename_i empty
    have clamped : view.num_bits.toInt.toNat = bits.length := count
    rw [Int32.le_iff_toInt_le, Int32.toInt_zero] at empty
    have zero : bits.length = 0 := by omega
    exact (List.length_eq_zero_iff.mp zero).symm
  · apply List.ext_getElem
    · simp
    · intro i _ listed
      rw [List.getElem_map, List.getElem_range]
      have read := bit_pack bits i
      rw [bit, List.getD_eq_getElem bits false listed] at read
      exact read

theorem bools_to_bitfield_padding (bits : List Bool) :
    (bools_to_bitfield bits).1.length = (bits.length + 7) / 8 ∧
      ∀ i, bits.length ≤ i → bit (bools_to_bitfield bits).1 i = false := by
  constructor
  · exact length_pack bits
  · intro i past
    rw [bools_to_bitfield, bit_pack, List.getD_eq_default _ _ past]

/-! ## The pieces -/

namespace PieceBitfield

theorem get_eq_some_true :
    field.get i = some true ↔ i < field.bits ∧ bit field.bytes i = true := by
  by_cases past : field.bits ≤ i
  · simp [get, past, Nat.not_lt.mpr past]
  · have below : i < field.bits := by omega
    rw [get, if_neg past, Option.some.injEq]
    exact ⟨fun set => ⟨below, set⟩, And.right⟩

/-- The padding bits of the source are not packed again. -/
theorem bit_pack_iter : bit (pack field.iter) i = true ↔ field.get i = some true := by
  rw [bit_pack, get_eq_some_true]
  by_cases below : i < field.bits
  · rw [List.getD_eq_getElem _ _ (by simpa [iter] using below)]
    simp [iter, below, bit]
  · rw [List.getD_eq_default _ _ (by simpa [iter] using below)]
    simp [below]

theorem length_pack_iter : (pack field.iter).length ≤ 268435456 := by
  have counted := field.counted
  rw [length_pack, iter, List.length_map, List.length_range]
  omega

end PieceBitfield

/-- The web UI reads the same layout, at the low 32 bits of the index. -/
theorem hasPiece_eq_bit (j : Int) (small : bytes.length ≤ 268435456) :
    hasPiece bytes j = bit bytes (j % 4294967296).toNat := by
  obtain ⟨n, low⟩ : ∃ n, n = (j % 4294967296).toNat := ⟨_, rfl⟩
  have bounded : n < 4294967296 := by omega
  have asNat : (BitVec.ofInt 32 j).toNat = n := by
    rw [low, BitVec.toNat_ofInt]
    rfl
  have shift : (BitVec.ofInt 32 j &&& 7).toNat = n % 8 := by
    rw [BitVec.toNat_and, asNat]
    exact Nat.and_two_pow_sub_one_eq_mod n 3
  have index : ((BitVec.ofInt 32 j).sshiftRight 3).toInt =
      if n < 2147483648 then (n / 8 : Int) else ((n : Int) - 4294967296) / 8 := by
    rw [BitVec.toInt_sshiftRight, Int.shiftRight_eq_div_pow, BitVec.toInt_eq_toNat_cond, asNat]
    by_cases positive : n < 2147483648
    · rw [if_pos positive, if_pos (by omega)]
      rfl
    · rw [if_neg positive, if_neg (by omega)]
      rfl
  rw [← low, hasPiece, index, shift]
  by_cases positive : n < 2147483648
  · have here : (n / 8 : Int).toNat = n / 8 := by omega
    rw [if_pos positive, if_neg (by omega), here]
    by_cases inside : n / 8 < bytes.length
    · have value : 0x80 >>> (n % 8) = 2 ^ (7 - n % 8) := by
        have each : ∀ k : Fin 8, 0x80 >>> k.val = 2 ^ (7 - k.val) := by decide
        exact each ⟨n % 8, Nat.mod_lt n (by decide)⟩
      rw [List.getElem?_eq_getElem inside, bit_eq_testBit, List.getD_eq_getElem _ _ inside]
      dsimp only
      rw [value, and_two_pow_ne_zero]
    · have outside : bytes.length ≤ n / 8 := by omega
      rw [List.getElem?_eq_none outside, bit_outside outside]
  · -- the sign makes the index negative, where the array has nothing
    have outside : bytes.length ≤ n / 8 := by omega
    rw [if_neg positive, if_pos (by omega), bit_outside outside]

theorem pieces_bitfield (nonempty : field.bits ≠ 0) (num_pieces : Option Int32) :
    (pieces (some field) true num_pieces).bitfield = some (pack field.iter) := by
  simp [pieces, PieceBitfield.is_empty, Option.filter, nonempty]

theorem hasPiece_pack_iff (j : Int) :
    hasPiece (pack field.iter) j = true ↔ field.get (j % 4294967296).toNat = some true := by
  rw [hasPiece_eq_bit j PieceBitfield.length_pack_iter, PieceBitfield.bit_pack_iter]

/-! ## The layouts agree -/

theorem bitfield_layouts_agree :
    (∀ (bits : List Bool) (view : BitfieldView) (rest : List UInt8),
      bits.length < 2147483648 →
      view.bytes = some ((bools_to_bitfield bits).1 ++ rest) →
      view.num_bits = (bools_to_bitfield bits).2 →
        bitfield_to_bools view = bits ∧
        (bools_to_bitfield bits).1.length = (bits.length + 7) / 8 ∧
        ∀ i, bits.length ≤ i → bit (bools_to_bitfield bits).1 i = false) ∧
    ∀ (field : PieceBitfield) (num_pieces : Option Int32), field.bits ≠ 0 →
      ∃ packed, (pieces (some field) true num_pieces).bitfield = some packed ∧
        (∀ i : Nat, i < 4294967296 → (hasPiece packed i = true ↔ field.get i = some true)) ∧
        ∀ j : Int, hasPiece packed j = true ↔ field.get (j % 4294967296).toNat = some true := by
  refine ⟨fun bits view rest short packed counted => ?_, fun field num_pieces nonempty => ?_⟩
  · exact ⟨bitfield_to_bools_pack view bits rest short packed counted,
      bools_to_bitfield_padding bits⟩
  · refine ⟨pack field.iter, pieces_bitfield nonempty num_pieces, fun i below => ?_,
      hasPiece_pack_iff⟩
    have low : ((i : Int) % 4294967296).toNat = i := by omega
    rw [hasPiece_pack_iff, low]

def onePiece : PieceBitfield :=
  { bytes := [255], bits := 1, covered := rfl, counted := by decide }

theorem bitfield_layouts_agree_onePiece :
    bitfield_to_bools ⟨some [160], 3, by decide⟩ = [true, false, true] ∧
      hasPiece [128] 0 = true ∧ hasPiece [128] 1 = false := by
  have layouts := bitfield_layouts_agree
  obtain ⟨packed, sent, below, -⟩ := layouts.2 onePiece none (by decide)
  have bytes : (pieces (some onePiece) true none).bitfield = some [128] := by decide
  rw [bytes, Option.some.injEq] at sent
  subst sent
  refine ⟨(layouts.1 [true, false, true] _ [] (by decide) rfl rfl).1, ?_, ?_⟩
  · exact (below 0 (by decide)).mpr (by decide)
  · exact Bool.eq_false_iff.mpr fun set => absurd ((below 1 (by decide)).mp set) (by decide)

/-- The index 2^32 is read as the index 0. -/
theorem hasPiece_starts_over :
    (pieces (some onePiece) true none).bitfield = some [128] ∧
      hasPiece [128] 4294967296 = true ∧ onePiece.get 4294967296 = none ∧
      ¬ ∀ (field : PieceBitfield) (packed : List UInt8),
          (pieces (some field) true none).bitfield = some packed →
            ∀ i : Nat, hasPiece packed i = true ↔ field.get i = some true := by
  have sent : (pieces (some onePiece) true none).bitfield = some [128] := by decide
  have read : hasPiece [128] 4294967296 = true := by decide
  have past : onePiece.get 4294967296 = none := by decide
  refine ⟨sent, read, past, fun agree => ?_⟩
  have set := (agree onePiece [128] sent 4294967296).mp read
  rw [past] at set
  cases set

end Rsbtd.Bitfield
