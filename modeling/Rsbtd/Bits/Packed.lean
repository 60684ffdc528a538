import Mathlib.Data.List.Basic
import Mathlib.Data.Nat.Bitwise

/-!
# Bits packed into bytes

Bit `i` of a sequence of bytes is in byte `i / 8`, counted from its most significant
bit.  Packing sets the bits of a list one after the other in bytes that are zero.
-/

namespace Rsbtd.Bits

def mask (i : Nat) : UInt8 := 0x80 >>> UInt8.ofNat (i % 8)

def bit (bytes : List UInt8) (i : Nat) : Bool := (bytes.getD (i / 8) 0 &&& mask i) != 0

def setBit (bytes : List UInt8) (i : Nat) : List UInt8 := bytes.modify (i / 8) (· ||| mask i)

/-- The loop over the bits from the one with index `i` on. -/
def packFrom (bytes : List UInt8) (i : Nat) : List Bool → List UInt8
  | [] => bytes
  | b :: bits => packFrom (if b then setBit bytes i else bytes) (i + 1) bits

def pack (bits : List Bool) : List UInt8 :=
  packFrom (List.replicate ((bits.length + 7) / 8) 0) 0 bits

variable {bytes : List UInt8} {i j : Nat}

/-! ## One bit -/

theorem mask_toNat (i : Nat) : (mask i).toNat = 2 ^ (7 - i % 8) := by
  have each : ∀ k : Fin 8, ((0x80 : UInt8) >>> UInt8.ofNat k).toNat = 2 ^ (7 - k.val) := by decide
  exact each ⟨i % 8, Nat.mod_lt i (by decide)⟩

theorem and_two_pow_ne_zero (n k : Nat) : (n &&& 2 ^ k != 0) = n.testBit k := by
  rw [Nat.and_two_pow]
  cases n.testBit k
  · simp
  · simp

theorem and_mask (byte : UInt8) (i : Nat) :
    ((byte &&& mask i) != 0) = byte.toNat.testBit (7 - i % 8) := by
  rw [← and_two_pow_ne_zero, ← mask_toNat, ← UInt8.toNat_and, Bool.eq_iff_iff]
  simp [← UInt8.toNat_inj]

theorem bit_eq_testBit : bit bytes i = (bytes.getD (i / 8) 0).toNat.testBit (7 - i % 8) :=
  and_mask _ i

/-- Past the last byte every bit reads as zero. -/
theorem bit_outside (outside : bytes.length ≤ i / 8) : bit bytes i = false := by
  rw [bit_eq_testBit, List.getD_eq_default _ _ outside]
  exact Nat.zero_testBit _

@[simp] theorem length_setBit : (setBit bytes i).length = bytes.length :=
  List.length_modify _ _ _

theorem bit_setBit (inside : i / 8 < bytes.length) :
    bit (setBit bytes i) j = (bit bytes j || decide (i = j)) := by
  rw [bit_eq_testBit, bit_eq_testBit, setBit, List.getD_eq_getElem?_getD,
    List.getD_eq_getElem?_getD, List.getElem?_modify]
  by_cases sameByte : i / 8 = j / 8
  · have bound : j / 8 < bytes.length := sameByte ▸ inside
    have there : bytes[j / 8]? = some bytes[j / 8] := List.getElem?_eq_getElem bound
    rw [there]
    simp only [Option.map_eq_map, Option.map_some, if_pos sameByte, Option.getD_some,
      UInt8.toNat_or, Nat.testBit_or, mask_toNat, Nat.testBit_two_pow]
    congr 1
    -- in one byte the bits of two indices are apart exactly if the indices are
    rw [decide_eq_decide]
    omega
  · have apart : i ≠ j := fun same => sameByte (by rw [same])
    simp [sameByte, apart]

/-! ## Packing -/

theorem length_packFrom (bits : List Bool) : (packFrom bytes i bits).length = bytes.length := by
  induction bits generalizing bytes i with
  | nil => rfl
  | cons b bits ih =>
    rw [packFrom, ih]
    cases b
    · rfl
    · exact length_setBit

theorem length_pack (bits : List Bool) : (pack bits).length = (bits.length + 7) / 8 := by
  rw [pack, length_packFrom, List.length_replicate]

theorem bit_packFrom (bits : List Bool) (room : i + bits.length ≤ 8 * bytes.length) :
    bit (packFrom bytes i bits) j =
      (bit bytes j || (decide (i ≤ j) && bits.getD (j - i) false)) := by
  induction bits generalizing bytes i with
  | nil => simp [packFrom]
  | cons b bits ih =>
    rw [List.length_cons] at room
    have inside : i / 8 < bytes.length := by omega
    have first : bit (if b then setBit bytes i else bytes) j =
        (bit bytes j || (decide (i = j) && b)) := by
      cases b
      · simp
      · simp [bit_setBit inside]
    have roomLeft : i + 1 + bits.length ≤ 8 * (if b then setBit bytes i else bytes).length := by
      cases b
      · simpa using (by omega : i + 1 + bits.length ≤ 8 * bytes.length)
      · simpa using (by omega : i + 1 + bits.length ≤ 8 * bytes.length)
    rw [packFrom, ih roomLeft, first]
    obtain before | same | after := Nat.lt_trichotomy i j
    · obtain ⟨k, rfl⟩ := Nat.exists_eq_add_of_lt before
      have rest : i + k + 1 - i = (i + k + 1 - (i + 1)) + 1 := by omega
      have past : i + 1 ≤ i + k + 1 := by omega
      have here : i ≤ i + k + 1 := by omega
      have apart : i ≠ i + k + 1 := by omega
      rw [rest, List.getD_cons_succ]
      simp [past, here, apart]
    · subst same
      simp
    · have apart : i ≠ j := by omega
      have short : ¬ i ≤ j := by omega
      have shorter : ¬ i + 1 ≤ j := by omega
      simp [apart, short, shorter]

theorem bit_replicate_zero (n : Nat) : bit (List.replicate n 0) i = false := by
  rw [bit_eq_testBit, List.getD_eq_getElem?_getD, List.getElem?_replicate]
  split
  · exact Nat.zero_testBit _
  · exact Nat.zero_testBit _

/-- The bits are where they were put, and there are no others. -/
theorem bit_pack (bits : List Bool) (i : Nat) : bit (pack bits) i = bits.getD i false := by
  have room : 0 + bits.length ≤ 8 * (List.replicate ((bits.length + 7) / 8) (0 : UInt8)).length := by
    rw [List.length_replicate]
    omega
  rw [pack, bit_packFrom bits room, bit_replicate_zero]
  simp

end Rsbtd.Bits
