import Rsbtd.Bits.Packed

/-!
# Bitfields of libtorrent

The two conversions of `params.rs`, the `PieceBitfield` of `types.rs`, what the
`pieces` resolver sends of it, and how the piece bar of the web UI reads that.
-/

namespace Rsbtd.Bitfield

open Bits

/-- `ct_bitfield_view`. -/
structure BitfieldView where
  /-- None is the null pointer. -/
  bytes : Option (List UInt8)
  num_bits : Int32
  /-- What the shim guarantees. -/
  covered : ∀ b ∈ bytes, (num_bits.toNatClampNeg + 7) / 8 ≤ b.length

def bitfield_to_bools (view : BitfieldView) : List Bool :=
  match view.bytes with
  | none => []
  | some bytes =>
    if view.num_bits ≤ 0 then
      []
    else
      (List.range view.num_bits.toNatClampNeg).map fun i =>
        ((bytes.take ((view.num_bits.toNatClampNeg + 7) / 8)).getD (i / 8) 0 &&& mask i) != 0

def bools_to_bitfield (bits : List Bool) : List UInt8 × Int32 :=
  (pack bits, Int32.ofNat bits.length)

structure PieceBitfield where
  bytes : List UInt8
  bits : Nat
  covered : bytes.length = (bits + 7) / 8
  /-- libtorrent counts the bits in an `int`. -/
  counted : bits < 2147483648

namespace PieceBitfield

def len (field : PieceBitfield) : Nat := field.bits

def is_empty (field : PieceBitfield) : Bool := field.bits == 0

def get (field : PieceBitfield) (index : Nat) : Option Bool :=
  if field.bits ≤ index then
    none
  else
    some ((field.bytes.getD (index / 8) 0 &&& mask index) != 0)

def iter (field : PieceBitfield) : List Bool :=
  (List.range field.bits).map fun i => (field.bytes.getD (i / 8) 0 &&& mask i) != 0

def count_ones (field : PieceBitfield) : Nat := field.iter.countP id

end PieceBitfield

structure PieceInfo where
  total : Option Int32
  have_ : Int32
  bitfield : Option (List UInt8)
deriving DecidableEq

/-- The resolver: the bitfield of the status, and how many pieces the metadata names. -/
def pieces (status : Option PieceBitfield) (include_bitfield : Bool)
    (num_pieces : Option Int32) : PieceInfo :=
  match status.filter fun bits => !bits.is_empty with
  | some bits =>
    { total := some (Int32.ofNat bits.len)
      have_ := Int32.ofNat bits.count_ones
      bitfield := if include_bitfield then some (pack bits.iter) else none }
  | none => { total := num_pieces, have_ := 0, bitfield := none }

/-- `hasPiece` at an integer: the operators take the low 32 bits of `i`, with the sign. -/
def hasPiece (bytes : List UInt8) (i : Int) : Bool :=
  let index := (BitVec.ofInt 32 i).sshiftRight 3
  let shift := (BitVec.ofInt 32 i &&& 7).toNat
  if index.toInt < 0 then
    false
  else
    match bytes[index.toInt.toNat]? with
    | none => false
    | some byte => byte.toNat &&& (0x80 >>> shift) != 0

end Rsbtd.Bitfield
