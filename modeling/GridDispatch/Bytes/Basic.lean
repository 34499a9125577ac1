/-
Byte blocks.

A block of memory is an array of bytes. Two operations matter: copying bytes over
a part of a block, which never changes its length, and taking a part of it. The
copy is defined pointwise, so that the byte at an index after a copy is read off
its definition.
-/

set_option autoImplicit false

namespace GridDispatch

/-- The contents of a piece of memory, first byte first. -/
abbrev Bytes := Array UInt8

namespace Bytes

def zeros (length : Nat) : Bytes :=
  Array.replicate length 0

/-- The block with `source` copied over it from index `start` on; what would fall
beyond the end is dropped. -/
def overwrite (block : Bytes) (start : Nat) (source : Array UInt8) : Bytes :=
  block.mapIdx fun index byte => if start ≤ index then source.getD (index - start) byte else byte

/-- The `length` bytes from `start` on, if the block has them all. -/
def part? (block : Bytes) (start length : Nat) : Option Bytes :=
  if start + length ≤ block.size then some (block.extract start (start + length)) else none

/-- The block cut or filled up with zeros to a length. -/
def fit (block : Bytes) (length : Nat) : Bytes :=
  if block.size = length then block
  else block.extract 0 length ++ zeros (length - block.size)

@[simp] theorem size_zeros (length : Nat) : (zeros length).size = length :=
  Array.size_replicate

@[simp] theorem size_overwrite (block : Bytes) (start : Nat) (source : Array UInt8) :
    (block.overwrite start source).size = block.size :=
  Array.size_mapIdx

@[simp] theorem size_fit (block : Bytes) (length : Nat) : (block.fit length).size = length := by
  unfold fit
  split
  · assumption
  · simp only [Array.size_append, Array.size_extract, size_zeros]
    omega

theorem fit_of_size_eq {block : Bytes} {length : Nat} (h : block.size = length) :
    block.fit length = block :=
  if_pos h

end Bytes

/-! ## Little-endian numbers -/

/-- The number in so many bytes, least significant first; higher digits are dropped. -/
def littleEndian : Nat → Nat → List UInt8
  | 0, _ => []
  | count + 1, number => UInt8.ofNat (number % 256) :: littleEndian count (number / 256)

/-- The number that the bytes stand for, least significant first. -/
def ofLittleEndian : List UInt8 → Nat
  | [] => 0
  | byte :: rest => byte.toNat + 256 * ofLittleEndian rest

@[simp] theorem length_littleEndian (count number : Nat) :
    (littleEndian count number).length = count := by
  induction count generalizing number with
  | zero => rfl
  | succ count ih => simp [littleEndian, ih]

/-- Reading back what was written gives the number modulo the width. -/
theorem ofLittleEndian_littleEndian (count number : Nat) :
    ofLittleEndian (littleEndian count number) = number % Nat.pow 256 count := by
  induction count generalizing number with
  | zero => exact (Nat.mod_one number).symm
  | succ count ih =>
    have digit : (UInt8.ofNat (number % 256)).toNat = number % 256 := by
      simp
    have power : Nat.pow 256 (count + 1) = 256 * Nat.pow 256 count := Nat.pow_succ'
    rw [littleEndian, ofLittleEndian, ih, digit, power, Nat.mod_mul]

end GridDispatch
