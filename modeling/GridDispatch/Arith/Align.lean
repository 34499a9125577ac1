/-
Rounding a size up to an alignment.

The alignment must be a power of two. The rounding itself is the usual bit mask:
add one less than the alignment and clear the bits below it. The sum is checked
first, so sizes within one alignment of the end of the word fault instead of
wrapping to a small block.
-/
import GridDispatch.Arith.Checked

set_option autoImplicit false

namespace GridDispatch

/-- Exactly one bit of the number is set. -/
def isPowerOfTwo (n : Nat) : Bool :=
  n != 0 && n &&& (n - 1) == 0

/-- The least multiple of `align` that is at least `size`. -/
def alignUp (size align : Nat) : Except Fault Nat :=
  if isPowerOfTwo align then
    match Checked.add word size align with
    | .error fault => .error fault
    | .ok sum => .ok ((sum - 1) &&& (word - align))
  else
    .error .notPowerOfTwo

/-- Alignment of images, descriptor sets and workgroup memory. -/
abbrev memoryAlign : Nat := 16

abbrev bufferAlign : Nat := 256

end GridDispatch
