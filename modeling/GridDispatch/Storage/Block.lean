/-
Owned blocks of memory.

A block has a fixed alignment and grows only: `reserve` leaves it alone if it is
long enough and otherwise replaces it by a longer one, whose bytes are all zero.
Releasing a block leaves an empty one of the same alignment. Not every length can
be allocated: length and alignment together must stay within half the word
(`validLayout`), and the alignment must be a power of two. An empty block occupies
nothing and is subject to the second rule only.

Operations that can fault answer the new block only when they succeed, so a fault
leaves the block as it was; `Block.apply` states that for whole histories.
-/
import GridDispatch.Arith.Align
import GridDispatch.Bytes.Basic
import GridDispatch.Text.Record

set_option autoImplicit false

namespace GridDispatch

/-- A block of memory and its alignment. -/
structure Block where
  bytes : Bytes
  /-- The alignment of the first byte. -/
  align : Nat
deriving DecidableEq, Repr

/-- Whether a block of this length and alignment can exist. -/
def validLayout (length align : Nat) : Bool :=
  isPowerOfTwo align && length ≤ 9223372036854775808 - align

namespace Block

def size (block : Block) : Nat :=
  block.bytes.size

def isEmpty (block : Block) : Bool :=
  block.size == 0

def empty (align : Nat) : Except Fault Block :=
  if isPowerOfTwo align then .ok ⟨#[], align⟩ else .error .notPowerOfTwo

def allocate (length align : Nat) : Except Fault Block :=
  if length = 0 then empty align
  else if validLayout length align then .ok ⟨Bytes.zeros length, align⟩
  else .error (.invalidAllocation length align)

/-- The empty block that a thread or a context starts with. -/
def initial : Block :=
  ⟨#[], memoryAlign⟩

/-- Makes the block at least so long; the answer says whether it was replaced. -/
def reserve (block : Block) (length : Nat) : Except Fault (Bool × Block) :=
  if length ≤ block.size then .ok (false, block)
  else
    match allocate length block.align with
    | .error fault => .error fault
    | .ok grown => .ok (true, grown)

def release (block : Block) : Block :=
  ⟨#[], block.align⟩

/-- Takes new contents of the same length; other contents are not taken. -/
def refill (block : Block) (bytes : Bytes) : Block :=
  if bytes.size = block.size then ⟨bytes, block.align⟩ else block

def fill (block : Block) (byte : UInt8) : Block :=
  ⟨Array.replicate block.size byte, block.align⟩

def setByte (block : Block) (index : Nat) (byte : UInt8) : Except Fault Block :=
  if index < block.size then .ok ⟨block.bytes.setIfInBounds index byte, block.align⟩
  else .error .outOfRange

def text (block : Block) : String :=
  Text.record "AlignedBuf" [("ptr", Text.address), ("len", toString block.size),
    ("align", toString block.align)]

@[simp] theorem size_refill (block : Block) (bytes : Bytes) :
    (block.refill bytes).size = block.size := by
  unfold refill
  split
  · assumption
  · rfl

@[simp] theorem align_refill (block : Block) (bytes : Bytes) :
    (block.refill bytes).align = block.align := by
  unfold refill
  split <;> rfl

theorem bytes_refill {block : Block} {bytes : Bytes} (h : bytes.size = block.size) :
    (block.refill bytes).bytes = bytes := by
  rw [refill, if_pos h]

/-- Bytes that lie over those of a block fit it. -/
theorem refill_overwrite (block : Block) (start : Nat) (source : Bytes) :
    block.refill (block.bytes.overwrite start source)
      = ⟨block.bytes.overwrite start source, block.align⟩ :=
  if_pos (Bytes.size_overwrite block.bytes start source)

/-- What can exist can be had, and is zero. -/
theorem allocate_eq_ok {length align : Nat} (h : validLayout length align = true) :
    allocate length align = .ok ⟨Bytes.zeros length, align⟩ := by
  rw [allocate]
  by_cases hzero : length = 0
  · have hpower : isPowerOfTwo align = true := (Bool.and_eq_true_iff.mp h).1
    subst hzero
    rw [if_pos rfl, empty, if_pos hpower]
    rfl
  · rw [if_neg hzero, if_pos h]

/-! ## Histories -/

/-- What can be done to a block. -/
inductive Action where
  | reserve (length : Nat)
  | setByte (index : Nat) (byte : UInt8)
  | fill (byte : UInt8)
  | release
deriving DecidableEq, Repr

/-- One action: its answer, or its fault, and the block afterwards. -/
def apply (block : Block) : Action → Except Fault (Option Bool) × Block
  | .reserve length =>
    match block.reserve length with
    | .error fault => (.error fault, block)
    | .ok (grown, after) => (.ok (some grown), after)
  | .setByte index byte =>
    match block.setByte index byte with
    | .error fault => (.error fault, block)
    | .ok after => (.ok none, after)
  | .fill byte => (.ok none, block.fill byte)
  | .release => (.ok none, block.release)

end Block

end GridDispatch
