/-
Faults: the ways in which an operation of the library stops instead of answering.

A fault is recorded as its cause, with the numbers that belong to it, and its
wording is given by one function, `Fault.message`. Operations that can fault
answer `Except Fault`; nothing in the library is undefined, so a statement "this
never faults" is a statement about the value of a function.

A refused request (too many threads, a descriptor set that is too short, ...) is
not a fault: those are values of `Refusal`, in `Schedule.Refusal`.
-/

set_option autoImplicit false

namespace GridDispatch

/-! ## Causes -/

/-- The arithmetic operations that are checked against the width of a word. -/
inductive ArithmeticFault where
  | add
  | sub
  | mul
  | div
  | rem
deriving DecidableEq, Repr

/-- Why an operation stopped. -/
inductive Fault where
  /-- A sum, difference or product left its word, or a divisor was zero. -/
  | arithmetic (cause : ArithmeticFault)
  /-- An index or a range lies outside the bytes or items it refers to. -/
  | outOfRange
  /-- A run of bytes is not a whole number of items. -/
  | unevenItems
  /-- A run of bytes starts where an item cannot lie. -/
  | misaligned
  /-- A kernel was resumed after it had ended or faulted. -/
  | resumedKernel
  /-- A native coroutine was resumed after it had reported its end. -/
  | resumedFinished
  /-- An alignment is not a power of two. -/
  | notPowerOfTwo
  /-- No block of this length and alignment can exist. -/
  | invalidAllocation (length align : Nat)
  /-- A size does not fit the signed 32-bit fields of a descriptor. -/
  | descriptorLimit (size : Nat)
  /-- The pixels of an image do not fit the signed 32-bit fields of a descriptor. -/
  | imageLimit (width height : Nat)
  /-- A typed access to workgroup memory ends beyond its last byte. -/
  | memoryAccess (offset size length : Nat)
  /-- A native program declares a workgroup dimension below zero. -/
  | negativeDimension (dimension : Int)
  /-- The items that had gone round do not fit behind the old end of a growing queue. -/
  | queueOverlap
  /-- A program stopped by itself, with a text of its own. -/
  | raised (text : String)
deriving DecidableEq, Repr

/-! ## Wording -/

def ArithmeticFault.message : ArithmeticFault → String
  | .add => "attempt to add with overflow"
  | .sub => "attempt to subtract with overflow"
  | .mul => "attempt to multiply with overflow"
  | .div => "attempt to divide by zero"
  | .rem => "attempt to calculate the remainder with a divisor of zero"

/-- The text of a fault; range faults and resumed kernels have none. -/
def Fault.message : Fault → Option String
  | .arithmetic cause => some cause.message
  | .outOfRange => none
  | .unevenItems => some "OutputSliceWouldHaveSlop"
  | .misaligned => some "TargetAlignmentGreaterAndInputNotAligned"
  | .resumedKernel => none
  | .resumedFinished => some "resumed a finished coroutine"
  | .notPowerOfTwo => some "assertion failed: align.is_power_of_two()"
  | .invalidAllocation length align =>
    some ("invalid allocation of " ++ toString length ++ " bytes aligned to " ++ toString align
      ++ ": invalid parameters to Layout::from_size_align")
  | .descriptorLimit size =>
    some ("allocation of " ++ toString size ++ " bytes exceeds the descriptor size limit")
  | .imageLimit width height =>
    some ("image of " ++ toString width ++ "x" ++ toString height
      ++ " pixels exceeds the descriptor size limit")
  | .memoryAccess offset size length =>
    some ("workgroup memory access at " ++ toString offset ++ " of " ++ toString size
      ++ " bytes out of bounds (" ++ toString length ++ ")")
  | .negativeDimension dimension =>
    some ("negative workgroup dimension " ++ toString dimension)
  | .queueOverlap => some "queue positions overlap"
  | .raised text => some text

/-! ## Changes that can fault -/

/-- A change of something, carried out: whether it succeeds, and what is there afterwards. -/
def settle {α : Type} (before : α) : Except Fault α → Except Fault Unit × α
  | .ok after => (.ok (), after)
  | .error fault => (.error fault, before)

/-- A change that faults is none. -/
theorem settle_of_error {α : Type} {before : α} {change : Except Fault α} {fault : Fault}
    (h : (settle before change).1 = .error fault) : (settle before change).2 = before := by
  cases change with
  | ok after => cases h
  | error fault => rfl

end GridDispatch
