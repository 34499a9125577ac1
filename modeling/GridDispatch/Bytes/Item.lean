/-
Typed items.

Programs and their callers exchange integers of eight types as little-endian
bytes, negative ones in two's complement. `ItemType.encode` and `ItemType.decode`
are the two directions for one item, `encodeAll` and `decodeAll` for a run of
them. A run of bytes can be read as any type whose size divides its length.
-/
import GridDispatch.Arith.Checked
import GridDispatch.Bytes.Basic

set_option autoImplicit false

namespace GridDispatch

/-- The integer types that can be stored in memory. -/
inductive ItemType where
  | u8 | i8 | u16 | i16 | u32 | i32 | u64 | i64
deriving DecidableEq, Repr

namespace ItemType

def size : ItemType → Nat
  | .u8 | .i8 => 1
  | .u16 | .i16 => 2
  | .u32 | .i32 => 4
  | .u64 | .i64 => 8

def isSigned : ItemType → Bool
  | .i8 | .i16 | .i32 | .i64 => true
  | _ => false

def ofName? : String → Option ItemType
  | "u8" => some .u8
  | "i8" => some .i8
  | "u16" => some .u16
  | "i16" => some .i16
  | "u32" => some .u32
  | "i32" => some .i32
  | "u64" => some .u64
  | "i64" => some .i64
  | _ => none

/-- One more than the largest unsigned number of this many bytes. -/
def modulus (type : ItemType) : Nat :=
  Nat.pow 256 type.size

/-- The bytes of a value, in two's complement. -/
def encode (type : ItemType) (value : Int) : List UInt8 :=
  littleEndian type.size (value % (type.modulus : Int)).toNat

/-- The value of the bytes of one item. -/
def decode (type : ItemType) (bytes : List UInt8) : Int :=
  let number := ofLittleEndian bytes
  if type.isSigned && type.modulus ≤ 2 * number then (number : Int) - type.modulus else number

def holds (type : ItemType) (value : Int) : Bool :=
  if type.isSigned then
    -(type.modulus : Int) ≤ 2 * value && 2 * value < type.modulus
  else
    0 ≤ value && value < type.modulus

@[simp] theorem length_encode (type : ItemType) (value : Int) :
    (type.encode value).length = type.size :=
  length_littleEndian _ _

theorem size_pos (type : ItemType) : 0 < type.size := by
  cases type <;> decide

def encodeAll (type : ItemType) (values : List Int) : Bytes :=
  (values.flatMap type.encode).toArray

/-- The items of a run of bytes, unless bytes are left over. -/
def decodeAll (type : ItemType) (bytes : Bytes) : Except Fault (List Int) :=
  if bytes.size % type.size = 0 then
    .ok ((List.range (bytes.size / type.size)).map fun index =>
      type.decode (bytes.extract (index * type.size) ((index + 1) * type.size)).toList)
  else
    .error .unevenItems

end ItemType

end GridDispatch
