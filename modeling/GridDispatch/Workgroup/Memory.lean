/-
Typed access to workgroup memory.

A coroutine reads and writes integers at byte offsets, aligned or not. An access
that would end beyond the last byte faults and changes nothing; the end is the sum
of offset and size as numbers, so it cannot wrap around.
-/
import GridDispatch.Bytes.Item

set_option autoImplicit false

namespace GridDispatch

namespace WorkgroupMemory

/-- Whether an item at an offset lies inside the memory. -/
def check (memory : Bytes) (type : ItemType) (offset : Nat) : Except Fault Unit :=
  if offset + type.size ≤ memory.size then .ok ()
  else .error (.memoryAccess offset type.size memory.size)

def read (memory : Bytes) (type : ItemType) (offset : Nat) : Except Fault Int :=
  match check memory type offset with
  | .error fault => .error fault
  | .ok () => .ok (type.decode (memory.extract offset (offset + type.size)).toList)

/-- The memory with an item written at an offset. -/
def write (memory : Bytes) (type : ItemType) (offset : Nat) (value : Int) : Except Fault Bytes :=
  match check memory type offset with
  | .error fault => .error fault
  | .ok () => .ok (memory.overwrite offset (type.encode value).toArray)

/-! ## Histories -/

/-- One access. -/
inductive Access where
  | read (type : ItemType) (offset : Nat)
  | write (type : ItemType) (offset : Nat) (value : Int)
deriving DecidableEq, Repr

/-- The answer to an access, the value for a read, and the memory afterwards. -/
def perform (memory : Bytes) : Access → Except Fault (Option Int) × Bytes
  | .read type offset =>
    match read memory type offset with
    | .error fault => (.error fault, memory)
    | .ok value => (.ok (some value), memory)
  | .write type offset value =>
    match write memory type offset value with
    | .error fault => (.error fault, memory)
    | .ok after => (.ok none, after)

/-- The answers to accesses made one after another, and the memory afterwards. -/
def performAll (memory : Bytes) : List Access → List (Except Fault (Option Int)) × Bytes
  | [] => ([], memory)
  | access :: rest =>
    let first := perform memory access
    let others := performAll first.2 rest
    (first.1 :: others.1, others.2)

end WorkgroupMemory

end GridDispatch
