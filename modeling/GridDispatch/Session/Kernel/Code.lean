/-
The language of kernels.

A kernel is a block of instructions over eight registers. Expressions compute with
32-bit numbers that wrap around; they can read registers, workgroup memory, bound
resources, push constants, and a fixed list of quantities of the coroutine and of
the lane it is at.
-/
set_option autoImplicit false

namespace GridDispatch

/-- A number that the coroutine or the current lane has. -/
inductive Quantity where
  | firstSubgroup | subgroupCount
  | workgroupX | workgroupY | workgroupZ
  | gridX | gridY | gridZ
  | sizeX | sizeY | sizeZ
  | subgroupsPerWorkgroup | invocationsPerSubgroup | invocationsPerWorkgroup
  | memoryLength
  | laneSubgroup | laneIndex
  | localX | localY | localZ
  | globalX | globalY | globalZ
  /-- How often the innermost repetition has run before. -/
  | iteration
deriving DecidableEq, Repr

def Quantity.ofName? : String → Option Quantity
  | "first" => some .firstSubgroup
  | "count" => some .subgroupCount
  | "wx" => some .workgroupX
  | "wy" => some .workgroupY
  | "wz" => some .workgroupZ
  | "nx" => some .gridX
  | "ny" => some .gridY
  | "nz" => some .gridZ
  | "sx" => some .sizeX
  | "sy" => some .sizeY
  | "sz" => some .sizeZ
  | "spw" => some .subgroupsPerWorkgroup
  | "ips" => some .invocationsPerSubgroup
  | "ipw" => some .invocationsPerWorkgroup
  | "memlen" => some .memoryLength
  | "sg" => some .laneSubgroup
  | "li" => some .laneIndex
  | "lx" => some .localX
  | "ly" => some .localY
  | "lz" => some .localZ
  | "gx" => some .globalX
  | "gy" => some .globalY
  | "gz" => some .globalZ
  | "iter" => some .iteration
  | _ => none

/-- The width of an access to workgroup memory. -/
inductive AccessWidth where
  | byte | half | full
deriving DecidableEq, Repr

/-- An operation of two numbers. -/
inductive Operator where
  | add | sub | mul | div | rem | equal | less
deriving DecidableEq, Repr

def Operator.ofSign? : String → Option Operator
  | "+" => some .add
  | "-" => some .sub
  | "*" => some .mul
  | "/" => some .div
  | "%" => some .rem
  | "==" => some .equal
  | "<" => some .less
  | _ => none

/-- An expression. -/
inductive Expr where
  | number (value : Nat)
  | quantity (which : Quantity)
  | binary (operator : Operator) (left right : Expr)
  | register (index : Expr)
  | load (width : AccessWidth) (offset : Expr)
  /-- Word `index` of a binding. -/
  | loadBinding (binding index : Expr)
  | bindingLength (binding : Expr)
  | pushConstant (index : Expr)
  | dynamicOffset (index : Expr)
  | hasSet (index : Expr)
deriving DecidableEq, Inhabited, Repr

/-- An instruction. -/
inductive Instr where
  | barrier
  | emit (value : Expr)
  | assign (register : Nat) (value : Expr)
  | store (width : AccessWidth) (offset value : Expr)
  | storeBinding (binding index value : Expr)
  | notePositions
  | noteRanges
  | fault (text : String)
  | when (condition : Expr) (body : List Instr)
  | loop (count : Expr) (body : List Instr)
  | forLanes (body : List Instr)
deriving Inhabited, Repr

end GridDispatch
