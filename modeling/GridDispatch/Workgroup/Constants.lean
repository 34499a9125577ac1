/-
The constants of a dispatch.

Every coroutine of a program is given one record of constants: which descriptor
sets are bound, the dynamic offsets, the sizes of grid and workgroup, the numbers
derived from them, and the push constants. Of an address only whether it is null
can be observed, so a bound set is a truth value here.
-/
import GridDispatch.Bytes.Basic
import GridDispatch.Text.Record
import GridDispatch.Workgroup.Coord

set_option autoImplicit false

namespace GridDispatch

/-- Descriptor sets a program can have. -/
abbrev maxSets : Nat := 4

/-- Uniform buffers with a dynamic offset. -/
abbrev maxUniformDynamic : Nat := 8

/-- Storage buffers with a dynamic offset. -/
abbrev maxStorageDynamic : Nat := 4

/-- Entries of the dynamic offset table. -/
abbrev maxDynamic : Nat := maxUniformDynamic + maxStorageDynamic

/-- Bytes of push constants. -/
abbrev maxPush : Nat := 128

/-- Invocations that run in lockstep as one subgroup. -/
abbrev subgroupWidth : Nat := 4

/-- What every coroutine of a dispatch reads. -/
structure Constants where
  /-- Whether a set is bound at each index. -/
  bound : Array Bool
  dynamicOffsets : Array Nat
  numWorkgroups : Quad
  workgroupSize : Quad
  invocationsPerSubgroup : Nat
  subgroupsPerWorkgroup : Nat
  invocationsPerWorkgroup : Nat
  pushConstants : Bytes
deriving DecidableEq, Repr

namespace Constants

/-- All constants zero and nothing bound. -/
def initial : Constants where
  bound := Array.replicate maxSets false
  dynamicOffsets := Array.replicate maxDynamic 0
  numWorkgroups := default
  workgroupSize := default
  invocationsPerSubgroup := 0
  subgroupsPerWorkgroup := 0
  invocationsPerWorkgroup := 0
  pushConstants := Bytes.zeros maxPush

/-- Whether a descriptor set is bound at an index; beyond the table none is. -/
def hasSet (constants : Constants) (index : Nat) : Bool :=
  constants.bound.getD index false

/-- The text of four numbers read as one vector. -/
def quadText (q : Quad) : String :=
  Text.tuple "Uint4" [Text.numbers q.toList]

end Constants

end GridDispatch
