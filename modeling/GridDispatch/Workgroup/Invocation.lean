/-
Invocations: the numbering of the work inside one workgroup.

The invocations of a workgroup are numbered linearly, and every subgroup takes the
next few of them, as many as fit; the last subgroup takes what is left, and any
beyond it takes nothing. A linear number is decoded into the position inside the
workgroup, and that into the position in the whole grid. All of it is lane
arithmetic and checked: a product or sum that leaves the lane faults, even where
clipping would have brought the result back.
-/
import GridDispatch.Workgroup.Constants
import GridDispatch.Workgroup.Subgroups

set_option autoImplicit false

namespace GridDispatch

/-- What a coroutine knows about its share of a workgroup. -/
structure Invocation where
  constants : Constants
  workgroup : Coord
  subgroups : Subgroups
deriving DecidableEq, Repr

namespace Invocation

/-- The linear numbers of one subgroup's invocations, as first and end. -/
def subgroupRange (i : Invocation) (subgroup : Nat) : Except Fault (Nat × Nat) := do
  let width := i.constants.invocationsPerSubgroup
  let total := i.constants.invocationsPerWorkgroup
  let product ← Checked.mul lane subgroup width
  let start := min product total
  let sum ← Checked.add lane start width
  return (start, min sum total)

/-- The position inside the workgroup of a linear number. -/
def localId (i : Invocation) (index : Nat) : Except Fault Coord := do
  let size := i.constants.workgroupSize.coord
  let x ← Checked.rem index size.x
  let row ← Checked.div index size.x
  let y ← Checked.rem row size.y
  let layer ← Checked.mul lane size.x size.y
  let z ← Checked.div index layer
  return ⟨x, y, z⟩

/-- One axis of a position in the grid. -/
def globalAxis (workgroup size position : Nat) : Except Fault Nat := do
  let start ← Checked.mul lane workgroup size
  Checked.add lane start position

/-- The position in the grid of a position inside the workgroup. -/
def globalId (i : Invocation) (position : Coord) : Except Fault Coord := do
  let size := i.constants.workgroupSize.coord
  let x ← globalAxis i.workgroup.x size.x position.x
  let y ← globalAxis i.workgroup.y size.y position.y
  let z ← globalAxis i.workgroup.z size.z position.z
  return ⟨x, y, z⟩

/-- The answers of `f` for `count` numbers from `first` on; the first fault on the way
is the answer, and what comes after it is not looked at. -/
def forRange {α : Type} (f : Nat → Except Fault α) (first : Nat) : Nat → Except Fault (List α)
  | 0 => .ok []
  | count + 1 =>
    match f first with
    | .error fault => .error fault
    | .ok head =>
      match forRange f (first + 1) count with
      | .error fault => .error fault
      | .ok tail => .ok (head :: tail)

/-- The answers of `f` for the subgroups the coroutine runs. -/
def forSubgroups {α : Type} (i : Invocation) (f : Nat → Except Fault α) :
    Except Fault (List α) :=
  match i.subgroups.stop with
  | .error fault => .error fault
  | .ok _ => forRange f i.subgroups.first i.subgroups.count

/-- The subgroups the coroutine runs, each with its range of linear numbers. -/
def lanes (i : Invocation) : Except Fault (List (Nat × Nat × Nat)) :=
  i.forSubgroups fun subgroup => do
    let range ← i.subgroupRange subgroup
    return (subgroup, range)

/-- Visits the linear numbers of the coroutine, subgroup by subgroup. -/
def visit {α : Type} (i : Invocation) (f : Nat → Except Fault α) : Except Fault (List α) := do
  let parts ← i.forSubgroups fun subgroup => do
    let range ← i.subgroupRange subgroup
    forRange f range.1 (range.2 - range.1)
  return parts.flatten

/-- The positions inside the workgroup of all invocations of the coroutine. -/
def localIds (i : Invocation) : Except Fault (List Coord) :=
  i.visit i.localId

/-- The positions of all invocations of the coroutine, inside the workgroup and in
the grid. -/
def positions (i : Invocation) : Except Fault (List (Coord × Coord)) :=
  i.visit fun index => do
    let position ← i.localId index
    let global ← i.globalId position
    return (position, global)

end Invocation

end GridDispatch
