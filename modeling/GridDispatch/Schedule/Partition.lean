/-
The partition of a grid over threads.

Workgroups are numbered linearly and dealt out in turn: thread `t` of `n` runs the
workgroups `t, t + n, t + 2n, ..`. The share of a thread is therefore known by its
length and by a formula for each place in it; the list is what a dispatch runs.
-/
import GridDispatch.Schedule.Context

set_option autoImplicit false

namespace GridDispatch

namespace Context

variable {ρ σ : Type}

/-- The distance between the workgroups of one thread. -/
def stride (context : Context ρ σ) : Nat :=
  max context.threads 1

/-- The number of workgroups of a thread. -/
def shareSize (context : Context ρ σ) (thread : Nat) : Nat :=
  (context.workgroups - thread + context.stride - 1) / context.stride

/-- The workgroup at one place of a thread's share. -/
def shareAt (context : Context ρ σ) (thread place : Nat) : Coord :=
  .ofLinear context.grid (thread + place * context.stride)

/-- The workgroups of a thread, in the order they are run. -/
def workgroupsFor (context : Context ρ σ) (thread : Nat) : List Coord :=
  (List.range (context.shareSize thread)).map (context.shareAt thread)

/-- Up to `limit` workgroups of a thread after the first `skip`, and whether more
follow. -/
def shareWindow (context : Context ρ σ) (thread skip limit : Nat) : List Coord × Bool :=
  let left := context.shareSize thread - skip
  ((List.range (min limit left)).map fun place => context.shareAt thread (skip + place),
    limit < left)

/-! ## Walking through a share

A thread that runs its share does not compute places. It counts its steps, moves an index on by
the stride, in a word that goes round, and decodes each index in checked arithmetic; the
coordinates are cut to lanes. That this faults nowhere, goes round nowhere and cuts nothing off,
and so gives the share, is a theorem about prepared contexts. -/

/-- The number of steps of a stride below a length, the last of which need not be whole. -/
def stepCount (length stride : Nat) : Nat :=
  length / stride + if length % stride = 0 then 0 else 1

/-- So many indices from one on, each a stride behind the one before it. -/
def indicesFrom (stride index : Nat) : Nat → List Nat
  | 0 => []
  | left + 1 => index :: indicesFrom stride ((index + stride) % word) left

/-- The workgroup with a linear index. -/
def decode (grid : Coord) (index : Nat) : Except Fault Coord := do
  let layer ← Checked.mul word grid.x grid.y
  let z ← Checked.div index layer
  let rows ← Checked.mul word z grid.x
  let before ← Checked.mul word rows grid.y
  let within ← Checked.sub index before
  let y ← Checked.div within grid.x
  let row ← Checked.mul word y grid.x
  let x ← Checked.sub within row
  return ⟨x % lane, y % lane, z % lane⟩

/-- The workgroups of a thread, one after another. -/
def walk (context : Context ρ σ) (thread : Nat) : Except Fault (List Coord) :=
  (indicesFrom context.stride thread (stepCount (context.workgroups - thread) context.stride)).mapM
    (decode context.grid)

end Context

end GridDispatch
