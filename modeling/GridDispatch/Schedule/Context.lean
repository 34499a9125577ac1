/-
Dispatch contexts: what the threads of a dispatch share.

A context is prepared with a program, the number of threads, the bytes of a
descriptor set and the size of a grid. Preparing checks its arguments first, in a
fixed order (`accept`), and a call that is refused leaves the context as it was. It
then copies the declared part of the descriptor set into storage of its own, which
grows only, and derives the constants that coroutines will read.

Push constants and dynamic offsets are set apart from preparing and stay until they
are overwritten or the context is released.
-/
import GridDispatch.Coroutine.Basic
import GridDispatch.Schedule.Event
import GridDispatch.Schedule.Refusal
import GridDispatch.Storage.Block

set_option autoImplicit false

namespace GridDispatch

/-- State shared by the threads of a dispatch. -/
structure Context (ρ σ : Type) where
  /-- The context's copy of the descriptor set. -/
  storage : Block
  /-- The number of threads, zero for a context that is not prepared. -/
  threads : Nat
  hasBarriers : Bool
  memorySize : Nat
  /-- The number of workgroups in the grid. -/
  workgroups : Nat
  program : Option (Program ρ σ)
  constants : Constants

namespace Context

variable {ρ σ : Type}

/-- A context that is not prepared. -/
def initial : Context ρ σ :=
  ⟨.initial, 0, false, 0, 0, none, .initial⟩

/-- The size of the prepared grid. -/
def grid (context : Context ρ σ) : Coord :=
  context.constants.numWorkgroups.coord

/-- The number of workgroups of a grid: every side must fit a signed 32-bit number,
and the product a count. -/
def gridVolume (grid : Coord) : Option Nat :=
  if grid.x ≤ signedMax ∧ grid.y ≤ signedMax ∧ grid.z ≤ signedMax then
    (Checked.product word grid.toList).toOption
  else
    none

/-- The number of invocations of a workgroup: at least one, and few enough for
their numbers to fit a lane. -/
def workgroupVolume (size : Coord) : Option Nat :=
  match (Checked.product lane size.toList).toOption with
  | some 0 => none
  | volume => volume

/-- Checks the arguments of a preparation, and computes the number of invocations of
a workgroup and the number of workgroups. -/
def accept (threads : Nat) (info : ProgramInfo) (setLength : Nat) (grid : Coord) :
    Except Refusal (Nat × Nat) :=
  if threads = 0 then .error .threads
  else if setLength < info.setSize then .error (.descriptorSet info.setSize setLength)
  else
    match workgroupVolume info.workgroupSize with
    | none => .error (.workgroupSize info.workgroupSize)
    | some invocations =>
      match gridVolume grid with
      | none => .error (.gridOverflow grid)
      | some workgroups => .ok (invocations, workgroups)

/-- The storage for a descriptor set, grown if it has to be. -/
def reserveStorage (storage : Block) (setSize : Nat) : Except Fault (List Event × Block) :=
  match alignUp setSize memoryAlign with
  | .error fault => .error fault
  | .ok capacity =>
    match storage.reserve capacity with
    | .error fault => .error fault
    | .ok (grown, storage) => .ok (if grown then [.storageGrown capacity] else [], storage)

/-- The constants of a dispatch over a grid, the tables left as they are. -/
def deriveConstants (constants : Constants) (storage : Block) (size grid : Coord)
    (invocations : Nat) : Constants :=
  { constants with
    workgroupSize := .ofCoord size
    numWorkgroups := .ofCoord grid
    invocationsPerSubgroup := subgroupWidth
    invocationsPerWorkgroup := invocations
    subgroupsPerWorkgroup := (invocations + subgroupWidth - 1) / subgroupWidth
    bound := constants.bound.setIfInBounds 0 (!storage.isEmpty) }

/-- Sets up a dispatch. The answer is the history of the preparation. -/
def prepare (context : Context ρ σ) (threads : Nat) (program : Program ρ σ) (set : Bytes)
    (grid : Coord) : Except Failure (List Event) × Context ρ σ :=
  let info := program.info
  match accept threads info set.size grid with
  | .error refusal => (.error (.refused refusal), context)
  | .ok (invocations, workgroups) =>
    match reserveStorage context.storage info.setSize with
    | .error fault => (.error (.faulted fault), context)
    | .ok (events, storage) =>
      let storage := storage.refill (storage.bytes.overwrite 0 (set.extract 0 info.setSize))
      (.ok events,
        { storage
          threads
          hasBarriers := info.hasBarriers
          memorySize := info.minMemorySize
          workgroups
          program := some program
          constants := deriveConstants context.constants storage info.workgroupSize grid
            invocations })

/-- Copies bytes to the start of the push constants. -/
def setPushConstants (context : Context ρ σ) (bytes : Bytes) :
    Except Refusal Unit × Context ρ σ :=
  if bytes.size ≤ maxPush then
    (.ok (), { context with constants := { context.constants with
      pushConstants := context.constants.pushConstants.overwrite 0 bytes } })
  else
    (.error (.pushConstants bytes.size maxPush), context)

/-- Copies offsets to the start of the dynamic offset table. -/
def setDynamicOffsets (context : Context ρ σ) (offsets : List Nat) :
    Except Refusal Unit × Context ρ σ :=
  if offsets.length ≤ maxDynamic then
    (.ok (), { context with constants := { context.constants with
      dynamicOffsets := context.constants.dynamicOffsets.mapIdx fun index old =>
        offsets.getD index old } })
  else
    (.error (.dynamicOffsets offsets.length maxDynamic), context)

/-- Gives the storage up and forgets the program. -/
def release (_ : Context ρ σ) : Context ρ σ :=
  initial

/-- The bytes a coroutine finds at a descriptor set index, if a set is bound there. -/
def boundSet (context : Context ρ σ) (index : Nat) : Option Bytes :=
  if context.constants.hasSet index then some context.storage.bytes else none

/-- The diagnostic text. -/
def text (context : Context ρ σ) : String :=
  Text.record "DispatchContext" [("descriptor_capacity", toString context.storage.size),
    ("nthreads", toString context.threads), ("has_cbarriers", Text.truth context.hasBarriers),
    ("memory_size", toString context.memorySize), ("workgroups", toString context.workgroups),
    ("prepared", Text.truth context.program.isSome)]

end Context

end GridDispatch
