/-
Running the language of kernels.

Expressions are evaluated from left to right in a scene; the only faults are reads
of workgroup memory beyond its end. Instructions become tasks, so a barrier pauses
the whole block, however deep it stands in loops, and what follows sees the scene of
the resumption. Loops fix their count, and lane loops their list of lanes, when they
are entered.
-/
import GridDispatch.Coroutine.Kernel
import GridDispatch.Session.Kernel.Code
import GridDispatch.Session.World
import GridDispatch.Workgroup.Memory

set_option autoImplicit false

namespace GridDispatch

/-- The lane a kernel is at. -/
structure Lane where
  subgroup : Nat
  index : Nat
  position : Coord
  global : Coord
deriving DecidableEq, Repr, Inhabited

/-- What stays fixed while an instruction runs. -/
structure Frame where
  invocation : Invocation
  /-- The resources that the bindings of the descriptor set refer to. -/
  bindings : Array (Option Resource)
  /-- The innermost lane; outside of lane loops all its numbers are zero. -/
  lane : Lane
  /-- The count of the innermost loop. -/
  iteration : Nat

abbrev Registers := Array Nat

namespace Kernel

def registerCount : Nat := 8

def noRegisters : Registers :=
  Array.replicate registerCount 0

def wrap (value : Nat) : Nat :=
  value % GridDispatch.lane

/-- An operation of two 32-bit numbers. Dividing by zero gives zero, and a comparison
one or zero. -/
def operate (operator : Operator) (a b : Nat) : Nat :=
  match operator with
  | .add => wrap (a + b)
  | .sub => wrap (a + (GridDispatch.lane - b))
  | .mul => wrap (a * b)
  | .div => if b = 0 then 0 else a / b
  | .rem => if b = 0 then 0 else a % b
  | .equal => if a = b then 1 else 0
  | .less => if a < b then 1 else 0

def quantity (frame : Frame) (memoryLength : Nat) : Quantity → Nat
  | .firstSubgroup => frame.invocation.subgroups.first
  | .subgroupCount => frame.invocation.subgroups.count
  | .workgroupX => frame.invocation.workgroup.x
  | .workgroupY => frame.invocation.workgroup.y
  | .workgroupZ => frame.invocation.workgroup.z
  | .gridX => frame.invocation.constants.numWorkgroups.coord.x
  | .gridY => frame.invocation.constants.numWorkgroups.coord.y
  | .gridZ => frame.invocation.constants.numWorkgroups.coord.z
  | .sizeX => frame.invocation.constants.workgroupSize.coord.x
  | .sizeY => frame.invocation.constants.workgroupSize.coord.y
  | .sizeZ => frame.invocation.constants.workgroupSize.coord.z
  | .subgroupsPerWorkgroup => frame.invocation.constants.subgroupsPerWorkgroup
  | .invocationsPerSubgroup => frame.invocation.constants.invocationsPerSubgroup
  | .invocationsPerWorkgroup => frame.invocation.constants.invocationsPerWorkgroup
  | .memoryLength => wrap memoryLength
  | .laneSubgroup => frame.lane.subgroup
  | .laneIndex => frame.lane.index
  | .localX => frame.lane.position.x
  | .localY => frame.lane.position.y
  | .localZ => frame.lane.position.z
  | .globalX => frame.lane.global.x
  | .globalY => frame.lane.global.y
  | .globalZ => frame.lane.global.z
  | .iteration => frame.iteration

def itemType : AccessWidth → ItemType
  | .byte => .u8
  | .half => .u16
  | .full => .u32

/-- The bytes of a binding, if there is one. -/
def bindingBytes (frame : Frame) (scene : Scene World) (binding : Nat) : Bytes :=
  match (frame.bindings[binding]?).join with
  | none => #[]
  | some resource => scene.shared.bytes resource

/-- Word `index` of a binding, or zero if it does not lie inside. -/
def bindingWord (bytes : Bytes) (index : Nat) : Nat :=
  match bytes.part? (4 * index) 4 with
  | none => 0
  | some word => ofLittleEndian word.toList

def eval (frame : Frame) (registers : Registers) (scene : Scene World) : Expr → Except Fault Nat
  | .number value => .ok (wrap value)
  | .quantity which => .ok (quantity frame scene.memory.size which)
  | .binary operator left right => do
    let a ← eval frame registers scene left
    let b ← eval frame registers scene right
    return operate operator a b
  | .register index => do
    let index ← eval frame registers scene index
    return registers.getD (index % registerCount) 0
  | .load width offset => do
    let offset ← eval frame registers scene offset
    let value ← WorkgroupMemory.read scene.memory (itemType width) offset
    return value.toNat
  | .loadBinding binding index => do
    let binding ← eval frame registers scene binding
    let index ← eval frame registers scene index
    return bindingWord (bindingBytes frame scene binding) index
  | .bindingLength binding => do
    let binding ← eval frame registers scene binding
    return (bindingBytes frame scene binding).size
  | .pushConstant index => do
    let index ← eval frame registers scene index
    return (frame.invocation.constants.pushConstants.getD index 0).toNat
  | .dynamicOffset index => do
    let index ← eval frame registers scene index
    return frame.invocation.constants.dynamicOffsets.getD index 0
  | .hasSet index => do
    let index ← eval frame registers scene index
    return if frame.invocation.constants.hasSet index then 1 else 0

def note (frame : Frame) (scene : Scene World) (body : NoteBody) : Scene World :=
  { scene with
    shared := scene.shared.note (.of frame.invocation.workgroup frame.invocation.subgroups body) }

/-- Stores a word of a binding, if it lies inside. -/
def storeWord (frame : Frame) (scene : Scene World) (binding index value : Nat) : Scene World :=
  match (frame.bindings[binding]?).join with
  | none => scene
  | some resource =>
    if 4 * index + 4 ≤ (scene.shared.bytes resource).size then
      { scene with
        shared := scene.shared.store resource (4 * index) (littleEndian 4 value).toArray }
    else
      scene

/-- A lane of the coroutine, with its positions. -/
def laneAt (frame : Frame) (subgroup index : Nat) : Except Fault Lane := do
  let position ← frame.invocation.localId index
  let global ← frame.invocation.globalId position
  return ⟨subgroup, index, position, global⟩

/-- The lanes of the coroutine: subgroup and linear number. -/
def laneList (frame : Frame) : Except Fault (List (Nat × Nat)) := do
  let ranges ← frame.invocation.lanes
  return ranges.flatMap fun (subgroup, first, stop) =>
    (List.range' first (stop - first)).map fun index => (subgroup, index)

/-- Runs a body so many times, counting from `iteration`. -/
def repeated (body : Nat → Registers → Scene World → Task World Registers) (iteration : Nat) :
    Nat → Registers → Scene World → Task World Registers
  | 0, registers, scene => .ended registers scene
  | count + 1, registers, scene =>
    (body iteration registers scene).andThen (repeated body (iteration + 1) count)

/-- Runs a body for every element of a list. -/
def forEach {α : Type} (body : α → Registers → Scene World → Task World Registers) :
    List α → Registers → Scene World → Task World Registers
  | [], registers, scene => .ended registers scene
  | item :: rest, registers, scene => (body item registers scene).andThen (forEach body rest)

mutual

/-- Runs an instruction. The result is the registers afterwards. -/
def exec (frame : Frame) (instr : Instr) (registers : Registers) (scene : Scene World) :
    Task World Registers :=
  match instr with
  | .barrier => Task.await .fresh registers scene
  | .emit value =>
    match eval frame registers scene value with
    | .error fault => .faulted fault scene
    | .ok value => .ended registers (note frame scene (.value value))
  | .assign register value =>
    match eval frame registers scene value with
    | .error fault => .faulted fault scene
    | .ok value => .ended (registers.setIfInBounds (register % registerCount) value) scene
  | .store width offset value =>
    match eval frame registers scene offset with
    | .error fault => .faulted fault scene
    | .ok offset =>
      match eval frame registers scene value with
      | .error fault => .faulted fault scene
      | .ok value =>
        match WorkgroupMemory.write scene.memory (itemType width) offset value with
        | .error fault => .faulted fault scene
        | .ok memory => .ended registers { scene with memory }
  | .storeBinding binding index value =>
    match eval frame registers scene binding with
    | .error fault => .faulted fault scene
    | .ok binding =>
      match eval frame registers scene index with
      | .error fault => .faulted fault scene
      | .ok index =>
        match eval frame registers scene value with
        | .error fault => .faulted fault scene
        | .ok value => .ended registers (storeWord frame scene binding index value)
  | .notePositions =>
    match frame.invocation.positions with
    | .error fault => .faulted fault scene
    | .ok all => .ended registers (note frame scene (.positions all))
  | .noteRanges =>
    match frame.invocation.lanes with
    | .error fault => .faulted fault scene
    | .ok all => .ended registers (note frame scene (.ranges all))
  | .fault text => .faulted (.raised text) scene
  | .when condition body =>
    match eval frame registers scene condition with
    | .error fault => .faulted fault scene
    | .ok 0 => .ended registers scene
    | .ok _ => execAll frame body registers scene
  | .loop count body =>
    match eval frame registers scene count with
    | .error fault => .faulted fault scene
    | .ok count =>
      repeated (fun iteration => execAll { frame with iteration } body) 0 count registers scene
  | .forLanes body =>
    match laneList frame with
    | .error fault => .faulted fault scene
    | .ok lanes =>
      forEach (fun (subgroup, index) registers scene =>
        match laneAt frame subgroup index with
        | .error fault => .faulted fault scene
        | .ok lane => execAll { frame with lane } body registers scene) lanes registers scene

def execAll (frame : Frame) (block : List Instr) (registers : Registers) (scene : Scene World) :
    Task World Registers :=
  match block with
  | [] => .ended registers scene
  | instr :: rest => (exec frame instr registers scene).andThen (execAll frame rest)

end

/-- The kernel of a block: it notes its beginning, and its guard notes its end. -/
def ofBlock (block : List Instr) (bindings : Array (Option Resource)) (invocation : Invocation)
    (scene : Scene World) : Future World × Scene World :=
  let frame : Frame := ⟨invocation, bindings, default, 0⟩
  (⟨some fun scene =>
      (execAll frame block noRegisters scene).andThen fun _ scene => .ended () scene,
    fun scene => note frame scene .destroyed⟩,
   note frame scene (.began invocation.subgroups.count none))

end Kernel

end GridDispatch
