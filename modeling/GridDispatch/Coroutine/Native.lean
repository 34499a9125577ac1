/-
Native programs: coroutines behind three entry points.

A compiled program is reached through `begin`, `await` and `destroy`, which know
nothing but signed 32-bit arguments and an opaque frame. Coordinates and subgroup
numbers are passed as the signed reading of their 32 bits (`signed`), so a value of
2^31 or more arrives negative. `await` answers a byte, zero when the coroutine has
ended; after that the frame may only be destroyed, which is checked here.
-/
import GridDispatch.Coroutine.Basic

set_option autoImplicit false

namespace GridDispatch

def signed (value : Nat) : Int :=
  if value < 2147483648 then (value : Int) else (value : Int) - lane

/-- The arguments that `begin` is called with. -/
structure BeginCall where
  x : Int
  y : Int
  z : Int
  firstSubgroup : Int
  subgroupCount : Int
deriving DecidableEq, Repr

/-- The arguments for some subgroups of a workgroup. -/
def BeginCall.of (workgroup : Coord) (subgroups : Subgroups) : BeginCall :=
  ⟨signed workgroup.x, signed workgroup.y, signed workgroup.z,
    signed subgroups.first, signed subgroups.count⟩

/-- The entry points of a program whose frames are `φ`. -/
structure EntryPoints (φ σ : Type) where
  begin : Constants → BeginCall → Scene σ → φ × Scene σ
  /-- Resumes; the byte is zero when the coroutine has ended. -/
  await : φ → Scene σ → UInt8 × φ × Scene σ
  destroy : φ → Scene σ → Scene σ

/-- The parameters of a native program as its compiler writes them. -/
structure RawInfo where
  minMemorySize : Nat
  /-- Any byte but zero means that coroutines meet at barriers. -/
  hasBarriers : UInt8
  setSize : Nat
  sizeX : Int
  sizeY : Int
  sizeZ : Int
deriving DecidableEq, Repr

/-- A workgroup dimension, which must not be negative. -/
def RawInfo.dimension (value : Int) : Except Fault Nat :=
  if value < 0 then .error (.negativeDimension value) else .ok value.toNat

/-- The declared parameters; the dimensions are checked in order. -/
def RawInfo.info (raw : RawInfo) : Except Fault ProgramInfo := do
  let x ← dimension raw.sizeX
  let y ← dimension raw.sizeY
  let z ← dimension raw.sizeZ
  return ⟨raw.minMemorySize, raw.hasBarriers != 0, raw.setSize, ⟨x, y, z⟩⟩

/-- A native coroutine: its frame, and whether it has reported its end. -/
structure NativeRoutine (φ : Type) where
  frame : φ
  finished : Bool

/-- A native program. -/
structure NativeProgram (φ σ : Type) where
  info : ProgramInfo
  entry : EntryPoints φ σ

namespace NativeProgram

variable {φ σ : Type}

/-- The program of raw parameters and entry points. -/
def ofRaw (raw : RawInfo) (entry : EntryPoints φ σ) : Except Fault (NativeProgram φ σ) :=
  match raw.info with
  | .error fault => .error fault
  | .ok info => .ok ⟨info, entry⟩

/-- The program that begins a coroutine by calling `begin`. -/
def program (native : NativeProgram φ σ) : Program (NativeRoutine φ) σ where
  info := native.info
  start constants workgroup subgroups scene :=
    let begun := native.entry.begin constants (.of workgroup subgroups) scene
    (.ok ⟨begun.1, false⟩, begun.2)

end NativeProgram

namespace EntryPoints

variable {φ σ : Type}

/-- Resumes a coroutine that has not reported its end. -/
def resume (entry : EntryPoints φ σ) (routine : NativeRoutine φ) (scene : Scene σ) :
    Resumed (NativeRoutine φ) σ :=
  if routine.finished then ⟨.error .resumedFinished, routine, scene⟩
  else
    match entry.await routine.frame scene with
    | (running, frame, scene) =>
      if running = 0 then ⟨.ok .ended, ⟨frame, true⟩, scene⟩
      else ⟨.ok .waiting, ⟨frame, false⟩, scene⟩

/-- The backend of programs with these entry points. -/
def backend (entry : EntryPoints φ σ) : Backend (NativeRoutine φ) σ :=
  ⟨entry.resume, fun routine scene => entry.destroy routine.frame scene⟩

end EntryPoints

end GridDispatch
