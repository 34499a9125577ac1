/-
The programs of a session and their coroutines.

A session can run scripts, countdowns behind native entry points, and kernels, one
after another on the same threads. Coroutines left behind by one program may be met
by the dispatch of another, so all kinds share one type of states and one backend.
-/
import GridDispatch.Session.Countdown
import GridDispatch.Session.Kernel.Eval
import GridDispatch.Session.Script

set_option autoImplicit false

namespace GridDispatch

/-- The state of a coroutine of any kind. -/
inductive Routine where
  | script (routine : ScriptRoutine)
  | native (routine : NativeRoutine CountdownFrame)
  | kernel (future : Future World)

namespace Routine

/-- The same outcome with the state of a coroutine of any kind. -/
def lift {ρ : Type} (wrap : ρ → Routine) (resumed : Resumed ρ World) : Resumed Routine World :=
  ⟨resumed.answer, wrap resumed.state, resumed.scene⟩

/-- Entry points whose frames can be resumed and destroyed. -/
def countdownEntry : EntryPoints CountdownFrame World :=
  Countdown.entry ⟨0, 1, false⟩

def resume (routine : Routine) (scene : Scene World) : Resumed Routine World :=
  match routine with
  | .script routine => lift .script (routine.resume scene)
  | .native routine => lift .native (countdownEntry.resume routine scene)
  | .kernel future => lift .kernel (future.resume scene)

def destroy (routine : Routine) (scene : Scene World) : Scene World :=
  match routine with
  | .script routine => routine.destroy scene
  | .native routine => countdownEntry.destroy routine.frame scene
  | .kernel future => future.destroy scene

def backend : Backend Routine World :=
  ⟨resume, destroy⟩

/-- A program whose coroutines have another type of states, as a program of a session. -/
def adapt {ρ : Type} (wrap : ρ → Routine) (program : Program ρ World) :
    Program Routine World where
  info := program.info
  start constants workgroup subgroups scene :=
    match program.start constants workgroup subgroups scene with
    | (.error fault, scene) => (.error fault, scene)
    | (.ok state, scene) => (.ok (wrap state), scene)

end Routine

/-- A program as its author describes it. -/
inductive Source where
  | script (script : Script)
  | native (yields : Int) (running : UInt8)
  | kernel (block : List Instr)

/-- The parameters as the author of a source writes them, for programs of all kinds alike. -/
abbrev SourceInfo := RawInfo

/-- The parameters of a program that is not native, whose dimensions are not signed. -/
def RawInfo.plain (raw : RawInfo) : ProgramInfo :=
  ⟨raw.minMemorySize, raw.hasBarriers != 0, raw.setSize,
    ⟨raw.sizeX.toNat, raw.sizeY.toNat, raw.sizeZ.toNat⟩⟩

/-- Builds a program; only native programs can be refused. Kernels see the resources of
the given bindings. -/
def Source.program (source : Source) (info : SourceInfo) (bindings : Array (Option Resource)) :
    Except Fault (Program Routine World) :=
  match source with
  | .script table =>
    .ok (Routine.adapt .script
      { info := info.plain, start := fun _ workgroup subgroups scene =>
          table.start workgroup subgroups scene })
  | .native yields running =>
    match NativeProgram.ofRaw info
        (Countdown.entry ⟨yields, running, info.minMemorySize != 0⟩) with
    | .error fault => .error fault
    | .ok compiled => .ok (Routine.adapt .native compiled.program)
  | .kernel block =>
    .ok (Routine.adapt .kernel
      (KernelProgram.program ⟨info.plain, Kernel.ofBlock block bindings⟩))

/-! ## A coroutine on its own -/

/-- Resumes a coroutine so many times, faults or not; the answers, and where it ended. -/
def Routine.poll (routine : Routine) (scene : Scene World) :
    Nat → List (Except Fault Progress) × Routine × Scene World
  | 0 => ([], routine, scene)
  | count + 1 =>
    let resumed := routine.resume scene
    let rest := Routine.poll resumed.state resumed.scene count
    (resumed.answer :: rest.1, rest.2)

/-- What becomes of a coroutine that is begun, resumed and destroyed by hand. -/
structure Trial where
  info : ProgramInfo
  answers : List (Except Fault Progress)
  scene : Scene World

/-- Begins one coroutine on memory of its own, resumes it so many times, and destroys
it. -/
def Program.tryOut (program : Program Routine World) (constants : Constants) (workgroup : Coord)
    (subgroups : Subgroups) (count : Nat) : Except Fault Trial := do
  let size ← alignUp program.info.minMemorySize memoryAlign
  let memory ← Block.allocate size memoryAlign
  match program.start constants workgroup subgroups ⟨memory.bytes, ⟨#[], #[], #[]⟩⟩ with
  | (.error fault, _) => .error fault
  | (.ok routine, scene) =>
    let polled := routine.poll scene count
    return ⟨program.info, polled.1, polled.2.1.destroy polled.2.2⟩

end GridDispatch
