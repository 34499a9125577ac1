/-
Kernels: programs written as computations that pause at barriers.

A kernel is called once for each coroutine. What it gives back has not run yet: it
is a future, the rest of the computation together with a guard that runs once, when
the computation ends or faults, or when the future is destroyed before that. A
future that has ended or faulted must not be resumed again; if it is, it faults.
-/
import GridDispatch.Coroutine.Task
import GridDispatch.Workgroup.Invocation

set_option autoImplicit false

namespace GridDispatch

/-- A kernel's coroutine: what is left to run, if anything. -/
structure Future (σ : Type) where
  /-- The rest of the computation, or nothing once it has ended or faulted. -/
  rest : Option (Scene σ → Task σ Unit)
  /-- Runs when the computation is over, in whichever way. -/
  guard : Scene σ → Scene σ

namespace Future

variable {σ : Type}

/-- Runs up to the next pause or to the end. -/
def resume (future : Future σ) (scene : Scene σ) : Resumed (Future σ) σ :=
  match future.rest with
  | none => ⟨.error .resumedKernel, future, scene⟩
  | some rest =>
    match rest scene with
    | .ended _ scene => ⟨.ok .ended, ⟨none, future.guard⟩, future.guard scene⟩
    | .faulted fault scene => ⟨.error fault, ⟨none, future.guard⟩, future.guard scene⟩
    | .paused scene rest => ⟨.ok .waiting, ⟨some rest, future.guard⟩, scene⟩

/-- Drops what is left; the guard runs unless it already has. -/
def destroy (future : Future σ) (scene : Scene σ) : Scene σ :=
  match future.rest with
  | none => scene
  | some _ => future.guard scene

end Future

def kernelBackend (σ : Type) : Backend (Future σ) σ :=
  ⟨Future.resume, Future.destroy⟩

/-- A program given by a kernel. -/
structure KernelProgram (σ : Type) where
  info : ProgramInfo
  kernel : Invocation → Scene σ → Future σ × Scene σ

namespace KernelProgram

variable {σ : Type}

/-- The program that begins a coroutine by calling the kernel. -/
def program (k : KernelProgram σ) : Program (Future σ) σ where
  info := k.info
  start constants workgroup subgroups scene :=
    let begun := k.kernel ⟨constants, workgroup, subgroups⟩ scene
    (.ok begun.1, begun.2)

/-- The diagnostic text; the kernel itself is not shown. -/
def text (info : ProgramInfo) : String :=
  Text.openRecord "KernelProgram" [("info", info.text)]

end KernelProgram

end GridDispatch
