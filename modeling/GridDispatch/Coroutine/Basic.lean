/-
Coroutines, seen from outside.

The scheduler knows two things about coroutines: they can be resumed, which either
ends them or leaves them waiting, and they have to be destroyed exactly once. A
program knows how to begin one. Everything else, how a coroutine stores its state
and what it does, belongs to a backend; the scheduler is written for any of them.

What a coroutine can see and change is its scene: the workgroup memory of the
thread it runs on, and whatever the coroutines of the program share beyond that.
A fault during `begin` or `resume` keeps what was already changed in the scene.
-/
import GridDispatch.Workgroup.Constants
import GridDispatch.Workgroup.Info
import GridDispatch.Workgroup.Subgroups

set_option autoImplicit false

namespace GridDispatch

/-- What coroutines can see and change. -/
structure Scene (σ : Type) where
  /-- The workgroup memory of the thread. -/
  memory : Bytes
  /-- Whatever else the coroutines share. -/
  shared : σ

/-- How a coroutine stands after it was resumed. -/
inductive Progress where
  | waiting
  | ended
deriving DecidableEq, Repr

/-- Answers of coroutines can be compared. -/
instance : DecidableEq (Except Fault Progress)
  | .ok a, .ok b => decidable_of_iff (a = b) ⟨congrArg Except.ok, Except.ok.inj⟩
  | .error a, .error b => decidable_of_iff (a = b) ⟨congrArg Except.error, Except.error.inj⟩
  | .ok _, .error _ => isFalse nofun
  | .error _, .ok _ => isFalse nofun

/-- What happened when a coroutine was resumed. Its state is kept in every case, as it
still has to be destroyed. -/
structure Resumed (ρ σ : Type) where
  answer : Except Fault Progress
  state : ρ
  scene : Scene σ

/-- How coroutines with states `ρ` are resumed and destroyed. -/
structure Backend (ρ σ : Type) where
  resume : ρ → Scene σ → Resumed ρ σ
  destroy : ρ → Scene σ → Scene σ

/-- A program whose coroutines have states `ρ`. -/
structure Program (ρ σ : Type) where
  info : ProgramInfo
  /-- Begins the coroutine of some subgroups of one workgroup. -/
  start : Constants → Coord → Subgroups → Scene σ → Except Fault ρ × Scene σ

end GridDispatch
