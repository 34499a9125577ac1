/-
Tasks: what is left to do of a computation that can pause.

A task has ended, has faulted, or waits with a function from the scene it will be
resumed in to the task that follows. Tasks are finite along every path, so a
computation written as a task always comes to its end. They compose: `Task.andThen`
runs a second computation where the first one ends, however often the first pauses
on the way.

A control barrier is the smallest computation that pauses. Polled on its own it
answers "waiting" once, waking its waker, and "ended" from then on; awaited inside a
task it is `Task.await`, which pauses exactly as often as the barrier waits.
-/
import GridDispatch.Coroutine.Basic

set_option autoImplicit false

namespace GridDispatch

/-- A computation over scenes that may pause, with a result `α`. -/
inductive Task (σ α : Type) where
  | ended (result : α) (scene : Scene σ)
  | faulted (fault : Fault) (scene : Scene σ)
  | paused (scene : Scene σ) (rest : Scene σ → Task σ α)

namespace Task

variable {σ α β : Type}

/-- Runs the second computation where the first one ends. -/
def andThen (task : Task σ α) (next : α → Scene σ → Task σ β) : Task σ β :=
  match task with
  | .ended result scene => next result scene
  | .faulted fault scene => .faulted fault scene
  | .paused scene rest => .paused scene fun scene => (rest scene).andThen next

end Task

/-! ## Barriers -/

/-- A control barrier, and whether it was waited for already. -/
structure Barrier where
  yielded : Bool
deriving DecidableEq, Repr

namespace Barrier

def fresh : Barrier := ⟨false⟩

/-- How a barrier answers: how it stands, whether it wakes the waker, and what it is
afterwards. -/
def poll (barrier : Barrier) : Progress × Bool × Barrier :=
  if barrier.yielded then (.ended, false, barrier) else (.waiting, true, ⟨true⟩)

def text (barrier : Barrier) : String :=
  Text.record "Barrier" [("yielded", Text.truth barrier.yielded)]

end Barrier

/-- Polls a barrier until it ends, pausing whenever it waits. -/
def Task.await {σ α : Type} (barrier : Barrier) (result : α) (scene : Scene σ) : Task σ α :=
  match barrier with
  | ⟨true⟩ => .ended result scene
  | ⟨false⟩ => .paused scene fun scene => .ended result scene

/-- Awaiting a barrier is polling it until it ends. -/
theorem Task.await_eq_poll {σ α : Type} (barrier : Barrier) (result : α) (scene : Scene σ) :
    Task.await barrier result scene =
      match barrier.poll with
      | (.ended, _, _) => .ended result scene
      | (.waiting, _, next) => .paused scene fun scene => Task.await next result scene := by
  rcases barrier with ⟨_ | _⟩ <;> rfl

end GridDispatch
