/-
One thread at work.

A thread owns a queue of coroutines and a block of workgroup memory; both are kept
from one dispatch to the next. A `Run` is a thread together with what the
coroutines share and the history so far. The steps of a dispatch are functions on
runs: beginning a coroutine queues it, resuming takes the front one and puts it back
if it still waits, and every coroutine that is no longer queued has been destroyed.

A step that faults answers the run as the fault left it. Coroutines that were queued
stay queued; the one at hand is destroyed.

Resuming goes on until the queue is empty. It always comes to an end, as the number
of resumptions is a count and counting past its word faults; so the loop needs no
other bound.
-/
import GridDispatch.Schedule.Context

set_option autoImplicit false

namespace GridDispatch

/-- A coroutine with its name. -/
structure Coroutine (ρ : Type) where
  ticket : Ticket
  state : ρ

/-- The state of one thread between dispatches. -/
structure Thread (ρ : Type) where
  queue : Ring (Coroutine ρ)
  memory : Block
  /-- The number of coroutines begun on this thread. -/
  begun : Nat

namespace Thread

variable {ρ : Type}

/-- A thread that has run nothing. -/
def initial : Thread ρ :=
  ⟨.empty, .initial, 0⟩

/-- The diagnostic text. -/
def text (thread : Thread ρ) : String :=
  Text.record "ThreadContext" [("memory_size", toString thread.memory.size),
    ("queued", toString thread.queue.length),
    ("queue_capacity", toString thread.queue.capacity)]

end Thread

/-- A thread at work: its state, what coroutines share, and the history. -/
structure Run (ρ σ : Type) where
  thread : Thread ρ
  shared : σ
  events : Array Event

namespace Run

variable {ρ σ : Type}

/-- Lets a program or a coroutine act on what it sees. The memory keeps its length. -/
def act {α : Type} (run : Run ρ σ) (action : Scene σ → α × Scene σ) : α × Run ρ σ :=
  match run with
  | ⟨⟨queue, ⟨bytes, align⟩, begun⟩, shared, events⟩ =>
    let length := bytes.size
    match action ⟨bytes, shared⟩ with
    | (answer, ⟨after, shared⟩) =>
      (answer, ⟨⟨queue, ⟨after.fit length, align⟩, begun⟩, shared, events⟩)

/-- Adds an event to the history. -/
def record (run : Run ρ σ) (event : Event) : Run ρ σ :=
  { run with events := run.events.push event }

/-- Adds an event, if there is one. -/
def record? (run : Run ρ σ) : Option Event → Run ρ σ
  | none => run
  | some event => run.record event

/-- The run with another queue. -/
def withQueue (run : Run ρ σ) (queue : Ring (Coroutine ρ)) : Run ρ σ :=
  { run with thread := { run.thread with queue } }

/-- Destroys a coroutine that is not queued. -/
def destroy (backend : Backend ρ σ) (run : Run ρ σ) (coroutine : Coroutine ρ) : Run ρ σ :=
  (run.act fun scene => ((), backend.destroy coroutine.state scene)).2.record
    (.destroyed coroutine.ticket)

/-- Queues a coroutine. If that faults, the coroutine is destroyed. -/
def enqueue (backend : Backend ρ σ) (run : Run ρ σ) (coroutine : Coroutine ρ) :
    Except Fault Unit × Run ρ σ :=
  match run.thread.queue.push coroutine with
  | .error fault => (.error fault, run.destroy backend coroutine)
  | .ok (queue, growth) => (.ok (), (run.withQueue queue).record? (growth.map .queueGrown))

/-! ## Beginning -/

/-- Begins a coroutine and queues it. -/
def spawn (backend : Backend ρ σ) (program : Program ρ σ) (constants : Constants)
    (workgroup : Coord) (run : Run ρ σ) (subgroups : Subgroups) : Except Fault Unit × Run ρ σ :=
  match run.act (program.start constants workgroup subgroups) with
  | (.error fault, run) => (.error fault, run)
  | (.ok state, run) =>
    let ticket : Ticket := ⟨run.thread.begun, workgroup, subgroups⟩
    let run := run.record (.begun ticket)
    let run := { run with thread := { run.thread with begun := run.thread.begun + 1 } }
    run.enqueue backend ⟨ticket, state⟩

/-- Begins so many coroutines one after another, of which the first has this index;
`part` tells the subgroups of each. -/
def spawnFrom (backend : Backend ρ σ) (program : Program ρ σ) (constants : Constants)
    (workgroup : Coord) (part : Nat → Subgroups) (run : Run ρ σ) (index : Nat) :
    Nat → Except Fault Unit × Run ρ σ
  | 0 => (.ok (), run)
  | count + 1 =>
    match run.spawn backend program constants workgroup (part index) with
    | (.error fault, run) => (.error fault, run)
    | (.ok (), run) => run.spawnFrom backend program constants workgroup part (index + 1) count

/-! ## Resuming -/

/-- Resumes a coroutine that was taken from the queue. -/
def resume (backend : Backend ρ σ) (run : Run ρ σ) (coroutine : Coroutine ρ) :
    Except Fault Unit × Run ρ σ :=
  let ((answer, state), run) := run.act fun scene =>
    let resumed := backend.resume coroutine.state scene
    ((resumed.answer, resumed.state), resumed.scene)
  let run := run.record (.resumed coroutine.ticket answer)
  let coroutine := { coroutine with state }
  match answer with
  | .error fault => (.error fault, run.destroy backend coroutine)
  | .ok .waiting => run.enqueue backend coroutine
  | .ok .ended => (.ok (), run.destroy backend coroutine)

/-- Resumes the queued coroutines in turn until none is left. The answer is the number
of resumptions, counted from `count` on. -/
def drain (backend : Backend ρ σ) (run : Run ρ σ) (count : Nat) : Except Fault Nat × Run ρ σ :=
  match run.thread.queue.pop with
  | .error fault => (.error fault, run)
  | .ok (none, queue) => (.ok count, run.withQueue queue)
  | .ok (some coroutine, queue) =>
    let run := run.withQueue queue
    if _room : count + 1 < word then
      match run.resume backend coroutine with
      | (.error fault, run) => (.error fault, run)
      | (.ok (), run) => drain backend run (count + 1)
    else
      (.error (.arithmetic .add), run.destroy backend coroutine)
termination_by word - count

/-! ## Giving up -/

/-- Destroys the queued coroutines in the order of the queue, without resuming them. -/
def discard (backend : Backend ρ σ) (run : Run ρ σ) : Except Fault Unit × Run ρ σ :=
  match _popped : run.thread.queue.pop with
  | .error fault => (.error fault, run)
  | .ok (none, queue) => (.ok (), run.withQueue queue)
  | .ok (some coroutine, queue) => discard backend ((run.withQueue queue).destroy backend coroutine)
termination_by run.thread.queue.occupied
decreasing_by
  exact Ring.occupied_pop _popped

/-- Makes the workgroup memory at least so long, rounded up to its alignment. -/
def reserveMemory (run : Run ρ σ) (size : Nat) : Except Fault Unit × Run ρ σ :=
  match alignUp size memoryAlign with
  | .error fault => (.error fault, run)
  | .ok size =>
    match run.thread.memory.reserve size with
    | .error fault => (.error fault, run)
    | .ok (false, _) => (.ok (), run)
    | .ok (true, memory) =>
      (.ok (), { run with thread := { run.thread with memory } }.record (.memoryGrown size))

/-- Gives up queue and memory. The queued coroutines are destroyed first, in the order
of their slots, while their memory is still there. -/
def release (backend : Backend ρ σ) (run : Run ρ σ) : Run ρ σ :=
  let run := run.thread.queue.slotOrder.foldl (destroy backend) (run.withQueue .empty)
  { run with thread := { run.thread with memory := run.thread.memory.release } }.record
    .memoryReleased

end Run

end GridDispatch
