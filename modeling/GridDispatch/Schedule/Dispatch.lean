/-
Dispatching: running a prepared grid.

A thread runs its share of the workgroups one after another. For each it begins the
coroutines, one for every subgroup if they meet at barriers and one for all
subgroups otherwise, and resumes them in turn until all have ended; only then comes
the next workgroup.

Coroutines that an earlier dispatch left behind when it faulted are destroyed before
anything else, and only then is the workgroup memory replaced if it is too short.
Requests that are refused touch nothing.

A dispatch over all threads runs the shares in any order of the threads
(`dispatchIn`); the sum of the work does not depend on it, and `dispatchAll` takes
the ascending one.
-/
import GridDispatch.Schedule.Partition
import GridDispatch.Schedule.Run

set_option autoImplicit false

namespace GridDispatch

namespace Context

variable {ρ σ : Type}

/-- The number of coroutines of one workgroup. -/
def coroutineCount (context : Context ρ σ) : Nat :=
  if context.hasBarriers then context.constants.subgroupsPerWorkgroup else 1

/-- The subgroups of one coroutine of a workgroup. -/
def coroutinePart (context : Context ρ σ) (index : Nat) : Subgroups :=
  if context.hasBarriers then ⟨index, 1⟩ else ⟨0, context.constants.subgroupsPerWorkgroup⟩

/-- The subgroups of the coroutines of one workgroup. -/
def coroutineParts (context : Context ρ σ) : List Subgroups :=
  (List.range context.coroutineCount).map context.coroutinePart

/-- Runs one workgroup to its end. -/
def runWorkgroup (context : Context ρ σ) (backend : Backend ρ σ) (program : Program ρ σ)
    (stats : Stats) (run : Run ρ σ) (workgroup : Coord) : Except Fault Stats × Run ρ σ :=
  match Checked.add word stats.workgroups 1 with
  | .error fault => (.error fault, run)
  | .ok workgroups =>
    match run.spawnFrom backend program context.constants workgroup context.coroutinePart 0
        context.coroutineCount with
    | (.error fault, run) => (.error fault, run)
    | (.ok (), run) =>
      match Checked.add word stats.coroutines context.coroutineCount with
      | .error fault => (.error fault, run)
      | .ok coroutines =>
        match run.drain backend stats.resumptions with
        | (.error fault, run) => (.error fault, run)
        | (.ok resumptions, run) => (.ok ⟨workgroups, coroutines, resumptions⟩, run)

/-- Runs so many workgroups of a thread's share one after another, from a place in it
on. -/
def runFrom (context : Context ρ σ) (backend : Backend ρ σ) (program : Program ρ σ)
    (thread : Nat) (stats : Stats) (run : Run ρ σ) (place : Nat) :
    Nat → Except Fault Stats × Run ρ σ
  | 0 => (.ok stats, run)
  | count + 1 =>
    match context.runWorkgroup backend program stats run (context.shareAt thread place) with
    | (.error fault, run) => (.error fault, run)
    | (.ok stats, run) => context.runFrom backend program thread stats run (place + 1) count

/-- Runs the share of one thread. -/
def dispatch (context : Context ρ σ) (backend : Backend ρ σ) (thread : Nat) (run : Run ρ σ) :
    Except Failure Stats × Run ρ σ :=
  match context.program with
  | none => (.error (.refused .unprepared), run)
  | some program =>
    if context.threads ≤ thread then
      (.error (.refused (.threadIndex thread context.threads)), run)
    else
      match run.discard backend with
      | (.error fault, run) => (.error (.faulted fault), run)
      | (.ok (), run) =>
        match run.reserveMemory context.memorySize with
        | (.error fault, run) => (.error (.faulted fault), run)
        | (.ok (), run) =>
          match context.runFrom backend program thread .zero run 0 (context.shareSize thread) with
          | (.error fault, run) => (.error (.faulted fault), run)
          | (.ok stats, run) =>
            (.ok stats, run.record (.shareDone thread context.threads stats))

/-! ## All threads -/

/-- Several threads, what their coroutines share, and the history. -/
structure Crew (ρ σ : Type) where
  threads : Array (Thread ρ)
  shared : σ
  events : Array Event

/-- Runs the shares of the listed threads in this order. The answer holds the work of
each thread at its index. -/
def dispatchEach (context : Context ρ σ) (backend : Backend ρ σ) (work : Array Stats)
    (crew : Crew ρ σ) : List Nat → Except Failure (Array Stats) × Crew ρ σ
  | [] => (.ok work, crew)
  | index :: rest =>
    match crew.threads[index]? with
    | none => (.error (.faulted .outOfRange), crew)
    | some thread =>
      match context.dispatch backend index ⟨thread, crew.shared, crew.events⟩ with
      | (.error failure, run) =>
        (.error failure, ⟨crew.threads.setIfInBounds index run.thread, run.shared, run.events⟩)
      | (.ok stats, run) =>
        context.dispatchEach backend (work.setIfInBounds index stats)
          ⟨crew.threads.setIfInBounds index run.thread, run.shared, run.events⟩ rest

/-- Runs the shares of all threads, in the given order of their indices. -/
def dispatchIn (context : Context ρ σ) (backend : Backend ρ σ) (order : List Nat)
    (crew : Crew ρ σ) : Except Failure Stats × Crew ρ σ :=
  if context.program.isNone then (.error (.refused .unprepared), crew)
  else if crew.threads.size ≠ context.threads then
    (.error (.refused (.threadContexts context.threads crew.threads.size)), crew)
  else
    match context.dispatchEach backend (Array.replicate context.threads .zero) crew order with
    | (.error failure, crew) => (.error failure, crew)
    | (.ok work, crew) =>
      match Stats.sum work.toList with
      | .error fault => (.error (.faulted fault), crew)
      | .ok stats =>
        (.ok stats, { crew with events := crew.events.push (.dispatchDone context.threads stats) })

/-- Runs the shares of all threads. -/
def dispatchAll (context : Context ρ σ) (backend : Backend ρ σ) (crew : Crew ρ σ) :
    Except Failure Stats × Crew ρ σ :=
  context.dispatchIn backend (List.range context.threads) crew

end Context

end GridDispatch
