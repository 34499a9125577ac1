/-
Scripts: programs that follow a table.

A script's coroutine waits a number of times that its place in the grid looks up in
a table, notes everything that happens to it, and stops with a fault at one chosen
point if it is told to. It reads nothing of its scene but the length of the memory.
-/
import GridDispatch.Coroutine.Basic
import GridDispatch.Session.World

set_option autoImplicit false

namespace GridDispatch

/-- The point at which a script faults. -/
structure ScriptStop where
  /-- While a coroutine begins, or when it is resumed. -/
  atBegin : Bool
  firstSubgroup : Nat
  /-- Which resumption, counted from one; zero for beginning. -/
  nth : Nat
  /-- Only in this workgroup, if one is given. -/
  workgroup : Option Coord
deriving DecidableEq, Repr

def ScriptStop.reached (stop : ScriptStop) (atBegin : Bool) (workgroup : Coord)
    (subgroups : Subgroups) (nth : Nat) : Bool :=
  stop.atBegin == atBegin && stop.firstSubgroup == subgroups.first && stop.nth == nth
    && (stop.workgroup.all fun wanted => wanted == workgroup)

/-- A program that follows a table. -/
structure Script where
  yields : Array Nat
  stop : Option ScriptStop
deriving DecidableEq, Repr

/-- The coroutine of a script. -/
structure ScriptRoutine where
  stop : Option ScriptStop
  workgroup : Coord
  subgroups : Subgroups
  resumptions : Nat
  remaining : Nat
deriving DecidableEq, Repr

namespace Script

/-- How often a coroutine waits: the table is used over and over. -/
def yieldsAt (script : Script) (workgroup : Coord) (subgroups : Subgroups) : Nat :=
  script.yields.getD
    ((subgroups.first + workgroup.x + workgroup.y + workgroup.z) % script.yields.size) 0

def start (script : Script) (workgroup : Coord) (subgroups : Subgroups) (scene : Scene World) :
    Except Fault ScriptRoutine × Scene World :=
  let note := Note.of workgroup subgroups (.began subgroups.count (some scene.memory.size))
  let scene := { scene with shared := scene.shared.note note }
  if script.stop.any fun stop => stop.reached true workgroup subgroups 0 then
    (.error (.raised "begin failed"), scene)
  else
    (.ok ⟨script.stop, workgroup, subgroups, 0, script.yieldsAt workgroup subgroups⟩, scene)

end Script

namespace ScriptRoutine

def note (routine : ScriptRoutine) (scene : Scene World) (body : NoteBody) : Scene World :=
  { scene with shared := scene.shared.note (.of routine.workgroup routine.subgroups body) }

def resume (routine : ScriptRoutine) (scene : Scene World) : Resumed ScriptRoutine World :=
  let scene := routine.note scene .resumed
  let routine := { routine with resumptions := routine.resumptions + 1 }
  if routine.stop.any fun stop =>
      stop.reached false routine.workgroup routine.subgroups routine.resumptions then
    ⟨.error (.raised "resume failed"), routine, scene⟩
  else
    match routine.remaining with
    | 0 => ⟨.ok .ended, routine, scene⟩
    | remaining + 1 => ⟨.ok .waiting, { routine with remaining }, scene⟩

def destroy (routine : ScriptRoutine) (scene : Scene World) : Scene World :=
  routine.note scene .destroyed

end ScriptRoutine

end GridDispatch
