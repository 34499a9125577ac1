/-
The work done by a dispatch: how many workgroups were run, how many coroutines were
begun for them, and how often coroutines were resumed.

Adding is checked field by field, in this order. A sum that faults keeps the fields
that were added before, so `Stats.add` answers the new record in every case.
-/
import GridDispatch.Arith.Checked
import GridDispatch.Text.Record

set_option autoImplicit false

namespace GridDispatch

/-- The work done by one or more threads. -/
structure Stats where
  workgroups : Nat
  coroutines : Nat
  resumptions : Nat
deriving DecidableEq, Repr

namespace Stats

/-- No work. -/
def zero : Stats := ⟨0, 0, 0⟩

/-- Adds the fields in order, as far as they stay counts. -/
def add (total more : Stats) : Except Fault Unit × Stats :=
  match Checked.add word total.workgroups more.workgroups with
  | .error fault => (.error fault, total)
  | .ok workgroups =>
    match Checked.add word total.coroutines more.coroutines with
    | .error fault => (.error fault, { total with workgroups })
    | .ok coroutines =>
      match Checked.add word total.resumptions more.resumptions with
      | .error fault => (.error fault, { total with workgroups, coroutines })
      | .ok resumptions => (.ok (), ⟨workgroups, coroutines, resumptions⟩)

/-- Adds a list of records to a first one. -/
def addAll (total : Stats) : List Stats → Except Fault Stats
  | [] => .ok total
  | more :: rest =>
    match total.add more with
    | (.error fault, _) => .error fault
    | (.ok (), total) => addAll total rest

/-- The sum of a list of records. -/
def sum (all : List Stats) : Except Fault Stats :=
  addAll zero all

/-- The text for readers. -/
def display (s : Stats) : String :=
  toString s.workgroups ++ " workgroups, " ++ toString s.coroutines ++ " coroutines, "
    ++ toString s.resumptions ++ " resumptions"

/-- The diagnostic text. -/
def text (s : Stats) : String :=
  Text.record "DispatchStats" [("workgroups", toString s.workgroups),
    ("coroutines", toString s.coroutines), ("resumptions", toString s.resumptions)]

end Stats

end GridDispatch
