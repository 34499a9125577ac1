/-
Ranges of subgroups.

A coroutine runs the subgroups `first, first + 1, ..` of one workgroup, `count` of
them. The end of the range is computed in a lane's arithmetic.
-/
import GridDispatch.Arith.Checked
import GridDispatch.Text.Record

set_option autoImplicit false

namespace GridDispatch

/-- The subgroups that one coroutine runs. -/
structure Subgroups where
  first : Nat
  count : Nat
deriving DecidableEq, Repr, Inhabited

namespace Subgroups

/-- The first subgroup after the range. -/
def stop (s : Subgroups) : Except Fault Nat :=
  Checked.add lane s.first s.count

def toList (s : Subgroups) : List Nat :=
  List.range' s.first s.count

def rangeText (s : Subgroups) : Except Fault String :=
  match s.stop with
  | .error fault => .error fault
  | .ok stop => .ok (toString s.first ++ ".." ++ toString stop)

def text (s : Subgroups) : String :=
  Text.record "Subgroups" [("first", toString s.first), ("count", toString s.count)]

end Subgroups

end GridDispatch
