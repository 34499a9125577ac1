/-
What a program declares about itself: the workgroup memory it needs, whether its
coroutines meet at control barriers, the size of its descriptor set, and the size
of its workgroups.
-/
import GridDispatch.Arith.Checked
import GridDispatch.Storage.BindingSet
import GridDispatch.Text.Record
import GridDispatch.Workgroup.Coord

set_option autoImplicit false

namespace GridDispatch

/-- The declared parameters of a program. -/
structure ProgramInfo where
  minMemorySize : Nat
  hasBarriers : Bool
  setSize : Nat
  workgroupSize : Coord
deriving DecidableEq, Repr, Inhabited

namespace ProgramInfo

/-- The parameters of a program that needs nothing but its workgroup size. -/
def ofSize (workgroupSize : Coord) : ProgramInfo :=
  ⟨0, false, 0, workgroupSize⟩

def blank : ProgramInfo :=
  ofSize ⟨0, 0, 0⟩

def withSet (info : ProgramInfo) (shape : List BindingKind) : ProgramInfo :=
  { info with setSize := BindingSet.size shape }

/-- Invocations of one workgroup, every product checked as a count. -/
def invocations (info : ProgramInfo) : Except Fault Nat :=
  Checked.product word info.workgroupSize.toList

def text (info : ProgramInfo) : String :=
  Text.record "ProgramInfo" [("min_memory_size", toString info.minMemorySize),
    ("has_cbarriers", Text.truth info.hasBarriers), ("desc_set_size", toString info.setSize),
    ("workgroup_size", info.workgroupSize.text)]

end ProgramInfo

end GridDispatch
