/-
Refusals: requests that a context or a thread does not carry out.

A refusal is decided before anything is changed. `Failure` joins refusals with the
faults that can happen while a request is carried out.
-/
import GridDispatch.Fault
import GridDispatch.Text.Record
import GridDispatch.Workgroup.Coord

set_option autoImplicit false

namespace GridDispatch

/-- Why a request is refused. -/
inductive Refusal where
  /-- A dispatch needs a thread. -/
  | threads
  /-- The descriptor set is shorter than the program declares. -/
  | descriptorSet (expected actual : Nat)
  /-- A workgroup must have invocations, and no more than can be numbered. -/
  | workgroupSize (size : Coord)
  /-- The workgroups cannot be numbered. -/
  | gridOverflow (grid : Coord)
  /-- There is nothing to dispatch. -/
  | unprepared
  /-- The dispatch is not split over so many threads. -/
  | threadIndex (index threads : Nat)
  /-- The number of thread contexts is another one. -/
  | threadContexts (threads contexts : Nat)
  /-- Too many bytes of push constants. -/
  | pushConstants (length limit : Nat)
  /-- Too many dynamic offsets. -/
  | dynamicOffsets (length limit : Nat)
deriving DecidableEq, Repr

namespace Refusal

/-- The name of a refusal. -/
def name : Refusal → String
  | .threads => "Threads"
  | .descriptorSet .. => "DescriptorSet"
  | .workgroupSize _ => "WorkgroupSize"
  | .gridOverflow _ => "GridOverflow"
  | .unprepared => "Unprepared"
  | .threadIndex .. => "ThreadIndex"
  | .threadContexts .. => "ThreadContexts"
  | .pushConstants .. => "PushConstants"
  | .dynamicOffsets .. => "DynamicOffsets"

/-- What went wrong, without the words that all refusals begin with. -/
def reason : Refusal → String
  | .threads => "at least one thread is required"
  | .descriptorSet expected actual =>
    "program expects a descriptor set of " ++ toString expected ++ " bytes, got "
      ++ toString actual
  | .workgroupSize size => "invalid workgroup size " ++ size.text
  | .gridOverflow grid => "workgroup grid " ++ grid.text ++ " is too large"
  | .unprepared => "context has not been prepared"
  | .threadIndex index count =>
    "thread index " ++ toString index ++ " out of range for " ++ toString count ++ " threads"
  | .threadContexts count contexts =>
    "dispatch prepared for " ++ toString count ++ " threads, got " ++ toString contexts
      ++ " thread contexts"
  | .pushConstants length limit =>
    toString length ++ " bytes of push constants exceed the limit of " ++ toString limit
  | .dynamicOffsets length limit =>
    toString length ++ " dynamic offsets exceed the limit of " ++ toString limit

/-- The text of a refusal. -/
def message (refusal : Refusal) : String :=
  "dispatch error: " ++ refusal.reason

/-- The diagnostic text: the name and the values. -/
def text (refusal : Refusal) : String :=
  match refusal with
  | .threads | .unprepared => refusal.name
  | .workgroupSize size | .gridOverflow size => Text.tuple refusal.name [size.text]
  | .descriptorSet a b | .threadIndex a b | .threadContexts a b | .pushConstants a b
  | .dynamicOffsets a b => Text.tuple refusal.name [toString a, toString b]

end Refusal

/-- Why a request was not carried out to its end. -/
inductive Failure where
  | refused (refusal : Refusal)
  | faulted (fault : Fault)
deriving DecidableEq, Repr

end GridDispatch
