/-
What the coroutines of a session share: the buffers and images of the host, and a
record of notes that programs leave while they run.

A note says which coroutine left it, by workgroup and first subgroup, as signed
numbers, since native programs see nothing else. When threads run at the same time
the order of notes of different workgroups means nothing, so such a record is shown
sorted by workgroup, the notes of one workgroup in the order they were left.
-/
import GridDispatch.Storage.BindingSet
import GridDispatch.Storage.Buffer
import GridDispatch.Storage.Image
import GridDispatch.Workgroup.Invocation

set_option autoImplicit false

namespace GridDispatch

/-- What a note tells. -/
inductive NoteBody where
  /-- A coroutine began with so many subgroups; some programs add the memory's length. -/
  | began (count : Int) (memory : Option Nat)
  | resumed
  | destroyed
  | value (number : Nat)
  | positions (all : List (Coord × Coord))
  | ranges (all : List (Nat × Nat × Nat))
deriving DecidableEq, Repr

/-- A note that a coroutine left. -/
structure Note where
  x : Int
  y : Int
  z : Int
  firstSubgroup : Int
  body : NoteBody
deriving DecidableEq, Repr

namespace Note

/-- A note of a coroutine that knows its own coordinates. -/
def of (workgroup : Coord) (subgroups : Subgroups) (body : NoteBody) : Note :=
  ⟨workgroup.x, workgroup.y, workgroup.z, subgroups.first, body⟩

/-- Whether a note comes first or at the same place when workgroups are sorted, the
last coordinate deciding first. -/
def before (a b : Note) : Bool :=
  if a.z ≠ b.z then a.z < b.z
  else if a.y ≠ b.y then a.y < b.y
  else a.x ≤ b.x

end Note

/-- The host's memory and the record of notes. -/
structure World where
  buffers : Array Buffer
  images : Array Image
  notes : Array Note

/-- A piece of the host's memory that a binding refers to. -/
inductive Resource where
  | buffer (index : Nat)
  | image (index : Nat)
deriving DecidableEq, Repr

namespace World

def note (world : World) (note : Note) : World :=
  { world with notes := world.notes.push note }

/-- The bytes of a resource, as programs see them. -/
def bytes (world : World) : Resource → Bytes
  | .buffer index => ((world.buffers[index]?).map Buffer.view).getD #[]
  | .image index => ((world.images[index]?).map Image.view).getD #[]

def store (world : World) (resource : Resource) (start : Nat) (bytes : Bytes) : World :=
  match resource with
  | .buffer index =>
    { world with buffers := world.buffers.modify index fun buffer =>
        { buffer with storage := buffer.storage.refill (buffer.data.overwrite start bytes) } }
  | .image index =>
    { world with images := world.images.modify index fun image =>
        { image with storage := image.storage.refill (image.data.overwrite start bytes) } }

/-- The descriptor of a resource; a missing one has the null descriptor. -/
def descriptor (world : World) (kind : BindingKind) : Option Resource → Descriptor
  | some (.buffer index) => .buffer (((world.buffers[index]?).map Buffer.descriptor).getD .null)
  | some (.image index) => .image (((world.images[index]?).map Image.descriptor).getD .null)
  | none =>
    match kind with
    | .buffer => .buffer .null
    | .image => .image .null

end World

end GridDispatch
