/-
Descriptor sets.

A descriptor set is a sequence of descriptors, laid out without gaps in the order
of their declaration. The shape of a set (`List BindingKind`) fixes its length in
bytes; `encode` and `decode` are the two directions between the descriptors of a
set and its bytes, and `offset` is where a binding starts.
-/
import GridDispatch.Storage.Descriptor

set_option autoImplicit false

namespace GridDispatch

/-- What a binding of a descriptor set is. -/
inductive BindingKind where
  | buffer
  | image
deriving DecidableEq, Repr

def BindingKind.size : BindingKind → Nat
  | .buffer => BufferDescriptor.size
  | .image => ImageDescriptor.size

/-- A descriptor of either kind. -/
inductive Descriptor where
  | buffer (descriptor : BufferDescriptor)
  | image (descriptor : ImageDescriptor)
deriving DecidableEq, Repr

namespace Descriptor

def kind : Descriptor → BindingKind
  | .buffer _ => .buffer
  | .image _ => .image

def address : Descriptor → Address
  | .buffer d => d.address
  | .image d => d.address

def encode : Descriptor → List UInt8
  | .buffer d => d.encode
  | .image d => d.encode

/-- The descriptor of this kind that bytes stand for. -/
def decode : BindingKind → List UInt8 → Descriptor
  | .buffer, bytes => .buffer (.decode bytes)
  | .image, bytes => .image (.decode bytes)

/-- The descriptor with its address reset, as texts show it. -/
def withoutAddress : Descriptor → Descriptor
  | .buffer d => .buffer { d with address := 0 }
  | .image d => .image { d with address := 0 }

@[simp] theorem length_encode (d : Descriptor) : d.encode.length = d.kind.size := by
  cases d <;> simp [encode, kind, BindingKind.size]

end Descriptor

namespace BindingSet

def size (shape : List BindingKind) : Nat :=
  shape.foldr (fun kind bytes => kind.size + bytes) 0

/-- Where binding `index` starts. -/
def offset (shape : List BindingKind) (index : Nat) : Nat :=
  size (shape.take index)

def encode (set : List Descriptor) : List UInt8 :=
  set.flatMap Descriptor.encode

/-- The descriptors of a set of this shape, read from the start of the bytes. -/
def decode : List BindingKind → List UInt8 → List Descriptor
  | [], _ => []
  | kind :: shape, bytes =>
    .decode kind (bytes.take kind.size) :: decode shape (bytes.drop kind.size)

def assign (set : List Descriptor) (index : Nat) (d : Descriptor) : List Descriptor :=
  set.set index d

/-! ## The shapes in use -/

def fourBuffers : List BindingKind := [.buffer, .buffer, .buffer, .buffer]

/-- A buffer, an image and a buffer. -/
def mixed : List BindingKind := [.buffer, .image, .buffer]

def ofName? : String → Option (List BindingKind)
  | "bufs4" => some fourBuffers
  | "mixed" => some mixed
  | "image" => some [.image]
  | "buffer" => some [.buffer]
  | _ => none

end BindingSet

end GridDispatch
