/-
Descriptors: how a program sees a buffer or an image.

A descriptor is a small record of an address and signed 32-bit sizes, stored in a
descriptor set as little-endian bytes: sixteen for a buffer, eighty for an image.
Address zero is the null address. Which bytes a descriptor gives access to is
decided by the descriptor alone (`visible`): none if the address is null or the
size is negative, otherwise as many as its size says. Where they start
(`visibleStart`) matters to whoever takes them as items larger than a byte.
-/
import GridDispatch.Bytes.Item
import GridDispatch.Text.Record

set_option autoImplicit false

namespace GridDispatch

/-- A place in memory; zero is the null address. -/
abbrev Address := UInt64

/-- A storage buffer as programs see it. -/
structure BufferDescriptor where
  address : Address
  sizeInBytes : Int
  robustnessSize : Int
deriving DecidableEq, Repr

/-- An image as programs see it. -/
structure ImageDescriptor where
  address : Address
  width : Int
  height : Int
  depth : Int
  rowPitch : Int
  slicePitch : Int
  samplePitch : Int
  sampleCount : Int
  sizeInBytes : Int
  stencilAddress : Address
  stencilRowPitch : Int
  stencilSlicePitch : Int
  stencilSamplePitch : Int
  owner : Address
deriving DecidableEq, Repr

/-- The bytes that an address and a size give access to. -/
def visible (address : Address) (size : Int) (memory : Bytes) : Bytes :=
  if address = 0 ∨ size < 0 then #[] else memory.extract 0 size.toNat

/-- Where an empty run of bytes lies that is part of no block. Bytes can lie there, and
nothing larger. -/
def nowhere : Address := 1

/-- Where the bytes start that an address and a size give access to. -/
def visibleStart (address : Address) (size : Int) : Address :=
  if address = 0 ∨ size < 0 then nowhere else address

/-- A size that was taken of some memory shows this memory. -/
theorem visible_size {address : Address} (h : address ≠ 0) (memory : Bytes) :
    visible address memory.size memory = memory := by
  have hshown : ¬ (address = 0 ∨ (memory.size : Int) < 0) := fun hnot =>
    hnot.elim h (Int.not_lt.mpr (Int.natCast_nonneg _))
  rw [visible, if_neg hshown, Int.toNat_natCast, Array.extract_size]

theorem visibleStart_natCast {address : Address} (h : address ≠ 0) (size : Nat) :
    visibleStart address size = address :=
  if_neg fun hnot => hnot.elim h (Int.not_lt.mpr (Int.natCast_nonneg size))

/-- Whether an item can lie at an address: it must be a multiple of its size. -/
def ItemType.liesAt (type : ItemType) (address : Address) : Bool :=
  address.toNat % type.size == 0

/-- The descriptor field for a size, which must not exceed a signed 32-bit number. -/
def descriptorSize (size : Nat) : Except Fault Int :=
  if size ≤ signedMax then .ok (size : Int) else .error (.descriptorLimit size)

def fieldBytes (value : Int) : List UInt8 :=
  ItemType.i32.encode value

def addressBytes (address : Address) : List UInt8 :=
  littleEndian 8 address.toNat

def fieldAt (bytes : List UInt8) (offset : Nat) : Int :=
  ItemType.i32.decode ((bytes.drop offset).take 4)

def addressAt (bytes : List UInt8) (offset : Nat) : Address :=
  UInt64.ofNat (ofLittleEndian ((bytes.drop offset).take 8))

namespace BufferDescriptor

def null : BufferDescriptor := ⟨0, 0, 0⟩

def size : Nat := 16

/-- The bytes of the descriptor in a descriptor set. -/
def encode (d : BufferDescriptor) : List UInt8 :=
  addressBytes d.address ++ fieldBytes d.sizeInBytes ++ fieldBytes d.robustnessSize

def decode (bytes : List UInt8) : BufferDescriptor :=
  ⟨addressAt bytes 0, fieldAt bytes 8, fieldAt bytes 12⟩

def data (d : BufferDescriptor) (memory : Bytes) : Bytes :=
  visible d.address d.sizeInBytes memory

def start (d : BufferDescriptor) : Address :=
  visibleStart d.address d.sizeInBytes

def text (d : BufferDescriptor) : String :=
  Text.record "BufferDescriptor" [("ptr", Text.address), ("size_in_bytes", toString d.sizeInBytes),
    ("robustness_size", toString d.robustnessSize)]

@[simp] theorem length_encode (d : BufferDescriptor) : d.encode.length = size := by
  simp [encode, addressBytes, fieldBytes, ItemType.size, size]

end BufferDescriptor

namespace ImageDescriptor

def null : ImageDescriptor := ⟨0, 0, 0, 0, 0, 0, 0, 0, 0, 0, 0, 0, 0, 0⟩

def size : Nat := 80

/-- The bytes of the descriptor in a descriptor set; the two unused fields are zero. -/
def encode (d : ImageDescriptor) : List UInt8 :=
  addressBytes d.address ++ fieldBytes d.width ++ fieldBytes d.height ++ fieldBytes d.depth
    ++ fieldBytes d.rowPitch ++ fieldBytes d.slicePitch ++ fieldBytes d.samplePitch
    ++ fieldBytes d.sampleCount ++ fieldBytes d.sizeInBytes
    ++ addressBytes d.stencilAddress ++ fieldBytes d.stencilRowPitch
    ++ fieldBytes d.stencilSlicePitch ++ fieldBytes d.stencilSamplePitch ++ fieldBytes 0
    ++ addressBytes d.owner ++ addressBytes 0

def decode (bytes : List UInt8) : ImageDescriptor where
  address := addressAt bytes 0
  width := fieldAt bytes 8
  height := fieldAt bytes 12
  depth := fieldAt bytes 16
  rowPitch := fieldAt bytes 20
  slicePitch := fieldAt bytes 24
  samplePitch := fieldAt bytes 28
  sampleCount := fieldAt bytes 32
  sizeInBytes := fieldAt bytes 36
  stencilAddress := addressAt bytes 40
  stencilRowPitch := fieldAt bytes 48
  stencilSlicePitch := fieldAt bytes 52
  stencilSamplePitch := fieldAt bytes 56
  owner := addressAt bytes 64

def data (d : ImageDescriptor) (memory : Bytes) : Bytes :=
  visible d.address d.sizeInBytes memory

def text (d : ImageDescriptor) : String :=
  Text.record "ImageDescriptor" [("ptr", Text.address), ("width", toString d.width),
    ("height", toString d.height), ("depth", toString d.depth),
    ("row_pitch_bytes", toString d.rowPitch), ("slice_pitch_bytes", toString d.slicePitch),
    ("sample_pitch_bytes", toString d.samplePitch), ("sample_count", toString d.sampleCount),
    ("size_in_bytes", toString d.sizeInBytes), ("stencil_ptr", Text.address),
    ("stencil_row_pitch_bytes", toString d.stencilRowPitch),
    ("stencil_slice_pitch_bytes", toString d.stencilSlicePitch),
    ("stencil_sample_pitch_bytes", toString d.stencilSamplePitch), ("_pad0", "0"),
    ("memory_owner", Text.address), ("_pad1", "0")]

@[simp] theorem length_encode (d : ImageDescriptor) : d.encode.length = size := by
  simp [encode, addressBytes, fieldBytes, ItemType.size, size]

end ImageDescriptor

end GridDispatch
