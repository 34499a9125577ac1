/-
RGBA images.

An image has four bytes a pixel, row after row without gaps; only the end of the
whole image is padded, to a multiple of sixteen bytes. Five sizes must fit the
descriptor, checked in this order: the pixels, the padded size, the width, the
height and the length of a row.
-/
import GridDispatch.Storage.Block
import GridDispatch.Storage.Descriptor

set_option autoImplicit false

namespace GridDispatch

/-- A block of memory and the descriptor of it as an image. -/
structure Image where
  descriptor : ImageDescriptor
  storage : Block
deriving DecidableEq, Repr

namespace Image

def pixelSize : Nat := 4

/-- Bytes of the pixels, without padding, if they fit a descriptor. A product that leaves the
word does not fit. -/
def pixelBytes (width height : Nat) : Except Fault Nat :=
  match Checked.mul word width pixelSize >>= fun rowBytes => Checked.mul word rowBytes height with
  | .error _ => .error (.imageLimit width height)
  | .ok bytes => if bytes ≤ signedMax then .ok bytes else .error (.imageLimit width height)

def allocate (address : Address) (width height : Nat) : Except Fault Image := do
  let pixels ← pixelBytes width height
  let padded ← alignUp pixels memoryAlign
  let sizeField ← descriptorSize padded
  let storage ← Block.allocate padded memoryAlign
  let widthField ← descriptorSize width
  let heightField ← descriptorSize height
  let rowBytes ← Checked.mul word width pixelSize
  let rowField ← descriptorSize rowBytes
  return ⟨{ ImageDescriptor.null with
    address := address
    width := widthField
    height := heightField
    depth := 1
    rowPitch := rowField
    slicePitch := sizeField
    samplePitch := sizeField
    sampleCount := 1
    sizeInBytes := sizeField }, storage⟩

/-- The contents, padding included. -/
def data (image : Image) : Bytes :=
  image.storage.bytes

def view (image : Image) : Bytes :=
  image.descriptor.data image.data

/-- The bytes of one row. The rows are a fixed pitch apart, and whatever has the
length of a row at that place is one, padding included. -/
def row (image : Image) (y : Nat) : Except Fault Bytes := do
  let pitch := image.descriptor.rowPitch.toNat
  let start ← Checked.mul word y pitch
  match image.data.part? start pitch with
  | none => .error .outOfRange
  | some bytes => .ok bytes

/-- Copies bytes through the descriptor, if they fit. -/
def write (image : Image) (start : Nat) (bytes : Bytes) : Except Fault Image :=
  if start + bytes.size ≤ image.view.size then
    .ok { image with storage := image.storage.refill (image.data.overwrite start bytes) }
  else
    .error .outOfRange

def fill (image : Image) (byte : UInt8) : Image :=
  { image with storage := image.storage.fill byte }

/-- Sets byte `i` to `i` times the step, modulo 256. -/
def ramp (image : Image) (step : Nat) : Image :=
  { image with
    storage := image.storage.refill
      (image.data.mapIdx fun index _ => UInt8.ofNat (index * step % 256)) }

/-- Gives the memory up and resets the descriptor. -/
def release (image : Image) : Image :=
  ⟨.null, image.storage.release⟩

/-- What a copy of the descriptor sees after its address is reset (`forget`) or its
size is cut to at most `limit`. -/
def narrowedView (image : Image) (forget : Bool) (limit : Int) : Bytes :=
  let descriptor := { image.descriptor with
    address := if forget then 0 else image.descriptor.address
    sizeInBytes := min limit image.descriptor.sizeInBytes }
  descriptor.data image.data

def text (image : Image) : String :=
  Text.record "Image" [("desc", image.descriptor.text), ("storage", image.storage.text)]

end Image

end GridDispatch
