/-
Storage buffers.

A buffer owns a block and keeps the descriptor that programs get of it. The two
are views of the same bytes: the descriptor's size is the length of the block
until the buffer is released, when the descriptor becomes null and the block empty.
Items are written to the start; reading takes the whole buffer, so its length must
be a whole number of items. A block starts at a multiple of its alignment also when
it is empty, so items of every type can lie there; what a null descriptor shows
lies `nowhere`.

The address comes from whoever provides the memory; it is any multiple of
`bufferAlign` other than null.
-/
import GridDispatch.Storage.Block
import GridDispatch.Storage.Descriptor

set_option autoImplicit false

namespace GridDispatch

/-- A block of memory and the descriptor of it. -/
structure Buffer where
  descriptor : BufferDescriptor
  storage : Block
deriving DecidableEq, Repr

namespace Buffer

/-- A buffer of zero bytes. The size must fit a descriptor. -/
def allocate (address : Address) (size : Nat) : Except Fault Buffer :=
  match descriptorSize size with
  | .error fault => .error fault
  | .ok field =>
    match Block.allocate size bufferAlign with
    | .error fault => .error fault
    | .ok storage => .ok ⟨⟨address, field, field⟩, storage⟩

def data (buffer : Buffer) : Bytes :=
  buffer.storage.bytes

def view (buffer : Buffer) : Bytes :=
  buffer.descriptor.data buffer.data

/-- Copies bytes to the start of the buffer; what would fall beyond the end is dropped. -/
def overwrite (buffer : Buffer) (bytes : Bytes) : Buffer :=
  { buffer with storage := buffer.storage.refill (buffer.data.overwrite 0 bytes) }

/-- Copies items to the start of the buffer, if they fit. -/
def writeItems (buffer : Buffer) (type : ItemType) (values : List Int) : Except Fault Buffer :=
  let bytes := type.encodeAll values
  if bytes.size ≤ buffer.data.size then .ok (buffer.overwrite bytes)
  else
    .error .outOfRange

def readItems (buffer : Buffer) (type : ItemType) : Except Fault (List Int) :=
  type.decodeAll buffer.data

/-- The whole buffer as items, read through the descriptor, which must see them where
they can lie. -/
def viewItems (buffer : Buffer) (type : ItemType) : Except Fault (List Int) :=
  if type.liesAt buffer.descriptor.start then type.decodeAll buffer.view
  else .error .misaligned

/-- Overwrites items from item `start` on through the descriptor, which must see a
whole number of items, where they can lie, and all of those that are written. -/
def writeView (buffer : Buffer) (type : ItemType) (start : Nat) (values : List Int) :
    Except Fault Buffer :=
  if type.liesAt buffer.descriptor.start then
    if buffer.view.size % type.size = 0 then
      if start + values.length ≤ buffer.view.size / type.size then
        .ok { buffer with
          storage := buffer.storage.refill
            (buffer.data.overwrite (start * type.size) (type.encodeAll values)) }
      else
        .error .outOfRange
    else
      .error .unevenItems
  else
    .error .misaligned

def fill (buffer : Buffer) (byte : UInt8) : Buffer :=
  { buffer with storage := buffer.storage.fill byte }

/-- Gives the memory up and resets the descriptor. -/
def release (buffer : Buffer) : Buffer :=
  ⟨.null, buffer.storage.release⟩

/-- What a copy of the descriptor sees after its address is reset (`forget`) or its
size is cut to at most `limit`. -/
def narrowedView (buffer : Buffer) (forget : Bool) (limit : Int) : Bytes :=
  let descriptor := { buffer.descriptor with
    address := if forget then 0 else buffer.descriptor.address
    sizeInBytes := min limit buffer.descriptor.sizeInBytes }
  descriptor.data buffer.data

def text (buffer : Buffer) : String :=
  Text.record "Buffer" [("desc", buffer.descriptor.text), ("storage", buffer.storage.text)]

end Buffer

end GridDispatch
