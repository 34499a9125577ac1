/-
Descriptor sets on their way to a program.

A set is written as the bytes of its descriptors, one after another, and read back by a program
from the storage of a context, where other bytes follow. The argument goes from small to large:
a signed number is found again in its bytes (`ItemType.decode_encode`), a field behind the fields
before it (`fieldAt_*`, `addressAt_*`), a descriptor in front of any bytes, and a set likewise, by
induction on its descriptors (`BindingSet.decode_encode_append`). What a context makes of the
bytes is `Ledger.contentsOf`: whatever was in the storage before, the set lies in front.

That the bytes are those of the record is a matter of the layout. The sizes of descriptors are
multiples of their alignment, so nothing is put between the fields of a set or behind them, and
the fields lie where `BindingSet.offset` says (`BindingSet.layout_eq`).
-/
import GridDispatch.Proofs.Acceptance
import GridDispatch.Proofs.Items
import GridDispatch.Storage.Layout

set_option autoImplicit false

namespace GridDispatch

/-! ## Fields -/

/-- What lies behind a piece of known length. -/
theorem drop_append_add {front rest : List UInt8} {length : Nat} (h : front.length = length)
    (offset : Nat) : (front ++ rest).drop (offset + length) = rest.drop offset := by
  rw [← h, Nat.add_comm, ← List.drop_drop, List.drop_left]

@[simp] theorem length_fieldBytes (value : Int) : (fieldBytes value).length = 4 :=
  ItemType.length_encode .i32 value

@[simp] theorem length_addressBytes (address : Address) : (addressBytes address).length = 8 :=
  length_littleEndian 8 address.toNat

section

variable (value : Int) (address : Address) (rest : List UInt8) (offset : Nat)

@[simp] theorem fieldAt_fieldBytes_add :
    fieldAt (fieldBytes value ++ rest) (offset + 4) = fieldAt rest offset := by
  rw [fieldAt, drop_append_add (length_fieldBytes value), fieldAt]

@[simp] theorem fieldAt_addressBytes_add :
    fieldAt (addressBytes address ++ rest) (offset + 8) = fieldAt rest offset := by
  rw [fieldAt, drop_append_add (length_addressBytes address), fieldAt]

@[simp] theorem addressAt_fieldBytes_add :
    addressAt (fieldBytes value ++ rest) (offset + 4) = addressAt rest offset := by
  rw [addressAt, drop_append_add (length_fieldBytes value), addressAt]

@[simp] theorem addressAt_addressBytes_add :
    addressAt (addressBytes address ++ rest) (offset + 8) = addressAt rest offset := by
  rw [addressAt, drop_append_add (length_addressBytes address), addressAt]

@[simp] theorem addressAt_addressBytes_zero :
    addressAt (addressBytes address ++ rest) 0 = address := by
  rw [addressAt, List.drop_zero, List.take_left' (length_addressBytes address), addressBytes,
    ofLittleEndian_littleEndian, Nat.mod_eq_of_lt address.toNat_lt, UInt64.ofNat_toNat]

variable {value}

theorem fieldAt_fieldBytes_zero (h : ItemType.i32.holds value = true) :
    fieldAt (fieldBytes value ++ rest) 0 = value := by
  rw [fieldAt, List.drop_zero, List.take_left' (length_fieldBytes value), fieldBytes,
    ItemType.decode_encode h]

end

/-! ## Descriptors -/

namespace BufferDescriptor

/-- The fields that hold sizes. -/
def sizes (d : BufferDescriptor) : List Int :=
  [d.sizeInBytes, d.robustnessSize]

theorem decode_encode_append {d : BufferDescriptor}
    (h : ∀ value ∈ d.sizes, ItemType.i32.holds value = true) (rest : List UInt8) :
    decode (d.encode ++ rest) = d := by
  simp only [sizes, List.mem_cons, List.not_mem_nil, or_false, forall_eq_or_imp, forall_eq] at h
  simp [decode, encode, fieldAt_fieldBytes_zero, h]

end BufferDescriptor

namespace ImageDescriptor

/-- The fields that hold sizes, pitches and counts. -/
def sizes (d : ImageDescriptor) : List Int :=
  [d.width, d.height, d.depth, d.rowPitch, d.slicePitch, d.samplePitch, d.sampleCount,
    d.sizeInBytes, d.stencilRowPitch, d.stencilSlicePitch, d.stencilSamplePitch]

theorem decode_encode_append {d : ImageDescriptor}
    (h : ∀ value ∈ d.sizes, ItemType.i32.holds value = true) (rest : List UInt8) :
    decode (d.encode ++ rest) = d := by
  simp only [sizes, List.mem_cons, List.not_mem_nil, or_false, forall_eq_or_imp, forall_eq] at h
  simp [decode, encode, fieldAt_fieldBytes_zero, h]

end ImageDescriptor

namespace Descriptor

/-- The fields that are signed numbers. -/
def sizes : Descriptor → List Int
  | .buffer d => d.sizes
  | .image d => d.sizes

/-- Every number fits its field. -/
def Fits (d : Descriptor) : Prop :=
  ∀ value ∈ d.sizes, ItemType.i32.holds value = true

instance (d : Descriptor) : Decidable d.Fits :=
  inferInstanceAs (Decidable (∀ value ∈ d.sizes, _))

/-- A descriptor is found again in its bytes. -/
theorem decode_encode {d : Descriptor} (h : d.Fits) : decode d.kind d.encode = d := by
  cases d with
  | buffer d =>
      have hback := BufferDescriptor.decode_encode_append h []
      rw [List.append_nil] at hback
      exact congrArg buffer hback
  | image d =>
      have hback := ImageDescriptor.decode_encode_append h []
      rw [List.append_nil] at hback
      exact congrArg image hback

end Descriptor

/-! ## Sets -/

namespace BindingSet

@[simp] theorem size_nil : size [] = 0 :=
  rfl

@[simp] theorem size_cons (kind : BindingKind) (shape : List BindingKind) :
    size (kind :: shape) = kind.size + size shape :=
  rfl

theorem size_eq_sum (shape : List BindingKind) : size shape = (shape.map BindingKind.size).sum := by
  induction shape with
  | nil => rfl
  | cons kind shape ih => rw [size_cons, ih, List.map_cons, List.sum_cons]

theorem size_eq_count (shape : List BindingKind) :
    size shape = 16 * shape.count .buffer + 80 * shape.count .image := by
  induction shape with
  | nil => rfl
  | cons kind shape ih =>
      cases kind with
      | buffer =>
          simp [ih, BindingKind.size, BufferDescriptor.size]
          omega
      | image =>
          simp [ih, BindingKind.size, ImageDescriptor.size]
          omega

@[simp] theorem encode_cons (d : Descriptor) (set : List Descriptor) :
    encode (d :: set) = d.encode ++ encode set :=
  List.flatMap_cons

theorem encode_append (front back : List Descriptor) :
    encode (front ++ back) = encode front ++ encode back :=
  List.flatMap_append

@[simp] theorem length_encode (set : List Descriptor) :
    (encode set).length = size (set.map Descriptor.kind) := by
  induction set with
  | nil => rfl
  | cons d set ih => simp [ih]

/-- **The round trip.** A set is found again in its bytes, whatever follows them. -/
theorem decode_encode_append {set : List Descriptor} (h : ∀ d ∈ set, d.Fits)
    (rest : List UInt8) : decode (set.map Descriptor.kind) (encode set ++ rest) = set := by
  induction set with
  | nil => rfl
  | cons d set ih =>
      have hd : d.Fits := h d List.mem_cons_self
      have hset : ∀ e ∈ set, e.Fits := fun e he => h e (List.mem_cons_of_mem d he)
      rw [List.map_cons, decode, encode_cons, List.append_assoc,
        List.take_left' d.length_encode, List.drop_left' d.length_encode, ih hset,
        Descriptor.decode_encode hd]

section

variable (set : List Descriptor) (index : Nat)

/-- The bindings before one fill the bytes before it. -/
theorem length_encode_take :
    (encode (set.take index)).length = offset (set.map Descriptor.kind) index := by
  rw [length_encode, List.map_take, offset]

theorem take_encode : (encode set).take (offset (set.map Descriptor.kind) index)
    = encode (set.take index) := by
  rw [← length_encode_take]
  nth_rewrite 2 [← List.take_append_drop index set]
  rw [encode_append, List.take_left]

theorem drop_encode : (encode set).drop (offset (set.map Descriptor.kind) index)
    = encode (set.drop index) := by
  rw [← length_encode_take]
  nth_rewrite 2 [← List.take_append_drop index set]
  rw [encode_append, List.drop_left]

variable {set index}

/-- The bytes of one binding. -/
theorem drop_encode_of_getElem? {d : Descriptor} (h : set[index]? = some d) :
    (encode set).drop (offset (set.map Descriptor.kind) index)
      = d.encode ++ encode (set.drop (index + 1)) := by
  obtain ⟨hindex, rfl⟩ := List.getElem?_eq_some_iff.mp h
  rw [drop_encode, List.drop_eq_getElem_cons hindex, encode_cons]

/-- Assigning a binding changes its bytes and no others. -/
theorem encode_assign {old d : Descriptor} (h : set[index]? = some old)
    (hkind : d.kind = old.kind) :
    encode (assign set index d) = (encode set).take (offset (set.map Descriptor.kind) index)
      ++ d.encode ++ (encode set).drop (offset (set.map Descriptor.kind) index + d.kind.size) := by
  obtain ⟨hindex, -⟩ := List.getElem?_eq_some_iff.mp h
  have hbehind : (encode set).drop (offset (set.map Descriptor.kind) index + d.kind.size)
      = encode (set.drop (index + 1)) := by
    rw [← List.drop_drop, drop_encode_of_getElem? h, hkind, List.drop_left' old.length_encode]
  rw [hbehind, take_encode, assign, List.set_eq_take_append_cons_drop, if_pos hindex,
    encode_append, encode_cons, List.append_assoc]

end

end BindingSet

/-! ## The record of a set -/

/-- How a descriptor of this kind is laid out. -/
def BindingKind.layout : BindingKind → Layout
  | .buffer => .bufferDescriptor
  | .image => .imageDescriptor

theorem BindingKind.layout_size (kind : BindingKind) : kind.layout.size = kind.size := by
  cases kind <;> decide

theorem BindingKind.layout_align (kind : BindingKind) : kind.layout.align = memoryAlign := by
  cases kind <;> decide

theorem BindingKind.dvd_size (kind : BindingKind) : memoryAlign ∣ kind.size := by
  cases kind <;> decide

/-- The field that holds a binding. -/
def Field.binding (field : String × BindingKind) : Field :=
  ⟨field.1, field.2.layout.size, field.2.layout.align⟩

@[simp] theorem Field.name_binding (field : String × BindingKind) :
    (binding field).name = field.1 :=
  rfl

@[simp] theorem Field.size_binding (field : String × BindingKind) :
    (binding field).size = field.2.size :=
  field.2.layout_size

@[simp] theorem Field.align_binding (field : String × BindingKind) :
    (binding field).align = memoryAlign :=
  field.2.layout_align

namespace BindingSet

/-- The record with a field for each binding. -/
def layout (fields : List (String × BindingKind)) : Layout :=
  .ofFields 1 (fields.map Field.binding)

theorem roundUp_of_dvd {offset : Nat} (h : memoryAlign ∣ offset) :
    roundUp offset memoryAlign = offset := by
  obtain ⟨blocks, rfl⟩ := h
  change (16 * blocks + 16 - 1) / 16 * 16 = 16 * blocks
  omega

theorem dvd_size (shape : List BindingKind) : memoryAlign ∣ size shape := by
  induction shape with
  | nil => exact Nat.dvd_zero memoryAlign
  | cons kind shape ih => exact Nat.dvd_add kind.dvd_size ih

/-- From an aligned start on, there are no gaps. -/
theorem place_eq (fields : List (String × BindingKind)) : ∀ {start : Nat}, memoryAlign ∣ start →
    Layout.place start (fields.map Field.binding)
      = (fields.mapIdx fun index field =>
          (field.1, start + offset (fields.map Prod.snd) index),
        start + size (fields.map Prod.snd)) := by
  induction fields with
  | nil => exact fun _ => rfl
  | cons field fields ih =>
      intro start hstart
      have hnext : memoryAlign ∣ start + field.2.size := Nat.dvd_add hstart field.2.dvd_size
      rw [List.map_cons, Layout.place]
      simp only [Field.name_binding, Field.size_binding, Field.align_binding,
        roundUp_of_dvd hstart, ih hnext]
      simp [offset, Nat.add_assoc]

/-- A record with fields is aligned like a descriptor. -/
theorem foldl_align (fields : List (String × BindingKind)) :
    (fields.map Field.binding).foldl (fun align field => max align field.align) memoryAlign
      = memoryAlign := by
  induction fields with
  | nil => rfl
  | cons field fields ih =>
      rw [List.map_cons, List.foldl_cons, Field.align_binding, Nat.max_self, ih]

/-- **The layout of a set.** The fields lie one behind the other, and nothing lies behind the
last one. -/
theorem layout_eq {fields : List (String × BindingKind)} (hfields : fields ≠ []) :
    layout fields = ⟨fields.mapIdx fun index field => (field.1, offset (fields.map Prod.snd) index),
      size (fields.map Prod.snd), memoryAlign⟩ := by
  have halign : (fields.map Field.binding).foldl (fun align field => max align field.align) 1
      = memoryAlign := by
    cases fields with
    | nil => exact absurd rfl hfields
    | cons field fields =>
        rw [List.map_cons, List.foldl_cons, Field.align_binding]
        exact foldl_align fields
  have hplaced := place_eq fields (Nat.dvd_zero memoryAlign)
  simp only [Nat.zero_add] at hplaced
  rw [layout, Layout.ofFields, halign, hplaced, roundUp_of_dvd (dvd_size _)]

end BindingSet

/-! ## In a context -/

variable {ρ σ : Type}

namespace Ledger

/-- A program with a set finds it bound, in front of whatever else is in the storage. -/
theorem boundSet_of_prepare {requests : List (Context.Request ρ σ)} {p : Preparation ρ σ}
    {earlier : List (Preparation ρ σ)} {front rest : List UInt8}
    (hdone : (performAll requests).done = p :: earlier) (hset : p.set = (front ++ rest).toArray)
    (hsize : p.setSize = front.length) (hpos : 0 < front.length) :
    ∃ behind : List UInt8,
      (performAll requests).context.boundSet 0 = some (front ++ behind).toArray := by
  have hfaithful := faithful_performAll requests
  have hstorage := hfaithful.size_eq
  have hcapacity := p.setSize_le_capacity
  rw [hdone, capacityOf_cons] at hstorage
  have hbound := hfaithful.boundSet_eq 0
  rw [if_pos ⟨rfl, by omega⟩] at hbound
  have hfront : (performAll requests).context.storage.bytes.extract 0 front.length
      = front.toArray := by
    have hextract : (contentsOf (p :: earlier)).extract 0 p.setSize = p.declared :=
      extract_contentsOf (hfaithful.governed p earlier hdone).setSize_le
    rw [← hdone, Preparation.declared, hsize, hset] at hextract
    rw [hfaithful.storage_eq]
    dsimp only
    rw [hextract]
    simp
  have hbytes : ∃ behind,
      (performAll requests).context.storage.bytes.toList = front ++ behind := by
    have htake : (performAll requests).context.storage.bytes.toList.take front.length = front := by
      simpa using congrArg Array.toList hfront
    rw [← htake]
    exact ⟨_, (List.take_append_drop _ _).symm⟩
  obtain ⟨behind, hbehind⟩ := hbytes
  exact ⟨behind, by rw [hbound, ← hbehind]⟩

end Ledger

namespace BindingSet

/-- **Descriptor sets arrive.** The bytes of a set of buffers and images, whose numbers are any
that their fields can hold, are sixteen for every buffer and eighty for every image, which is the
size that a program with this set declares and that of the record of its fields. Every binding
has the bytes behind those of the bindings before it, and assigning one changes no others. And
a program that was prepared with these bytes, and any more behind them, finds the same set bound,
whatever the context was prepared for before. -/
theorem decode_boundSet (set : List Descriptor) (hset : set ≠ []) (hfits : ∀ d ∈ set, d.Fits) :
    let shape := set.map Descriptor.kind
    (encode set).length = 16 * shape.count .buffer + 80 * shape.count .image
    ∧ (∀ info : ProgramInfo, (info.withSet shape).setSize = (encode set).length)
    ∧ (∀ fields : List (String × BindingKind), fields.map Prod.snd = shape → layout fields
        = ⟨fields.mapIdx fun index field => (field.1, offset shape index), (encode set).length,
          memoryAlign⟩)
    ∧ (∀ index d, set[index]? = some d →
        offset shape index = ((shape.take index).map BindingKind.size).sum
        ∧ ((encode set).drop (offset shape index)).take d.kind.size = d.encode)
    ∧ (∀ index old d, set[index]? = some old → d.kind = old.kind →
        encode (assign set index d) = (encode set).take (offset shape index) ++ d.encode
          ++ (encode set).drop (offset shape index + d.kind.size))
    ∧ ∀ (requests : List (Context.Request ρ σ)) (p : Preparation ρ σ)
        (earlier : List (Preparation ρ σ)) (rest : List UInt8),
        (Ledger.performAll requests).done = p :: earlier →
        p.set = (encode set ++ rest).toArray → p.setSize = (encode set).length →
        (Ledger.performAll requests).context.storage.align = memoryAlign
        ∧ ∃ bytes, (Ledger.performAll requests).context.boundSet 0 = some bytes
          ∧ decode shape bytes.toList = set := by
  intro shape
  have hlength : (encode set).length = size shape := length_encode set
  have hpos : 0 < (encode set).length := by
    obtain ⟨d, others, rfl⟩ := List.exists_cons_of_ne_nil hset
    have hkind : 0 < d.kind.size := by cases d.kind <;> decide
    rw [length_encode, List.map_cons, size_cons]
    omega
  refine ⟨hlength.trans (size_eq_count shape), fun info => hlength.symm, fun fields hfields => ?_,
    fun index d hd => ⟨size_eq_sum _, ?_⟩, fun index old d hold hkind => encode_assign hold hkind,
    fun requests p earlier rest hdone hbytes hsize => ⟨?_, ?_⟩⟩
  · have hne : fields ≠ [] := by
      rintro rfl
      exact hset (List.map_eq_nil_iff.mp hfields.symm)
    rw [layout_eq hne, hfields, hlength]
  · rw [drop_encode_of_getElem? hd, List.take_left' d.length_encode]
  · rw [(Ledger.faithful_performAll requests).storage_eq]
  · obtain ⟨behind, hbound⟩ := Ledger.boundSet_of_prepare hdone hbytes hsize hpos
    exact ⟨_, hbound, decode_encode_append hfits behind⟩

/-- A buffer, an image and a buffer, with numbers at the ends of their range. -/
def extremes : List Descriptor :=
  [.buffer ⟨4096, -1, -2147483648⟩,
    .image ⟨8192, 3, 2, 1, -12, 24, 2147483647, 1, 32, 0, 0, -7, 5, 64⟩,
    .buffer ⟨18446744073709551615, 2147483647, 0⟩]

/-- They are found again in storage that a longer set has filled before. -/
theorem decode_boundSet_extremes :
    let info := (ProgramInfo.ofSize ⟨1, 1, 1⟩).withSet (extremes.map Descriptor.kind)
    let long : Preparation Unit Unit :=
      ⟨1, idleProgram ⟨0, false, 200, ⟨1, 1, 1⟩⟩, Array.replicate 200 255, ⟨1, 1, 1⟩⟩
    let short : Preparation Unit Unit :=
      ⟨1, idleProgram info, (encode extremes ++ [7, 7]).toArray, ⟨1, 1, 1⟩⟩
    let requests := [.prepare long, .prepare short]
    extremes ≠ [] ∧ (∀ d ∈ extremes, d.Fits)
    ∧ (Ledger.performAll requests).context.storage.size = 208
    ∧ ∃ bytes, (Ledger.performAll requests).context.boundSet 0 = some bytes
      ∧ decode (extremes.map Descriptor.kind) bytes.toList = extremes := by
  intro info long short requests
  have hne : extremes ≠ [] := by decide
  have hfits : ∀ d ∈ extremes, d.Fits := by decide
  have hdone : (Ledger.performAll requests).done = [short, long] := by
    have hlong := Ledger.done_prepare Ledger.sound_initial (p := long) (by decide +kernel)
    have hshort := Ledger.done_prepare
      (Ledger.sound_perform Ledger.sound_initial (.prepare long)) (p := short) (by decide +kernel)
    rw [hlong] at hshort
    exact hshort
  have hsize : short.setSize = (encode extremes).length := by decide
  obtain ⟨-, -, -, -, -, harrives⟩ := decode_boundSet extremes hne hfits
  exact ⟨hne, hfits, by decide +kernel, (harrives requests short [long] [7, 7] hdone rfl hsize).2⟩

end BindingSet

end GridDispatch
