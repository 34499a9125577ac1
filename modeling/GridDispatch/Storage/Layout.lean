/-
The layout of the records that programs read.

Fields are placed in order, each at the next multiple of its alignment; the record
is aligned like its most aligned field, or more if that is asked for, and its size
is a multiple of that. The records shared with programs are listed at the end, so
that their offsets are computed rather than stated.
-/

set_option autoImplicit false

namespace GridDispatch

/-- A field of a record. -/
structure Field where
  name : String
  size : Nat
  align : Nat
deriving DecidableEq, Repr

namespace Field

/-- A field that holds an address or a size. -/
def wide (name : String) : Field := ⟨name, 8, 8⟩

def narrow (name : String) : Field := ⟨name, 4, 4⟩

/-- A field that holds four 32-bit numbers in one vector register. -/
def quad (name : String) : Field := ⟨name, 16, 16⟩

end Field

def roundUp (offset align : Nat) : Nat :=
  (offset + align - 1) / align * align

/-- Where the fields of a record lie. -/
structure Layout where
  /-- The fields with their offsets, in order. -/
  offsets : List (String × Nat)
  size : Nat
  align : Nat
deriving DecidableEq, Repr

namespace Layout

/-- Offsets of the fields from `start` on, and the end of the last one. -/
def place (start : Nat) : List Field → List (String × Nat) × Nat
  | [] => ([], start)
  | field :: rest =>
    let offset := roundUp start field.align
    let placed := place (offset + field.size) rest
    ((field.name, offset) :: placed.1, placed.2)

/-- The layout of a record with at least this alignment. -/
def ofFields (minAlign : Nat) (fields : List Field) : Layout :=
  let align := fields.foldl (fun align field => max align field.align) minAlign
  let placed := place 0 fields
  ⟨placed.1, roundUp placed.2 align, align⟩

def offset? (layout : Layout) (name : String) : Option Nat :=
  layout.offsets.lookup name

/-! ## The records shared with programs -/

def bufferDescriptor : Layout :=
  ofFields 16 [.wide "ptr", .narrow "size_in_bytes", .narrow "robustness_size"]

def imageDescriptor : Layout :=
  ofFields 16 [.wide "ptr", .narrow "width", .narrow "height", .narrow "depth",
    .narrow "row_pitch_bytes", .narrow "slice_pitch_bytes", .narrow "sample_pitch_bytes",
    .narrow "sample_count", .narrow "size_in_bytes", .wide "stencil_ptr",
    .narrow "stencil_row_pitch_bytes", .narrow "stencil_slice_pitch_bytes",
    .narrow "stencil_sample_pitch_bytes", .narrow "_pad0", .wide "memory_owner", .wide "_pad1"]

def constants : Layout :=
  ofFields 1 [⟨"descriptor_sets", 32, 8⟩, ⟨"descriptor_dynamic_offsets", 48, 4⟩,
    .quad "num_workgroups", .quad "workgroup_size", .narrow "invocations_per_subgroup",
    .narrow "subgroups_per_workgroup", .narrow "invocations_per_workgroup",
    ⟨"push_constants", 128, 1⟩, .wide "constants"]

/-- The parameters and entry points of a native program. -/
def nativeProgram : Layout :=
  ofFields 1 [.wide "min_memory_size", ⟨"has_cbarriers", 1, 1⟩, .wide "desc_set_size",
    .narrow "workgroup_size_x", .narrow "workgroup_size_y", .narrow "workgroup_size_z",
    .wide "begin", .wide "await", .wide "destroy"]

def quad : Layout :=
  ofFields 16 [⟨"lanes", 16, 4⟩]

end Layout

end GridDispatch
