/-
Images and their rows.

An image has to fit the signed fields of its descriptor in five sizes. They are looked at in a fixed
order and depend on each other in odd ways: an image without rows may be of any width as far as its
pixels go, and one that just fits may no longer fit with its padding. `limits` lists them, and an
image can be had unless one of the list is too large; the first that is decides what is answered
(`allocate_eq`). None of the products leaves its word unnoticed.

Rows follow each other without gaps, and are found by place, not by number: whatever has the length
of a row and lies in the image is one (`row_eq`). So the rows of the image are its pixels, in order
(`mapM_row`), and there may be more of them, in the padding.
-/
import GridDispatch.Proofs.Buffers
import GridDispatch.Proofs.Rounding
import GridDispatch.Storage.Image

set_option autoImplicit false

namespace GridDispatch

namespace Image

/-! ## Sizes -/

/-- The answer to the first size that does not fit a descriptor. -/
def firstTooLarge (sizes : List (Nat × Fault)) : Option Fault :=
  (sizes.find? fun entry => decide (signedMax < entry.1)).map Prod.snd

theorem firstTooLarge_cons (size : Nat) (fault : Fault) (rest : List (Nat × Fault)) :
    firstTooLarge ((size, fault) :: rest)
      = if size ≤ signedMax then firstTooLarge rest else some fault := by
  rw [firstTooLarge, List.find?_cons]
  by_cases h : size ≤ signedMax
  · rw [if_pos h, decide_eq_false (Nat.not_lt.mpr h)]
    rfl
  · rw [if_neg h, decide_eq_true (Nat.lt_of_not_le h)]
    rfl

theorem firstTooLarge_eq_none_iff {sizes : List (Nat × Fault)} :
    firstTooLarge sizes = none ↔ ∀ entry ∈ sizes, entry.1 ≤ signedMax := by
  rw [firstTooLarge, Option.map_eq_none_iff, List.find?_eq_none]
  simp only [decide_eq_true_eq, Nat.not_lt]

section

variable (width height : Nat)

/-- The bytes of a row. -/
def pitch : Nat :=
  width * pixelSize

/-- The bytes of all rows. -/
def pixels : Nat :=
  pitch width * height

/-- And with the padding behind them. -/
def padded : Nat :=
  roundUp (pixels width height) memoryAlign

/-- The sizes that must fit a descriptor, in the order in which they are looked at, each with what
is answered if it does not fit. -/
def limits : List (Nat × Fault) :=
  [(pixels width height, .imageLimit width height),
    (padded width height, .descriptorLimit (padded width height)),
    (width, .descriptorLimit width), (height, .descriptorLimit height),
    (pitch width, .descriptorLimit (pitch width))]

theorem pixels_le_padded : pixels width height ≤ padded width height :=
  le_roundUp (by decide) _

/-- Pixels have four bytes, so that at most twelve are missing to a multiple of sixteen. -/
theorem padded_le : padded width height ≤ pixels width height + 12 := by
  have hpixels : pixels width height = 4 * (width * height) := by
    rw [pixels, pitch, pixelSize, Nat.mul_comm width, Nat.mul_assoc]
  rw [padded, roundUp, memoryAlign, hpixels]
  omega

variable {width height}

theorem mul_pixelSize (hwidth : width < lane) :
    Checked.mul word width pixelSize = .ok (pitch width) :=
  Checked.mul_eq_ok (Nat.lt_trans (Nat.mul_lt_mul_of_pos_right hwidth (by decide)) (by decide))

/-- The products are taken as words, and one that leaves the word is too large. -/
theorem pixelBytes_eq (hwidth : width < lane) : pixelBytes width height
    = if pixels width height ≤ signedMax then .ok (pixels width height)
      else .error (.imageLimit width height) := by
  have hproduct : (Except.ok (pitch width) >>= fun rowBytes => Checked.mul word rowBytes height)
      = Checked.mul word (pitch width) height := rfl
  rw [pixelBytes, mul_pixelSize hwidth, hproduct]
  by_cases hword : pixels width height < word
  · rw [Checked.mul_eq_ok hword]
    rfl
  · have hlarge : ¬ pixels width height ≤ signedMax := fun hfits =>
      hword (Nat.lt_of_le_of_lt hfits (by decide))
    rw [Checked.mul_eq_error (Nat.not_lt.mp hword), if_neg hlarge]

end

/-! ## What can be had -/

/-- A descriptor of an image. -/
def shown (address : Address) (width height : Nat) : ImageDescriptor :=
  { ImageDescriptor.null with
    address
    width
    height
    depth := 1
    rowPitch := pitch width
    slicePitch := padded width height
    samplePitch := padded width height
    sampleCount := 1
    sizeInBytes := padded width height }

/-- An image that has just been allocated. -/
def blank (address : Address) (width height : Nat) : Image :=
  ⟨shown address width height, ⟨Bytes.zeros (padded width height), memoryAlign⟩⟩

section

variable {width height : Nat} (address : Address)

/-- An image can be had unless a size is too large, and the first that is decides the answer. -/
theorem allocate_eq (hwidth : width < lane) : allocate address width height
    = match firstTooLarge (limits width height) with
      | some fault => .error fault
      | none => .ok (blank address width height) := by
  have hmul := mul_pixelSize hwidth
  have hpixels : pixelBytes width height = _ := pixelBytes_eq hwidth
  simp only [allocate, limits, firstTooLarge_cons, bind, Except.bind, hpixels, hmul, descriptorSize]
  -- one case for each size, as rounding and allocating only succeed after the checks before them
  by_cases hfits : pixels width height ≤ signedMax
  · have hround : alignUp (pixels width height) memoryAlign = .ok (padded width height) :=
      alignUp_eq_ok_iff.mpr ⟨by decide,
        Nat.lt_of_le_of_lt (Nat.add_le_add_right hfits memoryAlign) (by decide), rfl⟩
    simp only [if_pos hfits, hround]
    by_cases hpadded : padded width height ≤ signedMax
    · have hlayout : validLayout (padded width height) memoryAlign = true := by
        rw [validLayout, Bool.and_eq_true, decide_eq_true_eq]
        exact ⟨by decide, Nat.le_trans hpadded (by decide)⟩
      simp only [if_pos hpadded, Block.allocate_eq_ok hlayout]
      by_cases hside : width ≤ signedMax
      · by_cases hother : height ≤ signedMax
        · by_cases hpitch : pitch width ≤ signedMax
          · simp only [if_pos hside, if_pos hother, if_pos hpitch]
            rfl
          · simp only [if_pos hside, if_pos hother, if_neg hpitch]
        · simp only [if_pos hside, if_neg hother]
      · simp only [if_neg hside]
    · simp only [if_neg hpadded]
  · simp only [if_neg hfits]

end

/-! ## Actions -/

/-- What can be done to an image. -/
inductive Action where
  /-- Bytes are written through its descriptor. -/
  | write (start : Nat) (bytes : Bytes)
  | fill (byte : UInt8)
  | ramp (step : Nat)
  | release
deriving DecidableEq, Repr

/-- One action: whether it succeeds, and the image afterwards. -/
def perform (image : Image) : Action → Except Fault Unit × Image
  | .write start bytes => settle image (image.write start bytes)
  | .fill byte => (.ok (), image.fill byte)
  | .ramp step => (.ok (), image.ramp step)
  | .release => (.ok (), image.release)

/-- The image after actions, one after another. -/
def performAll (image : Image) (actions : List Action) : Image :=
  actions.foldl (fun image action => (image.perform action).2) image

/-- An action that fails changes nothing. -/
theorem perform_of_error {image : Image} {action : Action} {fault : Fault}
    (h : (image.perform action).1 = .error fault) : (image.perform action).2 = image := by
  cases action with
  | write start bytes => exact settle_of_error h
  | fill byte => cases h
  | ramp step => cases h
  | release => cases h

/-- Only a release changes the descriptor, or the length. -/
theorem frame_perform (image : Image) {action : Action} (hkept : action ≠ .release) :
    (image.perform action).2.descriptor = image.descriptor
    ∧ (image.perform action).2.data.size = image.data.size := by
  cases action with
  | write start bytes =>
      rw [perform, write]
      split
      · exact ⟨rfl, Block.size_refill _ _⟩
      · exact ⟨rfl, rfl⟩
  | fill byte => exact ⟨rfl, Array.size_replicate⟩
  | ramp step => exact ⟨rfl, Block.size_refill _ _⟩
  | release => exact absurd rfl hkept

/-- Where an image stands after a history. -/
theorem standing_performAll (address : Address) (width height : Nat) (actions : List Action) :
    let image := (blank address width height).performAll actions
    Standing (shown address width height) .null (padded width height) (.release ∈ actions)
      image.descriptor image.data := by
  exact Standing.foldl descriptor data (fun image _ hkept => image.frame_perform hkept)
    (fun _ => ⟨rfl, rfl⟩) (.of_zeros _ _ _) actions

/-! ## Rows -/

section

variable {image : Image} {address : Address} {width height y : Nat}

/-- What is read as a row is whatever has the length of one, in its place. -/
theorem row_eq (hdescriptor : image.descriptor = shown address width height)
    (hpitch : pitch width ≤ signedMax) (hy : y < lane) :
    image.row y = if (y + 1) * pitch width ≤ image.data.size
      then .ok (image.data.extract (y * pitch width) ((y + 1) * pitch width))
      else .error .outOfRange := by
  have hword : y * pitch width < word := by
    have hle := Nat.mul_le_mul (Nat.le_of_lt hy) hpitch
    exact Nat.lt_of_le_of_lt hle (by decide)
  have hrow : image.descriptor.rowPitch.toNat = pitch width := by
    rw [hdescriptor]
    rfl
  simp only [row, hrow, Checked.mul_eq_ok hword, bind, Except.bind, Bytes.part?, ← Nat.succ_mul]
  by_cases hfits : (y + 1) * pitch width ≤ image.data.size
  · simp only [if_pos hfits]
  · simp only [if_neg hfits]

/-- The rows of an image lie in it. -/
theorem row_le (hy : y < height) : (y + 1) * pitch width ≤ padded width height := by
  refine Nat.le_trans ?_ (pixels_le_padded width height)
  rw [pixels, Nat.mul_comm (pitch width)]
  exact Nat.mul_le_mul_right _ hy

/-- And are its pixels. -/
theorem mapM_row (hdescriptor : image.descriptor = shown address width height)
    (hsize : image.data.size = padded width height) (hpitch : pitch width ≤ signedMax)
    (hheight : height < lane) :
    ∃ rows, (List.range height).mapM image.row = .ok rows
      ∧ rows.flatMap Array.toList = image.data.toList.take (pixels width height) := by
  refine ⟨(List.range height).map fun y =>
    image.data.extract (y * pitch width) ((y + 1) * pitch width), mapM_eq_ok fun y hy => ?_, ?_⟩
  · have hlt : y < height := List.mem_range.mp hy
    have hend : (y + 1) * pitch width ≤ image.data.size := by
      rw [hsize]
      exact row_le hlt
    rw [row_eq hdescriptor hpitch (Nat.lt_trans hlt hheight), if_pos hend]
  · simp only [List.flatMap_map, Nat.succ_mul, Bytes.toList_part]
    rw [flatMap_pieces, pixels, Nat.mul_comm]

end

/-! ## The law -/

/-- An image until it is released, whatever was written to it. -/
structure Intact (address : Address) (width height : Nat) (image : Image) : Prop where
  descriptor_eq : image.descriptor = shown address width height
  size_eq : image.data.size = padded width height
  view_eq : address ≠ 0 → image.view = image.data
  /-- What has the length of a row is read if it lies in the image. -/
  row_eq_ok_iff : ∀ y < lane, ∀ bytes, image.row y = .ok bytes
    ↔ (y + 1) * pitch width ≤ padded width height
      ∧ image.data.extract (y * pitch width) ((y + 1) * pitch width) = bytes
  row_eq_error_iff : ∀ y < lane, ∀ fault, image.row y = .error fault
    ↔ padded width height < (y + 1) * pitch width ∧ fault = .outOfRange
  /-- The rows of the image do, and are its pixels. -/
  row_le : ∀ y < height, (y + 1) * pitch width ≤ padded width height
  rows : ∃ rows, (List.range height).mapM image.row = .ok rows
    ∧ rows.flatMap Array.toList = image.data.toList.take (pixels width height)
  /-- Others lie in the padding. -/
  row_behind : ∀ y < lane, height ≤ y → 0 < width → ∀ bytes, image.row y = .ok bytes →
    bytes.size = pitch width ∧ pixels width height ≤ y * pitch width
      ∧ (y + 1) * pitch width ≤ padded width height
  perform_of_error : ∀ action fault, (image.perform action).1 = .error fault →
    (image.perform action).2 = image

/-- An image after it was released. -/
structure Released (image : Image) : Prop where
  descriptor_eq : image.descriptor = .null
  data_eq : image.data = #[]
  row_eq : ∀ y, image.row y = .ok #[]
  release_eq : image.release = image

/-- What comes of asking for an image. -/
structure Allocation (address : Address) (width height : Nat) : Prop where
  succeeds_iff : (∃ image, allocate address width height = .ok image)
    ↔ padded width height ≤ signedMax ∧ width ≤ signedMax ∧ height ≤ signedMax
      ∧ pitch width ≤ signedMax
  eq_error_iff : ∀ fault, allocate address width height = .error fault
    ↔ firstTooLarge (limits width height) = some fault
  messages : (limits width height).map (fun entry => entry.2.message)
    = some ("image of " ++ toString width ++ "x" ++ toString height
        ++ " pixels exceeds the descriptor size limit")
      :: [padded width height, width, height, pitch width].map fun size =>
        some ("allocation of " ++ toString size ++ " bytes exceeds the descriptor size limit")
  /-- No product or sum leaves its word. -/
  no_overflow : ∀ cause, allocate address width height ≠ .error (.arithmetic cause)
  padding_le : padded width height ≤ pixels width height + 12
  zeroed : ∀ image, allocate address width height = .ok image →
    image.data = Bytes.zeros (padded width height)
  intact : ∀ image, allocate address width height = .ok image → ∀ actions, .release ∉ actions →
    Intact address width height (image.performAll actions)
  released : ∀ image, allocate address width height = .ok image → ∀ actions, .release ∈ actions →
    Released (image.performAll actions)

section

variable {image : Image} {address : Address} {width height : Nat}

theorem firstTooLarge_limits_eq_none_iff : firstTooLarge (limits width height) = none
    ↔ padded width height ≤ signedMax ∧ width ≤ signedMax ∧ height ≤ signedMax
      ∧ pitch width ≤ signedMax := by
  rw [firstTooLarge_eq_none_iff]
  simp only [limits, List.forall_mem_cons, List.not_mem_nil, false_imp_iff, implies_true, and_true]
  exact and_iff_right_of_imp fun h => Nat.le_trans (pixels_le_padded width height) h.1

theorem allocate_eq_ok_iff (hwidth : width < lane) : allocate address width height = .ok image
    ↔ firstTooLarge (limits width height) = none ∧ blank address width height = image := by
  rw [allocate_eq address hwidth]
  cases firstTooLarge (limits width height) with
  | some fault => exact ⟨nofun, fun h => nomatch h.1⟩
  | none => rw [Except.ok.injEq, and_iff_right rfl]

theorem allocate_eq_error_iff (hwidth : width < lane) {fault : Fault} :
    allocate address width height = .error fault
      ↔ firstTooLarge (limits width height) = some fault := by
  rw [allocate_eq address hwidth]
  cases firstTooLarge (limits width height) with
  | some refused => rw [Except.error.injEq, Option.some.injEq]
  | none => exact ⟨nofun, nofun⟩

theorem intact_of_kept (hdescriptor : image.descriptor = shown address width height)
    (hsize : image.data.size = padded width height) (hpitch : pitch width ≤ signedMax)
    (hheight : height < lane) : Intact address width height image where
  descriptor_eq := hdescriptor
  size_eq := hsize
  view_eq haddress := by
    rw [view, ImageDescriptor.data, hdescriptor, shown, ← hsize]
    exact visible_size haddress image.data
  row_eq_ok_iff y hy bytes := by
    rw [row_eq hdescriptor hpitch hy, Checked.ite_eq_ok_iff, hsize]
  row_eq_error_iff y hy fault := by
    rw [row_eq hdescriptor hpitch hy, hsize]
    split
    · next hfits => exact ⟨nofun, fun h => absurd hfits (Nat.not_le.mpr h.1)⟩
    · next hlong => rw [Except.error.injEq, eq_comm, and_iff_right (Nat.lt_of_not_le hlong)]
  row_le _ := row_le
  rows := mapM_row hdescriptor hsize hpitch hheight
  row_behind y hy hbehind _ bytes hrow := by
    rw [row_eq hdescriptor hpitch hy, Checked.ite_eq_ok_iff] at hrow
    obtain ⟨hfits, rfl⟩ := hrow
    refine ⟨?_, ?_, hsize ▸ hfits⟩
    · rw [Array.size_extract, Nat.min_eq_left hfits, Nat.succ_mul, Nat.add_sub_cancel_left]
    · rw [pixels, Nat.mul_comm]
      exact Nat.mul_le_mul_right _ hbehind
  perform_of_error _ _ := perform_of_error

theorem released_of_gone (hdescriptor : image.descriptor = .null) (hdata : image.data = #[]) :
    Released image where
  descriptor_eq := hdescriptor
  data_eq := hdata
  row_eq y := by
    rw [row, hdescriptor, hdata]
    rfl
  release_eq := by
    rw [release, Block.release, ← hdescriptor, ← hdata]
    rfl

end

/-- **Images.** An image can be had if and only if its padded size, its sides and the length of its
rows fit a descriptor, and otherwise the first size that does not is named. It is zero, and until it
is released its rows are its pixels, whatever is written to it, and what is read behind them is
padding. Afterwards nothing is left of it, and its rows are empty. -/
theorem allocation (address : Address) (width height : Nat) (hwidth : width < lane)
    (hheight : height < lane) : Allocation address width height where
  succeeds_iff := by
    rw [← firstTooLarge_limits_eq_none_iff]
    constructor
    · rintro ⟨image, hallocate⟩
      exact ((allocate_eq_ok_iff hwidth).mp hallocate).1
    · intro hfits
      exact ⟨_, (allocate_eq_ok_iff hwidth).mpr ⟨hfits, rfl⟩⟩
  eq_error_iff _ := allocate_eq_error_iff hwidth
  messages := rfl
  no_overflow cause herror := by
    rw [allocate_eq_error_iff hwidth, firstTooLarge, Option.map_eq_some_iff] at herror
    obtain ⟨entry, hfound, hfault⟩ := herror
    have hentry := List.mem_of_find?_eq_some hfound
    simp only [limits, List.mem_cons, List.not_mem_nil, or_false] at hentry
    rcases hentry with rfl | rfl | rfl | rfl | rfl <;> cases hfault
  padding_le := padded_le width height
  zeroed image hallocate := by
    obtain ⟨-, rfl⟩ := (allocate_eq_ok_iff hwidth).mp hallocate
    rfl
  intact image hallocate actions hkept := by
    obtain ⟨hfits, rfl⟩ := (allocate_eq_ok_iff hwidth).mp hallocate
    obtain ⟨-, -, -, hpitch⟩ := firstTooLarge_limits_eq_none_iff.mp hfits
    obtain ⟨hdescriptor, hsize⟩ := (standing_performAll address width height actions).kept hkept
    exact intact_of_kept hdescriptor hsize hpitch hheight
  released image hallocate actions hgone := by
    obtain ⟨-, rfl⟩ := (allocate_eq_ok_iff hwidth).mp hallocate
    obtain ⟨hdescriptor, hdata⟩ := (standing_performAll address width height actions).gone hgone
    exact released_of_gone hdescriptor hdata

/-- An image of one column and three rows has room for a fourth row in its padding, and not for
more. -/
theorem allocation_thin : Allocation 4096 1 3
    ∧ (allocate 4096 1 3 >>= fun image => (image.fill 7).row 3) = .ok #[7, 7, 7, 7]
    ∧ (allocate 4096 1 3 >>= fun image => (image.fill 7).row 4) = .error .outOfRange :=
  ⟨allocation 4096 1 3 (by decide) (by decide), by decide, by decide⟩

-- one that fits without its padding
example : firstTooLarge (limits 536870911 1) = some (.descriptorLimit 2147483648) := by
  decide

end Image

end GridDispatch
