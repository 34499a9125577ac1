/-
Two views of one buffer.

A buffer can be used in two ways: by itself, and through the descriptor that programs get of it.
Each has its own notion of how long the buffer is, and what is written as items of one type in one
of the ways is read as items of another in the other way.

All of it follows from where a buffer stands (`Standing`): until it is released its descriptor has
the address and the size it was allocated with, and the block that size; afterwards the descriptor
is null and the block empty. That is so after every history, as an action short of a release leaves
both (`Standing.foldl`). So the two ways lead to the same bytes (`view_eq_data`), and what they are
read as is a matter of the bytes (`ItemType.decodeAll_eq_ok_iff`).

With one exception. An empty block is still somewhere, and aligned, and is read as no items of any
type. A null descriptor shows no bytes either, but those are `nowhere`, where larger items than
bytes cannot lie; reading them through the descriptor fails (`liesAt_iff`).
-/
import GridDispatch.Proofs.Items
import GridDispatch.Storage.Buffer
import Mathlib.Data.List.Induction

set_option autoImplicit false

namespace GridDispatch

/-! ## What is allocated and later released -/

/-- Where something stands that was allocated with a descriptor and a length: it has them until
it is released, and afterwards it has nothing. -/
structure Standing {δ : Type} (allocated null : δ) (size : Nat) (released : Prop)
    (descriptor : δ) (data : Bytes) : Prop where
  kept : ¬ released → descriptor = allocated ∧ data.size = size
  gone : released → descriptor = null ∧ data = #[]

namespace Standing

variable {δ : Type} {allocated null : δ} {size : Nat} {released : Prop}

theorem of_zeros (allocated null : δ) (size : Nat) :
    Standing allocated null size False allocated (Bytes.zeros size) :=
  ⟨fun _ => ⟨rfl, Bytes.size_zeros size⟩, nofun⟩

/-- What is in the memory does not matter. -/
theorem of_frame {descriptor after : δ} {data contents : Bytes}
    (h : Standing allocated null size released descriptor data) (hdescriptor : after = descriptor)
    (hsize : contents.size = data.size) : Standing allocated null size released after contents := by
  subst hdescriptor
  refine ⟨fun hkept => ?_, fun hgone => ?_⟩
  · rw [hsize]
    exact h.kept hkept
  · obtain ⟨hnull, hempty⟩ := h.gone hgone
    rw [hempty, Array.size_empty, Array.size_eq_zero_iff] at hsize
    exact ⟨hnull, hsize⟩

/-- Where it stands after a history, if whatever is done short of a release changes no more than
what is in the memory. -/
theorem foldl {σ α : Type} (descriptor : σ → δ) (data : σ → Bytes) {step : σ → α → σ} {release : α}
    (hframe : ∀ s action, action ≠ release →
      descriptor (step s action) = descriptor s ∧ (data (step s action)).size = (data s).size)
    (hrelease : ∀ s, descriptor (step s release) = null ∧ data (step s release) = #[]) {s : σ}
    (h : Standing allocated null size False (descriptor s) (data s)) (actions : List α) :
    Standing allocated null size (release ∈ actions) (descriptor (actions.foldl step s))
      (data (actions.foldl step s)) := by
  induction actions using List.reverseRecOn with
  | nil => exact ⟨fun _ => h.kept id, fun hgone => absurd hgone List.not_mem_nil⟩
  | append_singleton actions action ih =>
      rw [List.foldl_concat, List.mem_append, List.mem_singleton]
      by_cases haction : action = release
      · rw [haction]
        exact ⟨fun hkept => absurd (.inr rfl) hkept, fun _ => hrelease _⟩
      · have hsame : (release ∈ actions ∨ release = action) = (release ∈ actions) :=
          propext (or_iff_left (Ne.symm haction))
        obtain ⟨hdescriptor, hsize⟩ := hframe (actions.foldl step s) action haction
        rw [hsame]
        exact ih.of_frame hdescriptor hsize

end Standing

namespace Buffer

/-! ## Actions -/

/-- What can be done to a buffer. -/
inductive Action where
  /-- Items are written over its front. -/
  | write (type : ItemType) (values : List Int)
  /-- Items are written through its descriptor, from one of the items there on. -/
  | writeView (type : ItemType) (start : Nat) (values : List Int)
  | fill (byte : UInt8)
  | release
deriving DecidableEq, Repr

/-- One action: whether it succeeds, and the buffer afterwards. -/
def perform (buffer : Buffer) : Action → Except Fault Unit × Buffer
  | .write type values => settle buffer (buffer.writeItems type values)
  | .writeView type start values => settle buffer (buffer.writeView type start values)
  | .fill byte => (.ok (), buffer.fill byte)
  | .release => (.ok (), buffer.release)

/-- The buffer after actions, one after another. -/
def performAll (buffer : Buffer) (actions : List Action) : Buffer :=
  actions.foldl (fun buffer action => (buffer.perform action).2) buffer

variable {buffer after : Buffer} {type : ItemType} {values : List Int} {start : Nat}

/-! ## One action -/

/-- A buffer whose contents were written over. -/
structure Overwritten (buffer : Buffer) (start : Nat) (source : Bytes) (after : Buffer) : Prop where
  descriptor_eq : after.descriptor = buffer.descriptor
  size_eq : after.data.size = buffer.data.size
  /-- Nothing else is changed. -/
  getElem?_eq : ∀ index, after.data[index]?
    = (if start ≤ index then source[index - start]? else none).or buffer.data[index]?

/-- Bytes written over the contents from an index on. -/
def overwriteAt (buffer : Buffer) (start : Nat) (source : Bytes) : Buffer :=
  { buffer with storage := buffer.storage.refill (buffer.data.overwrite start source) }

theorem overwritten_overwriteAt {source : Bytes} (hfits : start + source.size ≤ buffer.data.size) :
    Overwritten buffer start source (buffer.overwriteAt start source) := by
  have hdata : (buffer.storage.refill (buffer.data.overwrite start source)).bytes
      = buffer.data.overwrite start source :=
    Block.bytes_refill (Bytes.size_overwrite _ _ _)
  exact ⟨rfl, (congrArg Array.size hdata).trans (Bytes.size_overwrite _ _ _), fun index =>
    (congrArg (·[index]?) hdata).trans (Bytes.getElem?_overwrite hfits index)⟩

/-- Items are written if there is room for them. -/
theorem writeItems_eq (buffer : Buffer) (type : ItemType) (values : List Int) :
    buffer.writeItems type values = if values.length * type.size ≤ buffer.data.size
      then .ok (buffer.overwrite (type.encodeAll values)) else .error .outOfRange := by
  rw [writeItems, type.size_encodeAll]

theorem overwritten_of_writeItems (h : buffer.writeItems type values = .ok after) :
    Overwritten buffer 0 (type.encodeAll values) after := by
  rw [writeItems_eq, Checked.ite_eq_ok_iff] at h
  obtain ⟨hroom, rfl⟩ := h
  refine overwritten_overwriteAt ?_
  rwa [Nat.zero_add, type.size_encodeAll]

/-- Through the descriptor they are written if it shows items, and among them those places. -/
theorem writeView_eq_ok_iff : buffer.writeView type start values = .ok after
    ↔ (type.liesAt buffer.descriptor.start = true ∧ buffer.view.size % type.size = 0
        ∧ start + values.length ≤ buffer.view.size / type.size)
      ∧ buffer.overwriteAt (start * type.size) (type.encodeAll values) = after := by
  rw [writeView]
  by_cases hlies : type.liesAt buffer.descriptor.start = true
  · by_cases hwhole : buffer.view.size % type.size = 0
    · rw [if_pos hlies, if_pos hwhole, and_iff_right hlies, and_iff_right hwhole]
      exact Checked.ite_eq_ok_iff
    · rw [if_pos hlies, if_neg hwhole]
      exact ⟨nofun, fun h => absurd h.1.2.1 hwhole⟩
  · rw [if_neg hlies]
    exact ⟨nofun, fun h => absurd h.1.1 hlies⟩

theorem size_view_le (buffer : Buffer) : buffer.view.size ≤ buffer.data.size := by
  rw [view, BufferDescriptor.data, visible]
  split
  · exact Nat.zero_le _
  · rw [Array.size_extract]
    omega

theorem overwritten_of_writeView (h : buffer.writeView type start values = .ok after) :
    Overwritten buffer (start * type.size) (type.encodeAll values) after := by
  obtain ⟨⟨-, -, hroom⟩, rfl⟩ := writeView_eq_ok_iff.mp h
  have hbytes := (Nat.le_div_iff_mul_le type.size_pos).mp hroom
  refine overwritten_overwriteAt ?_
  rw [type.size_encodeAll, ← Nat.add_mul]
  exact Nat.le_trans hbytes buffer.size_view_le

/-- An action that fails changes nothing. -/
theorem perform_of_error {action : Action} {fault : Fault}
    (h : (buffer.perform action).1 = .error fault) : (buffer.perform action).2 = buffer := by
  cases action with
  | write type values => exact settle_of_error h
  | writeView type start values => exact settle_of_error h
  | fill byte => cases h
  | release => cases h

/-- Only a release changes the descriptor, or the length. -/
theorem frame_perform (buffer : Buffer) {action : Action} (hkept : action ≠ .release) :
    (buffer.perform action).2.descriptor = buffer.descriptor
    ∧ (buffer.perform action).2.data.size = buffer.data.size := by
  cases action with
  | write type values =>
      rw [perform]
      cases hwrite : buffer.writeItems type values with
      | error fault => exact ⟨rfl, rfl⟩
      | ok after =>
          have h := overwritten_of_writeItems hwrite
          exact ⟨h.descriptor_eq, h.size_eq⟩
  | writeView type start values =>
      rw [perform]
      cases hwrite : buffer.writeView type start values with
      | error fault => exact ⟨rfl, rfl⟩
      | ok after =>
          have h := overwritten_of_writeView hwrite
          exact ⟨h.descriptor_eq, h.size_eq⟩
  | fill byte => exact ⟨rfl, Array.size_replicate⟩
  | release => exact absurd rfl hkept

/-! ## Where a buffer stands -/

/-- The descriptor of a buffer at an address, of a size. -/
def shown (address : Address) (size : Nat) : BufferDescriptor :=
  ⟨address, size, size⟩

section

variable {address : Address} {size : Nat} {released : Prop}
  (h : Standing (shown address size) .null size released buffer.descriptor buffer.data)

include h

/-- Both ways lead to the same bytes. -/
theorem view_eq_data (haddress : address ≠ 0) : buffer.view = buffer.data := by
  rw [view, BufferDescriptor.data]
  by_cases hreleased : released
  · rw [(h.gone hreleased).1, (h.gone hreleased).2]
    rfl
  · obtain ⟨hdescriptor, hsize⟩ := h.kept hreleased
    rw [hdescriptor, shown, ← hsize]
    exact visible_size haddress buffer.data

/-- Items lie where the descriptor shows them, except for items larger than a byte after a
release. -/
theorem liesAt_iff (haddress : address ≠ 0) (halign : bufferAlign ∣ address.toNat)
    (type : ItemType) :
    type.liesAt buffer.descriptor.start = true ↔ ¬ (released ∧ 1 < type.size) := by
  rw [BufferDescriptor.start, ItemType.liesAt, beq_iff_eq]
  by_cases hreleased : released
  · rw [(h.gone hreleased).1, and_iff_right hreleased]
    cases type <;> decide
  · have hdivides : type.size ∣ bufferAlign := by
      cases type <;> decide
    rw [(h.kept hreleased).1, shown, visibleStart_natCast haddress]
    exact iff_of_true (Nat.mod_eq_zero_of_dvd (Nat.dvd_trans hdivides halign))
      fun hboth => hreleased hboth.1

end

theorem allocate_eq_ok (address : Address) {size : Nat} (hsize : size ≤ signedMax) :
    allocate address size = .ok ⟨shown address size, ⟨Bytes.zeros size, bufferAlign⟩⟩ := by
  have hlayout : validLayout size bufferAlign = true := by
    rw [validLayout, Bool.and_eq_true, decide_eq_true_eq]
    exact ⟨by decide, Nat.le_trans hsize (by decide)⟩
  rw [allocate, descriptorSize, if_pos hsize]
  dsimp only
  rw [Block.allocate_eq_ok hlayout]
  rfl

/-! ## The law -/

/-- How a buffer is used in the two ways, released or not. -/
structure TwoViews (released : Prop) (buffer : Buffer) : Prop where
  sizeInBytes_eq : buffer.descriptor.sizeInBytes = buffer.data.size
  robustnessSize_eq : buffer.descriptor.robustnessSize = buffer.data.size
  address_eq_zero_iff : buffer.descriptor.address = 0 ↔ released
  data_of_released : released → buffer.data = #[]
  /-- Read are the values that have these bytes. -/
  readItems_eq_ok_iff : ∀ type values, buffer.readItems type = .ok values
    ↔ (∀ v ∈ values, type.holds v = true) ∧ type.encodeAll values = buffer.data
  readItems_eq_error_iff : ∀ type fault, buffer.readItems type = .error fault
    ↔ buffer.data.size % type.size ≠ 0 ∧ fault = .unevenItems
  /-- The same values in both ways. -/
  viewItems_eq : ∀ type, ¬ (released ∧ 1 < type.size) →
    buffer.viewItems type = buffer.readItems type
  /-- Unless there are none, because the buffer is released, and they would be larger than
  bytes. -/
  views_of_released : ∀ type, released → 1 < type.size →
    buffer.readItems type = .ok [] ∧ buffer.viewItems type = .error .misaligned
  /-- Items are written over the front if there is room for them, and are found there. -/
  writeItems_eq_ok : ∀ type values, values.length * type.size ≤ buffer.data.size →
    ∃ after, buffer.writeItems type values = .ok after
      ∧ Overwritten buffer 0 (type.encodeAll values) after
      ∧ ((∀ v ∈ values, type.holds v = true) →
        ∀ all, after.readItems type = .ok all → values <+: all)
  writeItems_eq_error : ∀ type values, buffer.data.size < values.length * type.size →
    buffer.writeItems type values = .error .outOfRange
  /-- Through the descriptor they are written if it shows items, and as many. -/
  writeView_succeeds_iff : ∀ type start values,
    (∃ after, buffer.writeView type start values = .ok after) ↔ ¬ (released ∧ 1 < type.size)
      ∧ buffer.data.size % type.size = 0 ∧ (start + values.length) * type.size ≤ buffer.data.size
  overwritten_of_writeView : ∀ type start values after,
    buffer.writeView type start values = .ok after →
    Overwritten buffer (start * type.size) (type.encodeAll values) after
  /-- The front is written alike in both ways. -/
  writeItems_of_writeView : ∀ type values after, buffer.writeView type 0 values = .ok after →
    buffer.writeItems type values = .ok after
  perform_of_error : ∀ action fault, (buffer.perform action).1 = .error fault →
    (buffer.perform action).2 = buffer
  release_of_released : released → buffer.release = buffer

/-- Items that were written over the front are found there. -/
theorem isPrefix_of_written (hwritten : Overwritten buffer 0 (type.encodeAll values) after)
    (hvalues : ∀ v ∈ values, type.holds v = true) {all : List Int}
    (hread : after.readItems type = .ok all) : values <+: all := by
  have hsize := type.size_encodeAll values
  refine ItemType.isPrefix_of_decodeAll hvalues ?_ hread
  apply List.ext_getElem?
  intro index
  -- the bytes of the items are those that were written, and there are no others to compare
  by_cases hindex : index < values.length * type.size
  · have hbyte := hwritten.getElem?_eq index
    rw [if_pos (Nat.zero_le index), Nat.sub_zero] at hbyte
    rw [List.getElem?_take_of_lt hindex, Array.getElem?_toList, Array.getElem?_toList, hbyte,
      Array.getElem?_eq_getElem (hsize.symm ▸ hindex), Option.some_or]
  · rw [List.getElem?_eq_none (by rw [List.length_take]; omega),
      List.getElem?_eq_none (by rw [Array.length_toList]; omega)]

theorem twoViews_of_standing {address : Address} {size : Nat} {released : Prop}
    (h : Standing (shown address size) .null size released buffer.descriptor buffer.data)
    (haddress : address ≠ 0) (halign : bufferAlign ∣ address.toNat) :
    TwoViews released buffer where
  sizeInBytes_eq := by
    by_cases hreleased : released
    · rw [(h.gone hreleased).1, (h.gone hreleased).2]
      rfl
    · rw [(h.kept hreleased).1, (h.kept hreleased).2]
      rfl
  robustnessSize_eq := by
    by_cases hreleased : released
    · rw [(h.gone hreleased).1, (h.gone hreleased).2]
      rfl
    · rw [(h.kept hreleased).1, (h.kept hreleased).2]
      rfl
  address_eq_zero_iff := by
    by_cases hreleased : released
    · rw [(h.gone hreleased).1]
      exact iff_of_true rfl hreleased
    · rw [(h.kept hreleased).1]
      exact iff_of_false haddress hreleased
  data_of_released hreleased := (h.gone hreleased).2
  readItems_eq_ok_iff _ _ := ItemType.decodeAll_eq_ok_iff
  readItems_eq_error_iff _ _ := ItemType.decodeAll_eq_error_iff
  viewItems_eq type hplace := by
    rw [viewItems, if_pos ((liesAt_iff h haddress halign type).mpr hplace), view_eq_data h haddress]
    rfl
  views_of_released type hreleased hlarge := by
    have hnowhere : ¬ type.liesAt buffer.descriptor.start = true := fun hlies =>
      (liesAt_iff h haddress halign type).mp hlies ⟨hreleased, hlarge⟩
    rw [readItems, viewItems, if_neg hnowhere, ItemType.decodeAll_eq_ok_iff,
      (h.gone hreleased).2]
    exact ⟨⟨nofun, rfl⟩, rfl⟩
  writeItems_eq_ok type values hroom := by
    have hwrite : buffer.writeItems type values
        = .ok (buffer.overwrite (type.encodeAll values)) := by
      rw [writeItems_eq, if_pos hroom]
    have hwritten := overwritten_of_writeItems hwrite
    exact ⟨_, hwrite, hwritten, fun hvalues _ => isPrefix_of_written hwritten hvalues⟩
  writeItems_eq_error type values hlong := by
    rw [writeItems_eq, if_neg (Nat.not_le.mpr hlong)]
  writeView_succeeds_iff type start values := by
    rw [← liesAt_iff h haddress halign type, ← Nat.le_div_iff_mul_le type.size_pos,
      ← view_eq_data h haddress]
    constructor
    · rintro ⟨after, hafter⟩
      exact (writeView_eq_ok_iff.mp hafter).1
    · intro hshown
      exact ⟨_, writeView_eq_ok_iff.mpr ⟨hshown, rfl⟩⟩
  overwritten_of_writeView _ _ _ _ := overwritten_of_writeView
  writeItems_of_writeView type values after hafter := by
    obtain ⟨⟨-, -, hroom⟩, rfl⟩ := writeView_eq_ok_iff.mp hafter
    rw [Nat.zero_add, Nat.le_div_iff_mul_le type.size_pos, view_eq_data h haddress] at hroom
    rw [writeItems_eq, if_pos hroom, overwriteAt, Nat.zero_mul, overwrite]
  perform_of_error _ _ := perform_of_error
  release_of_released hreleased := by
    obtain ⟨hnull, hempty⟩ := h.gone hreleased
    rw [release, Block.release, ← hnull, ← hempty]
    rfl

/-- **Two views of the same bytes.** A buffer of any size that a descriptor can name can be had,
and whatever is then done to it, in either way and with items of any types, both ways find the same
length and the same items, until it is released; and then still the same bytes, but no larger
items through the descriptor. -/
theorem twoViews_performAll (address : Address) (size : Nat) (haddress : address ≠ 0)
    (halign : bufferAlign ∣ address.toNat) (hsize : size ≤ signedMax) :
    ∃ buffer, allocate address size = .ok buffer ∧ buffer.data = Bytes.zeros size
      ∧ ∀ actions, TwoViews (.release ∈ actions) (buffer.performAll actions) := by
  refine ⟨_, allocate_eq_ok address hsize, rfl, fun actions => ?_⟩
  exact twoViews_of_standing (Standing.foldl descriptor data
    (fun buffer _ hkept => buffer.frame_perform hkept) (fun _ => ⟨rfl, rfl⟩) (.of_zeros _ _ _)
    actions) haddress halign

/-- A negative item over the front, and an item of another type through the descriptor. -/
theorem twoViews_performAll_mixed :
    let actions : List Action := [.write .i16 [-2, 300, 5], .writeView .u32 1 [7]]
    ∃ buffer, allocate 4096 8 = .ok buffer
      ∧ TwoViews (.release ∈ actions) (buffer.performAll actions)
      ∧ (buffer.performAll actions).viewItems .u16 = .ok [65534, 300, 7, 0] := by
  intro actions
  obtain ⟨buffer, hallocate, -, hviews⟩ :=
    twoViews_performAll 4096 8 (by decide) (by decide) (by decide)
  refine ⟨buffer, hallocate, hviews actions, ?_⟩
  rw [allocate_eq_ok 4096 (by decide)] at hallocate
  cases hallocate
  decide

/-- After a release a buffer can be read as no items of four bytes, and its descriptor cannot. -/
theorem views_differ_released : ∃ buffer, allocate 4096 8 = .ok buffer
    ∧ (buffer.performAll [.release]).readItems .u32 = .ok []
    ∧ (buffer.performAll [.release]).viewItems .u32 = .error .misaligned :=
  ⟨_, allocate_eq_ok 4096 (by decide), rfl, rfl⟩

end Buffer

end GridDispatch
