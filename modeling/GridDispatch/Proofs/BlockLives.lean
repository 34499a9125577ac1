/-
Blocks over their lives.

A block gets longer and is never cut, except to nothing when it is released. How long it is after
a history follows from the lengths that were reserved: those that the block was asked for, and for
which it did not fault (`reserved`). The block is as long as the longest of them, or as it was at
first (`size_performAll`), and a release starts that over.

What carries all of it is that a block can exist: its alignment is a power of two, and its length
is within what can be allocated (`Valid`). A block that was made is of this kind, and stays so, as
an action either leaves the length alone, or takes a length that has passed the same check. So the
check that is made once more when memory is given back (`giveBack`) does not fail.
-/
import GridDispatch.Proofs.RingWindow
import GridDispatch.Storage.Block

set_option autoImplicit false

namespace GridDispatch

namespace Block

/-! ## Blocks that can exist -/

/-- The length of the longest block of an alignment. -/
def largest (align : Nat) : Nat :=
  Ring.halfWord - align

/-- A block that can exist. -/
structure Valid (block : Block) : Prop where
  isPowerOfTwo : isPowerOfTwo block.align = true
  size_le : block.size ≤ largest block.align

/-- A block that was made in one of the ways there are. -/
inductive Made : Block → Prop where
  | allocated {length align : Nat} {block : Block} : allocate length align = .ok block → Made block
  | empty {align : Nat} {block : Block} : empty align = .ok block → Made block
  | initial : Made initial

/-- Gives the memory of a block back, which is looked at as it was when it was allocated. There is
none if the block is empty. -/
def giveBack (block : Block) : Except Fault Unit :=
  if block.size = 0 then .ok ()
  else if validLayout block.size block.align then .ok ()
  else .error (.invalidAllocation block.size block.align)

/-- A release with everything that is checked: an empty block is made in place of this one, and
then the memory is given back. -/
def releaseChecked (block : Block) : Except Fault Block :=
  empty block.align >>= fun after => block.giveBack >>= fun _ => .ok after

section

variable {block : Block} {length align : Nat}

theorem validLayout_iff : validLayout length align = true
    ↔ isPowerOfTwo align = true ∧ length ≤ largest align := by
  rw [validLayout, Bool.and_eq_true, decide_eq_true_eq, largest]

theorem empty_eq (halign : isPowerOfTwo align = true) : empty align = .ok ⟨#[], align⟩ :=
  if_pos halign

theorem valid_of_empty (h : empty align = .ok block) : block.Valid := by
  obtain ⟨halign, rfl⟩ := Checked.ite_eq_ok_iff.mp h
  exact ⟨halign, Nat.zero_le _⟩

theorem valid_of_allocate (h : allocate length align = .ok block) : block.Valid := by
  rw [allocate] at h
  split at h
  · exact valid_of_empty h
  · obtain ⟨hlayout, rfl⟩ := Checked.ite_eq_ok_iff.mp h
    obtain ⟨halign, hle⟩ := validLayout_iff.mp hlayout
    refine ⟨halign, ?_⟩
    rwa [size, Bytes.size_zeros]

theorem Made.valid (h : block.Made) : block.Valid := by
  cases h with
  | allocated h => exact valid_of_allocate h
  | empty h => exact valid_of_empty h
  | initial => exact ⟨by decide, Nat.zero_le _⟩

namespace Valid

variable (h : block.Valid)

include h

theorem giveBack_eq : block.giveBack = .ok () := by
  rw [giveBack, validLayout_iff.mpr ⟨h.isPowerOfTwo, h.size_le⟩, if_pos rfl, ite_self]

theorem releaseChecked_eq : block.releaseChecked = .ok block.release := by
  rw [releaseChecked, empty_eq h.isPowerOfTwo, h.giveBack_eq]
  rfl

/-! ## One action -/

/-- A longer block takes the place of this one if it can exist. -/
theorem apply_reserve (length : Nat) : block.apply (.reserve length)
    = if length ≤ block.size then (.ok (some false), block)
      else if length ≤ largest block.align then
        (.ok (some true), ⟨Bytes.zeros length, block.align⟩)
      else (.error (.invalidAllocation length block.align), block) := by
  rw [apply, reserve]
  by_cases hshort : length ≤ block.size
  · simp only [if_pos hshort]
  · have hpos : length ≠ 0 := by omega
    rw [if_neg hshort, if_neg hshort, allocate, if_neg hpos]
    by_cases hle : length ≤ largest block.align
    · rw [validLayout_iff.mpr ⟨h.isPowerOfTwo, hle⟩, if_pos rfl, if_pos hle]
    · have hlayout : ¬ validLayout length block.align = true :=
        fun hvalid => hle (validLayout_iff.mp hvalid).2
      rw [if_neg hlayout, if_neg hle]

theorem apply (action : Action) :
    (block.apply action).2.Valid ∧ (block.apply action).2.align = block.align := by
  cases action with
  | reserve length =>
      rw [h.apply_reserve]
      split
      · exact ⟨h, rfl⟩
      · split
        · next hle => exact ⟨⟨h.isPowerOfTwo, by rwa [size, Bytes.size_zeros]⟩, rfl⟩
        · exact ⟨h, rfl⟩
  | setByte index byte =>
      rw [Block.apply, setByte]
      by_cases hindex : index < block.size
      · rw [if_pos hindex]
        exact ⟨⟨h.isPowerOfTwo, by rw [size, Array.size_setIfInBounds]; exact h.size_le⟩, rfl⟩
      · rw [if_neg hindex]
        exact ⟨h, rfl⟩
  | fill byte =>
      refine ⟨⟨h.isPowerOfTwo, ?_⟩, rfl⟩
      rw [Block.apply, fill, size, Array.size_replicate]
      exact h.size_le
  | release => exact ⟨⟨h.isPowerOfTwo, Nat.zero_le _⟩, rfl⟩

end Valid

/-- An action that faults leaves the block. -/
theorem apply_of_error {action : Action} {fault : Fault}
    (h : (block.apply action).1 = .error fault) : (block.apply action).2 = block := by
  cases action with
  | reserve length =>
      rw [apply] at h ⊢
      split at h
      · rfl
      · cases h
  | setByte index byte =>
      rw [apply] at h ⊢
      split at h
      · rfl
      · cases h
  | fill byte => cases h
  | release => cases h

end

/-! ## Histories -/

/-- The block after actions, one after another. -/
def performAll (block : Block) (actions : List Action) : Block :=
  actions.foldl (fun block action => (block.apply action).2) block

/-- The length that was reserved by an action with this answer, if any was. -/
def reservedBy : Action → Except Fault (Option Bool) → Option Nat
  | .reserve length, .ok _ => some length
  | _, _ => none

/-- The lengths that are reserved by actions, one after another. -/
def reserved (block : Block) : List Action → List Nat
  | [] => []
  | action :: rest =>
    (reservedBy action (block.apply action).1).toList ++ (block.apply action).2.reserved rest

section

variable {block : Block}

theorem performAll_append (block : Block) (actions others : List Action) :
    block.performAll (actions ++ others) = (block.performAll actions).performAll others :=
  List.foldl_append

theorem Valid.performAll (h : block.Valid) (actions : List Action) :
    (block.performAll actions).Valid ∧ (block.performAll actions).align = block.align := by
  induction actions generalizing block with
  | nil => exact ⟨h, rfl⟩
  | cons action rest ih =>
      obtain ⟨hvalid, halign⟩ := h.apply action
      obtain ⟨hafter, hkept⟩ := ih hvalid
      exact ⟨hafter, hkept.trans halign⟩

/-- Short of a release, a block is longer after an action if so much was reserved. -/
theorem Valid.size_apply (h : block.Valid) {action : Action} (hkept : action ≠ .release) :
    (block.apply action).2.size
      = (reservedBy action (block.apply action).1).toList.foldl max block.size := by
  cases action with
  | reserve length =>
      rw [h.apply_reserve]
      split
      · next hshort => exact (Nat.max_eq_left hshort).symm
      · next hlong =>
          split
          · rw [size, Bytes.size_zeros]
            exact (Nat.max_eq_right (Nat.le_of_not_le hlong)).symm
          · rfl
  | setByte index byte =>
      rw [Block.apply, setByte]
      by_cases hindex : index < block.size
      · rw [if_pos hindex]
        exact Array.size_setIfInBounds
      · rw [if_neg hindex]
        rfl
  | fill byte => exact Array.size_replicate
  | release => exact absurd rfl hkept

/-- Short of a release, a block is as long as the longest of what was reserved, if it was not longer
before. -/
theorem Valid.size_performAll (h : block.Valid) {actions : List Action}
    (hkept : .release ∉ actions) :
    (block.performAll actions).size = (block.reserved actions).foldl max block.size := by
  induction actions generalizing block with
  | nil => rfl
  | cons action rest ih =>
      rw [List.mem_cons, not_or] at hkept
      rw [reserved, List.foldl_append, ← h.size_apply (Ne.symm hkept.1)]
      exact ih (h.apply action).1 hkept.2

end

/-! ## The law -/

/-- What has become of a block after a history, and what comes of the next action. -/
structure Lives (block : Block) (actions : List Action) : Prop where
  align_eq : (block.performAll actions).align = block.align
  /-- The block is as long as the longest of what was reserved, or as it was at first. -/
  size_of_kept : .release ∉ actions →
    (block.performAll actions).size = (block.reserved actions).foldl max block.size
  /-- If it was released, only what was reserved since then counts. -/
  size_of_released : ∀ earlier later, actions = earlier ++ .release :: later → .release ∉ later →
    (block.performAll actions).size
      = ((block.performAll (earlier ++ [.release])).reserved later).foldl max 0
  /-- A length is reserved if it can be. The block is replaced by one of zeros if it is shorter, and
  otherwise left, as it is by a fault. -/
  reserve_eq : ∀ length, (block.performAll actions).apply (.reserve length)
    = if length ≤ (block.performAll actions).size then
        (.ok (some false), block.performAll actions)
      else if length ≤ Ring.halfWord - block.align then
        (.ok (some true), ⟨Bytes.zeros length, block.align⟩)
      else (.error (.invalidAllocation length block.align), block.performAll actions)
  of_error : ∀ action fault, ((block.performAll actions).apply action).1 = .error fault →
    ((block.performAll actions).apply action).2 = block.performAll actions
  /-- The memory can be given back at any time, and so the block be released. -/
  giveBack_eq : (block.performAll actions).giveBack = .ok ()
  releaseChecked_eq : (block.performAll actions).releaseChecked = .ok ⟨#[], block.align⟩

/-- **Blocks.** Whatever is done to a block that was made, it keeps its alignment and is as long as
the longest of what was reserved since it was made or last released. A longer one is all zero, a
length that cannot be had changes nothing, and the block can be given back. -/
theorem lives_of_made {block : Block} (h : block.Made) (actions : List Action) :
    block.Lives actions := by
  obtain ⟨hvalid, halign⟩ := h.valid.performAll actions
  refine ⟨halign, h.valid.size_performAll, ?_, fun length => ?_, fun _ _ => apply_of_error,
    hvalid.giveBack_eq, ?_⟩
  · rintro earlier later rfl hkept
    have hsplit : earlier ++ .release :: later = earlier ++ [.release] ++ later :=
      List.append_cons earlier .release later
    have hempty : (block.performAll (earlier ++ [.release])).size = 0 := by
      rw [performAll_append]
      rfl
    have hreleased := (h.valid.performAll (earlier ++ [.release])).1
    rw [hsplit, performAll_append, hreleased.size_performAll hkept, hempty]
  · rw [hvalid.apply_reserve, halign, largest]
  · rw [hvalid.releaseChecked_eq, release, halign]

/-- A block is filled, grown, asked for more than can be had, released and grown again. -/
theorem lives_of_made_regrown :
    let actions : List Action := [.fill 7, .reserve 3, .reserve 6, .reserve Ring.halfWord,
      .setByte 5 1, .setByte 6 1, .release, .reserve 2, .reserve 1]
    ∃ block, allocate 4 16 = .ok block ∧ block.Made ∧ block.Lives actions
      ∧ block.reserved actions = [3, 6, 2, 1]
      ∧ (block.performAll (actions.take 6)).bytes = #[0, 0, 0, 0, 0, 1]
      ∧ (block.performAll actions).bytes = #[0, 0] := by
  have hblock : allocate 4 16 = .ok ⟨Bytes.zeros 4, 16⟩ := by decide
  refine ⟨_, hblock, .allocated hblock, lives_of_made (.allocated hblock) _, ?_, ?_, ?_⟩
  · decide +kernel
  · decide +kernel
  · decide +kernel

end Block

end GridDispatch
