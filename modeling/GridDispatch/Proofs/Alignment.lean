/-
Aligned sizes.

Rounding up is three operations on words: add the alignment, take one off, clear the bits below.
What comes out is the least multiple of the alignment that the size fits in
(`isLeast_roundUp`), and everything one expects of rounding up follows from that. What can go wrong
is the first operation only, whose sum may be no word; so sizes close to the end of the words are
not rounded at all, though some of them are multiples of the alignment already.

Three places round up. Two of them have made sure of the size before: a descriptor set that is long
enough lies in memory, and an image fits its descriptor. Nobody has looked at the workgroup memory
that a program asks for, and there rounding fails as it can.
-/
import GridDispatch.Proofs.Acceptance
import GridDispatch.Proofs.Images
import Mathlib.Order.Bounds.Basic

set_option autoImplicit false

namespace GridDispatch

/-! ## The least multiple -/

section

variable {size align : Nat}

theorem dvd_roundUp (size align : Nat) : align ∣ roundUp size align :=
  Dvd.intro_left _ rfl

theorem roundUp_lt (halign : 0 < align) : roundUp size align < size + align := by
  have hle : roundUp size align ≤ size + align - 1 := Nat.div_mul_le_self _ _
  omega

/-- Rounding up gives the least of the multiples that the size fits in. -/
theorem isLeast_roundUp (halign : 0 < align) :
    IsLeast {multiple | align ∣ multiple ∧ size ≤ multiple} (roundUp size align) := by
  refine ⟨⟨dvd_roundUp size align, le_roundUp halign size⟩, ?_⟩
  rintro _ ⟨⟨count, rfl⟩, hsize⟩
  -- less than the multiple after this one, and so at most this one
  have hnext : size + align - 1 < (count + 1) * align := by
    rw [Nat.succ_mul, Nat.mul_comm count]
    omega
  have hcount : (size + align - 1) / align ≤ count :=
    Nat.le_of_lt_succ ((Nat.div_lt_iff_lt_mul halign).mpr hnext)
  rw [roundUp, Nat.mul_comm align]
  exact Nat.mul_le_mul_right align hcount

theorem roundUp_eq_self (halign : 0 < align) (h : align ∣ size) : roundUp size align = size :=
  (isLeast_roundUp halign).unique ⟨⟨h, Nat.le_refl size⟩, fun _ hmultiple => hmultiple.2⟩

/-- What fits in no more than another size is rounded to no more. -/
theorem roundUp_mono (halign : 0 < align) {larger : Nat} (h : size ≤ larger) :
    roundUp size align ≤ roundUp larger align :=
  (isLeast_roundUp halign).2 ⟨dvd_roundUp larger align, Nat.le_trans h (le_roundUp halign larger)⟩

end

/-! ## With words -/

/-- Rounding up as it is done with words. -/
def maskUp (size align : BitVec 64) : BitVec 64 :=
  (size + align - 1) &&& ~~~(align - 1)

section

variable {size align : Nat}

theorem alignUp_eq_ite (halign : isPowerOfTwo align = true) (size : Nat) : alignUp size align
    = if size + align < word then .ok (roundUp size align) else .error (.arithmetic .add) := by
  by_cases hfits : size + align < word
  · rw [if_pos hfits]
    exact alignUp_eq_ok_iff.mpr ⟨halign, hfits, rfl⟩
  · rw [if_neg hfits, alignUp, if_pos halign, Checked.add_eq_error (Nat.not_lt.mp hfits)]

/-- The words are those of the numbers as long as the sum is one. -/
theorem toNat_maskUp (hpos : 0 < align) (hfits : size + align < word) :
    (maskUp (BitVec.ofNat 64 size) (BitVec.ofNat 64 align)).toNat
      = (size + align - 1) &&& (word - align) := by
  have hword : word = 2 ^ 64 := rfl
  have hone : (1 : BitVec 64).toNat = 1 := rfl
  rw [hword] at hfits ⊢
  have hsize : (BitVec.ofNat 64 size).toNat = size := by
    rw [BitVec.toNat_ofNat, Nat.mod_eq_of_lt (by omega)]
  have halign : (BitVec.ofNat 64 align).toNat = align := by
    rw [BitVec.toNat_ofNat, Nat.mod_eq_of_lt (by omega)]
  have hsum : (BitVec.ofNat 64 size + BitVec.ofNat 64 align - 1).toNat = size + align - 1 := by
    rw [BitVec.toNat_sub, BitVec.toNat_add, hsize, halign, hone]
    omega
  have hmask : (~~~(BitVec.ofNat 64 align - 1)).toNat = 2 ^ 64 - align := by
    rw [BitVec.toNat_not, BitVec.toNat_sub, halign, hone]
    omega
  rw [maskUp, BitVec.toNat_and, hsum, hmask]

end

/-! ## Who rounds up -/

section

variable {ρ σ : Type} {threads setLength : Nat} {info : ProgramInfo} {grid : Coord}

/-- A descriptor set that lies in memory is rounded up. -/
theorem alignUp_setSize {accepted : Nat × Nat} (hlength : setLength < Ring.halfWord)
    (haccept : Context.accept threads info setLength grid = .ok accepted) :
    alignUp info.setSize memoryAlign = .ok (roundUp info.setSize memoryAlign) := by
  have hset : info.setSize ≤ setLength := by
    unfold Context.accept at haccept
    split at haccept
    · cases haccept
    · split at haccept
      · cases haccept
      · next hlong => exact Nat.not_lt.mp hlong
  rw [alignUp_eq_ite (by decide), if_pos]
  exact Nat.lt_trans (Nat.add_lt_add_right (Nat.lt_of_le_of_lt hset hlength) _) (by decide)

/-- And so are the pixels of an image that fits its descriptor. -/
theorem alignUp_pixels {width height pixels : Nat}
    (hpixels : Image.pixelBytes width height = .ok pixels) :
    alignUp pixels memoryAlign = .ok (roundUp pixels memoryAlign) := by
  have hle : pixels ≤ signedMax := by
    unfold Image.pixelBytes at hpixels
    split at hpixels
    · cases hpixels
    · obtain ⟨hle, rfl⟩ := Checked.ite_eq_ok_iff.mp hpixels
      exact hle
  rw [alignUp_eq_ite (by decide), if_pos]
  exact Nat.lt_of_le_of_lt (Nat.add_le_add_right hle _) (by decide)

/-- Workgroup memory that cannot be rounded up is not reserved. -/
theorem Run.reserveMemory_of_overflow (run : Run ρ σ) {size : Nat}
    (hsize : word ≤ size + memoryAlign) :
    run.reserveMemory size = (.error (.arithmetic .add), run) := by
  have hround : alignUp size memoryAlign = .error (.arithmetic .add) := by
    rw [alignUp_eq_ite (by decide), if_neg (Nat.not_lt.mpr hsize)]
  rw [Run.reserveMemory, hround]

end

/-! ## The law -/

/-- What rounding up to an alignment answers. -/
structure Rounds (align : Nat) : Prop where
  /-- The least multiple that the size fits in, if their sum is a word. -/
  eq_ok_iff : ∀ size rounded, alignUp size align = .ok rounded
    ↔ size + align < word
      ∧ IsLeast {multiple | align ∣ multiple ∧ size ≤ multiple} rounded
  eq_error_iff : ∀ size fault, alignUp size align = .error fault
    ↔ word ≤ size + align ∧ fault = .arithmetic .add
  masked : ∀ size rounded, alignUp size align = .ok rounded →
    (maskUp (BitVec.ofNat 64 size) (BitVec.ofNat 64 align)).toNat = rounded
  /-- What was rounded up stays as it is, or is too close to the end of the words by now. -/
  again : ∀ size rounded, alignUp size align = .ok rounded → alignUp rounded align
    = if rounded + align < word then .ok rounded else .error (.arithmetic .add)
  mono : ∀ size larger rounded further, size ≤ larger → alignUp size align = .ok rounded →
    alignUp larger align = .ok further → rounded ≤ further
  added_lt : ∀ size rounded, alignUp size align = .ok rounded →
    size ≤ rounded ∧ rounded - size < align

/-- Which sizes are rounded up where. -/
structure RoundsSizes (ρ σ : Type) : Prop where
  setSize : ∀ threads info setLength grid accepted, setLength < Ring.halfWord →
    Context.accept threads info setLength grid = .ok accepted →
    alignUp info.setSize memoryAlign = .ok (roundUp info.setSize memoryAlign)
  pixels : ∀ width height pixels, Image.pixelBytes width height = .ok pixels →
    alignUp pixels memoryAlign = .ok (roundUp pixels memoryAlign)
  memory : ∀ (run : Run ρ σ) size, word ≤ size + memoryAlign →
    run.reserveMemory size = (.error (.arithmetic .add), run)

theorem rounds_of_isPowerOfTwo {align : Nat} (halign : isPowerOfTwo align = true) :
    Rounds align := by
  obtain ⟨k, rfl⟩ := isPowerOfTwo_iff.mp halign
  have hpos : 0 < 2 ^ k := Nat.two_pow_pos k
  refine ⟨fun size rounded => ?_, fun size fault => ?_, fun size rounded hround => ?_,
    fun size rounded hround => ?_, fun size larger rounded further hle hround hfurther => ?_,
    fun size rounded hround => ?_⟩
  · rw [alignUp_eq_ok_iff, and_iff_right halign]
    refine and_congr_right fun _ => ⟨?_, fun hleast => (isLeast_roundUp hpos).unique hleast⟩
    rintro rfl
    exact isLeast_roundUp hpos
  · rw [alignUp_eq_ite halign]
    split
    · next hfits => exact ⟨nofun, fun h => absurd h.1 (Nat.not_le.mpr hfits)⟩
    · next hlong =>
        rw [Except.error.injEq, eq_comm, and_iff_right (Nat.not_lt.mp hlong)]
  · obtain ⟨-, hfits, rfl⟩ := alignUp_eq_ok_iff.mp hround
    rw [toNat_maskUp hpos hfits, and_word_sub (by omega) (by omega), roundUp]
  · obtain ⟨-, -, rfl⟩ := alignUp_eq_ok_iff.mp hround
    rw [alignUp_eq_ite halign, roundUp_eq_self hpos (dvd_roundUp size _)]
  · obtain ⟨-, -, rfl⟩ := alignUp_eq_ok_iff.mp hround
    obtain ⟨-, -, rfl⟩ := alignUp_eq_ok_iff.mp hfurther
    exact roundUp_mono hpos hle
  · obtain ⟨-, -, rfl⟩ := alignUp_eq_ok_iff.mp hround
    have hle := le_roundUp hpos size
    have hlt : roundUp size (2 ^ k) < size + 2 ^ k := roundUp_lt hpos
    omega

/-- **Rounding up.** To a power of two, a size is rounded up to the least multiple that it fits in
if and only if the size and the alignment together are a word, and faults in their sum otherwise.
A descriptor set and an image always are rounded up; workgroup memory may be too large for it. -/
theorem roundsUp (ρ σ : Type) : (∀ k, Rounds (2 ^ k)) ∧ RoundsSizes ρ σ := by
  refine ⟨fun k => rounds_of_isPowerOfTwo (isPowerOfTwo_iff.mpr ⟨k, rfl⟩), ?_, ?_, ?_⟩
  · intro threads info setLength grid accepted hlength haccept
    exact alignUp_setSize hlength haccept
  · intro width height pixels hpixels
    exact alignUp_pixels hpixels
  · intro run size hsize
    exact run.reserveMemory_of_overflow hsize

-- a multiple of the alignment, and still too close to the end
example : alignUp 9223372036854775807 9223372036854775808 = .ok 9223372036854775808
    ∧ alignUp 9223372036854775808 9223372036854775808 = .error (.arithmetic .add) := by
  decide +kernel

end GridDispatch
