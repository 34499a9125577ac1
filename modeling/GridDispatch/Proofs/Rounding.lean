/-
Rounding up, without bits.

`alignUp` adds one less than the alignment and masks the bits below it. For a power of two that
is a quotient rounded up and multiplied out again (`roundUp`), as long as the sum is a word; and
it has no other answers (`alignUp_eq_ok_iff`). So whoever rounds up can forget the mask.
-/
import GridDispatch.Arith.Align
import GridDispatch.Storage.Layout
import Mathlib.Data.Nat.Bitwise

set_option autoImplicit false

namespace GridDispatch

theorem le_roundUp {align : Nat} (halign : 0 < align) (size : Nat) : size ≤ roundUp size align := by
  have hdiv := Nat.div_add_mod (size + align - 1) align
  have hmod := Nat.mod_lt (size + align - 1) halign
  rw [Nat.mul_comm] at hdiv
  rw [roundUp]
  omega

theorem isPowerOfTwo_iff {n : Nat} : isPowerOfTwo n = true ↔ ∃ k, n = 2 ^ k := by
  rw [isPowerOfTwo, Bool.and_eq_true, bne_iff_ne, beq_iff_eq]
  exact Nat.ne_zero_and_sub_one_eq_zero_iff_isPowerOfTwo

/-- The mask clears the bits below the alignment. -/
theorem and_word_sub {n k : Nat} (hn : n < word) (hk : 2 ^ k < word) :
    n &&& (word - 2 ^ k) = n / 2 ^ k * 2 ^ k := by
  have hword : word = 2 ^ 64 := rfl
  rw [hword] at hn hk ⊢
  apply Nat.eq_of_testBit_eq
  intro i
  have hmask : (2 ^ 64 - 2 ^ k).testBit i = (decide (i < 64) && decide (k ≤ i)) := by
    have hpos : 0 < 2 ^ k := Nat.two_pow_pos k
    have hlow := Nat.testBit_two_pow_sub_succ (Nat.lt_of_le_of_lt (Nat.sub_le (2 ^ k) 1) hk) i
    rw [Nat.sub_add_cancel hpos, Nat.testBit_two_pow_sub_one] at hlow
    rw [hlow, ← decide_not]
    simp only [Nat.not_lt]
  rw [Nat.testBit_and, hmask, Nat.testBit_mul_two_pow, Nat.testBit_div_two_pow]
  by_cases hki : k ≤ i
  · rw [Nat.sub_add_cancel hki]
    by_cases hi : i < 64
    · simp [hki, hi]
    · -- there are no bits up there
      have hzero : n.testBit i = false :=
        Nat.testBit_lt_two_pow (Nat.lt_of_lt_of_le hn (Nat.pow_le_pow_right (by decide) (by omega)))
      simp [hzero]
  · simp [hki]

/-- **The answers of rounding up.** -/
theorem alignUp_eq_ok_iff {size align rounded : Nat} : alignUp size align = .ok rounded ↔
    isPowerOfTwo align = true ∧ size + align < word ∧ roundUp size align = rounded := by
  rw [alignUp]
  by_cases hpower : isPowerOfTwo align = true
  · rw [if_pos hpower, and_iff_right hpower]
    by_cases hfits : size + align < word
    · obtain ⟨k, rfl⟩ := isPowerOfTwo_iff.mp hpower
      rw [Checked.add_eq_ok hfits, and_iff_right hfits]
      have hpos : 0 < 2 ^ k := Nat.two_pow_pos k
      dsimp only
      rw [and_word_sub (by omega) (by omega), Except.ok.injEq, roundUp]
    · rw [Checked.add_eq_error (Nat.not_lt.mp hfits)]
      exact ⟨nofun, fun h => absurd h.1 hfits⟩
  · rw [if_neg hpower]
    exact ⟨nofun, fun h => absurd h.1 hpower⟩

end GridDispatch
