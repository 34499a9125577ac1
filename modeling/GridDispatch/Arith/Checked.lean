/-
Checked arithmetic.

Quantities are natural numbers; the word they have to fit is named at each
operation that could leave it. There are two words: `word`, for sizes, lengths and
counts, and `lane`, for everything a coroutine computes about its invocations.
An operation that stays inside its word is the operation on natural numbers, which
is what the lemmas below say; so a proof about a checked expression first shows
that no step leaves the word and is then ordinary arithmetic.
-/
import GridDispatch.Fault

set_option autoImplicit false

namespace GridDispatch

/-- One more than the largest size, length or count. -/
abbrev word : Nat := 18446744073709551616

/-- One more than the largest value of a lane's arithmetic. -/
abbrev lane : Nat := 4294967296

/-- The largest value of the signed 32-bit fields that programs read. -/
abbrev signedMax : Nat := 2147483647

namespace Checked

/-- The sum, unless it leaves the word. -/
def add (limit a b : Nat) : Except Fault Nat :=
  if a + b < limit then .ok (a + b) else .error (.arithmetic .add)

/-- The difference, unless it would be less than zero. -/
def sub (a b : Nat) : Except Fault Nat :=
  if b ≤ a then .ok (a - b) else .error (.arithmetic .sub)

/-- The product, unless it leaves the word. -/
def mul (limit a b : Nat) : Except Fault Nat :=
  if a * b < limit then .ok (a * b) else .error (.arithmetic .mul)

/-- The quotient, unless the divisor is zero. -/
def div (a b : Nat) : Except Fault Nat :=
  if b = 0 then .error (.arithmetic .div) else .ok (a / b)

/-- The remainder, unless the divisor is zero. -/
def rem (a b : Nat) : Except Fault Nat :=
  if b = 0 then .error (.arithmetic .rem) else .ok (a % b)

/-- The product of a list from the left, every partial product checked. -/
def product (limit : Nat) (factors : List Nat) : Except Fault Nat :=
  factors.foldlM (mul limit) 1

/-! ## Where an operation answers -/

theorem add_eq_ok {limit a b : Nat} (h : a + b < limit) : add limit a b = .ok (a + b) :=
  if_pos h

theorem add_eq_error {limit a b : Nat} (h : limit ≤ a + b) :
    add limit a b = .error (.arithmetic .add) :=
  if_neg (Nat.not_lt.mpr h)

theorem sub_eq_ok {a b : Nat} (h : b ≤ a) : sub a b = .ok (a - b) :=
  if_pos h

theorem mul_eq_ok {limit a b : Nat} (h : a * b < limit) : mul limit a b = .ok (a * b) :=
  if_pos h

theorem mul_eq_error {limit a b : Nat} (h : limit ≤ a * b) :
    mul limit a b = .error (.arithmetic .mul) :=
  if_neg (Nat.not_lt.mpr h)

theorem div_eq_ok {a b : Nat} (h : 0 < b) : div a b = .ok (a / b) :=
  if_neg (Nat.pos_iff_ne_zero.mp h)

theorem rem_eq_ok {a b : Nat} (h : 0 < b) : rem a b = .ok (a % b) :=
  if_neg (Nat.pos_iff_ne_zero.mp h)

/-! ## What an answer says -/

theorem ite_eq_ok_iff {α : Type} {condition : Prop} [Decidable condition] {a value : α}
    {fault : Fault} :
    (if condition then .ok a else .error fault : Except Fault α) = .ok value
      ↔ condition ∧ a = value := by
  by_cases h : condition
  · rw [if_pos h, Except.ok.injEq, and_iff_right h]
  · rw [if_neg h]
    exact ⟨nofun, fun hvalue => absurd hvalue.1 h⟩

theorem add_eq_ok_iff {limit a b value : Nat} :
    add limit a b = .ok value ↔ a + b < limit ∧ a + b = value :=
  ite_eq_ok_iff

theorem mul_eq_ok_iff {limit a b value : Nat} :
    mul limit a b = .ok value ↔ a * b < limit ∧ a * b = value :=
  ite_eq_ok_iff

/-- An expression answers if its parts do. -/
theorem bind_eq_ok_iff {α β : Type} {part : Except Fault α} {rest : α → Except Fault β}
    {value : β} : part >>= rest = .ok value ↔ ∃ a, part = .ok a ∧ rest a = .ok value := by
  cases part with
  | error fault => exact ⟨nofun, fun ⟨_, hpart, _⟩ => nomatch hpart⟩
  | ok a =>
      constructor
      · intro h
        exact ⟨a, rfl, h⟩
      · rintro ⟨_, hpart, h⟩
        cases hpart
        exact h

end Checked

/-- Answers that are all good ones, in a list. -/
theorem mapM_eq_ok {α β : Type} {f : α → Except Fault β} {g : α → β} {list : List α}
    (h : ∀ a ∈ list, f a = .ok (g a)) : list.mapM f = .ok (list.map g) := by
  induction list with
  | nil => rfl
  | cons first rest ih =>
      have hfirst : f first = .ok (g first) := h first List.mem_cons_self
      have hrest := ih fun a ha => h a (List.mem_cons_of_mem _ ha)
      rw [List.mapM_cons, hfirst, hrest]
      rfl

end GridDispatch
