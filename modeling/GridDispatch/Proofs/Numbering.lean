/-
The numbering of a grid.

A position inside a grid has a linear number, its `x` varying fastest, and a number below the
volume belongs to a position. Both directions are exact: the three coordinates are a remainder,
the remainder of a quotient and a quotient, and nothing is lost between them. So the positions
inside a grid and the numbers below its volume are in bijection
(`linear_ofLinear`, `ofLinear_linear`, `inside_ofLinear`, `linear_lt_volume`).

`Coord.ofLinear` finds the coordinates from the slowest to the fastest and takes away what each
of them accounts for. `ofLinear_eq` gives the form with remainders, which the lanes of a
workgroup use, and it is the only place where the two are compared.
-/
import GridDispatch.Workgroup.Coord
import Mathlib.Data.List.Nodup
import Mathlib.Data.List.Range

set_option autoImplicit false

namespace GridDispatch

namespace Coord

variable {size c : Coord} {index : Nat}

/-! ## The two forms of decoding -/

/-- Decoding from the slowest coordinate down is decoding by remainders. -/
theorem ofLinear_eq (size : Coord) (index : Nat) :
    ofLinear size index
      = ⟨index % size.x, index / size.x % size.y, index / (size.x * size.y)⟩ := by
  have hwithin : index - index / (size.x * size.y) * size.x * size.y
      = index % (size.x * size.y) := by
    rw [Nat.mul_assoc, ← Nat.mod_eq_sub_div_mul]
  have hrow : index % (size.x * size.y) / size.x = index / size.x % size.y :=
    Nat.mod_mul_right_div_self _ _ _
  have hcolumn : index % (size.x * size.y) - index / size.x % size.y * size.x
      = index % size.x := by
    rw [← hrow, ← Nat.mod_eq_sub_div_mul, Nat.mod_mul_right_mod]
  simp only [ofLinear, hwithin, hrow, hcolumn]

/-! ## Bounds -/

/-- A digit below its radix, in front of a number below a bound. -/
theorem add_mul_lt {digit radix rest bound : Nat} (hdigit : digit < radix) (hrest : rest < bound) :
    digit + radix * rest < radix * bound := by
  have hnext : radix * (rest + 1) ≤ radix * bound := Nat.mul_le_mul_left radix hrest
  rw [Nat.mul_succ] at hnext
  omega

theorem linear_lt_volume (h : c.inside size) : size.linear c < size.volume := by
  obtain ⟨hx, hy, hz⟩ := h
  have hrow : c.y + size.y * c.z < size.y * size.z := add_mul_lt hy hz
  have hlinear : c.x + size.x * (c.y + size.y * c.z) < size.x * (size.y * size.z) :=
    add_mul_lt hx hrow
  rw [volume, Nat.mul_assoc]
  exact hlinear

/-- A grid with a position in it has no side of length zero. -/
theorem sides_pos_of_volume_pos (h : 0 < size.volume) : 0 < size.x ∧ 0 < size.y ∧ 0 < size.z := by
  have hlayer : 0 < size.x * size.y := Nat.pos_of_mul_pos_right h
  exact ⟨Nat.pos_of_mul_pos_right hlayer, Nat.pos_of_mul_pos_left hlayer,
    Nat.pos_of_mul_pos_left h⟩

theorem inside_ofLinear (h : index < size.volume) : (ofLinear size index).inside size := by
  obtain ⟨hx, hy, -⟩ := sides_pos_of_volume_pos (Nat.zero_lt_of_lt h)
  rw [ofLinear_eq]
  exact ⟨Nat.mod_lt _ hx, Nat.mod_lt _ hy, Nat.div_lt_of_lt_mul h⟩

/-! ## There and back -/

theorem linear_ofLinear (size : Coord) (index : Nat) :
    size.linear (ofLinear size index) = index := by
  have hlayer : index / (size.x * size.y) = index / size.x / size.y :=
    (Nat.div_div_eq_div_mul _ _ _).symm
  rw [ofLinear_eq, linear, hlayer, Nat.mod_add_div, Nat.mod_add_div]

theorem ofLinear_linear (h : c.inside size) : ofLinear size (size.linear c) = c := by
  obtain ⟨hx, hy, hz⟩ := h
  have hxpos : 0 < size.x := Nat.zero_lt_of_lt hx
  have hypos : 0 < size.y := Nat.zero_lt_of_lt hy
  have hrow : size.linear c / size.x = c.y + size.y * c.z := by
    rw [linear, Nat.add_mul_div_left _ _ hxpos, Nat.div_eq_of_lt hx, Nat.zero_add]
  have hcolumn : size.linear c % size.x = c.x := by
    rw [linear, Nat.add_mul_mod_self_left, Nat.mod_eq_of_lt hx]
  rw [ofLinear_eq, ← Nat.div_div_eq_div_mul, hrow, hcolumn, Nat.add_mul_mod_self_left,
    Nat.mod_eq_of_lt hy, Nat.add_mul_div_left _ _ hypos, Nat.div_eq_of_lt hy, Nat.zero_add]

/-- A position has a number exactly if decoding the number gives the position. -/
theorem inside_and_linear_eq_iff :
    c.inside size ∧ size.linear c = index ↔ index < size.volume ∧ ofLinear size index = c := by
  constructor
  · rintro ⟨hinside, rfl⟩
    exact ⟨linear_lt_volume hinside, ofLinear_linear hinside⟩
  · rintro ⟨hlt, rfl⟩
    exact ⟨inside_ofLinear hlt, linear_ofLinear size index⟩

/-! ## All positions -/

/-- The positions of a grid in the order of their numbers. -/
def all (size : Coord) : List Coord :=
  (List.range size.volume).map (ofLinear size)

theorem map_linear_all (size : Coord) : size.all.map size.linear = List.range size.volume := by
  rw [all, List.map_map]
  have hid : size.linear ∘ ofLinear size = id := funext fun index => linear_ofLinear size index
  rw [hid, List.map_id]

theorem nodup_all (size : Coord) : size.all.Nodup := by
  apply List.Nodup.of_map size.linear
  rw [map_linear_all]
  exact List.nodup_range

theorem mem_all : c ∈ size.all ↔ c.inside size := by
  rw [all, List.mem_map]
  constructor
  · rintro ⟨index, hindex, rfl⟩
    exact inside_ofLinear (List.mem_range.mp hindex)
  · intro hinside
    exact ⟨size.linear c, List.mem_range.mpr (linear_lt_volume hinside), ofLinear_linear hinside⟩

end Coord

end GridDispatch
