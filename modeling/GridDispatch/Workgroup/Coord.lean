/-
Coordinates of a three-dimensional grid.

Grids, workgroups and invocations are named by three numbers. A coordinate inside a
grid has one linear index, with `x` varying fastest; `Coord.linear` and
`Coord.ofLinear` are the two directions.
-/

set_option autoImplicit false

namespace GridDispatch

/-- A position in a grid, or the size of one. -/
structure Coord where
  x : Nat
  y : Nat
  z : Nat
deriving DecidableEq, Repr, Inhabited

namespace Coord

def toList (c : Coord) : List Nat :=
  [c.x, c.y, c.z]

/-- The number of positions in a grid of this size. -/
def volume (size : Coord) : Nat :=
  size.x * size.y * size.z

/-- Whether a position lies in a grid of this size. -/
def inside (c size : Coord) : Prop :=
  c.x < size.x ∧ c.y < size.y ∧ c.z < size.z

instance (c size : Coord) : Decidable (c.inside size) :=
  inferInstanceAs (Decidable (_ ∧ _))

/-- The linear index of a position in a grid of this size. -/
def linear (size c : Coord) : Nat :=
  c.x + size.x * (c.y + size.y * c.z)

/-- The position with a linear index, found from the slowest number to the fastest. -/
def ofLinear (size : Coord) (index : Nat) : Coord :=
  let z := index / (size.x * size.y)
  let within := index - z * size.x * size.y
  let y := within / size.x
  ⟨within - y * size.x, y, z⟩

def text (c : Coord) : String :=
  "[" ++ toString c.x ++ ", " ++ toString c.y ++ ", " ++ toString c.z ++ "]"

end Coord

/-- Four numbers that programs read as one vector. -/
structure Quad where
  coord : Coord
  w : Nat
deriving DecidableEq, Repr, Inhabited

namespace Quad

/-- The vector of a coordinate; the last number is zero. -/
def ofCoord (c : Coord) : Quad := ⟨c, 0⟩

def toList (q : Quad) : List Nat :=
  q.coord.toList ++ [q.w]

end Quad

end GridDispatch
