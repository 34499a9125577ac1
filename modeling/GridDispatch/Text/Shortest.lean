/-
Shortest decimals for doubles.

A finite double stands for `m * 2^q` with natural `m`, and for every real number that
is rounded to it: those between half a step below and half a step above, the ends
included if `m` is even. The shortest decimal is sought grid by grid, for one digit,
two digits, and so on up to seventeen: of the two points of the grid next to the
value, those that lie in the interval are hits, and the first grid with a hit gives
the digits, by the nearer of two. All of it is arithmetic on natural numbers.

How the digits are laid out, where positional notation ends and how an exponent is
written, is not decided here but by a `Layout`.
-/

set_option autoImplicit false

namespace GridDispatch

namespace Shortest

/-- A non-negative rational number, `num / den`. -/
structure Ratio where
  num : Nat
  den : Nat
deriving DecidableEq, Repr

/-- `digits * 10^exponent`, without trailing zeros in the digits. -/
structure Decimal where
  digits : Nat
  exponent : Int
deriving DecidableEq, Repr

namespace Ratio

/-- `m * 2^q`. -/
def ofBinary (m : Nat) (q : Int) : Ratio :=
  ⟨m <<< q.toNat, 1 <<< (-q).toNat⟩

/-- `digits * 10^exponent`. -/
def ofDecimal (digits : Nat) (exponent : Int) : Ratio :=
  ⟨digits * Nat.pow 10 exponent.toNat, Nat.pow 10 (-exponent).toNat⟩

def less (a b : Ratio) : Bool :=
  a.num * b.den < b.num * a.den

def distance (a b : Ratio) : Ratio :=
  ⟨a.num * b.den - b.num * a.den + (b.num * a.den - a.num * b.den), a.den * b.den⟩

/-- The greatest natural number that is not above. -/
def floor (a : Ratio) : Nat :=
  a.num / a.den

end Ratio

/-- The reals that round to a double: the value and the two ends. -/
structure Interval where
  value : Ratio
  low : Ratio
  high : Ratio
  closed : Bool

/-- The interval of `m * 2^q`. At a power of two the step below is half as long,
except at the bottom of the range. -/
def interval (m : Nat) (q : Int) : Interval :=
  let narrow := m == 1 <<< 52 && -1074 < q
  ⟨.ofBinary m q, .ofBinary (4 * m - (if narrow then 1 else 2)) (q - 2),
    .ofBinary (4 * m + 2) (q - 2), m % 2 == 0⟩

def Interval.contains (i : Interval) (a : Ratio) : Bool :=
  if i.closed then !a.less i.low && !i.high.less a else i.low.less a && a.less i.high

def digitCount (n : Nat) : Nat :=
  (Nat.toDigits 10 n).length

/-- The least `k` with the value below `10^k`. -/
def magnitude (a : Ratio) : Int :=
  if a.den ≤ a.num then digitCount a.floor
  else
    let low := digitCount (a.den / a.num) - 1
    if a.den ≤ a.num * Nat.pow 10 low then 1 - low else -low

/-- The points of the grid with so many digits next to the value that lie in the
interval; the nearer one first. -/
def hit? (i : Interval) (k : Int) (count : Nat) : Option Decimal :=
  let exponent := k - count
  let scaled : Ratio :=
    ⟨i.value.num * Nat.pow 10 (-exponent).toNat, i.value.den * Nat.pow 10 exponent.toNat⟩
  let below := scaled.floor
  let a := Ratio.ofDecimal below exponent
  let b := Ratio.ofDecimal (below + 1) exponent
  match below != 0 && i.contains a, i.contains b with
  | true, true =>
    if (b.distance i.value).less (a.distance i.value) then some ⟨below + 1, exponent⟩
    else some ⟨below, exponent⟩
  | true, false => some ⟨below, exponent⟩
  | false, true => some ⟨below + 1, exponent⟩
  | false, false => none

/-- Removes trailing zeros, at most so many. -/
def strip : Nat → Decimal → Decimal
  | 0, d => d
  | count + 1, d =>
    if d.digits % 10 == 0 && d.digits != 0 then strip count ⟨d.digits / 10, d.exponent + 1⟩ else d

/-- The shortest decimal of `m * 2^q`, for a positive `m`. -/
def ofBinary (m : Nat) (q : Int) : Decimal :=
  let i := interval m q
  let k := magnitude i.value
  match (List.range' 1 17).findSome? (hit? i k) with
  | some decimal => strip 20 decimal
  | none => ⟨0, 0⟩

/-! ## Texts -/

/-- How digits are laid out. -/
structure Layout where
  /-- Positional notation is used from this exponent of the first digit on. -/
  least : Int
  /-- Positional notation is used up to this exponent of the first digit. -/
  greatest : Int
  /-- The least number of digits of an exponent. -/
  exponentDigits : Nat
  /-- Whether exponents that are not negative carry a sign. -/
  plus : Bool
deriving DecidableEq, Repr

def zeros (count : Nat) : String :=
  String.ofList (List.replicate count '0')

def Layout.write (layout : Layout) (d : Decimal) : String :=
  let digits := toString d.digits
  let count : Int := digits.length
  let first := d.exponent + count - 1
  if layout.least ≤ first && first ≤ layout.greatest then
    if 0 ≤ d.exponent then digits ++ zeros d.exponent.toNat ++ ".0"
    else if 0 ≤ first then
      let whole := (first + 1).toNat
      String.ofList (digits.toList.take whole) ++ "." ++ String.ofList (digits.toList.drop whole)
    else "0." ++ zeros (-first - 1).toNat ++ digits
  else
    let mantissa :=
      match digits.toList with
      | [] => ""
      | [digit] => String.ofList [digit]
      | digit :: rest => String.ofList (digit :: '.' :: rest)
    let size := toString first.natAbs
    let sign := if first < 0 then "-" else if layout.plus then "+" else ""
    mantissa ++ "e" ++ sign ++ zeros (layout.exponentDigits - size.length) ++ size

def Layout.writeFloat (layout : Layout) (value : Float) : String :=
  let bits := value.toBits.toNat
  let sign := if bits < 1 <<< 63 then "" else "-"
  let fraction := bits % (1 <<< 52)
  let exponent : Nat := (bits >>> 52) % (1 <<< 11)
  let digits :=
    if exponent = 0 then
      if fraction = 0 then "0.0" else layout.write (ofBinary fraction (-1074))
    else layout.write (ofBinary (fraction + 1 <<< 52) ((exponent : Int) - 1075))
  sign ++ digits

end Shortest

end GridDispatch
