/-
Numbers in a sidecar text.

A number is a count if it is written with digits only and fits 64 bits, a negative
number if a sign comes first and it fits 64 signed bits, and a double otherwise; so
`-0` is a double, and so are digits that do not fit. Doubles are computed from the
first digits that fit 64 bits and a power of ten, in double arithmetic; the further
digits only count towards the power. A double that would be infinite is no number.
-/
import GridDispatch.Arith.Checked
import GridDispatch.Sidecar.Scan

set_option autoImplicit false

namespace GridDispatch

namespace Sidecar

/-- A number as it is written. -/
inductive Number where
  | count (value : Nat)
  | negative (value : Int)
  | float (value : Float)

def digitValue (c : Char) : Nat :=
  c.toNat - 48

/-- Reads digits as long as the number stays below the limit. The answer is the number,
how many digits were read, and the rest, which starts with a digit only if the next
one would have gone beyond the limit. -/
def readDigits (limit : Nat) (number read : Nat) : List Char → Nat × Nat × List Char
  | [] => (number, read, [])
  | c :: rest =>
    if c.isDigit && number * 10 + digitValue c < limit then
      readDigits limit (number * 10 + digitValue c) (read + 1) rest
    else
      (number, read, c :: rest)

def startsWithDigit : List Char → Bool
  | [] => false
  | c :: _ => c.isDigit

/-! ## Doubles -/

/-- The greatest power of ten that is a double. -/
def maxPower : Nat := 308

def powerOfTen (exponent : Nat) : Float :=
  Float.ofScientific 1 false exponent

/-- Divides by a power of ten, in steps if the power is no double. -/
def scaleDown (value : Float) (exponent : Nat) : Float :=
  if _small : exponent ≤ maxPower then value / powerOfTen exponent
  else if value == 0.0 then value
  else scaleDown (value / powerOfTen maxPower) (exponent - maxPower)
termination_by exponent
decreasing_by
  unfold maxPower at *
  omega

/-- The double `significand * 10^exponent` with a sign. -/
def makeFloat (positive : Bool) (significand : Nat) (exponent : Int) : Except Problem Number :=
  let value := significand.toUInt64.toFloat
  let scaled :=
    if exponent < 0 then some (scaleDown value exponent.natAbs)
    else if exponent.toNat ≤ maxPower then
      let product := value * powerOfTen exponent.toNat
      if product.isInf then none else some product
    else if value == 0.0 then some value
    else none
  match scaled with
  | none => .error .malformed
  | some value => .ok (.float (if positive then value else -value))

def exponentLimit : Nat := 2147483648

def clampExponent (exponent : Int) : Int :=
  max (-2147483648) (min 2147483647 exponent)

/-- Reads the digits of an exponent and completes the number. -/
def finishExponent (positive : Bool) (significand : Nat) (exponent : Int) (up : Bool)
    (text : List Char) : Scanned Number :=
  match text with
  | [] => .error .truncated
  | c :: _ =>
    if c.isDigit then
      let (size, _, rest) := readDigits exponentLimit 0 0 text
      if startsWithDigit rest then
        if significand ≠ 0 && up then .error .malformed
        else .ok (.float (if positive then 0.0 else -0.0), skipDigits rest)
      else
        let total := clampExponent (if up then exponent + size else exponent - size)
        match makeFloat positive significand total with
        | .error problem => .error problem
        | .ok number => .ok (number, rest)
    else
      .error .malformed

/-- Completes a number after the letter of its exponent. -/
def readExponent (positive : Bool) (significand : Nat) (exponent : Int) :
    List Char → Scanned Number
  | '+' :: rest => finishExponent positive significand exponent true rest
  | '-' :: rest => finishExponent positive significand exponent false rest
  | text => finishExponent positive significand exponent true text

def finishFloat (positive : Bool) (significand : Nat) (exponent : Int) (text : List Char) :
    Scanned Number :=
  match text with
  | 'e' :: rest => readExponent positive significand exponent rest
  | 'E' :: rest => readExponent positive significand exponent rest
  | rest =>
    match makeFloat positive significand exponent with
    | .error problem => .error problem
    | .ok number => .ok (number, rest)

/-- Reads the digits after the point, of which there must be one. -/
def readFraction (positive : Bool) (significand : Nat) (exponent : Int) (text : List Char) :
    Scanned Number :=
  if startsWithDigit text then
    let (number, read, rest) := readDigits word significand 0 text
    finishFloat positive number (exponent - read) (skipDigits rest)
  else
    match text with
    | [] => .error .truncated
    | _ => .error .malformed

/-- Completes a number of digits that did not all fit: the rest only count. -/
def readLong (positive : Bool) (significand : Nat) (text : List Char) : Scanned Number :=
  let rest := skipDigits text
  let exponent : Int := (text.length - rest.length : Nat)
  match rest with
  | '.' :: rest => readFraction positive significand exponent rest
  | rest => finishFloat positive significand exponent rest

/-- The number of digits without point or exponent. -/
def wholeNumber (positive : Bool) (value : Nat) : Number :=
  if positive then .count value
  else if value = 0 || 9223372036854775808 < value then .float (-value.toUInt64.toFloat)
  else .negative (-(value : Int))

/-- Completes a number after the digits of its whole part. -/
def finishNumber (positive : Bool) (value : Nat) : List Char → Scanned Number
  | '.' :: rest => readFraction positive value 0 rest
  | 'e' :: rest => readExponent positive value 0 rest
  | 'E' :: rest => readExponent positive value 0 rest
  | rest => .ok (wholeNumber positive value, rest)

/-- Reads a number without its sign. Only a number of one digit can start with zero. -/
def readUnsigned (positive : Bool) (text : List Char) : Scanned Number :=
  match text with
  | [] => .error .truncated
  | '0' :: rest => if startsWithDigit rest then .error .malformed else finishNumber positive 0 rest
  | c :: _ =>
    if c.isDigit then
      let (value, _, rest) := readDigits word 0 0 text
      if startsWithDigit rest then readLong positive value rest
      else finishNumber positive value rest
    else
      .error .malformed

def readNumber (text : List Char) : Scanned Number :=
  match text with
  | '-' :: rest => readUnsigned false rest
  | text => readUnsigned true text

def Number.found : Number → Found
  | .count value => .integer value
  | .negative value => .integer value
  | .float value => .float value

end Sidecar

end GridDispatch
