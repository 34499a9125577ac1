/-
Texts for bytes: two hexadecimal digits a byte, and a 64-bit digest for blocks
that are too long to print.
-/
import GridDispatch.Bytes.Basic

set_option autoImplicit false

namespace GridDispatch

namespace Hex

/-- The lower-case digit of a number below sixteen. -/
def digit (value : Nat) : Char :=
  if value < 10 then Char.ofNat (48 + value) else Char.ofNat (87 + value)

/-- The value of a hexadecimal digit of either case. -/
def digit? (c : Char) : Option Nat :=
  if '0' ≤ c && c ≤ '9' then some (c.toNat - 48)
  else if 'a' ≤ c && c ≤ 'f' then some (c.toNat - 87)
  else if 'A' ≤ c && c ≤ 'F' then some (c.toNat - 55)
  else none

def encode (bytes : Bytes) : String :=
  String.ofList
    (bytes.toList.flatMap fun byte => [digit (byte.toNat / 16), digit (byte.toNat % 16)])

/-- The bytes that pairs of digits stand for. -/
def decodeChars : List Char → Option (List UInt8)
  | [] => some []
  | high :: low :: rest => do
    let h ← digit? high
    let l ← digit? low
    let bytes ← decodeChars rest
    return UInt8.ofNat (16 * h + l) :: bytes
  | [_] => none

/-- The block that a text of digits stands for. -/
def decode (text : String) : Option Bytes :=
  (decodeChars text.toList).map List.toArray

end Hex

/-- The FNV-1a digest of a block: xor in a byte, multiply, modulo the word. -/
def digest (bytes : Bytes) : UInt64 :=
  bytes.foldl (fun hash byte => (hash ^^^ byte.toUInt64) * 0x100000001b3) 0xcbf29ce484222325

def digestText (value : UInt64) : String :=
  Hex.encode (littleEndian 8 value.toNat).reverse.toArray

end GridDispatch
