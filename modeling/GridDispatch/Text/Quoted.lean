/-
Quoted texts, as diagnostics show them.

A text is written between double quotes. Quotes, backslashes and the usual control
characters are escaped by a letter; every other character that cannot be printed on
its own, which includes marks that combine with the character before them, is written
by its number.
-/
import GridDispatch.Text.Printable

set_option autoImplicit false

namespace GridDispatch

namespace Text

def hexDigits (n : Nat) : List Char :=
  Nat.toDigits 16 n

def quotedChar (c : Char) : List Char :=
  if c == '"' then ['\\', '"']
  else if c == '\\' then ['\\', '\\']
  else if c == '\n' then ['\\', 'n']
  else if c == '\r' then ['\\', 'r']
  else if c == '\t' then ['\\', 't']
  else if c == '\x00' then ['\\', '0']
  else if isPrintable c then [c]
  else ['\\', 'u', '\x7b'] ++ hexDigits c.toNat ++ ['\x7d']

def quoted (text : List Char) : String :=
  String.ofList ('"' :: text.flatMap quotedChar ++ ['"'])

end Text

end GridDispatch
