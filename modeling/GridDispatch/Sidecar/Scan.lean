/-
Scanning a sidecar text.

The text is read once from left to right, and the first problem met is the answer.
Each scanner takes the characters that are left and answers what it read and what
is left then. Names and string values are decoded; whatever belongs to members that
nobody asked for is skipped by a loop over single steps (`step`), which keeps the
brackets that are still open. In a skipped string escapes need not stand for
characters.
-/
import GridDispatch.Sidecar.Problem

set_option autoImplicit false

namespace GridDispatch

namespace Sidecar

/-- What is read, and the characters after it. -/
abbrev Scanned (α : Type) := Except Problem (α × List Char)

/-- Whether a character is white space between tokens. -/
def isBlank (c : Char) : Bool :=
  c == ' ' || c == '\n' || c == '\t' || c == '\r'

def skipBlank : List Char → List Char
  | [] => []
  | c :: rest => if isBlank c then skipBlank rest else c :: rest

/-- Reads the given characters; a text that ends first is truncated. -/
def expectChars : List Char → List Char → Except Problem (List Char)
  | [], text => .ok text
  | _ :: _, [] => .error .truncated
  | wanted :: more, c :: text => if c == wanted then expectChars more text else .error .malformed

/-! ## Strings -/

def hexValue? (c : Char) : Option Nat :=
  if '0' ≤ c && c ≤ '9' then some (c.toNat - 48)
  else if 'a' ≤ c && c ≤ 'f' then some (c.toNat - 87)
  else if 'A' ≤ c && c ≤ 'F' then some (c.toNat - 55)
  else none

def hexNumber? (a b c d : Char) : Option Nat := do
  let a ← hexValue? a
  let b ← hexValue? b
  let c ← hexValue? c
  let d ← hexValue? d
  return 4096 * a + 256 * b + 16 * c + d

/-- What is wrong with an escape that has no four characters left: the text is truncated
if not even four bytes of it are left. -/
def shortEscape (text : List Char) : Problem :=
  if text.foldr (fun c bytes => c.utf8Size + bytes) 0 < 4 then .truncated else .malformed

/-- The character that a letter after a backslash stands for. -/
def escaped? : Char → Option Char
  | '"' => some '"'
  | '\\' => some '\\'
  | '/' => some '/'
  | 'b' => some '\x08'
  | 'f' => some '\x0c'
  | 'n' => some '\n'
  | 'r' => some '\r'
  | 't' => some '\t'
  | _ => none

/-- Whether a number is the first half of a pair that stands for one character. -/
def isHighHalf (n : Nat) : Bool :=
  0xD800 ≤ n && n ≤ 0xDBFF

/-- Whether a number is the second half of such a pair. -/
def isLowHalf (n : Nat) : Bool :=
  0xDC00 ≤ n && n ≤ 0xDFFF

/-- What is wrong where the second half of a pair should stand. -/
def brokenPair (text : List Char) : Problem :=
  match text with
  | [] => .truncated
  | '\\' :: [] => .truncated
  | '\\' :: 'u' :: rest => shortEscape rest
  | _ => .malformed

/-- Puts a character in front of what was read. -/
def prepend (c : Char) : Scanned (List Char) → Scanned (List Char)
  | .error problem => .error problem
  | .ok (chars, rest) => .ok (c :: chars, rest)

/-- Reads a string after its opening quote, and decodes it. -/
def readString : List Char → Scanned (List Char)
  | [] => .error .truncated
  | '"' :: rest => .ok ([], rest)
  | '\\' :: 'u' :: a :: b :: c :: d :: '\\' :: 'u' :: e :: f :: g :: h :: rest =>
    match hexNumber? a b c d with
    | none => .error .malformed
    | some high =>
      if isHighHalf high then
        match hexNumber? e f g h with
        | none => .error .malformed
        | some low =>
          if isLowHalf low then
            prepend (Char.ofNat (0x10000 + 1024 * (high - 0xD800) + (low - 0xDC00)))
              (readString rest)
          else .error .malformed
      else if isLowHalf high then .error .malformed
      else prepend (Char.ofNat high) (readString ('\\' :: 'u' :: e :: f :: g :: h :: rest))
  | '\\' :: 'u' :: a :: b :: c :: d :: rest =>
    match hexNumber? a b c d with
    | none => .error .malformed
    | some number =>
      if isHighHalf number then .error (brokenPair rest)
      else if isLowHalf number then .error .malformed
      else prepend (Char.ofNat number) (readString rest)
  | '\\' :: 'u' :: rest => .error (shortEscape rest)
  | '\\' :: c :: rest =>
    match escaped? c with
    | none => .error .malformed
    | some meant => prepend meant (readString rest)
  | '\\' :: [] => .error .truncated
  | c :: rest => if c.toNat < 32 then .error .malformed else prepend c (readString rest)

def skipString : List Char → Except Problem (List Char)
  | [] => .error .truncated
  | '"' :: rest => .ok rest
  | '\\' :: 'u' :: a :: b :: c :: d :: rest =>
    match hexNumber? a b c d with
    | none => .error .malformed
    | some _ => skipString rest
  | '\\' :: 'u' :: rest => .error (shortEscape rest)
  | '\\' :: c :: rest =>
    match escaped? c with
    | none => .error .malformed
    | some _ => skipString rest
  | '\\' :: [] => .error .truncated
  | c :: rest => if c.toNat < 32 then .error .malformed else skipString rest

/-! ## Skipped numbers -/

def skipDigits : List Char → List Char
  | [] => []
  | c :: rest => if c.isDigit then skipDigits rest else c :: rest

/-- Skips digits, of which there must be one. -/
def skipDigits1 : List Char → Except Problem (List Char)
  | c :: rest => if c.isDigit then .ok (skipDigits rest) else .error .malformed
  | [] => .error .malformed

def skipExponent : List Char → Except Problem (List Char)
  | '+' :: rest => skipDigits1 rest
  | '-' :: rest => skipDigits1 rest
  | text => skipDigits1 text

/-- Skips the exponent of a number, if it has one. -/
def skipExponent? : List Char → Except Problem (List Char)
  | 'e' :: rest => skipExponent rest
  | 'E' :: rest => skipExponent rest
  | text => .ok text

/-- Skips what may follow the whole part of a number. -/
def skipFraction? : List Char → Except Problem (List Char)
  | '.' :: rest =>
    match skipDigits1 rest with
    | .error problem => .error problem
    | .ok rest => skipExponent? rest
  | text => skipExponent? text

/-- Skips a number without its sign. Only a number of one digit can start with zero. -/
def skipNumber : List Char → Except Problem (List Char)
  | '0' :: c :: rest => if c.isDigit then .error .malformed else skipFraction? (c :: rest)
  | '0' :: [] => .ok []
  | c :: rest => if c.isDigit then skipFraction? (skipDigits rest) else .error .malformed
  | [] => .error .malformed

/-! ## Skipped values -/

/-- A bracket that is still open. -/
inductive Bracket where
  | list
  | object
deriving DecidableEq, Repr

/-- What a skipped value needs next. -/
inductive Need where
  | value
  | name
  /-- A comma or a closing bracket, after a value. -/
  | next
deriving DecidableEq, Repr

/-- What is left to skip, or nothing if the value is complete. -/
abbrev Pending := Option (Need × List Bracket)

def scalarDone (open_ : List Bracket) (scanned : Except Problem (List Char)) : Scanned Pending :=
  match scanned with
  | .error problem => .error problem
  | .ok rest => .ok (some (.next, open_), rest)

def step (need : Need) (open_ : List Bracket) (text : List Char) : Scanned Pending :=
  match need with
  | .value =>
    match skipBlank text with
    | [] => .error .truncated
    | 'n' :: rest => scalarDone open_ (expectChars ['u', 'l', 'l'] rest)
    | 't' :: rest => scalarDone open_ (expectChars ['r', 'u', 'e'] rest)
    | 'f' :: rest => scalarDone open_ (expectChars ['a', 'l', 's', 'e'] rest)
    | '-' :: rest => scalarDone open_ (skipNumber rest)
    | '"' :: rest => scalarDone open_ (skipString rest)
    | '[' :: rest =>
      match skipBlank rest with
      | ']' :: rest => .ok (some (.next, open_), rest)
      | rest => .ok (some (.value, .list :: open_), rest)
    | '\x7b' :: rest =>
      match skipBlank rest with
      | '\x7d' :: rest => .ok (some (.next, open_), rest)
      | rest => .ok (some (.name, .object :: open_), rest)
    | c :: rest =>
      if c.isDigit then scalarDone open_ (skipNumber (c :: rest)) else .error .malformed
  | .name =>
    match skipBlank text with
    | [] => .error .truncated
    | '"' :: rest =>
      match skipString rest with
      | .error problem => .error problem
      | .ok rest =>
        match skipBlank rest with
        | [] => .error .truncated
        | ':' :: rest => .ok (some (.value, open_), rest)
        | _ => .error .malformed
    | _ => .error .malformed
  | .next =>
    match open_ with
    | [] => .ok (none, text)
    | bracket :: outer =>
      match skipBlank text with
      | [] => .error .truncated
      | ',' :: rest =>
        match bracket with
        | .list => .ok (some (.value, open_), rest)
        | .object => .ok (some (.name, open_), rest)
      | ']' :: rest =>
        match bracket with
        | .list => .ok (some (.next, outer), rest)
        | .object => .error .malformed
      | '\x7d' :: rest =>
        match bracket with
        | .list => .error .malformed
        | .object => .ok (some (.next, outer), rest)
      | _ => .error .malformed

/-- Skips until the value is complete. Every step takes characters away, which is
checked to keep the loop finite. -/
def skip (need : Need) (open_ : List Bracket) (text : List Char) : Except Problem (List Char) :=
  match step need open_ text with
  | .error problem => .error problem
  | .ok (none, rest) => .ok rest
  | .ok (some (need, open_), rest) =>
    if _shorter : rest.length < text.length then skip need open_ rest else .error .malformed
termination_by text.length

def skipValue (text : List Char) : Except Problem (List Char) :=
  skip .value [] text

end Sidecar

end GridDispatch
