/-
Tokens of a declaration.

The text of an attribute or a type is split into identifiers, punctuation, literals
and groups in brackets. A punctuation character knows whether another one follows
directly, which is what makes two colons a path separator. Of literals only strings
are decoded. White space between tokens is dropped, and so are comments; but a comment
that is documentation stands for an attribute, and its tokens are those of the attribute.

Splitting works in two passes: `scan` splits the text into a flat list, in which
brackets are still single characters, and `nest` puts what stands between matching
brackets into groups. Either can find that the text is none.
-/
import GridDispatch.Declaration.Identifier
import GridDispatch.Text.Quoted

set_option autoImplicit false

namespace GridDispatch

namespace Declaration

/-- The kind of a bracket. -/
inductive Delimiter where
  | paren
  | square
  | brace
deriving DecidableEq, Repr

/-- What a literal is. -/
inductive Literal where
  /-- A string, decoded, and the suffix written after it. -/
  | string (value : List Char) (suffix : List Char)
  | number
  | other
deriving DecidableEq, Repr

/-- A token of the flat list. -/
inductive Flat where
  | ident (text : List Char)
  | punct (c : Char) (joint : Bool)
  | literal (text : List Char) (kind : Literal)
  | opening (delimiter : Delimiter)
  | closing (delimiter : Delimiter)
deriving DecidableEq, Repr

/-- A token. -/
inductive Token where
  | ident (text : List Char)
  /-- A punctuation character, and whether another follows directly. -/
  | punct (c : Char) (joint : Bool)
  | literal (text : List Char) (kind : Literal)
  | group (delimiter : Delimiter) (content : List Token)
deriving Repr

/-! ## Characters -/

def isWhite (c : Char) : Bool :=
  let n := c.toNat
  (9 ≤ n && n ≤ 13) || n == 32 || n == 0x85 || n == 0xA0 || n == 0x1680
    || (0x2000 ≤ n && n ≤ 0x200A) || n == 0x2028 || n == 0x2029 || n == 0x202F || n == 0x205F
    || n == 0x3000

/-- Whether a character separates tokens; two marks of direction do as well. A carriage return
does not on its own. -/
def isSeparator (c : Char) : Bool :=
  (isWhite c && c != '\r') || c.toNat == 0x200E || c.toNat == 0x200F

def isPunct (c : Char) : Bool :=
  "~!@#$%^&*-=+|;:,<.>/?'".toList.contains c

def squeeze (text : List Char) : List Char :=
  text.filter fun c => !isWhite c

/-! ## Comments -/

/-- The rest of a line, and the text from its end on. -/
def restOfLine : List Char → List Char × List Char
  | [] => ([], [])
  | '\n' :: rest => ([], '\n' :: rest)
  | '\r' :: '\n' :: rest => ([], '\n' :: rest)
  | c :: rest =>
    let (content, rest) := restOfLine rest
    (c :: content, rest)

/-- The rest of a block comment, which may contain others, of which so many are open, and the
text after it. -/
def restOfBlock : Nat → List Char → Option (List Char × List Char)
  | _, [] => none
  | depth, '/' :: '*' :: rest =>
    (restOfBlock (depth + 1) rest).map fun (content, rest) => ('/' :: '*' :: content, rest)
  | 0, '*' :: '/' :: rest => some ([], rest)
  | depth + 1, '*' :: '/' :: rest =>
    (restOfBlock depth rest).map fun (content, rest) => ('*' :: '/' :: content, rest)
  | depth, c :: rest =>
    (restOfBlock depth rest).map fun (content, rest) => (c :: content, rest)

/-- Whether a comment that goes on like this is documentation, and then whether of what it stands
in. One more of the mark that it begins with makes it documentation, two more do not. -/
def docMark? (mark : Char) : List Char → Option Bool
  | [] => none
  | '!' :: _ => some true
  | c :: rest => if c == mark && rest.head?.all (fun d => d != mark && d != '/') then some false
      else none

def hasLoneReturn : List Char → Bool
  | [] => false
  | '\r' :: '\n' :: rest => hasLoneReturn rest
  | c :: rest => c == '\r' || hasLoneReturn rest

/-- The attribute that documentation stands for. -/
def docTokens (inner : Bool) (content : List Char) : List Flat :=
  .punct '#' false :: (if inner then [.punct '!' false] else [])
    ++ [.opening .square, .ident "doc".toList, .punct '=' false,
      .literal (Text.quoted content).toList (.string content []), .closing .square]

/-- The tokens of a comment with this content, which `text` begins with. -/
def commentTokens (mark : Char) (text content : List Char) : Option (List Flat) :=
  match docMark? mark text with
  | none => some []
  | some inner => if hasLoneReturn content then none else some (docTokens inner (content.drop 1))

/-! ## Strings -/

def hexDigit? (c : Char) : Option Nat :=
  if '0' ≤ c && c ≤ '9' then some (c.toNat - 48)
  else if 'a' ≤ c && c ≤ 'f' then some (c.toNat - 87)
  else if 'A' ≤ c && c ≤ 'F' then some (c.toNat - 55)
  else none

/-- The character with this number, if there is one. -/
def char? (n : Nat) : Option Char :=
  if n < 0xD800 || (0xDFFF < n && n < 0x110000) then some (Char.ofNat n) else none

/-- Reads the hexadecimal number of a character up to its closing brace. -/
def hexEscape (number : Nat) : List Char → Option (Char × List Char)
  | [] => none
  | '\x7d' :: rest => (char? number).map fun c => (c, rest)
  | '_' :: rest => hexEscape number rest
  | c :: rest =>
    match hexDigit? c with
    | none => none
    | some digit => if number < 0x110000 then hexEscape (number * 16 + digit) rest else none

/-- What one or more characters of a string stand for. -/
inductive StringPart where
  | char (c : Char)
  /-- The end of a line that goes on in the next one. -/
  | continued
deriving DecidableEq, Repr

def stringEscape : List Char → Option (StringPart × List Char)
  | 'n' :: rest => some (.char '\n', rest)
  | 'r' :: rest => some (.char '\r', rest)
  | 't' :: rest => some (.char '\t', rest)
  | '0' :: rest => some (.char '\x00', rest)
  | '\\' :: rest => some (.char '\\', rest)
  | '\'' :: rest => some (.char '\'', rest)
  | '"' :: rest => some (.char '"', rest)
  | 'x' :: a :: b :: rest =>
    match hexDigit? a, hexDigit? b with
    | some high, some low =>
      if high < 8 then some (.char (Char.ofNat (16 * high + low)), rest) else none
    | _, _ => none
  | 'u' :: '\x7b' :: rest => (hexEscape 0 rest).map fun (c, rest) => (.char c, rest)
  | '\n' :: rest => some (.continued, rest)
  | '\r' :: '\n' :: rest => some (.continued, rest)
  | _ => none

/-- Reads a string after its opening quote. The fuel is the length of the text. -/
def cookedString : Nat → List Char → Option (List Char × List Char)
  | 0, _ => none
  | _ + 1, [] => none
  | _ + 1, '"' :: rest => some ([], rest)
  | fuel + 1, '\\' :: rest =>
    match stringEscape rest with
    | none => none
    | some (.char c, rest) => (cookedString fuel rest).map fun (value, rest) => (c :: value, rest)
    | some (.continued, rest) => cookedString fuel (rest.dropWhile isWhite)
  | fuel + 1, '\r' :: '\n' :: rest =>
    (cookedString fuel rest).map fun (value, rest) => ('\n' :: value, rest)
  | _ + 1, '\r' :: _ => none
  | fuel + 1, c :: rest => (cookedString fuel rest).map fun (value, rest) => (c :: value, rest)

/-- Reads a raw string after its opening quote, which so many hashes end. -/
def rawString (hashes : Nat) : List Char → Option (List Char × List Char)
  | [] => none
  | '"' :: rest =>
    if rest.take hashes == List.replicate hashes '#' then some ([], rest.drop hashes)
    else (rawString hashes rest).map fun (value, rest) => ('"' :: value, rest)
  | c :: rest => (rawString hashes rest).map fun (value, rest) => (c :: value, rest)

/-- Reads the hashes and the rest of a raw string, if one begins here. -/
def rawString? (text : List Char) : Option (Option (List Char × List Char)) :=
  let hashes := (text.takeWhile (· == '#')).length
  match text.drop hashes with
  | '"' :: rest => some (rawString hashes rest)
  | _ => none

/-! ## Single tokens -/

/-- A flat token and the text after it; nothing if the text is no token. -/
abbrev Lexed := Option (Flat × List Char)

/-- The leading characters of an identifier, and the rest. -/
def identChars (text : List Char) : List Char × List Char :=
  (text.takeWhile isIdentContinue, text.dropWhile isIdentContinue)

/-- The suffix of a literal, and the rest. -/
def suffixChars (text : List Char) : List Char × List Char :=
  match text with
  | [] => ([], [])
  | c :: _ => if isIdentStart c then identChars text else ([], text)

/-- The characters by which one text is longer than another. -/
def consumed (text rest : List Char) : List Char :=
  text.take (text.length - rest.length)

/-- Completes a literal whose content has been read. -/
def literalToken (text rest : List Char) (kind : List Char → Literal) : Lexed :=
  let (suffix, rest) := suffixChars rest
  some (.literal (consumed text rest) (kind suffix), rest)

def stringToken (text : List Char) (decoded : Bool) :
    Option (List Char × List Char) → Lexed
  | none => none
  | some (value, rest) =>
    literalToken text rest fun suffix => if decoded then .string value suffix else .other

/-- A literal of one character or byte after its opening quote, or nothing. -/
def charLiteral? (text rest : List Char) : Lexed :=
  match rest with
  | '\\' :: rest =>
    match stringEscape rest with
    | some (.char _, '\'' :: rest) => literalToken text rest fun _ => .other
    | _ => none
  | c :: '\'' :: rest =>
    if c == '\'' || c == '\n' || c == '\r' || c == '\t' then none
    else literalToken text rest fun _ => .other
  | _ => none

/-- A number: letters and digits, a point with what follows it, a signed exponent. -/
def numberToken (text : List Char) : Lexed :=
  let (whole, rest) := identChars text
  let isDecimal := whole.all fun c => c.isDigit || c == '_'
  let (number, rest) :=
    match rest with
    | '.' :: after =>
      let ends :=
        match after with
        | [] => true
        | c :: _ => !(c == '.' || isIdentStart c)
      if isDecimal && ends then
        let (fraction, rest) := identChars after
        (whole ++ '.' :: fraction, rest)
      else (whole, rest)
    | rest => (whole, rest)
  let isHex := number.take 2 == ['0', 'x']
  let rest :=
    match number.getLast?, rest with
    | some last, sign :: c :: after =>
      if !isHex && (last == 'e' || last == 'E') && (sign == '+' || sign == '-') && c.isDigit then
        (identChars (c :: after)).2
      else rest
    | _, _ => rest
  some (.literal (consumed text rest) .number, rest)

/-- An identifier, or nothing. -/
def identToken (text : List Char) : Lexed :=
  match text with
  | [] => none
  | c :: _ =>
    if isIdentStart c then
      let (name, rest) := identChars text
      some (.ident name, rest)
    else none

/-- A raw identifier after its mark, or nothing. -/
def rawIdent? (text : List Char) : Lexed :=
  match identToken text with
  | some (.ident name, rest) =>
    if [['_'], "self".toList, "super".toList, "Self".toList, "crate".toList].contains name then none
    else some (.ident ('r' :: '#' :: name), rest)
  | other => other

/-- Whether punctuation comes next, and not a comment. -/
def startsWithPunct : List Char → Bool
  | [] => false
  | '/' :: '/' :: _ => false
  | '/' :: '*' :: _ => false
  | c :: _ => isPunct c

/-- Reads one token; the text starts with it. -/
def lexToken (text : List Char) : Lexed :=
  match text with
  | [] => none
  | '(' :: rest => some (.opening .paren, rest)
  | '[' :: rest => some (.opening .square, rest)
  | '\x7b' :: rest => some (.opening .brace, rest)
  | ')' :: rest => some (.closing .paren, rest)
  | ']' :: rest => some (.closing .square, rest)
  | '\x7d' :: rest => some (.closing .brace, rest)
  | '"' :: rest => stringToken text true (cookedString (rest.length + 1) rest)
  | 'r' :: rest =>
    match rawString? rest with
    | some read => stringToken text true read
    | none =>
      match rest with
      | '#' :: rest => rawIdent? rest
      | _ => identToken text
  | 'b' :: '"' :: rest => stringToken text false (cookedString (rest.length + 1) rest)
  | 'c' :: '"' :: rest => stringToken text false (cookedString (rest.length + 1) rest)
  | 'b' :: 'r' :: rest =>
    match rawString? rest with
    | some read => stringToken text false read
    | none => identToken text
  | 'c' :: 'r' :: rest =>
    match rawString? rest with
    | some read => stringToken text false read
    | none => identToken text
  | 'b' :: '\'' :: rest => charLiteral? text rest
  | '\'' :: rest =>
    match charLiteral? text rest with
    | some token => some token
    | none =>
      match identToken rest with
      | none => none
      | some (_, '\'' :: _) => none
      | some _ => some (.punct '\'' true, rest)
  | c :: rest =>
    if c.isDigit then numberToken text
    else if isPunct c then some (.punct c (startsWithPunct rest), rest)
    else identToken text

/-- Reads all tokens. The fuel is the length of the text, as every token has a
character of its own. -/
def scan : Nat → List Char → Option (List Flat)
  | _, [] => some []
  | 0, _ :: _ => none
  | fuel + 1, '/' :: '/' :: rest =>
    let (content, after) := restOfLine rest
    match commentTokens '/' rest content with
    | none => none
    | some tokens => (scan fuel after).map (tokens ++ ·)
  | fuel + 1, '/' :: '*' :: rest =>
    match restOfBlock 0 rest with
    | none => none
    | some (content, after) =>
      match commentTokens '*' rest content with
      | none => none
      | some tokens => (scan fuel after).map (tokens ++ ·)
  | fuel + 1, '\r' :: '\n' :: rest => scan fuel rest
  | fuel + 1, c :: rest =>
    if isSeparator c then scan fuel rest
    else
      match lexToken (c :: rest) with
      | none => none
      | some (token, rest) => (scan fuel rest).map (token :: ·)

/-! ## Groups -/

/-- Puts tokens between matching brackets into groups. `outer` holds the brackets that
are open, each with the tokens before it, last first; `inner` the tokens since then. -/
def nest (outer : List (Delimiter × List Token)) (inner : List Token) :
    List Flat → Option (List Token)
  | [] =>
    match outer with
    | [] => some inner.reverse
    | _ => none
  | .ident text :: rest => nest outer (.ident text :: inner) rest
  | .punct c joint :: rest => nest outer (.punct c joint :: inner) rest
  | .literal text kind :: rest => nest outer (.literal text kind :: inner) rest
  | .opening delimiter :: rest => nest ((delimiter, inner) :: outer) [] rest
  | .closing delimiter :: rest =>
    match outer with
    | [] => none
    | (opened, before) :: outer =>
      if opened = delimiter then nest outer (.group delimiter inner.reverse :: before) rest
      else none

/-- The tokens of a text, or nothing if it is not made of tokens. -/
def tokens? (text : List Char) : Option (List Token) :=
  (scan text.length text).bind (nest [] [])

/-! ## Texts -/

def Delimiter.brackets : Delimiter → Char × Char
  | .paren => ('(', ')')
  | .square => ('[', ']')
  | .brace => ('\x7b', '\x7d')

mutual

def Token.text : Token → List Char
  | .ident text => text
  | .punct c _ => [c]
  | .literal text _ => text
  | .group delimiter content =>
    delimiter.brackets.1 :: textOfTokens content ++ [delimiter.brackets.2]

/-- The texts of tokens in a row, without anything between them. -/
def textOfTokens : List Token → List Char
  | [] => []
  | token :: rest => token.text ++ textOfTokens rest

end

/-- The text of a type or a visibility without comments and white space. -/
def normalized (text : String) : String :=
  match tokens? text.toList with
  | none => String.ofList (squeeze text.toList)
  | some tokens => String.ofList (squeeze (textOfTokens tokens))

end Declaration

end GridDispatch
