/-
Paths written as strings.

The content of a string is split into tokens, and the tokens are read from left to right:
names with separators between them, each perhaps with type arguments in angle brackets.
What a reader has not used it leaves, and a path must leave nothing.

Types are read as far as they are made of paths, references, pointers, tuples, slices and
arrays. The others, which are functions, bounds, qualified paths and macros, are refused,
and so are lengths and arguments that have to be computed. Types stand within types;
`typeAt` reads them to a depth, and none is deeper than its text is long.
-/
import GridDispatch.Declaration.Attribute

set_option autoImplicit false

namespace GridDispatch

namespace Declaration

/-- Why a string is not a path. -/
inductive PathProblem where
  /-- Its content is not made of tokens. -/
  | noTokens
  | identifierExpected (atEnd : Bool)
  | keyword (name : String)
  | commaExpected
  | typeExpected (atEnd : Bool)
  /-- A pointer has to say whether what it points to is constant. -/
  | pointerExpected (atEnd : Bool)
  /-- A type or an argument that is not read. -/
  | refused
  | unexpectedToken
  | suffix (name : String)
deriving DecidableEq, Repr

def PathProblem.message : PathProblem → String
  | .noTokens => "cannot parse string into token stream"
  | .identifierExpected atEnd => atEndText atEnd "expected identifier"
  | .keyword name => "expected identifier, found keyword `" ++ name ++ "`"
  | .commaExpected => "expected `,`"
  | .typeExpected atEnd => atEndText atEnd
    ("expected one of: `for`, parentheses, `fn`, `unsafe`, `extern`, identifier, `::`, `<`, "
      ++ "`dyn`, square brackets, `*`, `&`, `!`, `impl`, `_`, lifetime")
  | .pointerExpected atEnd => atEndText atEnd "expected `const` or `mut`"
  | .refused => "unsupported type argument"
  | .unexpectedToken => "unexpected token"
  | .suffix name => "unexpected suffix `" ++ name ++ "` on string literal"

/-- Reads something from the beginning of tokens, and leaves the others. -/
abbrev Reader := List Token → Except PathProblem (List Token)

/-! ## Names -/

def keywords : List String :=
  ["_", "abstract", "as", "async", "await", "become", "box", "break", "const", "continue",
    "crate", "do", "dyn", "else", "enum", "extern", "false", "final", "fn", "for", "if", "impl",
    "in", "let", "loop", "macro", "match", "mod", "move", "mut", "override", "priv", "pub", "ref",
    "return", "Self", "self", "static", "struct", "super", "trait", "true", "try", "type",
    "typeof", "unsafe", "unsized", "use", "virtual", "where", "while", "yield"]

/-- Keywords that are segments of a path all the same. -/
def pathKeywords : List String :=
  ["super", "self", "crate", "try"]

/-- Whether a type can begin with the name. -/
def startsType (name : String) : Bool :=
  ["super", "self", "Self", "crate"].contains name || !keywords.contains name

/-- Names that begin types of other forms. -/
def otherTypes : List String :=
  ["dyn", "extern", "fn", "for", "impl", "unsafe"]

/-! ## Arguments -/

def lifetime? : List Token → Option (List Token)
  | .punct '\'' _ :: .ident _ :: rest => some rest
  | _ => none

def literal? : List Token → Option (List Token)
  | .literal _ _ :: rest => some rest
  | .punct '-' _ :: .literal _ .number :: rest => some rest
  | .ident name :: rest =>
    if name == "true".toList || name == "false".toList then some rest else none
  | _ => none

/-- Reads a literal or a type; a block is neither. -/
def readValue (type : Reader) (tokens : List Token) : Except PathProblem (List Token) :=
  match literal? tokens, tokens with
  | some rest, _ => .ok rest
  | none, .group .brace _ :: _ => .error .refused
  | none, _ => type tokens

/-- Reads a lifetime, or a value, or a name that is given a value. -/
def readArgument (type : Reader) (tokens : List Token) : Except PathProblem (List Token) :=
  match lifetime? tokens, tokens with
  | some (.punct '+' _ :: _), _ => .error .refused
  | some rest, _ => .ok rest
  | none, .ident name :: .punct '=' _ :: rest =>
    if startsType (String.ofList name) then readValue type rest else readValue type tokens
  | none, _ => readValue type tokens

/-- The tokens after a closing bracket, if it stands there. -/
def closed? : List Token → Option (List Token)
  | .punct '>' _ :: rest => some rest
  | _ => none

/-- Reads arguments with commas between them up to the closing bracket. A comma may stand at the
end. -/
def readArguments (type : Reader) (tokens : List Token) : Except PathProblem (List Token) :=
  match closed? tokens with
  | some rest => .ok rest
  | none =>
    match readArgument type tokens with
    | .error problem => .error problem
    | .ok (.punct '>' _ :: rest) => .ok rest
    | .ok (.punct ',' _ :: rest) =>
      if _shorter : rest.length < tokens.length then readArguments type rest
      else .error .commaExpected
    | .ok _ => .error .commaExpected
termination_by tokens.length

/-- The tokens after the opening bracket, if arguments follow. What begins a comparison or a shift
is no bracket, unless a separator stands before it. -/
def arguments? : List Token → Option (List Token)
  | .punct '<' true :: .punct '=' _ :: _ => none
  | .punct '<' true :: .punct '<' true :: .punct '=' _ :: _ => none
  | .punct '<' _ :: rest => some rest
  | .punct ':' true :: .punct ':' _ :: .punct '<' _ :: rest => some rest
  | _ => none

/-! ## Segments -/

def readSegment (type : Reader) (tokens : List Token) : Except PathProblem (List Token) :=
  match tokens with
  | [] => .error (.identifierExpected true)
  | .ident name :: rest =>
    let word := String.ofList name
    if pathKeywords.contains word then .ok rest
    else if word != "Self" && keywords.contains word then .error (.keyword word)
    else
      match arguments? rest with
      | none => .ok rest
      | some content => readArguments type content
  | _ => .error (.identifierExpected false)

/-- Reads the segments of a path after the first; they end before parentheses. -/
def readSegments (type : Reader) (tokens : List Token) : Except PathProblem (List Token) :=
  match afterSeparator? tokens with
  | none => .ok tokens
  | some (.group .paren _ :: _) => .ok tokens
  | some rest =>
    match readSegment type rest with
    | .error problem => .error problem
    | .ok rest =>
      if _shorter : rest.length < tokens.length then readSegments type rest
      else .error .unexpectedToken
termination_by tokens.length

def readPath (type : Reader) (tokens : List Token) : Except PathProblem (List Token) :=
  match readSegment type ((afterSeparator? tokens).getD tokens) with
  | .error problem => .error problem
  | .ok rest => readSegments type rest

/-! ## Types -/

/-- Reads the types of a tuple, which has to consist of them. -/
def readTypes (type : Reader) (tokens : List Token) : Except PathProblem Unit :=
  if tokens.isEmpty then .ok ()
  else
    match type tokens with
    | .error problem => .error problem
    | .ok [] => .ok ()
    | .ok (.punct ',' _ :: rest) =>
      if _shorter : rest.length < tokens.length then readTypes type rest
      else .error .unexpectedToken
    | .ok _ => .error .unexpectedToken
termination_by tokens.length

/-- Reads the content of square brackets: a type, and perhaps a length. -/
def readSlice (type : Reader) (tokens : List Token) : Except PathProblem Unit :=
  match type tokens with
  | .error problem => .error problem
  | .ok [] => .ok ()
  | .ok (.punct ';' _ :: length) =>
    match literal? length with
    | some [] => .ok ()
    | _ => .error .refused
  | .ok _ => .error .unexpectedToken

/-- The tokens after a mark that what is referred to can be changed, if it stands there. -/
def afterMut (tokens : List Token) : List Token :=
  match tokens with
  | .ident name :: rest => if name == "mut".toList then rest else tokens
  | _ => tokens

/-- Reads a type, given a reader of the types within it. -/
def readType (type : Reader) (tokens : List Token) : Except PathProblem (List Token) :=
  match tokens with
  | [] => .error (.typeExpected true)
  | .group .paren content :: rest => (readTypes type content).map fun _ => rest
  | .group .square content :: rest => (readSlice type content).map fun _ => rest
  | .punct '&' _ :: rest => type (afterMut ((lifetime? rest).getD rest))
  | .punct '*' _ :: rest =>
    match rest with
    | .ident name :: rest =>
      if name == "const".toList || name == "mut".toList then type rest
      else .error (.pointerExpected false)
    | _ => .error (.pointerExpected rest.isEmpty)
  | .punct '!' _ :: rest => .ok rest
  | .punct '<' _ :: _ => .error .refused
  | .punct '\'' _ :: _ => .error .refused
  | .punct ':' true :: .punct ':' _ :: _ => readPath type tokens
  | .ident name :: rest =>
    let word := String.ofList name
    if word == "_" then .ok rest
    else if startsType word then readPath type tokens
    else .error (if otherTypes.contains word then .refused else .typeExpected false)
  | _ => .error (.typeExpected false)

/-- Reads a type that is at most so deep. -/
def typeAt : Nat → Reader
  | 0 => fun _ => .error .refused
  | depth + 1 => readType (typeAt depth)

/-! ## Strings -/

/-- The path that the content of a string is, without white space. -/
def pathOfString (value suffix : List Char) : Except PathProblem String :=
  match tokens? value with
  | none => .error .noTokens
  | some tokens =>
    match readPath (typeAt value.length) tokens with
    | .error problem => .error problem
    | .ok (_ :: _) => .error .unexpectedToken
    | .ok [] =>
      if suffix.isEmpty then .ok (String.ofList (squeeze (textOfTokens tokens)))
      else .error (.suffix (String.ofList suffix))

/-- The reader of paths that declarations are expanded with. -/
def readPathString : PathReader :=
  fun value suffix => (pathOfString value suffix).mapError PathProblem.message

end Declaration

end GridDispatch
