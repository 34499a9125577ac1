/-
Attributes of a declaration.

An attribute is a path followed by arguments in brackets, or by an equals sign and a
value, or by nothing. The arguments that matter here are lists: items separated by
commas, each beginning with a path. What may follow the path depends on the
attribute, so `forItems` goes through a list and leaves that to its caller; the first
problem met is the answer.

Two attributes are read: the one for the representation, which must list `C`, and
the one that names the crate, whose value is a path written as a string. What a path is
is for others to say: it is read by any `PathReader`.
-/
import GridDispatch.Declaration.Token

set_option autoImplicit false

namespace GridDispatch

namespace Declaration

/-- Why a declaration cannot be expanded. -/
inductive Problem where
  | notStruct
  | noNamedFields
  | generic
  | notReprC
  | argumentsExpected (name : String)
  /-- An attribute with a value in place of arguments. -/
  | parenthesesExpected (name : String)
  | literalItem
  /-- An item begins with another token that begins no path. -/
  | tokenItem
  /-- The list ends where an item should begin. -/
  | itemExpected
  /-- No name follows a path separator; `atEnd` if nothing does. -/
  | nameExpected (atEnd : Bool)
  | commaExpected
  | unknownItem
  | equalsExpected
  | stringExpected (atEnd : Bool)
  /-- The content of a string is not a path, for this reason. -/
  | noPath (reason : String)
deriving DecidableEq, Repr

/-- The text of a problem that can be met at the end of the input. -/
def atEndText (atEnd : Bool) (text : String) : String :=
  if atEnd then "unexpected end of input, " ++ text else text

def Problem.message : Problem → String
  | .notStruct => "`DescriptorSet` can only be derived for structs"
  | .noNamedFields => "`DescriptorSet` requires a struct with at least one named field"
  | .generic => "generic descriptor sets are not supported"
  | .notReprC => "descriptor sets must be `#[repr(C)]`"
  | .argumentsExpected name =>
    "expected attribute arguments in parentheses: #[" ++ name ++ "(...)]"
  | .parenthesesExpected name => "expected parentheses: #[" ++ name ++ "(...)]"
  | .literalItem => "unexpected literal in nested attribute, expected ident"
  | .tokenItem => "unexpected token in nested attribute, expected ident"
  | .itemExpected => atEndText true "expected nested attribute"
  | .nameExpected atEnd => atEndText atEnd "expected ident"
  | .commaExpected => "expected `,`"
  | .unknownItem => "unexpected attribute; supported is `crate`"
  | .equalsExpected => "expected `=`"
  | .stringExpected atEnd => atEndText atEnd "expected string literal"
  | .noPath reason => reason

/-! ## Paths -/

/-- What follows a path separator, if the tokens begin with one. -/
def afterSeparator? : List Token → Option (List Token)
  | .punct ':' true :: .punct ':' _ :: rest => some rest
  | _ => none

/-- The path at the beginning of an item. -/
structure ItemPath where
  leading : Bool
  segments : List (List Char)
deriving DecidableEq, Repr

def ItemPath.isName (path : ItemPath) (name : String) : Bool :=
  !path.leading && path.segments == [name.toList]

/-- Whether tokens begin with a literal; a number may have a minus sign. -/
def startsWithLiteral : List Token → Bool
  | .literal _ _ :: _ => true
  | .punct '-' _ :: .literal _ .number :: _ => true
  | _ => false

def moreSegments : List Token → Except Problem (List (List Char) × List Token)
  | .punct ':' true :: .punct ':' _ :: .ident name :: rest =>
    match moreSegments rest with
    | .error problem => .error problem
    | .ok (segments, rest) => .ok (name :: segments, rest)
  | .punct ':' true :: .punct ':' _ :: rest => .error (.nameExpected rest.isEmpty)
  | rest => .ok ([], rest)

/-- Reads the path of an item; any word can be a segment. -/
def itemPath (tokens : List Token) : Except Problem (ItemPath × List Token) :=
  let leading := (afterSeparator? tokens).isSome
  match (afterSeparator? tokens).getD tokens with
  | [] => .error .itemExpected
  | .ident name :: rest =>
    match moreSegments rest with
    | .error problem => .error problem
    | .ok (segments, rest) => .ok (⟨leading, name :: segments⟩, rest)
  | rest => .error (if startsWithLiteral rest then .literalItem else .tokenItem)

/-! ## Lists of items -/

/-- Goes through the items of a list. `item` reads what follows the path of an item;
a comma or the end must come then. A comma may stand at the end. -/
def forItems {α : Type} (item : α → ItemPath → List Token → Except Problem (α × List Token))
    (state : α) (tokens : List Token) : Except Problem α :=
  match itemPath tokens with
  | .error problem => .error problem
  | .ok (path, rest) =>
    match item state path rest with
    | .error problem => .error problem
    | .ok (state, []) => .ok state
    | .ok (state, .punct ',' _ :: []) => .ok state
    | .ok (state, .punct ',' _ :: rest) =>
      if _shorter : rest.length < tokens.length then forItems item state rest
      else .error .commaExpected
    | .ok (_, _ :: _) => .error .commaExpected
termination_by tokens.length

/-- What stands after the path of an attribute. -/
inductive Arguments where
  | missing
  | value
  | list (content : List Token)
deriving Repr

/-- An attribute whose path is a single name. -/
structure Attribute where
  name : String
  arguments : Arguments
deriving Repr

/-- Reads an attribute. Those whose path is not a single name are of no interest. -/
def Attribute.ofTokens? : List Token → Option Attribute
  | .ident name :: rest =>
    match rest with
    | [] => some ⟨String.ofList name, .missing⟩
    | .group _ content :: _ => some ⟨String.ofList name, .list content⟩
    | .punct '=' _ :: _ => some ⟨String.ofList name, .value⟩
    | _ => none
  | _ => none

def Attribute.items {α : Type} (given : Attribute)
    (item : α → ItemPath → List Token → Except Problem (α × List Token)) (state : α) :
    Except Problem α :=
  match given.arguments with
  | .missing => .error (.argumentsExpected given.name)
  | .value => .error (.parenthesesExpected given.name)
  | .list [] => .ok state
  | .list content => forItems item state content

/-- Reads the items of all attributes of a name, in order. -/
def readAttributes {α : Type} (name : String)
    (item : α → ItemPath → List Token → Except Problem (α × List Token)) (state : α) :
    List Attribute → Except Problem α
  | [] => .ok state
  | given :: rest =>
    if given.name == name then
      match given.items item state with
      | .error problem => .error problem
      | .ok state => readAttributes name item state rest
    else
      readAttributes name item state rest

/-! ## The representation -/

/-- An item of the representation: arguments in parentheses may follow. -/
def reprItem (found : Bool) (path : ItemPath) (rest : List Token) :
    Except Problem (Bool × List Token) :=
  let found := found || path.isName "C"
  match rest with
  | .group .paren _ :: rest => .ok (found, rest)
  | rest => .ok (found, rest)

/-- Whether some attribute lists `C`; all of them are read. -/
def hasReprC (attributes : List Attribute) : Except Problem Bool :=
  readAttributes "repr" reprItem false attributes

/-! ## The crate -/

/-- Reads the path that a string is, given its content and its suffix: the path without white
space, or the reason why it is none. -/
abbrev PathReader := List Char → List Char → Except String String

/-- An item of the attribute that names the crate. -/
def crateItem (reader : PathReader) (_ : Option String) (path : ItemPath) (rest : List Token) :
    Except Problem (Option String × List Token) :=
  if path.isName "crate" then
    match rest with
    | .punct '=' _ :: .literal _ (.string value suffix) :: rest =>
      match reader value suffix with
      | .error reason => .error (.noPath reason)
      | .ok crate => .ok (some crate, rest)
    | .punct '=' _ :: rest => .error (.stringExpected rest.isEmpty)
    | _ => .error .equalsExpected
  else
    .error .unknownItem

/-- The crate that is named last, if any. -/
def crateName (reader : PathReader) (attributes : List Attribute) :
    Except Problem (Option String) :=
  readAttributes "descriptor_set" (crateItem reader) none attributes

end Declaration

end GridDispatch
