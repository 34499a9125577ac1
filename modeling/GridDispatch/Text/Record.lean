/-
The text form of records.

Diagnostic texts show a record as its name and its fields in braces, a list in
square brackets, an optional value as `Some(..)` or `None`. The functions here are
the only place where these spellings are written.
-/

set_option autoImplicit false

namespace GridDispatch

namespace Text

def record (name : String) (fields : List (String × String)) : String :=
  name ++ " \x7b "
    ++ ", ".intercalate (fields.map fun field => field.1 ++ ": " ++ field.2) ++ " \x7d"

/-- A record of which only some fields are shown. -/
def openRecord (name : String) (fields : List (String × String)) : String :=
  name ++ " \x7b "
    ++ ", ".intercalate ((fields.map fun field => field.1 ++ ": " ++ field.2) ++ [".."]) ++ " \x7d"

def tuple (name : String) (fields : List String) : String :=
  name ++ "(" ++ ", ".intercalate fields ++ ")"

def list (items : List String) : String :=
  "[" ++ ", ".intercalate items ++ "]"

def numbers (items : List Nat) : String :=
  list (items.map toString)

def optional : Option String → String
  | none => "None"
  | some item => tuple "Some" [item]

def truth (value : Bool) : String :=
  if value then "true" else "false"

/-- An address, whose value is never shown. -/
def address : String := "_"

end Text

end GridDispatch
