/-
What can be wrong with a sidecar text.

A sidecar is a small JSON text that describes a program or reports on a dispatch. It
can end too early, it can break the grammar, or it can be well written and hold the
wrong data. Problems of the last kind have a text, which names what was found and
what was wanted.
-/
import GridDispatch.Text.Quoted
import GridDispatch.Text.Shortest

set_option autoImplicit false

namespace GridDispatch

namespace Sidecar

/-- A value where another kind of value was wanted. -/
inductive Found where
  | integer (value : Int)
  | float (value : Float)
  | boolean (value : Bool)
  | string (text : List Char)
  | null
  | sequence
  | map

/-- What was wanted. -/
inductive Wanted where
  | count
  | lane
  | boolean
  | triple
  | record (name : String)
deriving DecidableEq, Repr

/-- Why a sidecar is refused. -/
inductive Problem where
  | truncated
  | malformed
  | invalidType (found : Found) (wanted : Wanted)
  | invalidValue (value : Int) (wanted : Wanted)
  | shortTriple (length : Nat)
  /-- A record written as a list with fewer fields. -/
  | shortRecord (length : Nat) (name : String) (fields : Nat)
  | missingField (name : String)
  | duplicateField (name : String)

/-- Doubles are written positionally while that is short, and with a signed exponent of
two digits or more otherwise. -/
def floatLayout : Shortest.Layout :=
  ⟨-5, 15, 2, true⟩

def Found.text : Found → String
  | .integer value => "integer `" ++ toString value ++ "`"
  | .float value => "floating point `" ++ floatLayout.writeFloat value ++ "`"
  | .boolean value => "boolean `" ++ (if value then "true" else "false") ++ "`"
  | .string text => "string " ++ Text.quoted text
  | .null => "null"
  | .sequence => "sequence"
  | .map => "map"

def Wanted.text : Wanted → String
  | .count => "usize"
  | .lane => "u32"
  | .boolean => "a boolean"
  | .triple => "an array of length 3"
  | .record name => "struct " ++ name

/-- The text of a problem with the data; the other problems have none. -/
def Problem.message : Problem → Option String
  | .truncated | .malformed => none
  | .invalidType found wanted =>
    some ("invalid type: " ++ found.text ++ ", expected " ++ wanted.text)
  | .invalidValue value wanted =>
    some ("invalid value: integer `" ++ toString value ++ "`, expected " ++ wanted.text)
  | .shortTriple length =>
    some ("invalid length " ++ toString length ++ ", expected an array of length 3")
  | .shortRecord length name fields =>
    some ("invalid length " ++ toString length ++ ", expected struct " ++ name ++ " with "
      ++ toString fields ++ " elements")
  | .missingField name => some ("missing field `" ++ name ++ "`")
  | .duplicateField name => some ("duplicate field `" ++ name ++ "`")

end Sidecar

end GridDispatch
