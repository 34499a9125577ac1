/-
Records in a sidecar text.

A record has named fields of three kinds: counts, truth values and triples of
numbers. It can be written as an object, whose members may come in any order and may
include members that the record does not know, or as a list of the fields in order.
`Schema.read` reads either form; `Schema.write` writes the compact object.
-/
import GridDispatch.Sidecar.Number
import GridDispatch.Schedule.Stats
import GridDispatch.Workgroup.Info

set_option autoImplicit false

namespace GridDispatch

namespace Sidecar

/-- What a field holds. -/
inductive FieldKind where
  | count
  | flag
  | triple
deriving DecidableEq, Repr

/-- The value of a field. -/
inductive FieldValue where
  | count (value : Nat)
  | flag (value : Bool)
  | triple (value : Coord)
deriving DecidableEq, Repr

/-- The fields of a record, in order. -/
structure Schema where
  name : String
  fields : List (String × FieldKind)
deriving DecidableEq, Repr

/-! ## Values of fields -/

/-- What to say about a value that is not of the wanted kind. It is read first, so that
a problem in it comes before. -/
def unexpected (wanted : Wanted) (text : List Char) : Problem :=
  match text with
  | [] => .malformed
  | 'n' :: rest =>
    match expectChars ['u', 'l', 'l'] rest with
    | .error problem => problem
    | .ok _ => .invalidType .null wanted
  | 't' :: rest =>
    match expectChars ['r', 'u', 'e'] rest with
    | .error problem => problem
    | .ok _ => .invalidType (.boolean true) wanted
  | 'f' :: rest =>
    match expectChars ['a', 'l', 's', 'e'] rest with
    | .error problem => problem
    | .ok _ => .invalidType (.boolean false) wanted
  | '"' :: rest =>
    match readString rest with
    | .error problem => problem
    | .ok (value, _) => .invalidType (.string value) wanted
  | '[' :: _ => .invalidType .sequence wanted
  | '\x7b' :: _ => .invalidType .map wanted
  | c :: _ =>
    if c == '-' || c.isDigit then
      match readNumber text with
      | .error problem => problem
      | .ok (number, _) => .invalidType number.found wanted
    else
      .malformed

def readCount (limit : Nat) (wanted : Wanted) (text : List Char) : Scanned Nat :=
  match skipBlank text with
  | [] => .error .truncated
  | c :: rest =>
    if c == '-' || c.isDigit then
      match readNumber (c :: rest) with
      | .error problem => .error problem
      | .ok (.count value, rest) =>
        if value < limit then .ok (value, rest) else .error (.invalidValue value wanted)
      | .ok (.negative value, _) => .error (.invalidValue value wanted)
      | .ok (.float value, _) => .error (.invalidType (.float value) wanted)
    else
      .error (unexpected wanted (c :: rest))

def readFlag (text : List Char) : Scanned Bool :=
  match skipBlank text with
  | [] => .error .truncated
  | 't' :: rest =>
    match expectChars ['r', 'u', 'e'] rest with
    | .error problem => .error problem
    | .ok rest => .ok (true, rest)
  | 'f' :: rest =>
    match expectChars ['a', 'l', 's', 'e'] rest with
    | .error problem => .error problem
    | .ok rest => .ok (false, rest)
  | text => .error (unexpected .boolean text)

/-- Comes to the next element of a list, if there is one. After the first element a
comma must stand before it. -/
def nextElement (first : Bool) (text : List Char) : Scanned Bool :=
  match skipBlank text with
  | [] => .error .truncated
  | ']' :: rest => .ok (false, ']' :: rest)
  | ',' :: rest =>
    if first then .ok (true, ',' :: rest)
    else
      match skipBlank rest with
      | [] => .error .truncated
      | ']' :: _ => .error .malformed
      | rest => .ok (true, rest)
  | rest => if first then .ok (true, rest) else .error .malformed

def endList (text : List Char) : Except Problem (List Char) :=
  match skipBlank text with
  | [] => .error .truncated
  | ']' :: rest => .ok rest
  | _ => .error .malformed

/-- Reads so many more numbers of a triple of which some were read. -/
def readAxes (read : Nat) : Nat → List Char → Scanned (List Nat)
  | 0, text => .ok ([], text)
  | missing + 1, text =>
    match nextElement (read == 0) text with
    | .error problem => .error problem
    | .ok (false, _) => .error (.shortTriple read)
    | .ok (true, rest) =>
      match readCount lane .lane rest with
      | .error problem => .error problem
      | .ok (value, rest) =>
        match readAxes (read + 1) missing rest with
        | .error problem => .error problem
        | .ok (more, rest) => .ok (value :: more, rest)

def readTriple (text : List Char) : Scanned Coord :=
  match skipBlank text with
  | [] => .error .truncated
  | '[' :: rest =>
    match readAxes 0 3 rest with
    | .error problem => .error problem
    | .ok (axes, rest) =>
      match endList rest with
      | .error problem => .error problem
      | .ok rest => .ok (⟨axes.getD 0 0, axes.getD 1 0, axes.getD 2 0⟩, rest)
  | text => .error (unexpected .triple text)

def readField (kind : FieldKind) (text : List Char) : Scanned FieldValue :=
  match kind with
  | .count =>
    match readCount word .count text with
    | .error problem => .error problem
    | .ok (value, rest) => .ok (.count value, rest)
  | .flag =>
    match readFlag text with
    | .error problem => .error problem
    | .ok (value, rest) => .ok (.flag value, rest)
  | .triple =>
    match readTriple text with
    | .error problem => .error problem
    | .ok (value, rest) => .ok (.triple value, rest)

/-! ## Records as lists -/

def readElements (schema : Schema) (read : Nat) :
    List (String × FieldKind) → List Char → Scanned (List FieldValue)
  | [], text => .ok ([], text)
  | (_, kind) :: fields, text =>
    match nextElement (read == 0) text with
    | .error problem => .error problem
    | .ok (false, _) => .error (.shortRecord read schema.name schema.fields.length)
    | .ok (true, rest) =>
      match readField kind rest with
      | .error problem => .error problem
      | .ok (value, rest) =>
        match readElements schema (read + 1) fields rest with
        | .error problem => .error problem
        | .ok (values, rest) => .ok (value :: values, rest)

/-! ## Records as objects -/

/-- Comes to the name of the next member, after its quote, if there is one. -/
def nextMember (first : Bool) (text : List Char) : Scanned Bool :=
  match skipBlank text with
  | [] => .error .truncated
  | '\x7d' :: rest => .ok (false, rest)
  | '"' :: rest => if first then .ok (true, rest) else .error .malformed
  | ',' :: rest =>
    if first then .error .malformed
    else
      match skipBlank rest with
      | [] => .error .truncated
      | '"' :: rest => .ok (true, rest)
      | _ => .error .malformed
  | _ => .error .malformed

def readColon (text : List Char) : Except Problem (List Char) :=
  match skipBlank text with
  | [] => .error .truncated
  | ':' :: rest => .ok rest
  | _ => .error .malformed

/-- The fields read so far, in the order of the record. -/
abbrev Collected := List (Option FieldValue)

/-- Reads the value of a member that was named, and keeps it if the record has a field
of this name. A field must not be given twice. -/
def readMember (schema : Schema) (known : Collected) (name : List Char) (text : List Char) :
    Scanned Collected :=
  match schema.fields.findIdx? fun field => field.1.toList == name with
  | none =>
    match readColon text with
    | .error problem => .error problem
    | .ok rest =>
      match skipValue rest with
      | .error problem => .error problem
      | .ok rest => .ok (known, rest)
  | some index =>
    if (known.getD index none).isSome then .error (.duplicateField (String.ofList name))
    else
      match readColon text with
      | .error problem => .error problem
      | .ok rest =>
        match readField ((schema.fields[index]?.map Prod.snd).getD .count) rest with
        | .error problem => .error problem
        | .ok (value, rest) => .ok (known.set index (some value), rest)

/-- Reads members up to the closing brace. Every member takes characters away, which is
checked to keep the loop finite. -/
def readMembers (schema : Schema) (first : Bool) (known : Collected) (text : List Char) :
    Scanned Collected :=
  match nextMember first text with
  | .error problem => .error problem
  | .ok (false, rest) => .ok (known, rest)
  | .ok (true, rest) =>
    match readString rest with
    | .error problem => .error problem
    | .ok (name, rest) =>
      match readMember schema known name rest with
      | .error problem => .error problem
      | .ok (known, rest) =>
        if _shorter : rest.length < text.length then readMembers schema false known rest
        else .error .malformed
termination_by text.length

/-- The values of all fields, or the name of the first that is missing. -/
def complete : List (String × FieldKind) → Collected → Except Problem (List FieldValue)
  | [], _ => .ok []
  | (name, _) :: fields, known =>
    match known.head?.join with
    | none => .error (.missingField name)
    | some value =>
      match complete fields known.tail with
      | .error problem => .error problem
      | .ok values => .ok (value :: values)

namespace Schema

/-- Reads a record in either form, and what follows it. -/
def readPart (schema : Schema) (text : List Char) : Scanned (List FieldValue) :=
  match skipBlank text with
  | [] => .error .truncated
  | '[' :: rest =>
    match readElements schema 0 schema.fields rest with
    | .error problem => .error problem
    | .ok (values, rest) =>
      match endList rest with
      | .error problem => .error problem
      | .ok rest => .ok (values, rest)
  | '\x7b' :: rest =>
    match readMembers schema true (schema.fields.map fun _ => none) rest with
    | .error problem => .error problem
    | .ok (known, rest) =>
      match complete schema.fields known with
      | .error problem => .error problem
      | .ok values => .ok (values, rest)
  | text => .error (unexpected (.record schema.name) text)

def read (schema : Schema) (text : List Char) : Except Problem (List FieldValue) :=
  match schema.readPart text with
  | .error problem => .error problem
  | .ok (values, rest) =>
    match skipBlank rest with
    | [] => .ok values
    | _ => .error .malformed

end Schema

/-! ## Writing -/

/-- A name or text without characters that need an escape, between quotes. -/
def writeName (name : String) : List Char :=
  '"' :: name.toList ++ ['"']

/-- A list of items, with commas between them. -/
def commaSeparated : List (List Char) → List Char
  | [] => []
  | [item] => item
  | item :: rest => item ++ ',' :: commaSeparated rest

/-- The value of a field as a text. -/
def FieldValue.write : FieldValue → List Char
  | .count value => Nat.toDigits 10 value
  | .flag value => if value then ['t', 'r', 'u', 'e'] else ['f', 'a', 'l', 's', 'e']
  | .triple value => '[' :: commaSeparated (value.toList.map (Nat.toDigits 10)) ++ [']']

def Schema.write (schema : Schema) (values : List FieldValue) : List Char :=
  '\x7b' :: commaSeparated
    ((schema.fields.zip values).map fun (field, value) => writeName field.1 ++ ':' :: value.write)
    ++ ['\x7d']

/-! ## The two records -/

def infoSchema : Schema :=
  ⟨"ProgramInfo", [("min_memory_size", .count), ("has_cbarriers", .flag),
    ("desc_set_size", .count), ("workgroup_size", .triple)]⟩

def statsSchema : Schema :=
  ⟨"DispatchStats", [("workgroups", .count), ("coroutines", .count), ("resumptions", .count)]⟩

end Sidecar

namespace ProgramInfo

open Sidecar

/-- The fields of the record that describes a program. -/
def toFields (info : ProgramInfo) : List FieldValue :=
  [.count info.minMemorySize, .flag info.hasBarriers, .count info.setSize,
    .triple info.workgroupSize]

def ofFields? : List FieldValue → Option ProgramInfo
  | [.count memory, .flag barriers, .count set, .triple size] => some ⟨memory, barriers, set, size⟩
  | _ => none

def toSidecar (info : ProgramInfo) : String :=
  String.ofList (infoSchema.write info.toFields)

def ofSidecar (text : String) : Except Problem ProgramInfo :=
  match infoSchema.read text.toList with
  | .error problem => .error problem
  | .ok fields =>
    match ofFields? fields with
    | none => .error .malformed
    | some info => .ok info

end ProgramInfo

namespace Stats

open Sidecar

/-- The fields of the record that reports on a dispatch. -/
def toFields (stats : Stats) : List FieldValue :=
  [.count stats.workgroups, .count stats.coroutines, .count stats.resumptions]

def ofFields? : List FieldValue → Option Stats
  | [.count workgroups, .count coroutines, .count resumptions] =>
    some ⟨workgroups, coroutines, resumptions⟩
  | _ => none

def toSidecar (stats : Stats) : String :=
  String.ofList (statsSchema.write stats.toFields)

def ofSidecar (text : String) : Except Problem Stats :=
  match statsSchema.read text.toList with
  | .error problem => .error problem
  | .ok fields =>
    match ofFields? fields with
    | none => .error .malformed
    | some stats => .ok stats

end Stats

end GridDispatch
