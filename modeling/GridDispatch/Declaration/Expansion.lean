/-
Expanding the declaration of a descriptor set.

A record of descriptors becomes a descriptor set if it is a struct with named fields,
has no generic parameters and is laid out as declared. Expanding numbers its fields:
field `i` is binding `i` and gets an accessor of that name. The expansion also asserts
that the fields leave no padding, by adding up their sizes.
-/
import GridDispatch.Declaration.Path

set_option autoImplicit false

namespace GridDispatch

namespace Declaration

/-- The kind of a declared item. -/
inductive ItemKind where
  | named
  | tuple
  | unit
  | enumeration
  | union
deriving DecidableEq, Repr

def ItemKind.ofName? : String → Option ItemKind
  | "struct" => some .named
  | "tuple" => some .tuple
  | "unit" => some .unit
  | "enum" => some .enumeration
  | "union" => some .union
  | _ => none

def ItemKind.isStruct : ItemKind → Bool
  | .named | .tuple | .unit => true
  | .enumeration | .union => false

/-- A field of an item. -/
structure ItemField where
  name : String
  type : String
deriving DecidableEq, Repr

/-- A declared item. -/
structure Item where
  kind : ItemKind
  name : String
  visibility : String
  isGeneric : Bool
  attributes : List Attribute
  fields : List ItemField
deriving Repr

/-- Whether a parameter list, if there is one, has parameters. -/
def hasParameters (text : String) : Bool :=
  let bare := normalized text
  bare != "" && bare != "<>"

/-- An item from its texts. Attributes that are no attributes of a single name have no
effect. -/
def Item.ofTexts (kind : ItemKind) (name visibility generics : String)
    (attributes : List String) (fields : List (String × String)) : Item where
  kind := kind
  name := normalized name
  visibility := normalized visibility
  isGeneric := hasParameters generics
  attributes := attributes.filterMap fun text => (tokens? text.toList).bind Attribute.ofTokens?
  fields := fields.map fun (name, type) => ⟨normalized name, normalized type⟩

/-- The accessor of a binding. -/
structure Accessor where
  index : Nat
  visibility : String
  field : ItemField
deriving DecidableEq, Repr

/-- What a declaration expands to. -/
structure Expansion where
  crate : String
  name : String
  bindings : Nat
  sizes : List String
  accessors : List Accessor
deriving DecidableEq, Repr

/-- The crate that provides descriptor sets unless an attribute names another. -/
def defaultCrate : String := "::spindle"

/-- The accessors of fields, numbered from `index` on. -/
def accessorsFrom (visibility : String) (index : Nat) : List ItemField → List Accessor
  | [] => []
  | field :: rest => ⟨index, visibility, field⟩ :: accessorsFrom visibility (index + 1) rest

/-- Expands a declaration, reading the paths of crates like this; the checks are made in this
order. -/
def expandWith (reader : PathReader) (item : Item) : Except Problem Expansion :=
  if !item.kind.isStruct then .error .notStruct
  else if item.kind != .named || item.fields.isEmpty then .error .noNamedFields
  else if item.isGeneric then .error .generic
  else
    match hasReprC item.attributes with
    | .error problem => .error problem
    | .ok false => .error .notReprC
    | .ok true =>
      match crateName reader item.attributes with
      | .error problem => .error problem
      | .ok crate =>
        .ok {
          crate := crate.getD defaultCrate
          name := item.name
          bindings := item.fields.length
          sizes := item.fields.map ItemField.type
          accessors := accessorsFrom item.visibility 0 item.fields }

/-- Expands a declaration. -/
def expand (item : Item) : Except Problem Expansion :=
  expandWith readPathString item

/-! ## Texts -/

/-- The size of a type, as an expression. -/
def sizeOf (type : String) : String :=
  "::core::mem::size_of::<" ++ type ++ ">()"

namespace Expansion

/-- The path of the trait that is implemented. -/
def traitPath (e : Expansion) : String :=
  e.crate ++ "::memory::descriptor::DescriptorSet"

def assertion (e : Expansion) : String :=
  "assert!(" ++ sizeOf e.name ++ "==0"
    ++ String.join (e.sizes.map fun type => "+" ++ sizeOf type)
    ++ ",\"descriptorsetsmustnotcontainpadding\",)"

end Expansion

namespace Accessor

def name (a : Accessor) : String :=
  "binding" ++ toString a.index

def returns (a : Accessor) : String :=
  "&mut" ++ a.field.type

def body (a : Accessor) : String :=
  "&mutself." ++ a.field.name

def doc (a : Accessor) : String :=
  "Binding " ++ toString a.index ++ " of the set."

end Accessor

end Declaration

end GridDispatch
