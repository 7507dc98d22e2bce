import WrapperGen.Symbols.Annotation

/-!
# Symbol dumps

The written form of the declarations that a front end knows, with names and types still as
text. A dump that is written and read again is the same dump: whatever is left out is what
reading puts in its place.
-/

namespace WrapperGen

/-- The kind of a declaration. -/
inductive DeclarationKind where
  | plainClass
  | interface
  | object
  | enum
  | annotationClass
  | typeAlias
deriving DecidableEq, Repr, Inhabited

namespace DeclarationKind

/-- Whether declarations of the kind can model configuration. -/
def isClassLike : DeclarationKind → Bool
  | .plainClass | .interface | .object | .enum => true
  | .annotationClass | .typeAlias => false

/-- The word for the kind in a dump. -/
def word : DeclarationKind → String
  | .plainClass => "class"
  | .interface => "interface"
  | .object => "object"
  | .enum => "enum"
  | .annotationClass => "annotation"
  | .typeAlias => "type_alias"

/-- The name of the kind in the log. -/
def logName : DeclarationKind → String
  | .plainClass => "Class"
  | .interface => "Interface"
  | .object => "Object"
  | .enum => "Enum"
  | .annotationClass => "Annotation"
  | .typeAlias => "TypeAlias"

/-- All kinds, in the order in which messages list them. -/
def all : List DeclarationKind :=
  [.plainClass, .interface, .object, .enum, .annotationClass, .typeAlias]

/-- Decodes a kind. -/
def decode : Json.Decoder DeclarationKind := Json.decodeWord (all.map fun kind => (kind.word, kind))

end DeclarationKind

/-- A property as a dump holds it. -/
structure PropertyDump where
  name : String := ""
  /-- The declared type, as written. -/
  type : String := ""
  mutable : Bool := false
  /-- Whether the property stores a value. -/
  backingField : Bool := true
  /-- Whether the front end has resolved the type. -/
  resolved : Bool := true
  annotations : Annotations := .empty
deriving Repr, Inhabited

/-- A declaration as a dump holds it. -/
structure DeclarationDump where
  name : String := ""
  kind : DeclarationKind := .plainClass
  /-- The source file that declares it, if it comes from one. -/
  source : Option String := none
  typeParameters : List String := []
  annotations : Annotations := .empty
  properties : List PropertyDump := []
deriving Repr, Inhabited

/-- Everything a front end declares, in its order. -/
structure SymbolDump where
  declarations : List DeclarationDump := []
deriving Repr, Inhabited

/-! ## Reading -/

namespace PropertyDump

/-- The fields of the written form. -/
def fields : List (Json.Field PropertyDump) := [
  .of "name" true Json.decodeString fun s p => { p with name := s },
  .of "type" true Json.decodeString fun s p => { p with type := s },
  .of "mutable" false Json.decodeBool fun b p => { p with mutable := b },
  .of "backing_field" false Json.decodeBool fun b p => { p with backingField := b },
  .of "resolved" false Json.decodeBool fun b p => { p with resolved := b },
  .of "annotations" false Annotations.decode fun a p => { p with annotations := a }]

/-- Decodes a property. -/
def decode : Json.Decoder PropertyDump := Json.decodeRecord "PropertyDump" fields {}

end PropertyDump

namespace DeclarationDump

/-- The fields of the written form. -/
def fields : List (Json.Field DeclarationDump) := [
  .of "name" true Json.decodeString fun s d => { d with name := s },
  .of "kind" false DeclarationKind.decode fun k d => { d with kind := k },
  .of "source" false (Json.decodeNullable Json.decodePath) fun s d => { d with source := s },
  .of "type_parameters" false (Json.decodeList Json.decodeString) fun ps d =>
    { d with typeParameters := ps },
  .of "annotations" false Annotations.decode fun a d => { d with annotations := a },
  .of "properties" false (Json.decodeList PropertyDump.decode) fun ps d =>
    { d with properties := ps }]

/-- Decodes a declaration. -/
def decode : Json.Decoder DeclarationDump := Json.decodeRecord "DeclarationDump" fields {}

end DeclarationDump

namespace SymbolDump

/-- The fields of the written form. -/
def fields : List (Json.Field SymbolDump) := [
  .of "declarations" false (Json.decodeList DeclarationDump.decode) fun ds d =>
    { d with declarations := ds }]

/-- Decodes a dump. -/
def decode : Json.Decoder SymbolDump := Json.decodeRecord "SymbolDump" fields {}

/-- The dump that a text holds. -/
def read (text : String) : Except Json.ReadError SymbolDump := Json.decode decode text

end SymbolDump

/-! ## Writing -/

/-- The member that writes annotations, left out when there are none. -/
def Annotations.member (annotations : Annotations) : List (String × Json) :=
  if annotations.isEmpty then [] else [("annotations", annotations.toJson)]

/-- The JSON value of a property. -/
def PropertyDump.toJson (p : PropertyDump) : Json :=
  .object <|
    [("name", .string p.name), ("type", .string p.type), ("mutable", .bool p.mutable),
      ("backing_field", .bool p.backingField), ("resolved", .bool p.resolved)]
    ++ Annotations.member p.annotations

/-- The JSON value of a declaration. -/
def DeclarationDump.toJson (d : DeclarationDump) : Json :=
  .object <|
    [("name", .string d.name), ("kind", .string d.kind.word)]
    ++ (match d.source with | some path => [("source", .string path)] | none => [])
    ++ (if d.typeParameters.isEmpty then []
      else [("type_parameters", .array (d.typeParameters.map .string))])
    ++ Annotations.member d.annotations
    ++ [("properties", .array (d.properties.map PropertyDump.toJson))]

/-- The JSON value of a dump. -/
def SymbolDump.toJson (d : SymbolDump) : Json :=
  .object [("declarations", .array (d.declarations.map DeclarationDump.toJson))]

/-- The text of a dump. -/
def SymbolDump.write (d : SymbolDump) : String := d.toJson.compactText

end WrapperGen
