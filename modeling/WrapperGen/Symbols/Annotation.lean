import WrapperGen.Json.Decode
import WrapperGen.KeyMap

/-!
# Annotations

An annotation is named by a qualified name and carries arguments keyed by parameter name. Three of
them matter to the generator: one marks the classes that get a wrapper, one the properties that open
a nested section, one the properties whose changes can be subscribed to.
-/

namespace WrapperGen

/-- The value of one annotation argument; enum entries are given by their name, as strings. -/
inductive AnnotationValue where
  | bool (b : Bool)
  | integer (i : Int64)
  | string (s : String)
  | list (items : List AnnotationValue)
deriving Repr, Inhabited

namespace AnnotationValue

/-! ## Written form -/

mutual

/-- The JSON value that is written. -/
def toJson : AnnotationValue → Json
  | bool b => .bool b
  | integer i => .integer i.toInt
  | string s => .string s
  | list items => .array (toJsonItems items)

/-- The JSON values of list items. -/
def toJsonItems : List AnnotationValue → List Json
  | [] => []
  | item :: items => item.toJson :: toJsonItems items

end

/-! ## Reading -/

mutual

/-- Reads a value to its end, with everything inside it, whether or not it will be of use. -/
def checkRead : Nat → Json.Reading → Except Json.ReadError Unit
  | _, .broken _ wanted _ => .error (.fault wanted)
  | _, .number n => if n.meaning = .outOfRange then .error (.fault .malformed) else .ok ()
  | _, .string (.error fault) => .error (.fault fault)
  | levels, .array items ending =>
    Json.enter levels fun levels => do checkItems levels items; ending.expectClosed
  | levels, .object members ending =>
    Json.enter levels fun levels => do checkMembers levels members; ending.expectClosed
  | _, .null | _, .bool _ | _, .string (.ok _) => .ok ()

/-- Reads array elements to their end. -/
def checkItems : Nat → List Json.Reading → Except Json.ReadError Unit
  | _, [] => .ok ()
  | levels, item :: items => do checkRead levels item; checkItems levels items

/-- Reads object members to their end. -/
def checkMembers : Nat → List (Json.Key × Json.Reading) → Except Json.ReadError Unit
  | _, [] => .ok ()
  | levels, (key, value) :: members => do
    let _ ← key.text
    checkRead levels value
    checkMembers levels members

end

/-- An integer that fits into 64 bits with its sign. -/
def int64? (i : Int) : Option Int64 :=
  if Int64.minValue.toInt ≤ i ∧ i ≤ Int64.maxValue.toInt then some (Int64.ofInt i) else none

mutual

/-- The annotation value that was read, unless it is of another kind. -/
def ofReading? : Json.Reading → Option AnnotationValue
  | .bool b => some (bool b)
  | .number n => n.integer?.bind fun i => (int64? i).map integer
  | .string (.ok s) => some (string s)
  | .array items .closed => (ofItems? items).map list
  | _ => none

/-- The annotation values of array elements. -/
def ofItems? : List Json.Reading → Option (List AnnotationValue)
  | [] => some []
  | item :: items => do
    let x ← ofReading? item
    let xs ← ofItems? items
    return x :: xs

end

/-- Decodes a value. All of it is read before its kind is looked at. -/
def decode : Json.Decoder AnnotationValue := fun levels reading => do
  checkRead levels reading
  match ofReading? reading with
  | some value => return value
  | none => throw (.mismatch (.noVariant "AnnotationValue"))

/-- The name of the kind of a value. -/
def kindName : AnnotationValue → String
  | bool _ => "bool"
  | integer _ => "int"
  | string _ => "str"
  | list _ => "list"

end AnnotationValue

/-! ## Arguments -/

/-- The arguments of one annotation, by parameter name. -/
abbrev Arguments := KeyMap AnnotationValue

namespace Arguments

/-- The argument as a string, if it is one. -/
def text? (arguments : Arguments) (key : String) : Option String :=
  match arguments.get? key with
  | some (.string s) => some s
  | _ => none

/-- The argument as a truth value, if it is one. -/
def flag? (arguments : Arguments) (key : String) : Option Bool :=
  match arguments.get? key with
  | some (.bool b) => some b
  | _ => none

/-- The JSON value that is written. -/
def toJson (arguments : Arguments) : Json :=
  .object (arguments.entries.map fun (key, value) => (key, value.toJson))

/-- Decodes arguments. -/
def decode : Json.Decoder Arguments := fun levels reading =>
  KeyMap.ofList <$> Json.decodeMap AnnotationValue.decode levels reading

end Arguments

/-- The annotations of one declaration or property, by qualified annotation name. -/
abbrev Annotations := KeyMap Arguments

namespace Annotations

/-- The JSON value that is written. -/
def toJson (annotations : Annotations) : Json :=
  .object (annotations.entries.map fun (name, arguments) => (name, Arguments.toJson arguments))

/-- Decodes annotations. -/
def decode : Json.Decoder Annotations := fun levels reading =>
  KeyMap.ofList <$> Json.decodeMap Arguments.decode levels reading

end Annotations

/-! ## Markers -/

/-- The qualified names of the annotations that the generator reacts to. -/
structure Markers where
  config : String := "io.wispforest.owo.config.annotation.Config"
  nest : String := "io.wispforest.owo.config.annotation.Nest"
  hook : String := "io.wispforest.owo.config.annotation.Hook"
deriving DecidableEq, Repr, Inhabited

namespace Markers

/-- The fields of the written form; each may be left out. -/
def fields : List (Json.Field Markers) := [
  .of "config" false Json.decodeString fun s m => { m with config := s },
  .of "nest" false Json.decodeString fun s m => { m with nest := s },
  .of "hook" false Json.decodeString fun s m => { m with hook := s }]

/-- Decodes markers. -/
def decode : Json.Decoder Markers := Json.decodeRecord "Markers" fields {}

/-- The JSON value that is written. -/
def toJson (m : Markers) : Json :=
  .object [("config", .string m.config), ("nest", .string m.nest), ("hook", .string m.hook)]

end Markers

end WrapperGen
