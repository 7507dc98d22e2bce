import WrapperGen.Json.Scan
import WrapperGen.Text.Joined
import WrapperGen.Text.Quoted

/-!
# Decoding what was read

Decoders walk a reading in the order of the text and stop at the first thing that is not as
expected, be it a value of the wrong kind or the place where the text stops being JSON.

A decoder is told how many more levels of arrays and objects it may enter; a text has
`maximalNesting` of them. Records are described by their fields, and the description serves
both written forms: an object with the fields as members in any order, or an array of them
in the declared order.
-/

namespace WrapperGen.Json

/-! ## What can be wrong -/

/-- A kind of value as it is named in messages. -/
inductive Found where
  | null
  | bool (b : Bool)
  | integer (i : Int)
  | real (negative : Bool) (magnitude : Binary64)
  | string (s : String)
  | sequence
  | map
deriving Repr

/-- The name of what was found. -/
def Found.text : Found → String
  | null => "null"
  | bool true => "boolean `true`"
  | bool false => "boolean `false`"
  | integer i => "integer `" ++ toString i ++ "`"
  | real negative magnitude =>
    "floating point `" ++ (if negative then "-" else "") ++ magnitude.positional ++ "`"
  | string s => "string " ++ Text.quoted s
  | sequence => "sequence"
  | map => "map"

/-- JSON of the wrong shape. -/
inductive Mismatch where
  | wrongType (found : Found) (expected : String)
  | missingField (name : String)
  | duplicateField (name : String)
  | tooShort (length : Nat) (record : String) (fieldCount : Nat)
  | unknownVariant (found : String) (known : List String)
  | noVariant (type : String)
  | invalid (message : String)
deriving Repr

/-- The message of a mismatch. -/
def Mismatch.message : Mismatch → String
  | wrongType found expected => "invalid type: " ++ found.text ++ ", expected " ++ expected
  | missingField name => "missing field `" ++ name ++ "`"
  | duplicateField name => "duplicate field `" ++ name ++ "`"
  | tooShort length record fieldCount =>
    "invalid length " ++ toString length ++ ", expected struct " ++ record ++ " with "
      ++ toString fieldCount ++ " elements"
  | unknownVariant found known =>
    "unknown variant `" ++ found ++ "`, expected one of "
      ++ Text.joined ", " (known.map fun name => "`" ++ name ++ "`")
  | noVariant type => "data did not match any variant of untagged enum " ++ type
  | invalid message => message

/-- Why a text could not be decoded. -/
inductive ReadError where
  | fault (fault : Fault)
  | mismatch (mismatch : Mismatch)
deriving Repr

/-- The message of a reading error. -/
def ReadError.message : ReadError → String
  | fault .ended => "the text ends too early"
  | fault .malformed => "the text is not JSON"
  | mismatch m => m.message

/-- Decodes a reading inside which that many levels may still be entered. -/
abbrev Decoder (α : Type) := Nat → Reading → Except ReadError α

/-- How many levels of arrays and objects may be nested in each other. -/
def maximalNesting : Nat := 127

/-! ## Mismatches and breaks -/

/-- The error of a reading that should have been something else. -/
def Reading.unexpected (expected : String) : Reading → ReadError
  | .broken _ wanted _ => .fault wanted
  | .null => .mismatch (.wrongType .null expected)
  | .bool b => .mismatch (.wrongType (.bool b) expected)
  | .number n =>
    match n.meaning with
    | .integer i => .mismatch (.wrongType (.integer i) expected)
    | .real negative magnitude => .mismatch (.wrongType (.real negative magnitude) expected)
    | .outOfRange => .fault .malformed
  | .string (.ok s) => .mismatch (.wrongType (.string s) expected)
  | .string (.error fault) => .fault fault
  | .array _ _ => .mismatch (.wrongType .sequence expected)
  | .object _ _ => .mismatch (.wrongType .map expected)

/-- The end of a sequence that is read to its end. -/
def Ending.expectClosed (ending : Ending) : Except ReadError Unit :=
  match ending with
  | .closed => .ok ()
  | .cut fault => .error (.fault fault)

/-- The text of a key. -/
def Key.text : Key → Except ReadError String
  | .string (.ok s) => .ok s
  | .string (.error fault) => .error (.fault fault)
  | .broken _ wanted => .error (.fault wanted)

/-- Goes one level deeper. -/
def enter {α : Type} (levels : Nat) (inside : Nat → Except ReadError α) : Except ReadError α :=
  match levels with
  | 0 => .error (.fault .malformed)
  | levels + 1 => inside levels

/-! ## Plain values -/

/-- Decodes a string that messages call by the given name. -/
def decodeText (expected : String) : Decoder String := fun _ reading =>
  match reading with
  | .string (.ok s) => .ok s
  | other => .error (other.unexpected expected)

/-- Decodes a string. -/
def decodeString : Decoder String := decodeText "a string"

/-- Decodes the path of a file. -/
def decodePath : Decoder String := decodeText "a UTF-8 path string"

/-- Decodes a truth value. -/
def decodeBool : Decoder Bool := fun _ reading =>
  match reading with
  | .bool b => .ok b
  | other => .error (other.unexpected "a boolean")

/-- Decodes a value that may be written as null. -/
def decodeNullable {α : Type} (decode : Decoder α) : Decoder (Option α) := fun levels reading =>
  match reading with
  | .null => .ok none
  | other => some <$> decode levels other

/-- Decodes the elements of an array. -/
def decodeItems {α : Type} (decode : Reading → Except ReadError α) :
    List Reading → Except ReadError (List α)
  | [] => .ok []
  | item :: items => do
    let x ← decode item
    let xs ← decodeItems decode items
    return x :: xs

/-- Decodes an array. -/
def decodeList {α : Type} (decode : Decoder α) : Decoder (List α) := fun levels reading =>
  match reading with
  | .array items ending =>
    enter levels fun levels => do
      let xs ← decodeItems (decode levels) items
      ending.expectClosed
      return xs
  | other => .error (other.unexpected "a sequence")

/-- Decodes the members of an object. -/
def decodeMembers {α : Type} (decode : Reading → Except ReadError α) :
    List (Key × Reading) → Except ReadError (List (String × α))
  | [] => .ok []
  | (key, value) :: members => do
    let k ← key.text
    let x ← decode value
    let rest ← decodeMembers decode members
    return (k, x) :: rest

/-- Decodes an object whose keys are not known beforehand, as the list of its members. -/
def decodeMap {α : Type} (decode : Decoder α) : Decoder (List (String × α)) := fun levels reading =>
  match reading with
  | .object members ending =>
    enter levels fun levels => do
      let entries ← decodeMembers (decode levels) members
      ending.expectClosed
      return entries
  | other => .error (other.unexpected "a map")

/-! ## Words from a list -/

/-- Decodes one of several words, written as a string or as the only key of an
object, with null for value. -/
def decodeWord {α : Type} (known : List (String × α)) : Decoder α := fun levels reading =>
  let choose := fun (word : String) => match known.lookup word with
    | some x => Except.ok x
    | none => .error (.mismatch (.unknownVariant word (known.map (·.1))))
  match reading with
  | .string (.ok word) => choose word
  | .string (.error fault) => .error (.fault fault)
  | .broken _ _ word => .error (.fault word)
  | .object members ending =>
    enter levels fun _ =>
      match members with
      | [] =>
        match ending with
        | .closed => .error (.fault .malformed)
        | .cut fault => .error (.fault fault)
      | (key, value) :: others => do
        let word ← key.text
        let x ← choose word
        match value with
        | .null => pure ()
        | other => throw (other.unexpected "unit")
        if others.isEmpty then ending.expectClosed else throw (.fault .malformed)
        return x
  | _ => .error (.fault .malformed)

/-! ## Records -/

/-- A field of a record: how its value is decoded and stored, and whether it can be left out. -/
structure Field (α : Type) where
  name : String
  required : Bool
  store : Nat → Reading → α → Except ReadError α

/-- A field whose value is decoded first and then stored. -/
def Field.of {α β : Type} (name : String) (required : Bool) (decode : Decoder β)
    (set : β → α → α) : Field α where
  name := name
  required := required
  store := fun levels reading record => do
    let x ← decode levels reading
    return set x record

/-- Decodes the members of a record written as an object. Members that are no fields are skipped. -/
def decodeFields {α : Type} (fields : List (Field α)) (levels : Nat) :
    List (Key × Reading) → List String → α → Except ReadError (List String × α)
  | [], seen, record => .ok (seen, record)
  | (key, value) :: members, seen, record => do
    let name ← key.text
    match fields.find? (·.name == name) with
    | none =>
      match value.skip with
      | .ok _ => decodeFields fields levels members seen record
      | .error fault => throw (.fault fault)
    | some field =>
      if seen.contains name then throw (.mismatch (.duplicateField name))
      let record ← field.store levels value record
      decodeFields fields levels members (name :: seen) record

/-- Decodes the elements of a record written as an array, and returns the fields that got none. What
stands beyond the last field is no part of the record. -/
def decodePositions {α : Type} (levels : Nat) :
    List (Field α) → List Reading → Ending → α → Except ReadError (List (Field α) × α)
  | [], [], ending, record => do ending.expectClosed; return ([], record)
  | [], _ :: _, _, _ => .error (.fault .malformed)
  | fields, [], ending, record => do ending.expectClosed; return (fields, record)
  | field :: fields, item :: items, ending, record => do
    let record ← field.store levels item record
    decodePositions levels fields items ending record

/-- Decodes a record, starting from one in which every field has the value it has when left out. -/
def decodeRecord {α : Type} (name : String) (fields : List (Field α)) (blank : α) : Decoder α :=
  fun levels reading =>
    match reading with
    | .object members ending =>
      enter levels fun levels => do
        let (seen, record) ← decodeFields fields levels members [] blank
        ending.expectClosed
        match fields.find? fun field => field.required && !seen.contains field.name with
        | some field => throw (.mismatch (.missingField field.name))
        | none => return record
    | .array items ending =>
      enter levels fun levels => do
        let (absent, record) ← decodePositions levels fields items ending blank
        match absent.findIdx? (·.required) with
        | some i =>
            throw (.mismatch (.tooShort (fields.length - absent.length + i) name fields.length))
        | none => return record
    | other => .error (other.unexpected ("struct " ++ name))

/-! ## Whole texts -/

/-- Decodes a whole text. -/
def decode {α : Type} (decoder : Decoder α) (text : String) : Except ReadError α := do
  let (reading, onlyBlanks) := scan text
  let x ← decoder maximalNesting reading
  if onlyBlanks then return x else throw (.fault .malformed)

end WrapperGen.Json
