import WrapperGen.Toml.Scalar
import WrapperGen.Toml.Tree

/-!
# Settings files

A file is read line by line: blank lines and comments, headers, and values under dotted keys.
Anything that is not understood, and any key defined twice, makes the whole file unreadable.
-/

namespace WrapperGen.Toml

open Text (Reader)

/-- Nesting of lists and tables inside one value, and parts of one dotted key, stay below this. -/
def depthLimit : Nat := 80

/-! ## Keys -/

/-- Whether a character may stand in a key without quotes. -/
def isKeyCharacter (c : Char) : Bool := c.isAlphanum || c == '_' || c == '-'

/-- Reads one part of a key, with spaces around it. -/
def readPart? : Reader String := fun s => do
  let (part, rest) ← match skipSpaces s with
    | '"' :: rest => Quoted.read rest
    | '\'' :: rest => readLiteral rest
    | s =>
      let (part, rest) := s.span isKeyCharacter
      if part.isEmpty then none else some (String.ofList part, rest)
  return (part, skipSpaces rest)

/-- Reads a dotted key: the keys that lead to a table, and the last one. -/
def readKey : Reader (List String × String) := fun s => do
  let (parts, rest) ← Text.separatedBy '.' readPart? s
  let last ← parts.getLast?
  if parts.length < depthLimit then return ((parts.dropLast, last), rest) else none

/-! ## Values -/

/-- Reads the items of a list behind its bracket; a comma may stand behind the last. -/
def readItems (item : Reader SettingValue) : Nat → Reader (List SettingValue)
  | 0, _ => none
  | bound + 1, s =>
    match skipLines s.length s with
    | ']' :: rest => some ([], rest)
    | s => do
      let (value, rest) ← item s
      match skipLines rest.length rest with
      | ',' :: rest =>
        let (values, rest) ← readItems item bound rest
        return (value :: values, rest)
      | ']' :: rest => return ([value], rest)
      | _ => none

/-- Reads a value under a dotted key, with spaces around the value, and adds it to a table. -/
def readPair (value : Reader SettingValue)
    (add : List String → String → SettingValue → Option Entries) :
    Reader Entries := fun s => do
  let ((keys, key), rest) ← readKey s
  let (_, rest) ← expect ['='] rest
  let (v, rest) ← value (skipSpaces rest)
  let entries ← add keys key v
  return (entries, skipSpaces rest)

/-- Reads the values of a table on one line behind its bracket. -/
def readPairs (value : Reader SettingValue) : Nat → Entries → Reader Entries
  | 0, _, _ => none
  | bound + 1, entries, s => do
    let (entries, rest) ← readPair value (fun keys key v => addValue? keys key v entries) s
    match rest with
    | ',' :: rest => readPairs value bound entries rest
    | '\x7d' :: rest => return (entries, rest)
    | _ => none

/-- Reads a table on one line behind its bracket. -/
def readInline (value : Reader SettingValue) : Reader SettingValue := fun s =>
  match skipSpaces s with
  | '\x7d' :: rest => some (.table [], rest)
  | s =>
      (readPairs value s.length [] s).map fun (entries, rest) => (.table (toSettings entries), rest)

/-- Reads a value without brackets. -/
def readScalar : Reader SettingValue := fun s =>
  ((readText s).map fun (text, rest) => (.text text, rest)) <|> readFlag s <|> readMeasure s

/-- Reads a value with brackets nested so deep. -/
def readValue : Nat → Reader SettingValue
  | 0, s => readScalar s
  | depth + 1, s =>
    match s with
    | '[' :: rest =>
        (readItems (readValue depth) s.length rest).map fun (items, rest) => (.list items, rest)
    | '\x7b' :: rest => readInline (readValue depth) rest
    | _ => readScalar s

/-! ## Lines -/

/-- What was read of a file: the keys of the last header, and the tables so far. -/
structure Document where
  header : List String := []
  entries : Entries := []

/-- Whether nothing but perhaps a comment is left of a line. -/
def endsHere : List Char → Bool
  | [] => true
  | c :: _ => c == '#' || c == '\n' || c == '\r'

/-- Reads what a line holds besides a comment. -/
def readLine (d : Document) : Reader Document := fun s =>
  match s with
  | '[' :: '[' :: rest => do
    let ((keys, key), rest) ← readKey rest
    let (_, rest) ← expect [']', ']'] rest
    let entries ← openNext? keys key d.entries
    return (⟨keys ++ [key], entries⟩, rest)
  | '[' :: rest => do
    let ((keys, key), rest) ← readKey rest
    let (_, rest) ← expect [']'] rest
    let entries ← openTable? keys key d.entries
    return (⟨keys ++ [key], entries⟩, rest)
  | _ =>
    if endsHere s then some (d, s)
    else
      (readPair (readValue (depthLimit - 1))
        (fun keys key v => addBelow? d.header keys key v d.entries) s).map
        fun (entries, rest) => (⟨d.header, entries⟩, rest)

/-- Reads all lines. -/
def readLines : Nat → Document → List Char → Option Document
  | 0, _, _ => none
  | bound + 1, d, s => do
    let (d, rest) ← readLine d (skipSpaces s)
    match skipComment (skipSpaces rest) with
    | [] => some d
    | rest => do
      let (_, rest) ← readNewline rest
      readLines bound d rest

/-- The characters behind a mark of the byte order. -/
def withoutMark : List Char → List Char
  | '\uFEFF' :: rest => rest
  | s => s

/-- The settings that a file gives, if it can be read. -/
def settings? (text : String) : Option SettingTable := do
  let d ← readLines text.toList.length.succ {} (withoutMark text.toList)
  return toSettings d.entries

end WrapperGen.Toml
