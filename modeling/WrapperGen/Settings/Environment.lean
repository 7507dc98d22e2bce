import WrapperGen.Settings.Quoted
import WrapperGen.Settings.Value
import WrapperGen.Text.Joined
import WrapperGen.Unicode.Ranges

/-!
# Settings in environment variables

A variable whose name begins with the prefix gives a setting. Two underscores in the rest of
the name lead into a table. Its value is read as a flag, a number, a list, a table or quoted
text where it has the form of one; a value that has no such form through to its end is plain
text, just as it stands.
-/

namespace WrapperGen.Environment

open Text (Reader)

/-- How the names of variables with settings begin. -/
def namePrefix : String := "KOWO_GEN_"

/-- An environment, as names with their values. -/
abbrev Variables := List (String × String)

/-! ## Names -/

/-- Each two underscores as a dot. -/
def dotted : List Char → List Char
  | '_' :: '_' :: rest => '.' :: dotted rest
  | c :: rest => c :: dotted rest
  | [] => []

/-- A text without blanks around it. -/
def trimmed (s : List Char) : List Char :=
  ((s.dropWhile Unicode.isWhiteSpace).reverse.dropWhile Unicode.isWhiteSpace).reverse

/-- The keys that a variable's name leads through, if it names a setting. The prefix is recognised
in letters of either case. -/
def keys? (name : String) : Option (List String) :=
  let letters := (trimmed name.toList).map Char.toLower
  let start := namePrefix.toList.map Char.toLower
  if start.isPrefixOf letters then
    let keys := (Text.splitAt '.' (trimmed (dotted (letters.drop start.length)))).map String.ofList
    if keys.contains "" then none else some keys
  else none

/-- A value inside the tables that the keys lead through. -/
def nest (value : SettingValue) : List String → SettingValue
  | [] => value
  | key :: keys => .table [(key, nest value keys)]

/-! ## Numbers -/

/-- Whether a text consists of at least one digit. -/
def isDigits (s : List Char) : Bool := !s.isEmpty && s.all Char.isDigit

/-- The characters behind a sign. -/
def withoutSign : List Char → List Char
  | '+' :: rest => rest
  | '-' :: rest => rest
  | s => s

/-- Whether a text is a number with a point: digits on at least one side of it,
then perhaps an exponent. -/
def isDecimal (s : List Char) : Bool :=
  let (whole, rest) := (withoutSign s).span Char.isDigit
  match rest with
  | '.' :: rest =>
    let (fraction, rest) := rest.span Char.isDigit
    (!whole.isEmpty || !fraction.isEmpty) &&
      match rest with
      | [] => true
      | c :: exponent => (c == 'e' || c == 'E') && isDigits (withoutSign exponent)
  | _ => false

/-- Whether a text is an integer of 64 bits. -/
def isInteger (s : List Char) : Bool :=
  let value := Json.Number.ofDigits ((withoutSign s).map Json.digitValue)
  isDigits (withoutSign s) && match s with
    | '-' :: _ => value ≤ UInt64.size / 2
    | _ => value < UInt64.size

/-! ## Values -/

/-- A blank that separates the parts of a value. -/
def isBlank (c : Char) : Bool :=
  c == ' ' || c == '\t' || c == '\n' || c == '\x0c' || c == '\r'

/-- The characters after any leading blanks. -/
def skipBlanks (s : List Char) : List Char := s.dropWhile isBlank

/-- Whether a character may stand in a value without quotes. -/
def isPlain (c : Char) : Bool :=
  !(c == ',' || c == '\x7b' || c == '\x7d' || c == '[' || c == ']')

/-- Whether a character may stand in a key without quotes. -/
def isKeyCharacter (c : Char) : Bool := c.isAlphanum || c == '_' || c == '-'

/-- Reads the items of a list or table behind its opening bracket; a comma may
stand behind the last. -/
def readItems {α : Type} (item : Reader α) (close : Char) : Nat → Reader (List α)
  | 0, _ => none
  | bound + 1, s =>
    if s.head? = some close then some ([], s.drop 1)
    else do
      let (x, rest) ← item s
      match rest with
      | ',' :: rest =>
        let (xs, rest) ← readItems item close bound rest
        return (x :: xs, rest)
      | c :: rest => if c = close then some ([x], rest) else none
      | [] => none

/-- A value without quotes or brackets. -/
def plainValue (s : List Char) : SettingValue :=
  if s.contains '.' && isDecimal s then .number (String.ofList s)
  else if isInteger s then .number (String.ofList s)
  else .text (String.ofList s)

/-- Reads a key of a table. -/
def readKey : Reader String := fun s =>
  match s with
  | '"' :: rest => Quoted.read rest
  | _ =>
    let (key, rest) := s.span isKeyCharacter
    if key.isEmpty then none else some (String.ofList key, rest)

/-- Reads a value that no blanks stand before, given how values inside it are read. -/
def readBare (inner : Reader SettingValue) : Reader SettingValue := fun s =>
  match s with
  | 't' :: 'r' :: 'u' :: 'e' :: rest => some (.flag true, rest)
  | 'f' :: 'a' :: 'l' :: 's' :: 'e' :: rest => some (.flag false, rest)
  | '\x7b' :: rest => do
    let entry := fun (s : List Char) => do
      let (key, rest) ← readKey (skipBlanks s)
      match skipBlanks rest with
      | '=' :: rest =>
        let (value, rest) ← inner rest
        return ((key, value), rest)
      | _ => none
    let (entries, rest) ← readItems entry '\x7d' rest.length.succ rest
    return (.table (entries.foldl (fun t (key, value) => SettingValue.store key value t) []), rest)
  | '[' :: rest => do
    let (items, rest) ← readItems inner ']' rest.length.succ rest
    return (.list items, rest)
  | '"' :: rest => do
    let (text, rest) ← Quoted.read rest
    return (.text text, rest)
  | '\'' :: rest =>
    match rest with
    | c :: '\'' :: rest => some (.text (String.ofList [c]), rest)
    | _ => none
  | _ =>
    let (plain, rest) := s.span isPlain
    some (plainValue (trimmed plain), rest)

/-- Reads a value with blanks around it; lists and tables may be nested `depth` deep. -/
def readValue : Nat → Reader SettingValue
  | 0, _ => none
  | depth + 1, s => do
    let (value, rest) ← readBare (readValue depth) (skipBlanks s)
    return (value, skipBlanks rest)

/-- The value that the text of a variable stands for. -/
def valueOf (text : String) : SettingValue :=
  match readValue text.length.succ text.toList with
  | some (value, []) => value
  | _ => .text text

/-- The settings that variables give, later ones winning. -/
def settings (environment : Variables) : SettingTable :=
  mergeAll <| environment.filterMap fun (name, text) => do
    let keys ← keys? name
    match nest (valueOf text) keys with
    | .table entries => some entries
    | _ => none

end WrapperGen.Environment
