import WrapperGen.Json.Number
import WrapperGen.Settings.Quoted
import WrapperGen.Settings.Value

/-!
# Texts, numbers and dates of a settings file

No setting is a number or a date, so of these only the form is checked, and that a number is in
range: integers have 64 bits with a sign, and no finite number may round up to infinity.
-/

namespace WrapperGen.Toml

open Text (Reader)

/-- Reads characters that have to come next. -/
def expect (expected : List Char) : Reader Unit := fun s =>
  if expected.isPrefixOf s then some ((), s.drop expected.length) else none

/-! ## Lines -/

/-- The characters after leading spaces and tabs. -/
def skipSpaces (s : List Char) : List Char := s.dropWhile fun c => c == ' ' || c == '\t'

/-- Reads the end of a line. -/
def readNewline : Reader Unit
  | '\n' :: rest => some ((), rest)
  | '\r' :: '\n' :: rest => some ((), rest)
  | _ => none

/-- Whether a character may stand in a comment or in literal text. -/
def isLineCharacter (c : Char) : Bool := Quoted.isTextCharacter c

/-- The characters after a comment, if one begins here. -/
def skipComment : List Char → List Char
  | '#' :: rest => rest.dropWhile isLineCharacter
  | s => s

/-- The characters after spaces, comments and ends of lines. Each of them
is a character at least. -/
def skipLines : Nat → List Char → List Char
  | 0, s => s
  | bound + 1, s =>
    match readNewline (skipComment (skipSpaces s)) with
    | some (_, rest) => skipLines bound rest
    | none => skipSpaces s

/-! ## Texts -/

/-- Reads literal text on one line, behind its quote. -/
def readLiteral : Reader String := fun s =>
  let (text, rest) := s.span fun c => isLineCharacter c && c != '\''
  match rest with
  | '\'' :: rest => some (String.ofList text, rest)
  | _ => none

/-- The quotes at the front of text over several lines: those that belong to the text,
whether the text ends with them, and what follows. Three quotes end the text, and up to two
may stand right before these. -/
def takeQuotes (quote : Char) (s : List Char) : List Char × Bool × List Char :=
  let count := (s.takeWhile (· == quote)).length
  if count < 3 then (List.replicate count quote, false, s.drop count)
  else
    let inner := min (count - 3) 2
    (List.replicate inner quote, true, s.drop (inner + 3))

/-- The characters after spaces and ends of lines, if there is an end of a line before anything
else. A backslash before them takes them out of the text. -/
def skipBreak : Reader Unit := fun s => do
  let (_, rest) ← readNewline (skipSpaces s)
  return ((), skip rest.length rest)
where
  /-- Spaces and ends of lines are skipped; each of them is a character at least. -/
  skip : Nat → List Char → List Char
    | 0, s => s
    | bound + 1, s =>
      match readNewline (skipSpaces s) with
      | some (_, rest) => skip bound rest
      | none => skipSpaces s

/-- Reads text over several lines, behind its first end of line. Escapes are
understood unless it is literal. -/
def readLong (quote : Char) (literal : Bool) : Nat → Reader (List Char)
  | 0, _ => none
  | _, [] => none
  | bound + 1, c :: s =>
    if c = quote then
      let (quotes, ended, rest) := takeQuotes quote (c :: s)
      if ended then some (quotes, rest)
      else (readLong quote literal bound rest).map fun (cs, rest) => (quotes ++ cs, rest)
    else if c = '\\' && !literal then
      match skipBreak s with
      | some (_, rest) => readLong quote literal bound rest
      | none => do
        let (escaped, rest) ← Quoted.readEscape s
        let (cs, rest) ← readLong quote literal bound rest
        return (escaped :: cs, rest)
    else
      match readNewline (c :: s) with
      | some (_, rest) =>
          (readLong quote literal bound rest).map fun (cs, rest) => ('\n' :: cs, rest)
      | none =>
        if isLineCharacter c then
          (readLong quote literal bound s).map fun (cs, rest) => (c :: cs, rest)
        else none

/-- Reads text over several lines, behind its quotes. An end of line right
behind them does not count. -/
def readLongText (quote : Char) (literal : Bool) : Reader String := fun s =>
  let body := match readNewline s with
    | some (_, rest) => rest
    | none => s
  (readLong quote literal body.length.succ body).map fun (cs, rest) => (String.ofList cs, rest)

/-- Reads text of any form. -/
def readText : Reader String
  | '"' :: '"' :: '"' :: rest => readLongText '"' false rest
  | '\'' :: '\'' :: '\'' :: rest => readLongText '\'' true rest
  | '"' :: rest => Quoted.read rest
  | '\'' :: rest => readLiteral rest
  | _ => none

/-! ## Numbers -/

/-- Reads digits of some kind, with an underscore between any two. -/
def readRun (isDigit : Char → Bool) : Reader (List Char)
  | [] => none
  | c :: s => if isDigit c then some (further c s) else none
where
  /-- The digits from one that was read on, and the characters behind them. -/
  further (c : Char) : List Char → List Char × List Char
    | [] => ([c], [])
    | '_' :: d :: s =>
      if isDigit d then
        let (ds, rest) := further d s
        (c :: ds, rest)
      else ([c], '_' :: d :: s)
    | d :: s =>
      if isDigit d then
        let (ds, rest) := further d s
        (c :: ds, rest)
      else ([c], d :: s)

/-- The number that digits write in a base. -/
def valueIn (base : Nat) (digits : List Char) : Nat :=
  digits.foldl (fun n d => n * base + (Json.hexValue? d).getD 0) 0

/-- Reads an integer in another base than ten, behind its mark. -/
def readBased (base : Nat) : Reader Unit := fun s => do
  let (digits, rest) ← readRun (fun c => ((Json.hexValue? c).map (decide <| · < base)).getD false) s
  if valueIn base digits < UInt64.size / 2 then return ((), rest) else none

/-- Reads a sign, if there is one: whether the number is negative. -/
def readSign : List Char → Bool × List Char
  | '+' :: rest => (false, rest)
  | '-' :: rest => (true, rest)
  | s => (false, s)

/-- Reads the digits before the point. A zero stands alone. -/
def readWhole : Reader (List Char) := fun s => do
  match s with
  | '0' :: rest => return (['0'], rest)
  | _ => readRun Char.isDigit s

/-- Reads an exponent, if there is one. -/
def readExponent : List Char → Option (Option (Bool × List Char) × List Char)
  | c :: s =>
    if c = 'e' ∨ c = 'E' then do
      let (negative, rest) := readSign s
      let (digits, rest) ← readRun Char.isDigit rest
      return (some (negative, digits), rest)
    else some (none, c :: s)
  | [] => some (none, [])

/-- Reads a fraction, if there is one. -/
def readFraction : List Char → Option (List Char × List Char)
  | '.' :: s => readRun Char.isDigit s
  | s => some ([], s)

/-- Whether a number rounds to a finite one. -/
def isFinite (whole fraction : List Char) (exponent : Option (Bool × List Char)) : Bool :=
  let (negative, digits) := exponent.getD (false, [])
  let shift : Int := if negative then -(valueIn 10 digits) else valueIn 10 digits
  Binary64.holdsDecimal (valueIn 10 (whole ++ fraction)) (shift - fraction.length)

/-- Reads a number in base ten. -/
def readDecimal : Reader Unit := fun s => do
  let (negative, afterSign) := readSign s
  let (whole, afterWhole) ← readWhole afterSign
  let (fraction, afterFraction) ← readFraction afterWhole
  let (exponent, rest) ← readExponent afterFraction
  let inRange :=
    if fraction.isEmpty && exponent.isNone then
      valueIn 10 whole < UInt64.size / 2 + (if negative then 1 else 0)
    else negative || isFinite whole fraction exponent
  if inRange then return ((), rest) else none

/-- Reads a number that has a name. -/
def readNamedNumber : Reader Unit := fun s =>
  let (_, rest) := readSign s
  expect ['i', 'n', 'f'] rest <|> expect ['n', 'a', 'n'] rest

/-- Reads a number of any form. -/
def readNumber : Reader Unit
  | '0' :: 'x' :: rest => readBased 16 rest
  | '0' :: 'o' :: rest => readBased 8 rest
  | '0' :: 'b' :: rest => readBased 2 rest
  | s => readNamedNumber s <|> readDecimal s

/-! ## Dates and times -/

/-- Reads a number of so many digits that lies between two bounds. -/
def readPart (count low high : Nat) : Reader Nat := fun s =>
  let digits := s.take count
  let n := valueIn 10 digits
  if digits.length = count ∧ digits.all Char.isDigit ∧ low ≤ n ∧ n ≤ high then
    some (n, s.drop count)
  else none

/-- How many days a month has. -/
def daysIn (year month : Nat) : Nat :=
  if month = 2 then
    if year % 4 = 0 ∧ (year % 100 ≠ 0 ∨ year % 400 = 0) then 29 else 28
  else if month ∈ [4, 6, 9, 11] then 30
  else 31

/-- Reads a date. -/
def readDate : Reader Unit := fun s => do
  let (year, rest) ← readPart 4 0 9999 s
  let (_, rest) ← expect ['-'] rest
  let (month, rest) ← readPart 2 1 12 rest
  let (_, rest) ← expect ['-'] rest
  let (_, rest) ← readPart 2 1 (daysIn year month) rest
  return ((), rest)

/-- Reads a time of day; a minute may have a leap second. -/
def readClock : Reader Unit := fun s => do
  let (_, rest) ← readPart 2 0 23 s
  let (_, rest) ← expect [':'] rest
  let (_, rest) ← readPart 2 0 59 rest
  let (_, rest) ← expect [':'] rest
  let (_, rest) ← readPart 2 0 60 rest
  match rest with
  | '.' :: fraction =>
    if (fraction.takeWhile Char.isDigit).isEmpty then none
    else return ((), fraction.dropWhile Char.isDigit)
  | _ => return ((), rest)

/-- Reads how far a time is from universal time. -/
def readOffset : Reader Unit
  | 'Z' :: rest => some ((), rest)
  | 'z' :: rest => some ((), rest)
  | c :: rest => do
    if !(c == '+' || c == '-') then none
    let (_, rest) ← readPart 2 0 23 rest
    let (_, rest) ← expect [':'] rest
    let (_, rest) ← readPart 2 0 59 rest
    return ((), rest)
  | [] => none

/-- The characters after what is read, or all of them if there is nothing to read. -/
def skipOptional (reader : Reader Unit) (s : List Char) : List Char :=
  match reader s with
  | some (_, rest) => rest
  | none => s

/-- Reads the time behind a date. -/
def readTimeOfDate : Reader Unit
  | c :: rest => do
    if !(c == 'T' || c == 't' || c == ' ') then none
    let (_, rest) ← readClock rest
    return ((), skipOptional readOffset rest)
  | [] => none

/-- Reads a date, a time or both. -/
def readMoment : Reader Unit := fun s =>
  match readDate s with
  | some (_, rest) => some ((), skipOptional readTimeOfDate rest)
  | none => readClock s

/-! ## Scalars -/

/-- Reads a number, a date or a time. A date or time is a table, but holds no setting. -/
def readMeasure : Reader SettingValue := fun s =>
  match readMoment s with
  | some (_, rest) => some (.table [], rest)
  | none =>
      (readNumber s).map fun (_, rest) =>
        (.number (String.ofList (s.take (s.length - rest.length))), rest)

/-- Reads a flag. -/
def readFlag : Reader SettingValue := fun s =>
  ((expect ['t', 'r', 'u', 'e'] s).map fun (_, rest) => (.flag true, rest)) <|>
    (expect ['f', 'a', 'l', 's', 'e'] s).map fun (_, rest) => (.flag false, rest)

end WrapperGen.Toml
