import WrapperGen.Json.Reading
import WrapperGen.Text.Reader

/-!
# Reading JSON texts

The tree of a text, from left to right up to its first fault. Strings are taken apart into
characters and escaped units of sixteen bits before the units are paired up, because only a reader
who wants the text of a string minds a half of a pair that stands alone.
-/

namespace WrapperGen.Json

open Text (skipBlanks)

/-! ## Strings -/

/-- A piece of a string: a character as it stands, or a unit of sixteen bits from an escape. -/
inductive Piece where
  | char (c : Char)
  | unit (n : Nat)
deriving DecidableEq, Repr

/-- The value of a hexadecimal digit. -/
def hexValue? (c : Char) : Option Nat :=
  if '0' ≤ c ∧ c ≤ '9' then some (c.toNat - 48)
  else if 'a' ≤ c ∧ c ≤ 'f' then some (c.toNat - 87)
  else if 'A' ≤ c ∧ c ≤ 'F' then some (c.toNat - 55)
  else none

/-- The unit that four hexadecimal digits write. -/
def unitOf? (a b c d : Char) : Option Nat := do
  let a ← hexValue? a
  let b ← hexValue? b
  let c ← hexValue? c
  let d ← hexValue? d
  return ((a * 16 + b) * 16 + c) * 16 + d

/-- The character behind a backslash, for the escapes of one letter. -/
def escapeLetter? : Char → Option Char
  | '"' => some '"'
  | '\\' => some '\\'
  | '/' => some '/'
  | 'b' => some '\x08'
  | 'f' => some '\x0c'
  | 'n' => some '\n'
  | 'r' => some '\r'
  | 't' => some '\t'
  | _ => none

/-- The fault of an escape that has fewer than four characters left. The digits are looked for only
when four bytes are left, else the text counts as ended. -/
def shortEscapeFault (s : List Char) : Fault :=
  if 4 ≤ (String.ofList s).utf8ByteSize then .malformed else .ended

/-- The pieces of a string up to its closing quote, and the characters behind it
or the fault before it. -/
def pieces : List Char → List Piece × Except Fault (List Char)
  | [] => ([], .error .ended)
  | '"' :: rest => ([], .ok rest)
  | '\\' :: 'u' :: a :: b :: c :: d :: rest =>
    match unitOf? a b c d with
    | none => ([], .error .malformed)
    | some n =>
      let (more, outcome) := pieces rest
      (.unit n :: more, outcome)
  | '\\' :: 'u' :: rest => ([], .error (shortEscapeFault rest))
  | '\\' :: letter :: rest =>
    match escapeLetter? letter with
    | none => ([], .error .malformed)
    | some c =>
      let (more, outcome) := pieces rest
      (.char c :: more, outcome)
  | ['\\'] => ([], .error .ended)
  | c :: rest =>
    if c.toNat < 0x20 then ([], .error .malformed)
    else
      let (more, outcome) := pieces rest
      (.char c :: more, outcome)

/-- The first half of a surrogate pair. -/
def isLeading (n : Nat) : Bool := 0xD800 ≤ n && n < 0xDC00

/-- The second half of a surrogate pair. -/
def isTrailing (n : Nat) : Bool := 0xDC00 ≤ n && n < 0xE000

/-- The text of pieces, unless a half of a pair stands alone. -/
def textOfPieces : List Piece → Except Fault (List Char)
  | [] => .ok []
  | .char c :: rest => (c :: ·) <$> textOfPieces rest
  | .unit n :: rest =>
    if isTrailing n then .error .malformed
    else if isLeading n then
      match rest with
      | .unit m :: rest =>
        if isTrailing m then
          (Char.ofNat (0x10000 + (n - 0xD800) * 0x400 + (m - 0xDC00)) :: ·) <$> textOfPieces rest
        else .error .malformed
      | _ => .error .malformed
    else (Char.ofNat n :: ·) <$> textOfPieces rest

/-- The pieces without a first half at the end, whose other half may have been about to follow. -/
def withoutOpenPair : List Piece → List Piece
  | [] => []
  | [.unit n] => if isLeading n then [] else [.unit n]
  | piece :: rest => piece :: withoutOpenPair rest

/-- The fault that a reader who wants the text meets in a string that breaks off with `fault`. -/
def wantedFault (read : List Piece) (fault : Fault) : Fault :=
  match textOfPieces (withoutOpenPair read) with
  | .ok _ => fault
  | .error earlier => earlier

/-- The reading where the text ends before a value. -/
def absent : Reading := .broken .ended .ended .ended

/-- The reading where something stands that begins no value. -/
def malformed : Reading := .broken .malformed .malformed .malformed

/-! ## Numbers -/

/-- The value of a decimal digit. -/
def digitValue (c : Char) : Nat := c.toNat - 48

/-- The leading digits and the characters behind them. -/
def digits (s : List Char) : List Nat × List Char :=
  ((s.takeWhile Char.isDigit).map digitValue, s.dropWhile Char.isDigit)

/-- The reading where a digit is missing: at the end of the text, only a reader who wants the number
says that the text ended. -/
def missingDigit (s : List Char) : Reading :=
  .broken .malformed (if s.isEmpty then .ended else .malformed) .malformed

/-- Reads an exponent, if one follows, and completes the number. -/
def scanExponent (n : Number) (s : List Char) : Reading × List Char :=
  match s with
  | c :: rest =>
    if c = 'e' ∨ c = 'E' then
      let (negative, rest) := match rest with
        | '+' :: rest => (false, rest)
        | '-' :: rest => (true, rest)
        | _ => (false, rest)
      match digits rest with
      | ([], rest) => (missingDigit rest, [])
      | (exponent, rest) => (.number { n with exponent := some (negative, exponent) }, rest)
    else (.number n, s)
  | [] => (.number n, [])

/-- Reads what follows the whole part of a number. -/
def scanFraction (n : Number) (s : List Char) : Reading × List Char :=
  match s with
  | '.' :: rest =>
    match digits rest with
    | ([], rest) => (missingDigit rest, [])
    | (fraction, rest) => scanExponent { n with fraction := some fraction } rest
  | _ => scanExponent n s

/-- Reads a number behind its sign: a zero stands alone before the point. -/
def scanNumber (negative : Bool) (s : List Char) : Reading × List Char :=
  match digits s with
  | ([], rest) => (missingDigit rest, [])
  | (0 :: _ :: _, _) => (malformed, [])
  | (whole, rest) => scanFraction ⟨negative, whole, none, none⟩ rest

/-! ## Values -/

/-- Reads the rest of a word. -/
def scanWord (value : Reading) : List Char → List Char → Reading × List Char
  | [], s => (value, s)
  | _ :: _, [] => (.broken .ended .ended .malformed, [])
  | w :: word, c :: s => if c = w then scanWord value word s else (malformed, [])

/-- Reads a value that holds no others. -/
def scanScalar : List Char → Reading × List Char
  | 'n' :: rest => scanWord .null ['u', 'l', 'l'] rest
  | 't' :: rest => scanWord (.bool true) ['r', 'u', 'e'] rest
  | 'f' :: rest => scanWord (.bool false) ['a', 'l', 's', 'e'] rest
  | '"' :: rest =>
    match pieces rest with
    | (read, .ok rest) => (.string (String.ofList <$> textOfPieces read), rest)
    | (read, .error fault) => (.broken fault (wantedFault read fault) (wantedFault read fault), [])
  | '-' :: rest => scanNumber true rest
  | c :: rest => if c.isDigit then scanNumber false (c :: rest) else (malformed, [])
  | [] => (absent, [])

/-- Whether reading broke off inside a value that holds no others. -/
def Reading.isBroken : Reading → Bool
  | .broken _ _ _ => true
  | _ => false

/-- Reads the key of an object member. -/
def scanKey (s : List Char) : Key × Option (List Char) :=
  match skipBlanks s with
  | [] => (.broken .ended .ended, none)
  | '"' :: rest =>
    match pieces rest with
    | (read, .ok rest) => (.string (String.ofList <$> textOfPieces read), some rest)
    | (read, .error fault) => (.broken fault (wantedFault read fault), none)
  | _ => (.broken .malformed .malformed, none)

mutual

/-- Reads a value. The characters behind it are absent when reading broke off inside. -/
def scanValue : Nat → List Char → Reading × Option (List Char)
  | 0, _ => (absent, none)
  | bound + 1, s =>
    match skipBlanks s with
    | '[' :: rest =>
      match skipBlanks rest with
      | [] => (.array [] (.cut .ended), none)
      | ']' :: rest => (.array [] .closed, some rest)
      | rest =>
        let (items, ending, after) := scanItems bound rest
        (.array items ending, after)
    | '{' :: rest =>
      match skipBlanks rest with
      | [] => (.object [] (.cut .ended), none)
      | '}' :: rest => (.object [] .closed, some rest)
      | rest =>
        let (members, ending, after) := scanMembers bound rest
        (.object members ending, after)
    | s =>
      let (value, rest) := scanScalar s
      (value, if value.isBroken then none else some rest)

/-- Reads the elements of an array from the next one on. -/
def scanItems : Nat → List Char → List Reading × Ending × Option (List Char)
  | 0, _ => ([], .cut .ended, none)
  | bound + 1, s =>
    match scanValue bound s with
    | (value, none) => ([value], .cut .malformed, none)
    | (value, some rest) =>
      match skipBlanks rest with
      | [] => ([value], .cut .ended, none)
      | ']' :: rest => ([value], .closed, some rest)
      | ',' :: rest =>
        let (items, ending, after) := scanItems bound rest
        (value :: items, ending, after)
      | _ => ([value], .cut .malformed, none)

/-- Reads the members of an object from the next one on. -/
def scanMembers : Nat → List Char → List (Key × Reading) × Ending × Option (List Char)
  | 0, _ => ([], .cut .ended, none)
  | bound + 1, s =>
    match scanKey s with
    | (key, none) => ([(key, .null)], .cut .malformed, none)
    | (key, some rest) =>
      match skipBlanks rest with
      | [] => ([(key, absent)], .cut .malformed, none)
      | ':' :: rest =>
        match scanValue bound rest with
        | (value, none) => ([(key, value)], .cut .malformed, none)
        | (value, some rest) =>
          match skipBlanks rest with
          | [] => ([(key, value)], .cut .ended, none)
          | '}' :: rest => ([(key, value)], .closed, some rest)
          | ',' :: rest =>
            let (members, ending, after) := scanMembers bound rest
            ((key, value) :: members, ending, after)
          | _ => ([(key, value)], .cut .malformed, none)
      | _ => ([(key, malformed)], .cut .malformed, none)

end

/-- The reading of a whole text, and whether only blanks follow the value. Every step of the reading
takes a character or goes one level deeper with one, so twice the length is bound enough. -/
def scan (text : String) : Reading × Bool :=
  let s := text.toList
  match scanValue (2 * s.length + 2) s with
  | (reading, none) => (reading, true)
  | (reading, some rest) => (reading, (skipBlanks rest).isEmpty)

end WrapperGen.Json
