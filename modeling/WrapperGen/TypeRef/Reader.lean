import WrapperGen.Name.Reader
import WrapperGen.TypeRef

/-!
# Reading type references

The written forms are classes with optional type arguments, function types, parentheses around a
type, and a question mark behind any of these. The parts of the grammar are readers that take the
reader of an inner type; tying the knot is left to a bound on the nesting, which the length of the
text always satisfies.

Parentheses open two things, the parameters of a function and a type that is merely grouped. The
list inside is read once; when no arrow and result follow, a list that begins with one type and
closes right behind it is taken for a grouping.
-/

namespace WrapperGen

open Text

namespace TypeRef

/-- Reads a type with blanks allowed around it. -/
def readPadded (inner : Reader TypeRef) : Reader TypeRef := fun s =>
  match inner (skipBlanks s) with
  | none => none
  | some (t, rest) => some (t, skipBlanks rest)

/-- Reads the keyword of a projection. -/
def readVariance : Reader Variance
  | 'i' :: 'n' :: rest => some (.input, rest)
  | 'o' :: 'u' :: 't' :: rest => some (.output, rest)
  | _ => none

/-- Reads a projected argument: the keyword, at least one blank, a type. -/
def readProjection (inner : Reader TypeRef) : Reader TypeRef := fun s =>
  match readVariance s with
  | some (variance, c :: rest) =>
    if isBlank c then
      match inner (skipBlanks rest) with
      | some (t, rest) => some (.projected variance t, rest)
      | none => none
    else none
  | _ => none

/-- Reads a type argument. What looks like the keyword of a projection but is not followed by a type
is the beginning of a class name. -/
def readArgument (inner : Reader TypeRef) : Reader TypeRef := fun s =>
  match s with
  | '*' :: rest => some (.star, rest)
  | _ =>
    match readProjection inner s with
    | some found => some found
    | none => inner s

/-- Reads type arguments in angle brackets. -/
def readArguments (inner : Reader TypeRef) : Reader (List TypeRef) := fun s =>
  match skipBlanks s with
  | '<' :: rest =>
    match separatedBy ',' (readPadded (readArgument inner)) rest with
    | some (arguments, '>' :: rest) => some (arguments, rest)
    | _ => none
  | _ => none

/-- Reads a class, with its type arguments if there are any. -/
def readNamed (inner : Reader TypeRef) : Reader TypeRef := fun s =>
  match readClassName s with
  | none => none
  | some (name, rest) =>
    match readArguments inner rest with
    | some (arguments, rest) => some (.applied name arguments, rest)
    | none => some (.named name, rest)

/-- Reads the end of a function type whose parameters have been read: closing
parenthesis, arrow, result. -/
def readResult (inner : Reader TypeRef) (parameters : List TypeRef) : Reader TypeRef := fun s =>
  match skipBlanks s with
  | ')' :: rest =>
    match skipBlanks rest with
    | '-' :: '>' :: rest =>
      match inner (skipBlanks rest) with
      | some (result, rest) => some (.function parameters result, rest)
      | none => none
    | _ => none
  | _ => none

/-- Reads what an opening parenthesis, already taken, begins: a function type or
a type in parentheses. -/
def readParenthesised (inner : Reader TypeRef) : Reader TypeRef := fun s =>
  match readPadded inner s with
  | none => readResult inner [] s
  | some (first, afterFirst) =>
    let (others, afterAll) := furtherItems (readPadded inner) ',' afterFirst.length afterFirst
    match readResult inner (first :: others) afterAll with
    | some found => some found
    | none =>
      match afterFirst with
      | ')' :: rest => some (first, rest)
      | _ => none

/-- Reads a type up to a question mark behind it. -/
def readCore (inner : Reader TypeRef) : Reader TypeRef := fun s =>
  match s with
  | '(' :: rest => readParenthesised inner rest
  | _ => readNamed inner s

/-- Reads a type in which types are nested fewer than `depth` deep. -/
def readNested : Nat → Reader TypeRef
  | 0, _ => none
  | depth + 1, s =>
    match readCore (readNested depth) s with
    | none => none
    | some (t, rest) =>
      match skipBlanks rest with
      | '?' :: rest => some (.nullable t, rest)
      | _ => some (t, rest)

/-- Reads a type; each nesting takes a character, so the length bounds the depth. -/
def reader : Reader TypeRef := fun s =>
  readNested (s.length + 1) s

/-- The type that a text writes. -/
def read (text : String) : Except TypeSyntaxError TypeRef :=
  Reader.readAll reader text

end TypeRef

end WrapperGen
