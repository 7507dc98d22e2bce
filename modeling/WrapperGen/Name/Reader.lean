import WrapperGen.Name
import WrapperGen.Text.Reader
import WrapperGen.Unicode.Alphabetic
import WrapperGen.Unicode.Numeric
import WrapperGen.Unicode.Uppercase

/-!
# Reading class names

A name is a chain of identifiers joined by dots. Where the package ends is either pinned by a slash
or guessed from the case of the letters: packages are written small and classes with a capital.
-/

namespace WrapperGen

open Text Unicode

/-- A text that is no type reference or class name, and what was left of it
where reading stopped. -/
structure TypeSyntaxError where
  input : String
  remainder : String
deriving DecidableEq, Repr

/-- The error as it is shown. -/
def TypeSyntaxError.message (e : TypeSyntaxError) : String :=
  "cannot parse type reference `" ++ e.input ++ "`: unexpected input at `" ++ e.remainder ++ "`"

/-- Reads all of a text, with blanks allowed around what the reader takes. -/
def Text.Reader.readAll {α : Type} (reader : Reader α) (input : String) :
    Except TypeSyntaxError α :=
  let s := skipBlanks input.toList
  match reader s with
  | none => .error ⟨input, String.ofList s⟩
  | some (x, rest) =>
    match skipBlanks rest with
    | [] => .ok x
    | rest => .error ⟨input, String.ofList rest⟩

/-! ## Identifiers -/

/-- A character an identifier may start with: a letter or an underscore. -/
def isIdentifierStart (c : Char) : Bool :=
  isAlphabetic c || c == '_'

/-- A character an identifier may go on with: a letter, a number or an underscore. -/
def isIdentifierPart (c : Char) : Bool :=
  isAlphabetic c || isNumeric c || c == '_'

/-- Whether a text is an identifier. -/
def isIdentifier (text : String) : Bool :=
  match text.toList with
  | [] => false
  | c :: rest => isIdentifierStart c && rest.all isIdentifierPart

/-- Reads one identifier, as long as it goes. -/
def readIdentifier : Reader String
  | [] => none
  | c :: rest =>
    if isIdentifierStart c then
      some (String.ofList (c :: rest.takeWhile isIdentifierPart), rest.dropWhile isIdentifierPart)
    else none

/-- Reads identifiers joined by dots. -/
def readDotted : Reader (List String) :=
  separatedBy '.' readIdentifier

/-! ## The package boundary -/

/-- Whether a segment starts with a capital letter. -/
def startsWithCapital (segment : String) : Bool :=
  match segment.toList with
  | [] => false
  | c :: _ => isUppercase c

/-- How many segments of an unpinned name belong to the package: those before the first that starts
with a capital, or all but the last when none does. -/
def packageLength (segments : List String) : Nat :=
  match segments.findIdx? startsWithCapital with
  | some i => i
  | none => segments.length - 1

/-- The name that a chain of segments means by the case of its letters. -/
def ClassName.ofSegments (segments : List String) : ClassName where
  package := joined "." (segments.take (packageLength segments))
  simpleNames := segments.drop (packageLength segments)

/-- Reads a class name, pinned or not. -/
def readClassName : Reader ClassName := fun s =>
  match readDotted s with
  | none => none
  | some (segments, rest) =>
    match rest with
    | '/' :: afterSlash =>
      match readDotted afterSlash with
      | some (names, rest) => some (⟨joined "." segments, names⟩, rest)
      | none => some (ClassName.ofSegments segments, rest)
    | _ => some (ClassName.ofSegments segments, rest)

/-- The class name that a text writes. -/
def ClassName.read (text : String) : Except TypeSyntaxError ClassName :=
  Reader.readAll readClassName text

end WrapperGen
