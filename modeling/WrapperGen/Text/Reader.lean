/-!
# Reading from the front of a text

A reader takes the longest piece it understands off the front of the remaining characters, or
refuses and takes nothing. Everything optional in a grammar is a second reader tried on the same
characters, so a refusal never has to be undone.
-/

namespace WrapperGen.Text

/-- What was read off the front of the characters, and the characters after it. -/
abbrev Reader (α : Type) := List Char → Option (α × List Char)

/-- A blank inside a type: space, tab, carriage return or line feed. -/
def isBlank (c : Char) : Bool :=
  c == ' ' || c == '\t' || c == '\r' || c == '\n'

/-- The characters after any leading blanks. -/
def skipBlanks (s : List Char) : List Char :=
  s.dropWhile isBlank

/-- Further items, each after one `separator`; a separator that no item follows is left unread.

The bound counts separators: a text holds no more of them than characters. -/
def furtherItems {α : Type} (item : Reader α) (separator : Char) :
    Nat → List Char → List α × List Char
  | 0, s => ([], s)
  | bound + 1, s =>
    match s with
    | [] => ([], [])
    | c :: afterSeparator =>
      if c = separator then
        match item afterSeparator with
        | none => ([], s)
        | some (x, rest) =>
          let (xs, rest) := furtherItems item separator bound rest
          (x :: xs, rest)
      else ([], s)

/-- One item or more with `separator` between them. -/
def separatedBy {α : Type} (separator : Char) (item : Reader α) : Reader (List α) := fun s =>
  match item s with
  | none => none
  | some (x, rest) =>
    let (xs, rest) := furtherItems item separator rest.length rest
    some (x :: xs, rest)

end WrapperGen.Text
