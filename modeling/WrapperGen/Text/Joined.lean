/-!
# Texts put in a row

Packages, nested names, option keys and argument lists are all texts in a row with a
separator between them. The recursion is on the row, so that facts about a joined text are
inductions on its parts.
-/

namespace WrapperGen.Text

/-- The texts of a row with `separator` between each two. -/
def joined (separator : String) : List String → String
  | [] => ""
  | [text] => text
  | text :: next :: rest => text ++ separator ++ joined separator (next :: rest)

/-- The parts of a list between the occurrences of `separator`; always one more than
there are occurrences. -/
def splitAt {α : Type} [DecidableEq α] (separator : α) : List α → List (List α)
  | [] => [[]]
  | c :: rest =>
    if c = separator then [] :: splitAt separator rest
    else match splitAt separator rest with
      | [] => [[c]]
      | part :: parts => (c :: part) :: parts

/-- The parts of a text between the occurrences of a character. -/
def parts (separator : Char) (text : String) : List String :=
  (splitAt separator text.toList).map String.ofList

end WrapperGen.Text
