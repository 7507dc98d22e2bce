/-!
# Source text as nested blocks

A source text is a list of lines, blank lines and blocks in braces. Indentation is no state
to keep in balance: it is the depth of a block, so every brace that opens is closed at the
depth it was opened at.
-/

namespace WrapperGen

/-- A piece of source text. -/
inductive Block where
  | line (text : String)
  | blank
  /-- A header with a body in braces. -/
  | braces (header : String) (body : List Block)
deriving Repr, Inhabited

namespace Block

/-- A line four blanks deeper for each level. -/
def indented (depth : Nat) (text : String) : String :=
  String.ofList (List.replicate (4 * depth) ' ') ++ text

mutual

/-- The lines of a piece at some depth. -/
def lines (depth : Nat) : Block → List String
  | line text => [indented depth text]
  | blank => [""]
  | braces header body =>
    indented depth (header ++ " \x7b") :: (allLines (depth + 1) body ++ [indented depth "\x7d"])

/-- The lines of several pieces at the same depth. -/
def allLines (depth : Nat) : List Block → List String
  | [] => []
  | b :: bs => b.lines depth ++ allLines depth bs

end

/-- The text of several pieces, a line feed after each line. -/
def render (blocks : List Block) : String :=
  String.join ((allLines 0 blocks).map (· ++ "\n"))

end Block

end WrapperGen
