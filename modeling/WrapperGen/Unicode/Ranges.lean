/-!
# Sets of characters as lists of ranges

The Unicode properties that names and texts are read by are unions of a few hundred ranges of
code points. A list of ranges is searched from the front: the tables are only asked about
characters above ASCII.
-/

namespace WrapperGen.Unicode

/-- Inclusive ranges of code points, ascending. -/
abbrev Ranges := List (Nat × Nat)

/-- Whether code point `n` lies in one of the ranges. -/
def Ranges.holds (ranges : Ranges) (n : Nat) : Bool :=
  ranges.any fun r => r.1 ≤ n && n ≤ r.2

/-- The property `White_Space`, the blanks that trimming a text removes. -/
def isWhiteSpace (c : Char) : Bool :=
  Ranges.holds [(0x9, 0xD), (0x20, 0x20), (0x85, 0x85), (0xA0, 0xA0), (0x1680, 0x1680),
    (0x2000, 0x200A), (0x2028, 0x2029), (0x202F, 0x202F), (0x205F, 0x205F),
    (0x3000, 0x3000)] c.toNat

end WrapperGen.Unicode
