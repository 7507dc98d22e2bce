/-!
# JSON values and how they are written

Symbol dumps and dependency records are JSON texts. Values are written without any blanks, or,
for records, with every element on its own line. Only quotes, backslashes and control
characters are escaped.
-/

namespace WrapperGen

/-- A JSON value. Numbers are integers: the program writes no others. -/
inductive Json where
  | null
  | bool (b : Bool)
  | integer (i : Int)
  | string (s : String)
  | array (items : List Json)
  | object (members : List (String × Json))
deriving Repr, Inhabited

namespace Json

/-! ## Strings -/

/-- A control character by its code, in four hexadecimal digits. -/
def codeEscape (c : Char) : List Char :=
  ['\\', 'u', '0', '0', Nat.digitChar (c.toNat / 16), Nat.digitChar (c.toNat % 16)]

/-- A character as it is written inside a string. -/
def escaped (c : Char) : List Char :=
  if c = '"' then ['\\', '"']
  else if c = '\\' then ['\\', '\\']
  else if 0x20 ≤ c.toNat then [c]
  else if c = '\x08' then ['\\', 'b']
  else if c = '\x0c' then ['\\', 'f']
  else if c = '\n' then ['\\', 'n']
  else if c = '\r' then ['\\', 'r']
  else if c = '\t' then ['\\', 't']
  else codeEscape c

/-- A string in quotes. -/
def quoted (s : String) : List Char :=
  '"' :: (s.toList.flatMap escaped ++ ['"'])

/-! ## Values without blanks -/

mutual

/-- A value in the shortest form. -/
def compact : Json → List Char
  | null => ['n', 'u', 'l', 'l']
  | bool true => ['t', 'r', 'u', 'e']
  | bool false => ['f', 'a', 'l', 's', 'e']
  | integer i => (toString i).toList
  | string s => quoted s
  | array items => '[' :: (compactItems items ++ [']'])
  | object members => '{' :: (compactMembers members ++ ['}'])

/-- Array elements with commas between them. -/
def compactItems : List Json → List Char
  | [] => []
  | [item] => item.compact
  | item :: next :: rest => item.compact ++ ',' :: compactItems (next :: rest)

/-- Object members with commas between them. -/
def compactMembers : List (String × Json) → List Char
  | [] => []
  | [(key, value)] => quoted key ++ ':' :: value.compact
  | (key, value) :: next :: rest =>
      quoted key ++ ':' :: (value.compact ++ ',' :: compactMembers (next :: rest))

end

/-- The text of a value in the shortest form. -/
def compactText (j : Json) : String := String.ofList j.compact

/-! ## Values over several lines -/

/-- A line break and the blanks of `depth` levels. -/
def lineBreak (depth : Nat) : List Char :=
  '\n' :: List.replicate (2 * depth) ' '

mutual

/-- A value over several lines, two blanks deeper at each level; what is empty stays closed up. -/
def spread (depth : Nat) : Json → List Char
  | array [] => ['[', ']']
  | array (item :: items) =>
      '[' :: (spreadItems (depth + 1) (item :: items) ++ lineBreak depth ++ [']'])
  | object [] => ['{', '}']
  | object (member :: members) =>
    '{' :: (spreadMembers (depth + 1) (member :: members) ++ lineBreak depth ++ ['}'])
  | null => compact null
  | bool b => compact (bool b)
  | integer i => compact (integer i)
  | string s => compact (string s)

/-- Array elements, each on a line of its own. -/
def spreadItems (depth : Nat) : List Json → List Char
  | [] => []
  | [item] => lineBreak depth ++ spread depth item
  | item :: next :: rest =>
      lineBreak depth ++ spread depth item ++ ',' :: spreadItems depth (next :: rest)

/-- Object members, each on a line of its own. -/
def spreadMembers (depth : Nat) : List (String × Json) → List Char
  | [] => []
  | [(key, value)] => lineBreak depth ++ quoted key ++ ':' :: ' ' :: spread depth value
  | (key, value) :: next :: rest =>
    lineBreak depth ++ quoted key ++ ':' :: ' '
      :: (spread depth value ++ ',' :: spreadMembers depth (next :: rest))

end

/-- The text of a value over several lines. -/
def spreadText (j : Json) : String := String.ofList (j.spread 0)

end Json

end WrapperGen
