import WrapperGen.Text.Joined

/-!
# Paths

A path is kept as it is written, because messages and records show it that way. It is a row of
segments between slashes; empty segments and single dots say nothing, except for a dot at the very
start, and two dots lead back.
-/

namespace WrapperGen

/-- A path as it is written. -/
structure Path where
  text : String
deriving DecidableEq, Repr, Inhabited

namespace Path

/-- The segments between slashes; the first is empty when the path starts at the root. -/
def segments (p : Path) : List String := Text.parts '/' p.text

/-- Whether the path starts at the root. -/
def isAbsolute (p : Path) : Bool := ['/'].isPrefixOf p.text.toList

/-- Segments without those at the end that say nothing. The first segment always stays: it tells
where the path starts. -/
def trimmed : List String → List String
  | [] => []
  | first :: rest => first :: (rest.reverse.dropWhile fun s => s == "" || s == ".").reverse

/-- The name of the file that the path leads to, unless the path ends in a
direction instead of a name. -/
def fileName? (p : Path) : Option String :=
  match (trimmed p.segments).getLast? with
  | none => none
  | some name => if name == "" || name == "." || name == ".." then none else some name

/-- The path that segments write; a lone empty one is the root. -/
def ofSegments : List String → Path
  | [""] => ⟨"/"⟩
  | segments => ⟨Text.joined "/" segments⟩

/-- The path without its last segment; nothing when there is none to leave out. -/
def above? (p : Path) : Option Path :=
  match trimmed p.segments with
  | [] => none
  | [first] => if first == "" then none else some ⟨""⟩
  | segments => some (ofSegments (trimmed segments.dropLast))

/-- The directory that holds what the path leads to. -/
def directory (p : Path) : Path :=
  match p.above? with
  | none => ⟨"."⟩
  | some above => if above.text = "" then ⟨"."⟩ else above

/-- The path that `q` is when it is read from `p`. -/
def join (p q : Path) : Path :=
  if q.isAbsolute then q
  else if p.text = "" || p.text.toList.getLast? == some '/' then ⟨p.text ++ q.text⟩
  else ⟨p.text ++ "/" ++ q.text⟩

/-- The last segment as it is written; slashes behind it do not count. -/
def lastSegment? (p : Path) : Option String := (p.segments.reverse.dropWhile (· == "")).head?

/-- Whether the path ends with a slash. -/
def endsWithSlash (p : Path) : Bool := p.text.toList.getLast? == some '/'

/-- The directories from a path outwards, beginning with the path itself, without
segments that say nothing. -/
def ancestors (p : Path) : List Path :=
  match p.segments with
  | [] => []
  | first :: rest =>
    let kept := first :: rest.filter fun s => s != "" && s != "."
    (List.range kept.length).map fun i => ofSegments (kept.take (kept.length - i))

/-- A path and then the directories around it, from the inside outwards. -/
def outwards (p : Path) : List Path :=
  if p.text = "" then []
  else
    p :: match p.above? with
      | none => []
      | some above => if above.text = "" then [] else above.ancestors

end Path

end WrapperGen
