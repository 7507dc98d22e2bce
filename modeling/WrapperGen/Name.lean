import WrapperGen.Text.Joined

/-!
# Class names

A class is named by its package and by the chain of simple names from the outermost class inwards.
Written the usual way, with a dot between all of them, the boundary between the two is lost; the
pinned form keeps it by writing a slash there.
-/

namespace WrapperGen

/-- The name of a class: the package it lives in, empty for the root package, and its simple names
from the outermost class inwards. -/
structure ClassName where
  package : String
  simpleNames : List String
deriving DecidableEq, Repr, Inhabited

namespace ClassName

/-- The innermost simple name. -/
def simpleName (n : ClassName) : String :=
  n.simpleNames.getLastD ""

/-- The simple names joined by dots, the way the class is written inside its package. -/
def nested (n : ClassName) : String :=
  Text.joined "." n.simpleNames

/-- The fully qualified name as source text writes it. -/
def canonical (n : ClassName) : String :=
  if n.package = "" then n.nested else n.package ++ "." ++ n.nested

/-- The qualified name with a slash after the package, which keeps the package boundary. -/
def pinned (n : ClassName) : String :=
  if n.package = "" then n.nested else n.package ++ "/" ++ n.nested

/-- Names are ordered by package first, then by simple names from the outside inwards. -/
def compare (a b : ClassName) : Ordering :=
  (Ord.compare a.package b.package).then (Ord.compare a.simpleNames b.simpleNames)

end ClassName

end WrapperGen
