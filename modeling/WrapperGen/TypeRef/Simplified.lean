import WrapperGen.TypeRef

/-!
# The short text of a type

Inside a wrapper, classes of the wrapper's own package and of a few configured namespaces are
written without their package. Shortening looks into class references, their arguments and the
nullable forms of both; any other type keeps its full text.
-/

namespace WrapperGen

/-- Where classes are written without their package: the package of the wrapper, and namespaces
together with all their sub-packages. -/
structure Simplifier where
  package : String
  namespaces : List String
deriving Repr

/-- Namespaces that are shortened unless others are configured. -/
def defaultNamespaces : List String := ["kotlin"]

namespace Simplifier

/-- Whether `package` is the namespace or one of its sub-packages. -/
def isWithin (package nameSpace : String) : Bool :=
  package == nameSpace || (nameSpace.toList ++ ['.']).isPrefixOf package.toList

/-- Whether classes of `package` are written without it. -/
def covers (s : Simplifier) (package : String) : Bool :=
  package == s.package || s.namespaces.any (isWithin package)

/-- The short text of a class name. -/
def nameText (s : Simplifier) (name : ClassName) : String :=
  if s.covers name.package then name.nested else name.canonical

/-- Whether a nullable type is shortened like the type inside. -/
def looksInside : TypeRef → Bool
  | .named _ => true
  | .applied _ _ => true
  | _ => false

mutual

/-- The short text of a type. -/
def text (s : Simplifier) : TypeRef → String
  | .named name => s.nameText name
  | .applied name arguments => s.nameText name ++ "<" ++ Text.joined ", " (s.texts arguments) ++ ">"
  | .nullable inner =>
      if looksInside inner then s.text inner ++ "?" else (TypeRef.nullable inner).text
  | t => t.text

/-- The short texts of several types. -/
def texts (s : Simplifier) : List TypeRef → List String
  | [] => []
  | t :: ts => s.text t :: s.texts ts

end

end Simplifier

end WrapperGen
