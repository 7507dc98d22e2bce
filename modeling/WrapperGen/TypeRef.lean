import WrapperGen.Name

/-!
# Type references

The type of a property, as far as the generator looks into it. Types that the grammar does not
describe are kept as they were written, in two separate forms: one that the front end has yet to
resolve, which holds back its declaration, and one that is resolved and merely out of the ordinary.
-/

namespace WrapperGen

/-- The keyword of a projected type argument. -/
inductive Variance where
  | input
  | output
deriving DecidableEq, Repr

/-- The keyword as it is written. -/
def Variance.keyword : Variance → String
  | .input => "in"
  | .output => "out"

/-- The type of a property. -/
inductive TypeRef where
  /-- A class, such as `kotlin.Int`. -/
  | named (name : ClassName)
  /-- A class applied to type arguments, such as `List<String>`. -/
  | applied (name : ClassName) (arguments : List TypeRef)
  /-- A type that also admits null, such as `String?`. -/
  | nullable (inner : TypeRef)
  /-- A type parameter of the enclosing declaration. -/
  | typeVariable (name : String)
  /-- The star in `List<*>`. -/
  | star
  /-- A projected argument, such as `out Number`. -/
  | projected (variance : Variance) (inner : TypeRef)
  /-- A function type, such as `(Int) -> Unit`. -/
  | function (parameters : List TypeRef) (result : TypeRef)
  /-- A type that is not resolved yet, as written. -/
  | unresolved (text : String)
  /-- A resolved type outside the grammar, as written. -/
  | verbatim (text : String)
deriving Repr, Inhabited

namespace TypeRef

/-- The class a type names, seen through nullability and type arguments. -/
def className? : TypeRef → Option ClassName
  | named name => some name
  | applied name _ => some name
  | nullable inner => inner.className?
  | _ => none

/-- Whether a type is a type parameter, possibly a nullable one. -/
def isTypeVariable : TypeRef → Bool
  | typeVariable _ => true
  | nullable inner => inner.isTypeVariable
  | _ => false

/-! ## Unresolved parts -/

mutual

/-- Whether something unresolved occurs anywhere in a type. -/
def hasUnresolved : TypeRef → Bool
  | unresolved _ => true
  | applied _ arguments => anyUnresolved arguments
  | nullable inner => inner.hasUnresolved
  | projected _ inner => inner.hasUnresolved
  | function parameters result => anyUnresolved parameters || result.hasUnresolved
  | named _ | typeVariable _ | star | verbatim _ => false

/-- Whether something unresolved occurs in one of several types. -/
def anyUnresolved : List TypeRef → Bool
  | [] => false
  | t :: ts => t.hasUnresolved || anyUnresolved ts

end

/-! ## The full text of a type -/

/-- Whether a type is a function type, which takes parentheses before a question mark. -/
def isFunction : TypeRef → Bool
  | function _ _ => true
  | _ => false

/-- The text of a nullable type whose inner type is written `text`. -/
def nullableText (inner : TypeRef) (text : String) : String :=
  if inner.isFunction then "(" ++ text ++ ")?" else text ++ "?"

mutual

/-- A type with every class by its qualified name. -/
def text : TypeRef → String
  | named name => name.canonical
  | applied name arguments => name.canonical ++ "<" ++ Text.joined ", " (texts arguments) ++ ">"
  | nullable inner => nullableText inner inner.text
  | typeVariable name => name
  | star => "*"
  | projected variance inner => variance.keyword ++ " " ++ inner.text
  | function parameters result =>
      "(" ++ Text.joined ", " (texts parameters) ++ ") -> " ++ result.text
  | unresolved text => text
  | verbatim text => text

/-- The full texts of several types. -/
def texts : List TypeRef → List String
  | [] => []
  | t :: ts => t.text :: texts ts

end

end TypeRef

end WrapperGen
