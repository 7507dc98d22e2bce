import WrapperGen.Symbols.Table

/-!
# Looking things up in a table

The generator asks for declarations and properties by handle. A handle that the table does not know
gets no answer, an empty list, or a type that counts as unresolved.

A source may also withhold what is known about some of its own handles. It still lists them and
still finds them by name; only the facts are missing, as they are for handles of another table.
-/

namespace WrapperGen

/-- A table, and the handles about which nothing is told. -/
structure SymbolSource where
  table : SymbolTable := {}
  hiddenDeclarations : List DeclarationId := []
  hiddenProperties : List PropertyId := []

/-- Anything that carries annotations. -/
inductive Annotated where
  | declaration (id : DeclarationId)
  | property (id : PropertyId)
deriving DecidableEq, Repr

namespace SymbolSource

/-- The entry of a declaration. -/
def entry? (s : SymbolSource) (id : DeclarationId) : Option DeclarationEntry :=
  s.table.declarations[id.index]?

/-- The entry of a property. -/
def propertyEntry? (s : SymbolSource) (id : PropertyId) : Option PropertyEntry :=
  (s.entry? id.declaration).bind fun d => d.properties[id.index]?

/-- The handles of all declarations, in order. -/
def handles (s : SymbolSource) : List DeclarationId :=
  (List.range s.table.size).map DeclarationId.mk

/-- What is known about a declaration. -/
def declaration? (s : SymbolSource) (id : DeclarationId) : Option DeclarationInfo :=
  if id ∈ s.hiddenDeclarations then none else (s.entry? id).map (·.info)

/-- The properties of a declaration, in declared order. -/
def properties (s : SymbolSource) (id : DeclarationId) : List PropertyId :=
  match s.entry? id with
  | some d => (List.range d.properties.length).map (PropertyId.mk id)
  | none => []

/-- What is known about a property. -/
def property? (s : SymbolSource) (id : PropertyId) : Option PropertyInfo :=
  if id ∈ s.hiddenProperties then none else (s.propertyEntry? id).map (·.info)

/-- The type of a property. -/
def typeOf (s : SymbolSource) (id : PropertyId) : TypeRef :=
  match s.propertyEntry? id with
  | some p => p.type
  | none => .unresolved ("<unknown property " ++ toString id.index ++ ">")

/-- The declaration with a name. -/
def resolve? (s : SymbolSource) (name : ClassName) : Option DeclarationId :=
  (s.table.declarations.findIdx? fun d => d.canonical == name.canonical).map DeclarationId.mk

/-- The annotations of a declaration or property. -/
def annotations (s : SymbolSource) : Annotated → Annotations
  | .declaration id => match s.entry? id with
    | some d => d.annotations
    | none => .empty
  | .property id => match s.propertyEntry? id with
    | some p => p.annotations
    | none => .empty

/-- The arguments of an annotation, if it is there. -/
def arguments? (s : SymbolSource) (target : Annotated) (marker : String) : Option Arguments :=
  (s.annotations target).get? marker

/-- Whether an annotation is there. -/
def isMarked (s : SymbolSource) (target : Annotated) (marker : String) : Bool :=
  (s.arguments? target marker).isSome

/-- The declarations that carry an annotation, in order. -/
def marked (s : SymbolSource) (marker : String) : List DeclarationId :=
  s.handles.filter fun id => s.isMarked (.declaration id) marker

/-- Whether every type in a declaration is resolved. -/
def isResolved (s : SymbolSource) (id : DeclarationId) : Bool :=
  match s.entry? id with
  | some d => d.isResolved
  | none => false

/-- The qualified name of a declaration, or a stand-in for one that is not known. -/
def nameOf (s : SymbolSource) (id : DeclarationId) : String :=
  match s.declaration? id with
  | some info => info.name.canonical
  | none => "<declaration " ++ toString id.index ++ ">"

/-- The declaration that a type names, if it is known and can be a section of a configuration. -/
def section? (s : SymbolSource) (type : TypeRef) : Option DeclarationId := do
  let name ← type.className?
  let id ← s.resolve? name
  let info ← s.declaration? id
  if info.kind.isClassLike then some id else none

end SymbolSource

end WrapperGen
