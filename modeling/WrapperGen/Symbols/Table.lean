import WrapperGen.Log
import WrapperGen.Symbols.Dump
import WrapperGen.TypeRef.Reader

/-!
# Symbol tables

A table holds the declarations of a dump with their names and types read. No two of its declarations
share a canonical name, so a name finds at most one of them. A property keeps its type as written
when the type is unresolved or outside the grammar; a name that cannot be read, or that is taken,
fails the whole table.
-/

namespace WrapperGen

/-- A position in the declarations of a table. -/
structure DeclarationId where
  index : Nat
deriving DecidableEq, Repr, Inhabited

/-- A position in the properties of a declaration. -/
structure PropertyId where
  declaration : DeclarationId
  index : Nat
deriving DecidableEq, Repr, Inhabited

/-- What is known about a declaration. -/
structure DeclarationInfo where
  name : ClassName
  kind : DeclarationKind
  source : Option String
deriving DecidableEq, Repr, Inhabited

/-- What is known about a property. -/
structure PropertyInfo where
  name : String
  mutable : Bool
  hasBackingField : Bool
deriving DecidableEq, Repr, Inhabited

/-- A property of a table. -/
structure PropertyEntry where
  info : PropertyInfo
  type : TypeRef
  annotations : Annotations
deriving Repr, Inhabited

/-- A declaration of a table. -/
structure DeclarationEntry where
  info : DeclarationInfo
  annotations : Annotations
  properties : List PropertyEntry
deriving Repr, Inhabited

namespace DeclarationEntry

/-- The qualified name of a declaration. -/
def canonical (d : DeclarationEntry) : String := d.info.name.canonical

/-- Whether every type among the properties is resolved. -/
def isResolved (d : DeclarationEntry) : Bool :=
  d.properties.all fun p => !p.type.hasUnresolved

end DeclarationEntry

/-! ## Type parameters -/

namespace TypeRef

/-- The type parameter that a class name refers to, if it is one of `parameters`. -/
def parameter? (parameters : List String) (name : ClassName) : Option String :=
  match name.simpleNames with
  | [simple] => if name.package = "" ∧ simple ∈ parameters then some simple else none
  | _ => none

mutual

/-- The type with every bare reference to one of `parameters` turned into a type variable. -/
def bind (parameters : List String) : TypeRef → TypeRef
  | named name =>
    match parameter? parameters name with
    | some simple => typeVariable simple
    | none => named name
  | applied name arguments => applied name (bindAll parameters arguments)
  | nullable inner => nullable (inner.bind parameters)
  | projected variance inner => projected variance (inner.bind parameters)
  | function ps result => function (bindAll parameters ps) (result.bind parameters)
  | typeVariable name => typeVariable name
  | star => star
  | unresolved text => unresolved text
  | verbatim text => verbatim text

/-- Several types with their type parameters bound. -/
def bindAll (parameters : List String) : List TypeRef → List TypeRef
  | [] => []
  | t :: ts => t.bind parameters :: bindAll parameters ts

end

end TypeRef

/-! ## Entries -/

/-- Why a dump makes no table. -/
inductive LoadError where
  /-- A declaration has a name that cannot be read. -/
  | name (symbol : String) (cause : TypeSyntaxError)
  /-- Two declarations have the same canonical name. -/
  | duplicate (canonical : String)
deriving DecidableEq, Repr

/-- The message of a load error. -/
def LoadError.message : LoadError → String
  | .name symbol cause => "invalid type reference on " ++ symbol ++ ": " ++ cause.message
  | .duplicate canonical =>
      "declaration `" ++ canonical ++ "` appears more than once in the symbol dump"

/-- The type of a property whose owner has these type parameters. -/
def PropertyDump.typeRef (typeParameters : List String) (p : PropertyDump) : TypeRef :=
  if p.resolved then
    match TypeRef.read p.type with
    | .ok type => type.bind typeParameters
    | .error _ => .verbatim p.type
  else .unresolved p.type

/-- The entry of a property. -/
def PropertyEntry.ofDump (typeParameters : List String) (p : PropertyDump) : PropertyEntry where
  info := ⟨p.name, p.mutable, p.backingField⟩
  type := p.typeRef typeParameters
  annotations := p.annotations

/-- The entry of a declaration. -/
def DeclarationEntry.ofDump (d : DeclarationDump) : Except LoadError DeclarationEntry :=
  match ClassName.read d.name with
  | .error cause => .error (.name d.name cause)
  | .ok name =>
      .ok ⟨⟨name, d.kind, d.source⟩, d.annotations,
        d.properties.map (PropertyEntry.ofDump d.typeParameters)⟩

/-- The event of a property whose type is kept as written although it is resolved. -/
def PropertyDump.event? (owner : String) (p : PropertyDump) : Option Event :=
  if p.resolved then
    match TypeRef.read p.type with
    | .ok _ => none
    | .error e => some {
        level := .debug
        reporter := .symbolTable
        message := "keeping type reference as written"
        details := [("symbol", owner ++ "." ++ p.name), ("error", e.message)] }
  else none

/-! ## Tables -/

/-- Declarations, no two of them with the same canonical name. -/
structure SymbolTable where
  declarations : List DeclarationEntry := []
  distinct : (declarations.map DeclarationEntry.canonical).Nodup := by exact List.nodup_nil

namespace SymbolTable

instance : Inhabited SymbolTable := ⟨{}⟩

/-- How many declarations there are. -/
def size (t : SymbolTable) : Nat := t.declarations.length

/-- The canonical names in order. -/
def names (t : SymbolTable) : List String := t.declarations.map DeclarationEntry.canonical

/-- The table with one more declaration, whose name must be new. -/
def add (t : SymbolTable) (entry : DeclarationEntry) : Except LoadError SymbolTable :=
  if h : entry.canonical ∈ t.declarations.map DeclarationEntry.canonical then
    .error (.duplicate entry.canonical)
  else .ok {
    declarations := t.declarations ++ [entry]
    distinct := by
      rw [List.map_append, List.nodup_append]
      refine ⟨t.distinct, by simp, ?_⟩
      intro a ha b hb same
      simp only [List.map_cons, List.map_nil, List.mem_singleton] at hb
      exact h (hb ▸ same ▸ ha) }

/-- The table with the declaration that is written in a dump. -/
def addDump (t : SymbolTable) (d : DeclarationDump) : Except LoadError SymbolTable :=
  match DeclarationEntry.ofDump d with
  | .error e => .error e
  | .ok entry => t.add entry

/-- The table with several declarations, up to the first that fails. -/
def addAll (t : SymbolTable) : List DeclarationDump → Except LoadError SymbolTable
  | [] => .ok t
  | d :: ds =>
    match t.addDump d with
    | .error e => .error e
    | .ok t => t.addAll ds

/-- The table of a dump. -/
def ofDump (dump : SymbolDump) : Except LoadError SymbolTable := addAll {} dump.declarations

/-- The events of adding declarations to a table. Types are read before the
name is found to be taken. -/
def addEvents (t : SymbolTable) : List DeclarationDump → List Event
  | [] => []
  | d :: ds =>
    match DeclarationEntry.ofDump d with
    | .error _ => []
    | .ok entry =>
      d.properties.filterMap (PropertyDump.event? entry.canonical) ++
        match t.add entry with
        | .error _ => []
        | .ok t => t.addEvents ds

/-- The events of building the table of a dump. -/
def loadEvents (dump : SymbolDump) : List Event := addEvents {} dump.declarations

end SymbolTable

end WrapperGen
