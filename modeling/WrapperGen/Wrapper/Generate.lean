import WrapperGen.Collect
import WrapperGen.Disk.Path
import WrapperGen.Wrapper.Emit

/-!
# From a declaration to a source file

The marker of a model names the wrapper and may subscribe to all of its options at once. What is
generated from a model depends on its declaration and on the sections below it; where it is
stored does not matter here.
-/

namespace WrapperGen

/-- What all models of a run have in common. -/
structure Options where
  markers : Markers := {}
  /-- Namespaces written without their package, besides the package of the model. -/
  namespaces : List String := defaultNamespaces
deriving DecidableEq, Repr, Inhabited

/-- A source file that is to be stored. -/
structure GeneratedFile where
  /-- The package of the class, empty for the root package. -/
  package : String
  /-- The name of the class. -/
  fileName : String
  content : String
  /-- The source files whose change makes the file out of date. -/
  sources : List String
  /-- Whether the file depends on more than those. -/
  aggregating : Bool
deriving DecidableEq, Repr

namespace GeneratedFile

/-- The path below the root of the sources: a directory for each part of the package. -/
def relativePath (f : GeneratedFile) : Path :=
  (((Text.parts '.' f.package).filter (· ≠ "")) ++ [f.fileName ++ ".kt"]).foldl
    (fun path segment => path.join ⟨segment⟩) ⟨""⟩

/-- The name of the record about the file. -/
def recordName (f : GeneratedFile) : String :=
  if f.package = "" then f.fileName ++ ".json" else f.package ++ "." ++ f.fileName ++ ".json"

end GeneratedFile

/-! ## Models -/

/-- The model that a marked declaration describes, or the reason why it gets no wrapper. -/
def buildModel (s : SymbolSource) (id : DeclarationId) (markers : Markers) :
    Except Diagnostic ConfigModel :=
  match s.declaration? id with
  | none =>
      .error ⟨.missingWrapperName, s.nameOf id, "declaration is not part of the symbol source"⟩
  | some info =>
    let arguments := (s.arguments? (.declaration id) markers.config).getD .empty
    match Arguments.text? arguments "wrapperName" with
    | none | some "" =>
      .error ⟨.missingWrapperName, s.nameOf id,
        "config marker has no `wrapperName`; no wrapper generated"⟩
    | some wrapperName => .ok {
        declaration := id
        name := info.name
        wrapperName := wrapperName
        defaultHook := (Arguments.flag? arguments "defaultHook").getD false
        source := info.source }

/-! ## Generation -/

/-- A file and what was found while generating it. -/
structure Generation where
  file : GeneratedFile
  diagnostics : List Diagnostic
  /-- The keys of all options. -/
  keys : List OptionKey
deriving DecidableEq, Repr

/-- What is collected for a model. -/
def collectModel (s : SymbolSource) (m : ConfigModel) (o : Options) : Collected :=
  Collector.collect ⟨s, o.markers, ⟨m.package, o.namespaces⟩⟩ m.declaration m.defaultHook

/-- Generates the wrapper of a model. -/
def generate (s : SymbolSource) (m : ConfigModel) (o : Options) : Generation :=
  let collected := collectModel s m o
  { file := {
      package := m.package
      fileName := m.wrapperName
      content := Wrapper.emit m collected.fields collected.nested
      sources := m.source.toList
      aggregating := true }
    diagnostics := collected.diagnostics
    keys := keyPaths collected.fields collected.nested }

/-- The events of generating a wrapper. -/
def Generation.events (g : Generation) (m : ConfigModel) : List Event :=
  g.keys.map fun key => {
    level := .debug
    reporter := .processor
    message := "option key"
    details := [("model", m.name.canonical), ("key", key.text)] }

end WrapperGen
