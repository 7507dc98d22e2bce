import WrapperGen.Diagnostic
import WrapperGen.Model
import WrapperGen.Scan
import WrapperGen.TypeRef.Simplified

/-!
# Collecting the members of a wrapper

The properties of a model become members in their declared order; properties that cannot are
reported and left out. A property marked as a section brings in the members of the declaration it
names, as an inner class of its own.

Sections may refer back to a declaration they lie in. The trail of declarations around a section is
carried along, a reference to one of them is reported instead of followed, and since the trail holds
no declaration twice, no nesting is deeper than there are declarations.
-/

namespace WrapperGen

/-- What becomes of a property. -/
inductive PropertyShape where
  /-- It stores no value. -/
  | computed
  /-- Its type is a type parameter. -/
  | generic
  /-- It opens the section of a declaration. -/
  | opens (target : DeclarationId)
  /-- It is marked as a section, but its type is none. -/
  | misplacedMarker
  /-- It holds a value. -/
  | plain
deriving DecidableEq, Repr

/-- A property as the collector sees it. -/
structure Member where
  info : PropertyInfo
  type : TypeRef
  /-- Whether it is marked for subscription. -/
  hooked : Bool
  shape : PropertyShape

/-- What was collected from a declaration. -/
structure Collected where
  /-- The members in declared order. -/
  fields : List ConfigField := []
  /-- The inner classes they need, each after those it needs itself. -/
  nested : NestedClassSet := {}
  /-- The problems that were found, in the order of the properties. -/
  diagnostics : List Diagnostic := []

/-- What collecting depends on besides the declaration. -/
structure Collector where
  source : SymbolSource
  markers : Markers
  simplifier : Simplifier

namespace Collector

/-- What becomes of a property. -/
def shapeOf (c : Collector) (id : PropertyId) (info : PropertyInfo) : PropertyShape :=
  let type := c.source.typeOf id
  if !info.hasBackingField then .computed
  else if type.isTypeVariable then .generic
  else if c.source.isMarked (.property id) c.markers.nest then
    match c.source.section? type with
    | some target => .opens target
    | none => .misplacedMarker
  else .plain

/-- A property as the collector sees it, if anything is known about it. -/
def member? (c : Collector) (id : PropertyId) : Option Member :=
  (c.source.property? id).map fun info => {
    info := info
    type := c.source.typeOf id
    hooked := c.source.isMarked (.property id) c.markers.hook
    shape := c.shapeOf id info }

/-- The properties of a declaration as the collector sees them. -/
def members (c : Collector) (id : DeclarationId) : List Member :=
  (c.source.properties id).filterMap c.member?

/-- The option of a property. -/
def valueField (c : Collector) (m : Member) (subscribe : Bool) : ValueField where
  name := m.info.name
  key := m.info.name
  typeText := c.simplifier.text m.type
  mutable := m.info.mutable
  subscribe := subscribe

/-- The name of the inner class for a declaration. -/
def classNameOf (c : Collector) (id : DeclarationId) : String :=
  match c.source.declaration? id with
  | some info => info.name.simpleName
  | none => ""

end Collector

/-! ## Problems with a property -/

namespace Member

/-- The diagnostic of a property that stores no value. -/
def computedDiagnostic (m : Member) (owner : String) : Diagnostic where
  kind := .missingStorageSlot
  symbol := owner ++ "." ++ m.info.name
  message := "property has no backing field; no option generated"

/-- The diagnostic of a property whose type is a type parameter. -/
def genericDiagnostic (m : Member) (owner : String) : Diagnostic where
  kind := .invalidFieldShape
  symbol := owner ++ "." ++ m.info.name
  message := "generic field type `" ++ m.type.text ++ "` is not allowed in config classes"

/-- The diagnostic of a section inside itself. -/
def selfReferenceDiagnostic (m : Member) (owner : String) : Diagnostic where
  kind := .illegalSelfReference
  symbol := owner ++ "." ++ m.info.name
  message := "illegal self-reference to `" ++ m.type.text ++ "` in nested config object"

/-- The diagnostic of a section marker on a type that is no section. -/
def misplacedMarkerDiagnostic (m : Member) (owner : String) : Diagnostic where
  kind := .nestOnValueType
  symbol := owner ++ "." ++ m.info.name
  message := "`" ++ m.type.text ++ "` is not a config class; treating it as a value"

end Member

/-! ## Putting members together -/

namespace Collected

/-- One more diagnostic. -/
def report (c : Collected) (d : Diagnostic) : Collected :=
  { c with diagnostics := c.diagnostics ++ [d] }

/-- One more option. -/
def addValue (c : Collected) (field : ValueField) : Collected :=
  { c with fields := c.fields ++ [.value field] }

/-- The diagnostics of a section behind those already there; a section that several members open
reports its problems once. -/
def addDiagnostics (known : List Diagnostic) (more : List Diagnostic) : List Diagnostic :=
  more.foldl (fun ds d => if d ∈ ds then ds else ds ++ [d]) known

/-- One more section, with what was collected inside it. -/
def addSection (c : Collected) (name className : String) (inside : Collected) : Collected where
  fields := c.fields ++ [.nest ⟨name, name, className⟩]
  nested := (c.nested.merge inside.nested).insert ⟨className, inside.fields⟩
  diagnostics := addDiagnostics c.diagnostics inside.diagnostics

end Collected

/-! ## Walking the sections -/

namespace Collector

/-- Entering a declaration that is not on the trail leaves fewer to enter. -/
theorem unmet_cons_lt {s : SymbolSource} {trail : List DeclarationId} {target : DeclarationId}
    (h : target ∈ s.unmet trail) : (s.unmet (target :: trail)).length < (s.unmet trail).length := by
  have sub : s.unmet (target :: trail) = (s.unmet trail).filter (· ≠ target) := by
    simp only [SymbolSource.unmet, List.filter_filter]
    apply List.filter_congr
    intro x _
    simp [not_or]
  rw [sub]
  exact List.length_filter_lt_length_iff_exists.mpr ⟨target, h, by simp⟩

mutual

/-- Collects a declaration. The trail holds it and the declarations around it, innermost first. -/
def collectFrom (c : Collector) (trail : List DeclarationId) (id : DeclarationId)
    (subscribe : Bool) : Collected :=
  c.collectMembers trail (c.source.nameOf id) subscribe (c.members id) {}
termination_by ((c.source.unmet trail).length, (c.members id).length + 1)

/-- Adds members, one after the other, to what is collected. -/
def collectMembers (c : Collector) (trail : List DeclarationId) (owner : String)
    (subscribe : Bool) :
    List Member → Collected → Collected
  | [], collected => collected
  | m :: members, collected =>
    let subscribes := subscribe || m.hooked
    let collected := match m.shape with
      | .computed => collected.report (m.computedDiagnostic owner)
      | .generic => collected.report (m.genericDiagnostic owner)
      | .opens target =>
        if h : target ∈ c.source.unmet trail then
          have := unmet_cons_lt h
          collected.addSection m.info.name (c.classNameOf target)
            (c.collectFrom (target :: trail) target subscribes)
        else collected.report (m.selfReferenceDiagnostic owner)
      | .misplacedMarker =>
        (collected.report (m.misplacedMarkerDiagnostic owner)).addValue (c.valueField m subscribes)
      | .plain => collected.addValue (c.valueField m subscribes)
    c.collectMembers trail owner subscribe members collected
termination_by members => ((c.source.unmet trail).length, members.length)

end

/-- Collects the members of a declaration; `subscribe` makes every option
subject to subscription. -/
def collect (c : Collector) (id : DeclarationId) (subscribe : Bool) : Collected :=
  c.collectFrom [id] id subscribe

end Collector

end WrapperGen
