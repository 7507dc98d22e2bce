import WrapperGen.Symbols.Source

/-!
# Models that are ready

A model is generated once its own types and those of all sections below it are resolved.
Sections may refer to each other in circles; the search keeps the declarations it has met and
ends when no new ones turn up.
-/

namespace WrapperGen

namespace SymbolSource

/-- The sections that the properties of a declaration open, whether or not the
properties store anything. -/
def sections (s : SymbolSource) (marker : String) (id : DeclarationId) : List DeclarationId :=
  (s.properties id).filterMap fun p =>
    if s.isMarked (.property p) marker then s.section? (s.typeOf p) else none

/-- The declared handles that are not among `met`. -/
def unmet (s : SymbolSource) (met : List DeclarationId) : List DeclarationId :=
  s.handles.filter (· ∉ met)

/-- Meeting more declarations leaves fewer unmet. -/
theorem unmet_append_lt {s : SymbolSource} {met fresh : List DeclarationId} {id : DeclarationId}
    (mem : id ∈ fresh) (unmet : id ∈ s.unmet met) :
    (s.unmet (met ++ fresh)).length < (s.unmet met).length := by
  have sub : s.unmet (met ++ fresh) = (s.unmet met).filter (· ∉ fresh) := by
    simp only [SymbolSource.unmet, List.filter_filter]
    apply List.filter_congr
    intro x _
    simp [not_or, Bool.and_comm]
  rw [sub]
  exact List.length_filter_lt_length_iff_exists.mpr ⟨id, unmet, by simpa using mem⟩

/-- Everything met when `pending` and the sections below are followed, starting
with what is met already. -/
def metFrom (s : SymbolSource) (marker : String) (met : List DeclarationId) :
    List DeclarationId → List DeclarationId
  | [] => met
  | id :: pending =>
    let found := s.sections marker id
    let fresh := (s.unmet met).filter (· ∈ found)
    if h : fresh = [] then s.metFrom marker met pending
    else
      have : (s.unmet (met ++ fresh)).length < (s.unmet met).length := by
        obtain ⟨x, hx⟩ := List.exists_mem_of_ne_nil fresh h
        exact unmet_append_lt hx (List.mem_filter.mp hx).1
      s.metFrom marker (met ++ fresh) (fresh ++ pending)
termination_by pending => ((s.unmet met).length, pending.length)

/-- Whether a declaration and every section reached from it are resolved. -/
def isReady (s : SymbolSource) (marker : String) (id : DeclarationId) : Bool :=
  (s.metFrom marker [id] [id]).all s.isResolved

end SymbolSource

/-- The models of a source, by whether they are ready. -/
structure ScanResult where
  ready : List DeclarationId
  deferred : List DeclarationId
deriving DecidableEq, Repr

/-- The declarations that are marked as models and can be models, in order. -/
def models (s : SymbolSource) (markers : Markers) : List DeclarationId :=
  (s.marked markers.config).filter fun id =>
    match s.declaration? id with
    | some info => info.kind.isClassLike
    | none => false

/-- Parts the models into those ready for generation and those that wait. -/
def scan (s : SymbolSource) (markers : Markers) : ScanResult where
  ready := (models s markers).filter (s.isReady markers.nest)
  deferred := (models s markers).filter fun id => !s.isReady markers.nest id

/-- The event for a marked declaration that cannot be a model. -/
def ignoredEvent? (s : SymbolSource) (id : DeclarationId) : Option Event :=
  match s.declaration? id with
  | none => none
  | some info =>
    if info.kind.isClassLike then none
    else some {
      level := .debug
      reporter := .scan
      message := "ignoring marker on non-class declaration"
      details := [("symbol", info.name.canonical), ("kind", info.kind.logName)] }

/-- The events of a scan. -/
def scanEvents (s : SymbolSource) (markers : Markers) : List Event :=
  let result := scan s markers
  (s.marked markers.config).filterMap (ignoredEvent? s) ++ [{
    level := .info
    reporter := .scan
    message := "scanned config models"
    details :=
      [("ready", toString result.ready.length), ("deferred", toString result.deferred.length)] }]

end WrapperGen
