import WrapperGen.Proofs.NestGraph

/-!
# Collecting, property by property

`collectFrom` and `collectMembers` call each other, and the only call that goes deeper is the
one for a section that is not on the trail yet. Here the two are taken apart once: a
declaration is collected by folding `addProperty` over its properties, and what one property
adds to each of the three parts of the result is said by three functions of their own.
Everything proved about the collector is an induction along the trail (`trail_induction`)
around an induction on a list of properties.
-/

namespace WrapperGen.Collector

variable {c : Collector}

/-- **Induction along the trail.** Whatever carries over to a trail from its extensions by one more
declaration holds of every trail. -/
theorem trail_induction (s : SymbolSource) {P : List DeclarationId → Prop}
    (h : ∀ trail, (∀ target ∈ s.unmet trail, P (target :: trail)) → P trail)
    (trail : List DeclarationId) :
    P trail := by
  induction hn : (s.unmet trail).length using Nat.strongRecOn generalizing trail with
  | ind n ih =>
    refine h trail (fun target ht => ih _ ?_ _ rfl)
    rw [← hn]
    exact unmet_cons_lt ht

/-! ## The fold -/

/-- What is collected once a member is added. -/
def addMember (c : Collector) (trail : List DeclarationId) (owner : String) (subscribe : Bool)
    (collected : Collected) (m : Member) : Collected :=
  match m.shape with
  | .computed => collected.report (m.computedDiagnostic owner)
  | .generic => collected.report (m.genericDiagnostic owner)
  | .opens target =>
    if target ∈ c.source.unmet trail then
      collected.addSection m.info.name (c.classNameOf target)
        (c.collectFrom (target :: trail) target (subscribe || m.hooked))
    else collected.report (m.selfReferenceDiagnostic owner)
  | .misplacedMarker =>
    (collected.report (m.misplacedMarkerDiagnostic owner)).addValue
      (c.valueField m (subscribe || m.hooked))
  | .plain => collected.addValue (c.valueField m (subscribe || m.hooked))

theorem collectMembers_eq_foldl (trail : List DeclarationId) (owner : String) (subscribe : Bool)
    (ms : List Member) (collected : Collected) :
    c.collectMembers trail owner subscribe ms collected
      = ms.foldl (c.addMember trail owner subscribe) collected := by
  induction ms generalizing collected with
  | nil => rw [collectMembers, List.foldl_nil]
  | cons m ms ih =>
      rw [collectMembers, List.foldl_cons, ih]
      refine congrArg (List.foldl _ · ms) ?_
      unfold addMember
      cases m.shape <;> rfl

/-- What is collected once a property is added, if anything is known about it. -/
def addProperty (c : Collector) (trail : List DeclarationId) (owner : String) (subscribe : Bool)
    (collected : Collected) (p : PropertyId) : Collected :=
  match c.member? p with
  | none => collected
  | some m => c.addMember trail owner subscribe collected m

theorem collectFrom_eq_foldl (trail : List DeclarationId) (id : DeclarationId) (subscribe : Bool) :
    c.collectFrom trail id subscribe
      = (c.source.properties id).foldl (c.addProperty trail (c.source.nameOf id) subscribe) {} := by
  rw [collectFrom, collectMembers_eq_foldl, members, List.foldl_filterMap]
  refine congrArg (fun f => List.foldl f _ _) ?_
  funext collected p
  unfold addProperty
  cases c.member? p <;> rfl

/-! ## What one property adds -/

/-- The member that a property becomes. -/
def fieldOf? (c : Collector) (trail : List DeclarationId) (subscribe : Bool) (p : PropertyId) :
    Option ConfigField :=
  (c.member? p).bind fun m =>
    match m.shape with
    | .computed | .generic => none
    | .opens target =>
      if target ∈ c.source.unmet trail then
        some (.nest ⟨m.info.name, m.info.name, c.classNameOf target⟩)
      else none
    | .misplacedMarker | .plain => some (.value (c.valueField m (subscribe || m.hooked)))

/-- The problem with a property itself. -/
def report? (c : Collector) (trail : List DeclarationId) (owner : String) (p : PropertyId) :
    Option Diagnostic :=
  (c.member? p).bind fun m =>
    match m.shape with
    | .computed => some (m.computedDiagnostic owner)
    | .generic => some (m.genericDiagnostic owner)
    | .opens target =>
        if target ∈ c.source.unmet trail then none else some (m.selfReferenceDiagnostic owner)
    | .misplacedMarker => some (m.misplacedMarkerDiagnostic owner)
    | .plain => none

/-- The section that is entered through a property. -/
def entered? (c : Collector) (trail : List DeclarationId) (p : PropertyId) : Option DeclarationId :=
  (c.member? p).bind fun m =>
    match m.shape with
    | .opens target => if target ∈ c.source.unmet trail then some target else none
    | _ => none

theorem member?_eq_some {p : PropertyId} {info : PropertyInfo} {shape : PropertyShape}
    (h : c.HasShape p info shape) :
    c.member? p = some ⟨info, c.source.typeOf p, c.isHooked p, shape⟩ := by
  simp [member?, h.known, h.shapeOf_eq, isHooked]

/-- A property is unknown or has a shape. -/
theorem member?_cases (c : Collector) (p : PropertyId) :
    (c.source.property? p = none ∧ c.member? p = none) ∨ ∃ info shape, c.HasShape p info shape := by
  cases h : c.source.property? p with
  | none => exact Or.inl ⟨rfl, by simp [member?, h]⟩
  | some info => exact Or.inr ⟨info, _, hasShape_shapeOf h⟩

/-- The collector enters a section just where an edge leads off the trail. -/
theorem entered?_eq_some {trail : List DeclarationId} {p : PropertyId} {v : DeclarationId} :
    c.entered? trail p = some v ↔ (∃ info, c.Nests p info v) ∧ v ∉ trail := by
  constructor
  · intro h
    rcases member?_cases c p with ⟨_, hm⟩ | ⟨info, shape, hs⟩
    · simp [entered?, hm] at h
    · rw [entered?, member?_eq_some hs, Option.bind_some] at h
      cases hs with
      | opens hn =>
          simp only [Option.ite_none_right_eq_some, Option.some.injEq] at h
          obtain ⟨hunmet, rfl⟩ := h
          exact ⟨⟨info, hn⟩, (SymbolSource.mem_unmet.mp hunmet).2⟩
      | computed _ _ => simp at h
      | generic _ _ _ => simp at h
      | misplacedMarker _ => simp at h
      | plain _ _ => simp at h
  · rintro ⟨⟨info, hn⟩, hv⟩
    have hunmet : v ∈ c.source.unmet trail := SymbolSource.mem_unmet.mpr ⟨hn.names.mem_handles, hv⟩
    simp [entered?, member?_eq_some (.opens hn), hunmet]

theorem mem_unmet_of_entered? {trail : List DeclarationId} {p : PropertyId} {v : DeclarationId}
    (h : c.entered? trail p = some v) : v ∈ c.source.unmet trail := by
  obtain ⟨⟨_, hn⟩, hv⟩ := entered?_eq_some.mp h
  exact SymbolSource.mem_unmet.mpr ⟨hn.names.mem_handles, hv⟩

/-! The member of a property, by what the source says of it. -/

section Member

variable {trail : List DeclarationId} (subscribe : Bool) {p : PropertyId} {info : PropertyInfo}

/-- A property that holds no value of a definite type is left out. -/
theorem fieldOf?_of_not_stored (h : ∀ info, ¬ c.Stored p info) :
    c.fieldOf? trail subscribe p = none := by
  rcases member?_cases c p with ⟨_, hm⟩ | ⟨info, shape, hs⟩
  · rw [fieldOf?, hm, Option.bind_none]
  · rw [fieldOf?, member?_eq_some hs, Option.bind_some]
    cases hs with
    | computed _ _ => rfl
    | generic _ _ _ => rfl
    | opens hn => exact absurd hn.toStored (h info)
    | misplacedMarker hm => exact absurd hm.toStored (h info)
    | plain hp _ => exact absurd hp (h info)

/-- A property that opens a section off the trail becomes a section. -/
theorem fieldOf?_of_nests {v : DeclarationId} (h : c.Nests p info v) (hv : v ∉ trail) :
    c.fieldOf? trail subscribe p = some (.nest ⟨info.name, info.name, c.classNameOf v⟩) := by
  have hunmet : v ∈ c.source.unmet trail := SymbolSource.mem_unmet.mpr ⟨h.names.mem_handles, hv⟩
  rw [fieldOf?, member?_eq_some (.opens h), Option.bind_some]
  exact if_pos hunmet

/-- Any other stored property becomes an option, subject to subscription if everything around it is
or it is marked for it itself. -/
theorem fieldOf?_of_value (trail : List DeclarationId) (h : c.Stored p info)
    (hv : ∀ v, ¬ c.Nests p info v) :
    ∃ field : ValueField, c.fieldOf? trail subscribe p = some (.value field)
      ∧ field.name = info.name ∧ field.key = info.name
      ∧ field.subscribe = (subscribe || c.isHooked p) := by
  obtain ⟨shape, hs⟩ : ∃ shape, c.HasShape p info shape := ⟨_, hasShape_shapeOf h.known⟩
  refine ⟨c.valueField ⟨info, c.source.typeOf p, c.isHooked p, shape⟩ (subscribe || c.isHooked p),
    ?_, rfl, rfl, rfl⟩
  rw [fieldOf?, member?_eq_some hs, Option.bind_some]
  cases hs with
  | computed _ hb => exact absurd (h.backed.symm.trans hb) (by simp)
  | generic _ _ ht => exact absurd (h.concrete.symm.trans ht) (by simp)
  | opens hn => exact absurd hn (hv _)
  | misplacedMarker _ => rfl
  | plain _ _ => rfl

end Member

section Adding

variable {trail : List DeclarationId} {p : PropertyId} (owner : String) (subscribe : Bool)
  (collected : Collected)

theorem addProperty_fields :
    (c.addProperty trail owner subscribe collected p).fields
      = collected.fields ++ (c.fieldOf? trail subscribe p).toList := by
  unfold addProperty fieldOf?
  cases hm : c.member? p with
  | none => simp
  | some m =>
      dsimp only [Option.bind_some]
      unfold addMember
      cases m.shape with
      | opens target =>
          dsimp only
          split
          · rfl
          · simp [Collected.report]
      | computed => simp [Collected.report]
      | generic => simp [Collected.report]
      | misplacedMarker => rfl
      | plain => rfl

/-- A property through which no section is entered adds at most a report to
the rest of the result. -/
theorem addProperty_of_not_entered (h : c.entered? trail p = none) :
    (c.addProperty trail owner subscribe collected p).nested = collected.nested
      ∧ (c.addProperty trail owner subscribe collected p).diagnostics
        = collected.diagnostics ++ (c.report? trail owner p).toList := by
  unfold addProperty report?
  unfold entered? at h
  cases hm : c.member? p with
  | none => simp
  | some m =>
      rw [hm, Option.bind_some] at h
      dsimp only [Option.bind_some]
      unfold addMember
      cases hs : m.shape with
      | opens target =>
          -- a section that is not entered is on the trail
          simp only [hs] at h
          have hmet : target ∉ c.source.unmet trail := by simpa using h
          simp [hmet, Collected.report]
      | computed => simp [Collected.report]
      | generic => simp [Collected.report]
      | misplacedMarker => simp [Collected.report, Collected.addValue]
      | plain => simp [Collected.addValue]

/-- A property through which a section is entered adds what was collected inside. -/
theorem addProperty_of_entered {v : DeclarationId} (h : c.entered? trail p = some v) :
    ∃ name, c.addProperty trail owner subscribe collected p
      = collected.addSection name (c.classNameOf v)
        (c.collectFrom (v :: trail) v (subscribe || c.isHooked p)) := by
  obtain ⟨⟨info, hn⟩, _⟩ := entered?_eq_some.mp h
  have hunmet := mem_unmet_of_entered? h
  exact ⟨info.name, by simp [addProperty, addMember, member?_eq_some (.opens hn), hunmet]⟩

end Adding

/-- **The members of a declaration** are what its properties become, in declared order. -/
theorem collectFrom_fields (trail : List DeclarationId) (id : DeclarationId) (subscribe : Bool) :
    (c.collectFrom trail id subscribe).fields
      = (c.source.properties id).filterMap (c.fieldOf? trail subscribe) := by
  rw [collectFrom_eq_foldl]
  suffices ∀ (ps : List PropertyId) (collected : Collected),
      (ps.foldl (c.addProperty trail (c.source.nameOf id) subscribe) collected).fields
        = collected.fields ++ ps.filterMap (c.fieldOf? trail subscribe) by simpa using this _ {}
  intro ps
  induction ps with
  | nil => simp
  | cons p ps ih =>
      intro collected
      rw [List.foldl_cons, ih, addProperty_fields, List.append_assoc, List.filterMap_cons]
      cases c.fieldOf? trail subscribe p <;> rfl

end WrapperGen.Collector
