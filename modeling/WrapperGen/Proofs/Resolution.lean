import WrapperGen.Proofs.SectionSearch
import WrapperGen.Proofs.DeclaredKeys

/-!
# No option has an unresolved type

The scanner decides which models are ready, the collector lists the properties of whatever it
enters. What the collector lists is among what the scanner has met (`Reaches.mem_metFrom`), and a
declaration counts as resolved only if nothing in the type of any of its properties is left to
resolve, at whatever depth. So the text of every option, in the wrapper and in every inner class, is
that of a type with nothing unresolved.

`ResolvedMembers` keeps each member together with the property it comes from. Of the text alone
nothing could be said, since an unresolved type is shown the way it was written.
-/

namespace WrapperGen.Collector

variable {c : Collector}

/-- The declarations whose properties are listed while `root` is collected: the model itself, and a
section each time it is entered. -/
def listed (c : Collector) (root : DeclarationId) (subscribe : Bool) : List DeclarationId :=
  root :: (c.visits [root] root subscribe).map Visit.target

/-- Members collected from properties in their order, the text of every option written from the type
of its own property, which has nothing unresolved in it. -/
inductive ResolvedMembers (c : Collector) : List PropertyId → List ConfigField → Prop where
  | nil : ResolvedMembers c [] []
  /-- A property that is not stored, or whose type is a type variable, is left out. -/
  | skip {p : PropertyId} {ps : List PropertyId} {fields : List ConfigField} :
      (∀ info, ¬ c.Stored p info) → ResolvedMembers c ps fields → ResolvedMembers c (p :: ps) fields
  /-- A section that leads back is left out. -/
  | back {p : PropertyId} {ps : List PropertyId} {info : PropertyInfo} {v : DeclarationId}
      {fields : List ConfigField} :
      c.Nests p info v → ResolvedMembers c ps fields → ResolvedMembers c (p :: ps) fields
  | nest {p : PropertyId} {ps : List PropertyId} {info : PropertyInfo} {v : DeclarationId}
      {fields : List ConfigField} :
      c.Nests p info v → ResolvedMembers c ps fields →
      ResolvedMembers c (p :: ps) (.nest ⟨info.name, info.name, c.classNameOf v⟩ :: fields)
  | value {p : PropertyId} {ps : List PropertyId} {info : PropertyInfo} {field : ValueField}
      {fields : List ConfigField} :
      c.Stored p info → (∀ v, ¬ c.Nests p info v) → field.name = info.name →
      field.typeText = c.simplifier.text (c.source.typeOf p) →
      (c.source.typeOf p).hasUnresolved = false → ResolvedMembers c ps fields →
      ResolvedMembers c (p :: ps) (.value field :: fields)

/-! ## What is listed is resolved -/

/-- The collector lists what chains lead to. -/
theorem mem_listed {root u : DeclarationId} {subscribe : Bool} :
    u ∈ c.listed root subscribe ↔ c.Reaches root u := by
  rw [listed, List.mem_cons, List.mem_map]
  constructor
  · rintro (rfl | ⟨v, hv, rfl⟩)
    · exact ⟨[], .nil⟩
    · exact ⟨v.chain, (follows_of_mem_visits [root] root [] subscribe v rfl hv).chain⟩
  · intro h
    obtain ⟨around, hpath⟩ := h.simplePath
    by_cases hempty : around = []
    · subst hempty
      cases hpath
      exact Or.inl rfl
    · exact Or.inr ((entered_iff_visited subscribe).mp ⟨around, hempty, hpath⟩)

theorem isResolved_of_reaches {root u : DeclarationId}
    (hready : c.source.isReady c.markers.nest root = true) (h : c.Reaches root u) :
    c.source.isResolved u = true :=
  SymbolSource.isResolved_of_isReady hready h.mem_metFrom

/-! ## What is rendered is resolved -/

/-- A section that leads back becomes no member. -/
theorem fieldOf?_of_back {trail : List DeclarationId} {p : PropertyId} {info : PropertyInfo}
    {v : DeclarationId} (subscribe : Bool) (h : c.Nests p info v) (hv : v ∈ trail) :
    c.fieldOf? trail subscribe p = none := by
  have hmet : v ∉ c.source.unmet trail := fun hunmet => (SymbolSource.mem_unmet.mp hunmet).2 hv
  rw [fieldOf?, member?_eq_some (.opens h), Option.bind_some]
  exact if_neg hmet

/-- The text of an option is that of its property's type. -/
theorem typeText_of_fieldOf? {trail : List DeclarationId} {subscribe : Bool} {p : PropertyId}
    {field : ValueField} (h : c.fieldOf? trail subscribe p = some (.value field)) :
    field.typeText = c.simplifier.text (c.source.typeOf p) := by
  rcases member?_cases c p with ⟨_, hm⟩ | ⟨info, shape, hs⟩
  · simp [fieldOf?, hm] at h
  · rw [fieldOf?, member?_eq_some hs, Option.bind_some] at h
    cases hs with
    | computed _ _ => simp at h
    | generic _ _ _ => simp at h
    | opens _ => simp at h
    | misplacedMarker _ =>
        simp only [Option.some.injEq, ConfigField.value.injEq] at h
        rw [← h]
        rfl
    | plain _ _ =>
        simp only [Option.some.injEq, ConfigField.value.injEq] at h
        rw [← h]
        rfl

/-- The members of a resolved declaration are rendered from resolved types, on whatever trail. -/
theorem resolvedMembers_filterMap {u : DeclarationId} (trail : List DeclarationId) (flag : Bool)
    (hresolved : c.source.isResolved u = true) (ps : List PropertyId)
    (hsub : ps ⊆ c.source.properties u) :
    c.ResolvedMembers ps (ps.filterMap (c.fieldOf? trail flag)) := by
  induction ps with
  | nil => exact .nil
  | cons p ps ih =>
      obtain ⟨hp, hsubrest⟩ := List.cons_subset.mp hsub
      have hrest := ih hsubrest
      rw [List.filterMap_cons]
      rcases c.stored_cases p with hnone | ⟨info, v, hv⟩ | ⟨info, hinfo, hnone⟩
      · rw [fieldOf?_of_not_stored flag hnone]
        exact .skip hnone hrest
      · by_cases hback : v ∈ trail
        · rw [fieldOf?_of_back flag hv hback]
          exact .back hv hrest
        · rw [fieldOf?_of_nests flag hv hback]
          exact .nest hv hrest
      · obtain ⟨field, heq, hname, _⟩ := fieldOf?_of_value flag trail hinfo hnone
        have htext := typeText_of_fieldOf? heq
        rw [heq]
        exact .value hinfo hnone hname htext (SymbolSource.hasUnresolved_typeOf hresolved hp) hrest

theorem resolvedMembers_collectFrom {u : DeclarationId} (trail : List DeclarationId) (flag : Bool)
    (hresolved : c.source.isResolved u = true) :
    c.ResolvedMembers (c.source.properties u) (c.collectFrom trail u flag).fields := by
  rw [collectFrom_fields]
  exact resolvedMembers_filterMap trail flag hresolved _ fun _ h => h

/-- Every inner class was offered on some visit. -/
theorem exists_visit_of_mem_nested {root : DeclarationId} {subscribe : Bool} {cls : NestedClass}
    (h : cls ∈ (c.collect root subscribe).nested.classes) :
    ∃ v ∈ c.visits [root] root subscribe, c.classOf v = cls := by
  have hget := NestedClassSet.get?_of_mem h
  rw [collect, collectFrom_nested, NestedClassSet.get?_ofList] at hget
  exact List.mem_map.mp (List.mem_of_find?_eq_some hget)

/--
**A model that is ready is resolved wherever the collector looks.**

Every declaration that is listed was met by the scanner and is resolved, and the options of
the wrapper and of every inner class are written from the types of its properties, in which
nothing is unresolved.
-/
theorem resolved_of_mem_ready {c : Collector} {root : DeclarationId}
    (h : root ∈ (scan c.source c.markers).ready) (subscribe : Bool) :
    (∀ u ∈ c.listed root subscribe,
        u ∈ c.source.metFrom c.markers.nest [root] [root] ∧ c.source.isResolved u = true)
      ∧ c.ResolvedMembers (c.source.properties root) (c.collect root subscribe).fields
      ∧ ∀ cls ∈ (c.collect root subscribe).nested.classes, ∃ u ∈ c.listed root subscribe,
        cls.name = c.classNameOf u ∧ c.ResolvedMembers (c.source.properties u) cls.fields := by
  have hready := isReady_of_mem_ready h
  have hresolved : ∀ u ∈ c.listed root subscribe, c.source.isResolved u = true :=
    fun u hu => isResolved_of_reaches hready (mem_listed.mp hu)
  refine ⟨fun u hu => ⟨(mem_listed.mp hu).mem_metFrom, hresolved u hu⟩, ?_, ?_⟩
  · exact resolvedMembers_collectFrom [root] subscribe (hresolved root List.mem_cons_self)
  · intro cls hcls
    obtain ⟨v, hv, rfl⟩ := exists_visit_of_mem_nested hcls
    have hmem : v.target ∈ c.listed root subscribe :=
      List.mem_cons_of_mem _ (List.mem_map_of_mem hv)
    exact ⟨v.target, hmem, rfl, resolvedMembers_collectFrom _ _ (hresolved _ hmem)⟩

/-- A model with a section that refers back to it. -/
def backReference : Collector where
  source := { table := {
    declarations := [
      ⟨⟨⟨"dev.example", ["Model"]⟩, .plainClass, none⟩, .ofList [("Config", .empty)], [
        ⟨⟨"sub", false, true⟩, .named ⟨"dev.example", ["Sub"]⟩, .ofList [("Nest", .empty)]⟩]⟩,
      ⟨⟨⟨"dev.example", ["Sub"]⟩, .plainClass, none⟩, .empty, [
        ⟨⟨"owner", false, true⟩, .nullable (.named ⟨"dev.example", ["Model"]⟩),
          .ofList [("Nest", .empty)]⟩,
        ⟨⟨"modes", true, true⟩, .applied ⟨"kotlin", ["List"]⟩ [.named ⟨"dev.example", ["Mode"]⟩],
          .empty⟩]⟩]
    distinct := by decide } }
  markers := ⟨"Config", "Nest", "Hook"⟩
  simplifier := ⟨"dev.example", defaultNamespaces⟩

theorem backReference_metFrom : backReference.source.metFrom "Nest" [⟨0⟩] [⟨0⟩] = [⟨0⟩, ⟨1⟩] := by
  have hmodel : (backReference.source.unmet [⟨0⟩]).filter
      (· ∈ backReference.source.sections "Nest" ⟨0⟩)
      = [⟨1⟩] := by decide
  have hsub : (backReference.source.unmet [⟨0⟩, ⟨1⟩]).filter
      (· ∈ backReference.source.sections "Nest" ⟨1⟩)
      = [] := by decide
  rw [SymbolSource.metFrom_of_fresh hmodel (by simp), List.singleton_append, List.singleton_append,
    SymbolSource.metFrom_of_none hsub, SymbolSource.metFrom]

theorem backReference_ready : ⟨0⟩ ∈ (scan backReference.source backReference.markers).ready := by
  refine List.mem_filter.mpr ⟨by decide, ?_⟩
  rw [SymbolSource.isReady, show backReference.markers.nest = "Nest" from rfl,
    backReference_metFrom]
  decide

theorem resolved_backReference :
    ⟨0⟩ ∈ (scan backReference.source backReference.markers).ready
      ∧ (∀ u ∈ backReference.listed ⟨0⟩ false,
        u ∈ backReference.source.metFrom "Nest" [⟨0⟩] [⟨0⟩]
          ∧ backReference.source.isResolved u = true)
      ∧ backReference.ResolvedMembers (backReference.source.properties ⟨0⟩)
        (backReference.collect ⟨0⟩ false).fields
      ∧ ∀ cls ∈ (backReference.collect ⟨0⟩ false).nested.classes,
        ∃ u ∈ backReference.listed ⟨0⟩ false, cls.name = backReference.classNameOf u
          ∧ backReference.ResolvedMembers (backReference.source.properties u) cls.fields :=
  ⟨backReference_ready, resolved_of_mem_ready backReference_ready false⟩

end WrapperGen.Collector
