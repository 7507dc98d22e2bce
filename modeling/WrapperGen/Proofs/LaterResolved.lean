import Mathlib.Data.List.Basic
import WrapperGen.Proofs.MirroredTables
import WrapperGen.Proofs.Resolution
import WrapperGen.Proofs.RoundCourse

/-!
# Types that are resolved later

A front end may resolve more types from one round to the next, and then dumps its
declarations again. A type that was unresolved named no section, so resolving it can add
edges to the graph of sections and make other models ready. It adds nothing below a model
that is ready already: everything the search meets from there is resolved, and a resolved
declaration stays as it is. So the search goes the same way again, and what was generated
once need not be generated again (`same_once_ready`).
-/

namespace WrapperGen

namespace SymbolSource

variable {s s' : SymbolSource} {marker : String}

/-! ## The search in two sources -/

/-- A section is found from the entry of the property that opens it. -/
theorem mem_sections_of_mem {id v : DeclarationId} {d : DeclarationEntry} {p : PropertyEntry}
    (hd : s.entry? id = some d) (hp : p ∈ d.properties)
    (hmarked : p.annotations.contains marker = true) (hv : s.section? p.type = some v) :
    v ∈ s.sections marker id := by
  obtain ⟨i, hi, rfl⟩ := List.mem_iff_getElem.mp hp
  have hproperty : s.propertyEntry? ⟨id, i⟩ = some d.properties[i] := by
    unfold propertyEntry?
    simp [hd, hi]
  refine mem_sections.mpr ⟨⟨id, i⟩, by simpa [properties, hd] using hi, ?_, ?_⟩
  · simpa only [isMarked, arguments?, annotations, hproperty, KeyMap.contains] using hmarked
  · simpa only [typeOf, hproperty] using section?_eq_some.mp hv

/-- A declaration opens the same sections wherever its entry and the sections
themselves are the same. -/
theorem sections_congr {id : DeclarationId} (hentry : s'.entry? id = s.entry? id)
    (hsection : ∀ type, s'.section? type = s.section? type) :
    s'.sections marker id = s.sections marker id := by
  have hproperties : s'.properties id = s.properties id := by rw [properties, properties, hentry]
  rw [sections, sections, hproperties]
  refine List.filterMap_congr fun p hp => ?_
  have hproperty : s'.propertyEntry? p = s.propertyEntry? p := by
    have hid : p.declaration = id := Collector.declaration_of_mem_properties hp
    unfold propertyEntry?
    rw [hid, hentry]
  have htype : s'.typeOf p = s.typeOf p := by rw [typeOf, typeOf, hproperty]
  have hmarked : s'.isMarked (.property p) marker = s.isMarked (.property p) marker := by
    rw [isMarked, isMarked, arguments?, arguments?, annotations, annotations, hproperty]
  rw [htype, hmarked, hsection]

/-- The search goes the same way where everything it meets opens the same sections. -/
theorem metFrom_congr (hhandles : s'.handles = s.handles) {met pending : List DeclarationId}
    (hpending : pending ⊆ met)
    (h : ∀ x ∈ s.metFrom marker met pending, s'.sections marker x = s.sections marker x) :
    s'.metFrom marker met pending = s.metFrom marker met pending := by
  have hunmet : ∀ met, s'.unmet met = s.unmet met := fun met => by rw [unmet, unmet, hhandles]
  induction met, pending using metFrom.induct s marker with
  | case1 met => rw [metFrom, metFrom]
  | case2 met id pending found fresh hnone ih =>
      obtain ⟨hid, hrest⟩ := List.cons_subset.mp hpending
      have hsame : s'.sections marker id = s.sections marker id := h id (mem_metFrom hid)
      rw [metFrom_of_none hnone] at h ⊢
      rw [metFrom_of_none (by rw [hunmet, hsame]; exact hnone)]
      exact ih hrest h
  | case3 met id pending found fresh hsome _ ih =>
      obtain ⟨hid, hrest⟩ := List.cons_subset.mp hpending
      have hsame : s'.sections marker id = s.sections marker id := h id (mem_metFrom hid)
      rw [metFrom_of_fresh rfl hsome] at h ⊢
      have hfresh : (s'.unmet met).filter (· ∈ s'.sections marker id) = fresh := by
        rw [hunmet, hsame]
      rw [metFrom_of_fresh hfresh hsome]
      refine ih (List.append_subset.mpr ⟨List.subset_append_right _ _, ?_⟩) h
      exact List.Subset.trans hrest (List.subset_append_left _ _)

end SymbolSource

/-! ## Dumps -/

/-- The same property, its type perhaps resolved by now. -/
structure PropertyDump.Resolves (p p' : PropertyDump) : Prop where
  same : p' = { p with resolved := p'.resolved }
  kept : p.resolved = true → p'.resolved = true

/-- The same declaration, the types of some properties resolved by now. -/
structure DeclarationDump.Resolves (d d' : DeclarationDump) : Prop where
  same : d' = { d with properties := d'.properties }
  properties : List.Forall₂ PropertyDump.Resolves d.properties d'.properties

/-- The same declarations, the types of some properties resolved by now. -/
def SymbolDump.Resolves (dump dump' : SymbolDump) : Prop :=
  List.Forall₂ DeclarationDump.Resolves dump.declarations dump'.declarations

/-! ## Entries -/

/-- An entry whose types are resolved stays as it is. -/
structure DeclarationEntry.Settles (d d' : DeclarationEntry) : Prop where
  info : d'.info = d.info
  annotations : d'.annotations = d.annotations
  settled : d.isResolved = true → d' = d

/-- A property whose type is resolved does not change. -/
theorem PropertyDump.Resolves.eq_of_resolved {p p' : PropertyDump} (h : p.Resolves p')
    (typeParameters : List String) (hresolved : (p.typeRef typeParameters).hasUnresolved = false) :
    p' = p := by
  have hp : p.resolved = true := by
    -- otherwise the type itself would be an unresolved one
    by_contra hp
    rw [PropertyDump.typeRef, if_neg hp, TypeRef.hasUnresolved] at hresolved
    exact absurd hresolved (by decide)
  rw [h.same, h.kept hp, ← hp]

theorem DeclarationDump.Resolves.settles {d d' : DeclarationDump} {entry entry' : DeclarationEntry}
    (h : d.Resolves d') (hentry : DeclarationEntry.ofDump d = .ok entry)
    (hentry' : DeclarationEntry.ofDump d' = .ok entry') : entry.Settles entry' := by
  obtain ⟨name, hname, rfl⟩ := DeclarationEntry.ofDump_eq_ok.mp hentry
  obtain ⟨name', hname', rfl⟩ := DeclarationEntry.ofDump_eq_ok.mp hentry'
  have hsame := h.same
  obtain rfl : name = name' := by
    rw [hsame] at hname'
    exact Except.ok.inj (hname.symm.trans hname')
  refine ⟨by rw [hsame], by rw [hsame], fun hresolved => ?_⟩
  have hproperties : d'.properties = d.properties := by
    have hall : ∀ p ∈ d.properties, (p.typeRef d.typeParameters).hasUnresolved = false := by
      intro p hp
      have hentry := List.all_eq_true.mp hresolved (PropertyEntry.ofDump d.typeParameters p)
        (List.mem_map_of_mem hp)
      rwa [Bool.not_eq_true'] at hentry
    have heq : List.Forall₂ Eq d.properties d'.properties :=
      ((List.forall₂_and_left d.properties d'.properties).mpr
        ⟨hall, h.properties⟩).imp fun _ _ hp =>
        (hp.2.eq_of_resolved d.typeParameters hp.1).symm
    rw [List.forall₂_eq_eq_eq] at heq
    exact heq.symm
  rw [hsame, hproperties]

namespace SymbolTable

/-- The entries of both dumps stand at the same places. -/
def Settles (t t' : SymbolTable) : Prop :=
  List.Forall₂ DeclarationEntry.Settles t.declarations t'.declarations

theorem settles_of_resolves {dump dump' : SymbolDump} {t t' : SymbolTable} (h : dump.Resolves dump')
    (ht : ofDump dump = .ok t) (ht' : ofDump dump' = .ok t') : t.Settles t' := by
  have hentries : Entries dump.declarations t.declarations := ofDump_eq_ok.mp ht
  have hentries' : Entries dump'.declarations t'.declarations := ofDump_eq_ok.mp ht'
  unfold SymbolDump.Resolves at h
  unfold Settles
  generalize dump.declarations = ds at h hentries
  generalize dump'.declarations = ds' at h hentries'
  generalize t.declarations = entries at hentries ⊢
  generalize t'.declarations = entries' at hentries' ⊢
  induction h generalizing entries entries' with
  | nil =>
      cases hentries
      cases hentries'
      exact .nil
  | cons hd _ ih =>
      cases hentries with
      | cons hentry hentries =>
          cases hentries' with
          | cons hentry' hentries' =>
              exact .cons (hd.settles hentry hentry') (ih _ hentries _ hentries')

namespace Settles

variable {t t' : SymbolTable} {u : DeclarationId} {marker : String}

theorem entry? (h : t.Settles t') (u : DeclarationId) : Option.Rel DeclarationEntry.Settles
    (SymbolSource.entry? { table := t } u) (SymbolSource.entry? { table := t' } u) :=
  getElem?_of_forall₂ h u.index

/-- A declaration whose types are resolved stands in both tables with the same entry. -/
theorem entry?_eq (h : t.Settles t') (hu : SymbolSource.isResolved { table := t } u = true) :
    ∃ d, SymbolSource.entry? { table := t } u = some d
      ∧ SymbolSource.entry? { table := t' } u = some d := by
  have hentry := h.entry? u
  unfold SymbolSource.isResolved at hu
  generalize SymbolSource.entry? { table := t } u = d? at hu hentry
  generalize SymbolSource.entry? { table := t' } u = d'? at hentry
  cases hentry with
  | none => exact absurd hu (by decide)
  | some hd => exact ⟨_, rfl, by rw [hd.settled hu]⟩

theorem sameInfos (h : t.Settles t') : SymbolSource.SameInfos { table := t } { table := t' } where
  infos := h.imp fun _ _ hd => hd.info
  hiddenDeclarations := rfl

/-- Below a declaration that is ready the search meets the same declarations. -/
theorem metFrom (h : t.Settles t') (hready : SymbolSource.isReady { table := t } marker u = true) :
    SymbolSource.metFrom { table := t' } marker [u] [u]
      = SymbolSource.metFrom { table := t } marker [u] [u] := by
  refine SymbolSource.metFrom_congr h.sameInfos.handles (List.Subset.refl _) fun x hx => ?_
  obtain ⟨d, hd, hd'⟩ := h.entry?_eq (SymbolSource.isResolved_of_isReady hready hx)
  exact SymbolSource.sections_congr (hd'.trans hd.symm) h.sameInfos.section?

/-- A declaration that is ready stays ready. -/
theorem isReady (h : t.Settles t') (hready : SymbolSource.isReady { table := t } marker u = true) :
    SymbolSource.isReady { table := t' } marker u = true := by
  rw [SymbolSource.isReady, h.metFrom hready, List.all_eq_true]
  intro x hx
  have hresolved := SymbolSource.isResolved_of_isReady hready hx
  obtain ⟨d, hd, hd'⟩ := h.entry?_eq hresolved
  rw [SymbolSource.isResolved, hd] at hresolved
  rwa [SymbolSource.isResolved, hd']

/-- A model stays a model. -/
theorem isModel {markers : Markers} (h : t.Settles t')
    (hmodel : SymbolSource.IsModel { table := t } markers u) :
    SymbolSource.IsModel { table := t' } markers u := by
  refine ⟨?_, by rw [h.sameInfos.declaration?]; exact hmodel.visible⟩
  have hentry := h.entry? u
  have hmarked := hmodel.marked
  unfold SymbolSource.isMarked SymbolSource.arguments? SymbolSource.annotations at hmarked ⊢
  dsimp only at hmarked ⊢
  generalize SymbolSource.entry? { table := t } u = d? at hmarked hentry
  generalize SymbolSource.entry? { table := t' } u = d'? at hentry ⊢
  cases hentry with
  | none => exact hmarked
  | some hd =>
      dsimp only at hmarked ⊢
      rwa [hd.annotations]

/-- What the search meets below a declaration that is ready is held alike by both tables. -/
theorem mirrored (h : t.Settles t') (hready : SymbolSource.isReady { table := t } marker u = true) :
    Mirrored (fun v v' => v = v' ∧ v ∈ SymbolSource.metFrom { table := t } marker [u] [u])
      marker t t' where
  unique := by
    rintro v w _ _ ⟨rfl, _⟩ ⟨rfl, _⟩
    rfl
  entry := by
    rintro v _ ⟨rfl, hv⟩
    obtain ⟨d, hd, hd'⟩ := h.entry?_eq (SymbolSource.isResolved_of_isReady hready hv)
    refine ⟨d, hd, hd', fun p hp hmarked => ?_⟩
    rw [h.sameInfos.section?]
    cases hsection : SymbolSource.section? { table := t } p.type with
    | none => exact .none
    | some w =>
        have hw : w ∈ SymbolSource.sections { table := t } marker v :=
          SymbolSource.mem_sections_of_mem hd hp hmarked hsection
        -- what the search has met is closed, so the section is met and settled too
        have hclosed : SymbolSource.sections { table := t } marker v
            ⊆ SymbolSource.metFrom { table := t } marker [u] [u] :=
          SymbolSource.sections_subset_metFrom [u] [u] (fun x hx hdone => absurd hx hdone) v hv
        exact .some ⟨rfl, hclosed hw⟩

end Settles

/--
**A model that is ready need not be generated again.**

Of two dumps that both make a table, let the second have more types resolved and be the same
otherwise. A model that is ready in the first table is ready in the second one. It is the same model
there, and from it the same file is generated, with the same diagnostics.
-/
theorem same_once_ready {dump dump' : SymbolDump} {t t' : SymbolTable} (h : dump.Resolves dump')
    (ht : ofDump dump = .ok t) (ht' : ofDump dump' = .ok t') (o : Options) {id : DeclarationId}
    (hid : id ∈ (scan { table := t } o.markers).ready) :
    id ∈ (scan { table := t' } o.markers).ready
      ∧ buildModel { table := t' } id o.markers = buildModel { table := t } id o.markers
      ∧ ∀ m, buildModel { table := t } id o.markers = .ok m →
        generate { table := t' } m o = generate { table := t } m o := by
  have hsettles := settles_of_resolves h ht ht'
  obtain ⟨hmodel, hready⟩ := mem_ready.mp hid
  have hmirrored := hsettles.mirrored hready
  have hmet : id ∈ SymbolSource.metFrom { table := t } o.markers.nest [id] [id] :=
    SymbolSource.mem_metFrom List.mem_cons_self
  have hbuilt := hmirrored.buildModel_mirrored ⟨rfl, hmet⟩ o.markers
  have hdeclaration : ∀ m, buildModel { table := t } id o.markers = .ok m → m.declaration = id :=
    fun m hm => declaration_of_buildModel hm
  refine ⟨mem_ready.mpr ⟨hsettles.isModel hmodel, hsettles.isReady hready⟩, ?_, fun m hm => ?_⟩
  · rw [hbuilt]
    cases hm : buildModel { table := t } id o.markers with
    | error diagnostic => rfl
    | ok m =>
        obtain rfl := hdeclaration m hm
        rfl
  · obtain rfl := hdeclaration m hm
    exact hmirrored.generate_mirrored ⟨rfl, hmet⟩

/-! ## A section that two models share -/

/-- Two models with the same section. The front end has or has not resolved what
the second one calls it. -/
def sharedSection (resolved : Bool) : SymbolDump where
  declarations := [
    { name := "dev.example.Model"
      annotations := .ofList [("Config", .ofList [("wrapperName", .string "ModelConfig")])]
      properties :=
        [{ name := "sub", type := "dev.example.Sub", annotations := .ofList [("Nest", .empty)] }] },
    { name := "dev.example.Sub"
      properties := [{ name := "enabled", type := "kotlin.Boolean", mutable := true }] },
    { name := "dev.example.Other"
      annotations := .ofList [("Config", .ofList [("wrapperName", .string "OtherConfig")])]
      properties := [
        { name := "sub", type := "dev.example.Sub", resolved := resolved,
          annotations := .ofList [("Nest", .empty)] }] }]

def sharedSectionTable (resolved : Bool) : SymbolTable where
  declarations := [
    ⟨⟨⟨"dev.example", ["Model"]⟩, .plainClass, none⟩,
      .ofList [("Config", .ofList [("wrapperName", .string "ModelConfig")])], [
      ⟨⟨"sub", false, true⟩, .named ⟨"dev.example", ["Sub"]⟩, .ofList [("Nest", .empty)]⟩]⟩,
    ⟨⟨⟨"dev.example", ["Sub"]⟩, .plainClass, none⟩, .empty, [
      ⟨⟨"enabled", true, true⟩, .named ⟨"kotlin", ["Boolean"]⟩, .empty⟩]⟩,
    ⟨⟨⟨"dev.example", ["Other"]⟩, .plainClass, none⟩,
      .ofList [("Config", .ofList [("wrapperName", .string "OtherConfig")])], [
      ⟨⟨"sub", false, true⟩,
        if resolved then .named ⟨"dev.example", ["Sub"]⟩ else .unresolved "dev.example.Sub",
        .ofList [("Nest", .empty)]⟩]⟩]
  distinct := by
    change ["dev.example.Model", "dev.example.Sub", "dev.example.Other"].Nodup
    decide

theorem ofDump_sharedSection (resolved : Bool) :
    ofDump (sharedSection resolved) = .ok (sharedSectionTable resolved) := by
  refine ofDump_eq_ok.mpr (.cons rfl (.cons rfl (.cons ?_ .nil)))
  cases resolved <;> rfl

theorem sharedSection_resolves : (sharedSection false).Resolves (sharedSection true) := by
  have hkept : ∀ p : PropertyDump, p.Resolves p := fun _ => ⟨rfl, id⟩
  exact .cons ⟨rfl, .cons (hkept _) .nil⟩ (.cons ⟨rfl, .cons (hkept _) .nil⟩
    (.cons ⟨rfl, .cons ⟨rfl, fun _ => rfl⟩ .nil⟩ .nil))

/-- The first model is ready, also as long as the other one is not. -/
theorem sharedSection_ready :
    ⟨0⟩ ∈ (scan { table := sharedSectionTable false } ⟨"Config", "Nest", "Hook"⟩).ready := by
  have hmet : SymbolSource.metFrom { table := sharedSectionTable false } "Nest" [⟨0⟩] [⟨0⟩]
      = [⟨0⟩, ⟨1⟩] := by
    have hmodel : (SymbolSource.unmet { table := sharedSectionTable false } [⟨0⟩]).filter
        (· ∈ SymbolSource.sections { table := sharedSectionTable false } "Nest" ⟨0⟩) = [⟨1⟩] := by
      decide
    have hsub : (SymbolSource.unmet { table := sharedSectionTable false } [⟨0⟩, ⟨1⟩]).filter
        (· ∈ SymbolSource.sections { table := sharedSectionTable false } "Nest" ⟨1⟩) = [] := by
      decide
    rw [SymbolSource.metFrom_of_fresh hmodel (by simp), List.singleton_append,
      List.singleton_append, SymbolSource.metFrom_of_none hsub, SymbolSource.metFrom]
  refine List.mem_filter.mpr ⟨by decide, ?_⟩
  rw [SymbolSource.isReady, hmet]
  decide

theorem same_once_sharedSection_ready :
    ∃ m, buildModel { table := sharedSectionTable false } ⟨0⟩ ⟨"Config", "Nest", "Hook"⟩ = .ok m
      ∧ ⟨0⟩ ∈ (scan { table := sharedSectionTable true } ⟨"Config", "Nest", "Hook"⟩).ready
      ∧ buildModel { table := sharedSectionTable true } ⟨0⟩ ⟨"Config", "Nest", "Hook"⟩ = .ok m
      ∧ generate { table := sharedSectionTable true } m { markers := ⟨"Config", "Nest", "Hook"⟩ }
        = generate { table := sharedSectionTable false } m
          { markers := ⟨"Config", "Nest", "Hook"⟩ } := by
  have hbuilt : buildModel { table := sharedSectionTable false } ⟨0⟩ ⟨"Config", "Nest", "Hook"⟩
      = .ok ⟨⟨0⟩, ⟨"dev.example", ["Model"]⟩, "ModelConfig", false, none⟩ := by rfl
  obtain ⟨hready, hmodel, hfile⟩ :=
    same_once_ready sharedSection_resolves (ofDump_sharedSection false) (ofDump_sharedSection true)
      { markers := ⟨"Config", "Nest", "Hook"⟩ } sharedSection_ready
  exact ⟨_, hbuilt, hready, hmodel.trans hbuilt, hfile _ hbuilt⟩

end SymbolTable

end WrapperGen
