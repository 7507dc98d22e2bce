import WrapperGen.Proofs.Flags
import WrapperGen.Proofs.LoadedTables

/-!
# Collecting from two sources

A handle is the place of a declaration in a table, so one and the same declaration has another
handle in another table. Nothing the collector does with handles goes beyond comparing them and
looking things up: where the declarations of two sources are counterparts of each other, under
whatever handles, the same is collected (`collectFrom_counterpart`).

The two sources may also disagree about hooks. How much of that is left in the result is said by a
function `f` on flags, which forgets what they disagree about: `id` where they agree, and a constant
where any hook may differ.
-/

namespace WrapperGen

/-! ## The same declarations -/

namespace SymbolSource

/-- Two sources that know the same about each declaration itself, though perhaps
not about its properties. -/
structure SameInfos (s s' : SymbolSource) : Prop where
  infos : List.Forall₂ (fun d d' => d'.info = d.info) s.table.declarations s'.table.declarations
  hiddenDeclarations : s'.hiddenDeclarations = s.hiddenDeclarations

namespace SameInfos

variable {s s' : SymbolSource}

theorem handles (h : SameInfos s s') : s'.handles = s.handles := by
  rw [SymbolSource.handles, SymbolSource.handles, SymbolTable.size, SymbolTable.size,
    h.infos.length_eq]

theorem declaration? (h : SameInfos s s') (id : DeclarationId) :
    s'.declaration? id = s.declaration? id := by
  have hentry := getElem?_of_forall₂ h.infos id.index
  unfold SymbolSource.declaration? SymbolSource.entry?
  rw [h.hiddenDeclarations]
  generalize s.table.declarations[id.index]? = d? at hentry
  generalize s'.table.declarations[id.index]? = d'? at hentry
  cases hentry with
  | none => rfl
  | some hinfo => rw [Option.map_some, Option.map_some, hinfo]

theorem nameOf (h : SameInfos s s') (id : DeclarationId) : s'.nameOf id = s.nameOf id := by
  rw [SymbolSource.nameOf, SymbolSource.nameOf, h.declaration?]

theorem names (h : SameInfos s s') : s'.table.names = s.table.names := by
  have hnames : List.Forall₂ Eq s.table.names s'.table.names := by
    rw [SymbolTable.names, SymbolTable.names, List.forall₂_map_left_iff, List.forall₂_map_right_iff]
    exact h.infos.imp fun d d' hinfo => by
      rw [DeclarationEntry.canonical, DeclarationEntry.canonical, hinfo]
  rw [List.forall₂_eq_eq_eq] at hnames
  exact hnames.symm

/-- A type names the same section in both. -/
theorem section? (h : SameInfos s s') (type : TypeRef) : s'.section? type = s.section? type := by
  simp only [SymbolSource.section?, resolve?_eq, h.names, h.declaration?]

end SameInfos

end SymbolSource

/-! ## Counterparts -/

variable {R : DeclarationId → DeclarationId → Prop} {f : Bool → Bool}

/-- The same becomes of two properties, up to the handles of the sections they open. -/
inductive PropertyShape.Counterpart (R : DeclarationId → DeclarationId → Prop) :
    PropertyShape → PropertyShape → Prop where
  | computed : Counterpart R .computed .computed
  | generic : Counterpart R .generic .generic
  | opens {u u' : DeclarationId} : R u u' → Counterpart R (.opens u) (.opens u')
  | misplacedMarker : Counterpart R .misplacedMarker .misplacedMarker
  | plain : Counterpart R .plain .plain

/-- Two properties that the collector sees as the same, up to handles and hooks. -/
structure Member.Counterpart (R : DeclarationId → DeclarationId → Prop) (f : Bool → Bool)
    (m m' : Member) : Prop where
  info : m'.info = m.info
  type : m'.type = m.type
  shape : m.shape.Counterpart R m'.shape
  hooked : ∀ flag flag', f flag = f flag' → f (flag || m.hooked) = f (flag' || m'.hooked)

namespace Collector

/-- `R` relates declarations of two sources that are the same, up to handles and hooks. -/
structure Counterparts (R : DeclarationId → DeclarationId → Prop) (f : Bool → Bool)
    (c c' : Collector) : Prop where
  simplifier : c'.simplifier = c.simplifier
  /-- Each declaration has one counterpart at most. -/
  unique : ∀ {u v u' v'}, R u u' → R v v' → (u = v ↔ u' = v')
  declared : ∀ {u u'}, R u u' → (u ∈ c.source.handles ↔ u' ∈ c'.source.handles)
  nameOf : ∀ {u u'}, R u u' → c'.source.nameOf u' = c.source.nameOf u
  classNameOf : ∀ {u u'}, R u u' → c'.classNameOf u' = c.classNameOf u
  members : ∀ {u u'}, R u u' → List.Forall₂ (Member.Counterpart R f) (c.members u) (c'.members u')

variable {c c' : Collector} {trail trail' : List DeclarationId} {u u' : DeclarationId}

/-- A declaration is on a trail where its counterpart is on that of the counterparts. -/
theorem Counterparts.mem_trail_iff (h : Counterparts R f c c') (hu : R u u')
    (htrail : List.Forall₂ R trail trail') :
    u ∈ trail ↔ u' ∈ trail' := by
  induction htrail with
  | nil => simp
  | cons hv _ ih => rw [List.mem_cons, List.mem_cons, h.unique hu hv, ih]

theorem Counterparts.mem_unmet_iff (h : Counterparts R f c c') (hu : R u u')
    (htrail : List.Forall₂ R trail trail') :
    u ∈ c.source.unmet trail ↔ u' ∈ c'.source.unmet trail' := by
  rw [SymbolSource.mem_unmet, SymbolSource.mem_unmet, h.declared hu, h.mem_trail_iff hu htrail]

theorem Counterparts.valueField (h : Counterparts R f c c') {m m' : Member}
    (hm : m.Counterpart R f m') {flag flag' : Bool} (hflag : f flag = f flag') :
    ({ c.valueField m flag with subscribe := f flag } : ValueField)
      = { c'.valueField m' flag' with subscribe := f flag' } := by
  simp only [Collector.valueField, h.simplifier, hm.info, hm.type, hflag]

/-- **One member** adds the same to what is the same already, if the sections it may
open are collected alike. -/
theorem Counterparts.addMember (h : Counterparts R f c c') (htrail : List.Forall₂ R trail trail')
    (owner : String) {flag flag' : Bool} (hflag : f flag = f flag') {m m' : Member}
    (hm : m.Counterpart R f m')
    (hinside : ∀ v v', R v v' → v ∈ c.source.unmet trail → ∀ flag flag', f flag = f flag' →
      (c.collectFrom (v :: trail) v flag).withFlags f
        = (c'.collectFrom (v' :: trail') v' flag').withFlags f)
    {collected collected' : Collected}
    (hcollected : collected.withFlags f = collected'.withFlags f) :
    (c.addMember trail owner flag collected m).withFlags f
      = (c'.addMember trail' owner flag' collected' m').withFlags f := by
  have hflags : f (flag || m.hooked) = f (flag' || m'.hooked) := hm.hooked flag flag' hflag
  have hshape := hm.shape
  unfold Collector.addMember
  -- both members have the same shape, but for the declaration that a section opens
  generalize m.shape = shape at hshape
  generalize m'.shape = shape' at hshape
  cases hshape with
  | computed =>
    simp only [Collected.withFlags_report, hcollected, Member.computedDiagnostic, hm.info]
  | generic =>
    simp only [Collected.withFlags_report, hcollected, Member.genericDiagnostic, hm.info, hm.type]
  | @opens v v' hv =>
    by_cases hunmet : v ∈ c.source.unmet trail
    · have hunmet' : v' ∈ c'.source.unmet trail' := (h.mem_unmet_iff hv htrail).mp hunmet
      simp only [if_pos hunmet, if_pos hunmet', Collected.withFlags_addSection, hcollected, hm.info,
        h.classNameOf hv, hinside v v' hv hunmet _ _ hflags]
    · have hunmet' : v' ∉ c'.source.unmet trail' :=
        fun hmem => hunmet ((h.mem_unmet_iff hv htrail).mpr hmem)
      simp only [if_neg hunmet, if_neg hunmet', Collected.withFlags_report, hcollected,
        Member.selfReferenceDiagnostic, hm.info, hm.type]
  | misplacedMarker =>
    simp only [Collected.withFlags_addValue, Collected.withFlags_report, hcollected,
      Member.misplacedMarkerDiagnostic, hm.info, hm.type]
    exact congrArg _ (h.valueField hm hflags)
  | plain =>
    simp only [Collected.withFlags_addValue, hcollected]
    exact congrArg _ (h.valueField hm hflags)

/--
**Counterparts are collected alike**, on trails of counterparts.

The induction is along the first trail; the second one needs no measure of its own, as a section is
entered there just where it is entered here.
-/
theorem collectFrom_counterpart (h : Counterparts R f c c') (trail : List DeclarationId) :
    ∀ (trail' : List DeclarationId) (u u' : DeclarationId) (flag flag' : Bool),
      List.Forall₂ R trail trail' →
      R u u' → f flag = f flag' →
      (c.collectFrom trail u flag).withFlags f = (c'.collectFrom trail' u' flag').withFlags f := by
  induction trail using trail_induction c.source with
  | h trail ih =>
    intro trail' u u' flag flag' htrail hu hflag
    have hinside : ∀ v v', R v v' → v ∈ c.source.unmet trail → ∀ flag flag', f flag = f flag' →
        (c.collectFrom (v :: trail) v flag).withFlags f
          = (c'.collectFrom (v' :: trail') v' flag').withFlags f :=
      fun v v' hv hunmet flag flag' hflag => ih v hunmet (v' :: trail') v v' flag flag'
        (.cons hv htrail) hv hflag
    rw [collectFrom, collectFrom, collectMembers_eq_foldl, collectMembers_eq_foldl, h.nameOf hu]
    have hmembers := h.members hu
    generalize c.members u = ms at hmembers
    generalize c'.members u' = ms' at hmembers
    -- the members are added one after the other, to anything collected alike so far
    suffices ∀ collected collected' : Collected, collected.withFlags f = collected'.withFlags f →
        (ms.foldl (c.addMember trail (c.source.nameOf u) flag) collected).withFlags f
          = (ms'.foldl (c'.addMember trail' (c.source.nameOf u) flag') collected').withFlags f
            from this {} {} rfl
    induction hmembers with
    | nil => exact fun _ _ hcollected => hcollected
    | cons hm _ ihms =>
      intro collected collected' hcollected
      rw [List.foldl_cons, List.foldl_cons]
      exact ihms _ _ (h.addMember htrail _ hflag hm hinside hcollected)

theorem collect_counterpart (h : Counterparts R f c c') (hu : R u u') {flag flag' : Bool}
    (hflag : f flag = f flag') :
    (c.collect u flag).withFlags f = (c'.collect u' flag').withFlags f :=
  collectFrom_counterpart h [u] [u'] u u' flag flag' (.cons hu .nil) hu hflag

/-! ## Members of entries -/

/-- The member that the entry of a property describes. -/
def memberOf (c : Collector) (p : PropertyEntry) : Member where
  info := p.info
  type := p.type
  hooked := p.annotations.contains c.markers.hook
  shape :=
    if !p.info.hasBackingField then .computed
    else if p.type.isTypeVariable then .generic
    else if p.annotations.contains c.markers.nest then
      match c.source.section? p.type with
      | some target => .opens target
      | none => .misplacedMarker
    else .plain

/-- A member is described by the entry of its property. -/
theorem member?_eq (c : Collector) (id : PropertyId) :
    c.member? id
      = if id ∈ c.source.hiddenProperties then none
        else (c.source.propertyEntry? id).map c.memberOf := by
  unfold member? SymbolSource.property?
  split
  · rfl
  · cases h : c.source.propertyEntry? id with
    | none => rfl
    | some p =>
      simp only [Option.map_some, memberOf, shapeOf, SymbolSource.typeOf, SymbolSource.isMarked,
        SymbolSource.arguments?, SymbolSource.annotations, h]
      rfl

/-- Properties that differ in hooks alone, and in the handles of their
sections, are seen as the same. -/
theorem counterpart_memberOf {p p' : PropertyEntry} (hinfo : p'.info = p.info)
    (htype : p'.type = p.type)
    (hnest : p'.annotations.contains c'.markers.nest = p.annotations.contains c.markers.nest)
    (hsection : p.annotations.contains c.markers.nest = true →
      Option.Rel R (c.source.section? p.type) (c'.source.section? p.type))
    (hhooked : ∀ flag flag', f flag = f flag' →
      f (flag || p.annotations.contains c.markers.hook)
        = f (flag' || p'.annotations.contains c'.markers.hook)) :
    (c.memberOf p).Counterpart R f (c'.memberOf p') := by
  refine ⟨hinfo, htype, ?_, hhooked⟩
  simp only [memberOf, hinfo, htype, hnest]
  split
  · exact .computed
  · split
    · exact .generic
    · split
      · rename_i hmarked
        have hrel := hsection hmarked
        generalize c.source.section? p.type = target at hrel
        generalize c'.source.section? p.type = target' at hrel
        cases hrel with
        | none => exact .misplacedMarker
        | some htarget => exact .opens htarget
      · exact .plain

/-- The members of two declarations are counterparts when the entries of their properties are. -/
theorem counterpart_members {S : PropertyEntry → PropertyEntry → Prop}
    (hentry : Option.Rel (fun d d' => List.Forall₂ S d.properties d'.properties)
      (c.source.entry? u) (c'.source.entry? u'))
    (hhidden : ∀ i, ⟨u, i⟩ ∈ c.source.hiddenProperties ↔ ⟨u', i⟩ ∈ c'.source.hiddenProperties)
    (hsame : ∀ p p', S p p' → (c.memberOf p).Counterpart R f (c'.memberOf p')) :
    List.Forall₂ (Member.Counterpart R f) (c.members u) (c'.members u') := by
  unfold members SymbolSource.properties
  generalize hd : c.source.entry? u = d? at hentry
  generalize hd' : c'.source.entry? u' = d'? at hentry
  cases hentry with
  | none => exact .nil
  | @some d d' hproperties =>
    -- there are as many properties in both, so they can be compared place by place
    have hids : List.Forall₂ (fun p p' => ∃ i, p = ⟨u, i⟩ ∧ p' = ⟨u', i⟩)
        ((List.range d.properties.length).map (PropertyId.mk u))
        ((List.range d'.properties.length).map (PropertyId.mk u')) := by
      rw [← hproperties.length_eq, List.forall₂_map_left_iff, List.forall₂_map_right_iff,
        List.forall₂_same]
      exact fun i _ => ⟨i, rfl, rfl⟩
    refine List.rel_filterMap ?_ hids
    rintro _ _ ⟨i, rfl, rfl⟩
    rw [member?_eq, member?_eq]
    by_cases hh : (⟨u, i⟩ : PropertyId) ∈ c.source.hiddenProperties
    · rw [if_pos hh, if_pos ((hhidden i).mp hh)]
      exact .none
    · rw [if_neg hh, if_neg (fun h => hh ((hhidden i).mpr h))]
      unfold SymbolSource.propertyEntry?
      simp only [hd, hd', Option.bind_some]
      have hrel := getElem?_of_forall₂ hproperties i
      generalize d.properties[i]? = p? at hrel
      generalize d'.properties[i]? = p'? at hrel
      cases hrel with
      | none => exact .none
      | some hp => exact .some (hsame _ _ hp)

end Collector

end WrapperGen
