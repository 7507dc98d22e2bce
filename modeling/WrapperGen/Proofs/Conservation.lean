import Mathlib.Data.List.Forall2
import WrapperGen.Proofs.Problems
import WrapperGen.Proofs.Resolution

/-!
# No property gets lost

A property becomes a member or is reported. What it becomes depends on the source alone
(`Becomes`): a section when it is marked as one and its type names one, an option otherwise. So
does what is reported when it becomes none, but for a section that leads back, which is the
trail's doing (`LeftOut`).

The members of a declaration are the properties that were kept, in their order (`Conserves`). For
the wrapper itself this is read off the fold. Every inner class was collected at the end of some
simple path, on a trail of its own; its reports were handed on from section to section, and none was
dropped that was not there already (`mem_collectFrom_diagnostics`). So `collect_conserves` holds of
all classes and one list of diagnostics.
-/

namespace WrapperGen

/-- Of a table that tells everything, each listed property is known. -/
theorem SymbolSource.exists_property?_of_mem {s : SymbolSource} {u : DeclarationId} {p : PropertyId}
    (htold : s.hiddenProperties = []) (hp : p ∈ s.properties u) :
    ∃ info, s.property? p = some info := by
  unfold SymbolSource.properties at hp
  cases hentry : s.entry? u with
  | none => simp [hentry] at hp
  | some entry =>
      simp only [hentry, List.mem_map, List.mem_range] at hp
      obtain ⟨i, hi, rfl⟩ := hp
      exact ⟨entry.properties[i].info, by simp [property?, htold, propertyEntry?, hentry, hi]⟩

namespace Collector

variable {c : Collector}

/-! ## What a property gives -/

/-- What a property becomes when it becomes a member: a section where it is marked as one and its
type names one, and an option otherwise. -/
inductive Becomes (c : Collector) (p : PropertyId) : ConfigField → Prop where
  | nest {info : PropertyInfo} {v : DeclarationId} :
      c.source.property? p = some info → c.source.isMarked (.property p) c.markers.nest = true →
      c.source.NamesSection (c.source.typeOf p) v →
      Becomes c p (.nest ⟨info.name, info.name, c.classNameOf v⟩)
  | value {info : PropertyInfo} {subscribe : Bool} :
      c.source.property? p = some info →
      (c.source.isMarked (.property p) c.markers.nest = true →
        ∀ v, ¬ c.source.NamesSection (c.source.typeOf p) v) →
      Becomes c p
        (.value ⟨info.name, info.name, c.simplifier.text (c.source.typeOf p),
          info.mutable, subscribe⟩)

/-- The report about a property of `u` that becomes no member. -/
inductive LeftOut (c : Collector) (u : DeclarationId) (p : PropertyId) : Diagnostic → Prop where
  /-- It stores nothing. -/
  | computed {info : PropertyInfo} :
      c.source.property? p = some info → info.hasBackingField = false →
      LeftOut c u p ⟨.missingStorageSlot, c.symbolOf u info,
        "property has no backing field; no option generated"⟩
  /-- Its type is a type variable. -/
  | generic {info : PropertyInfo} :
      c.source.property? p = some info → (c.source.typeOf p).isTypeVariable = true →
      LeftOut c u p ⟨.invalidFieldShape, c.symbolOf u info,
        "generic field type `" ++ (c.source.typeOf p).text ++ "` is not allowed in config classes"⟩
  /-- The section it opens leads back. -/
  | back {info : PropertyInfo} {v : DeclarationId} :
      c.Nests p info v →
      LeftOut c u p ⟨.illegalSelfReference, c.symbolOf u info,
        "illegal self-reference to `" ++ (c.source.typeOf p).text ++ "` in nested config object"⟩

/-- The members `fields` are what became of the properties of `u`, in declared order, and each
property that gave none of them is among `diagnostics`. -/
structure Conserves (c : Collector) (u : DeclarationId) (fields : List ConfigField)
    (diagnostics : List Diagnostic) (kept : List PropertyId) : Prop where
  order : kept.Sublist (c.source.properties u)
  once : kept.Nodup
  image : List.Forall₂ c.Becomes kept fields
  reported : ∀ p ∈ c.source.properties u, p ∉ kept → ∃ d ∈ diagnostics, c.LeftOut u p d

/-- **A known property becomes a member, or it is left out and reported.** -/
theorem becomes_or_leftOut {p : PropertyId} {info : PropertyInfo} (trail : List DeclarationId)
    (subscribe : Bool) (u : DeclarationId) (h : c.source.property? p = some info) :
    (∃ field, c.fieldOf? trail subscribe p = some field ∧ c.Becomes p field)
      ∨ c.fieldOf? trail subscribe p = none
        ∧ ∃ d, c.report? trail (c.source.nameOf u) p = some d ∧ c.LeftOut u p d := by
  have hs := hasShape_shapeOf (c := c) h
  generalize c.shapeOf p info = shape at hs
  rw [fieldOf?, report?, member?_eq_some hs, Option.bind_some, Option.bind_some]
  cases hs with
  | computed hk hb => exact Or.inr ⟨rfl, _, rfl, .computed hk hb⟩
  | generic hk _ ht => exact Or.inr ⟨rfl, _, rfl, .generic hk ht⟩
  | @opens v hn =>
      by_cases hv : v ∈ c.source.unmet trail
      · exact Or.inl ⟨_, if_pos hv, .nest h hn.marked hn.names⟩
      · exact Or.inr ⟨if_neg hv, _, if_neg hv, .back hn⟩
  | misplacedMarker hm => exact Or.inl ⟨_, rfl, .value h fun _ => hm.unnamed⟩
  | plain _ hm =>
      exact Or.inl ⟨_, rfl, .value h fun hmarked => absurd (hm.symm.trans hmarked) (by simp)⟩

/-! ## What a declaration gives -/

/-- The properties of a declaration that become members on a trail. -/
def kept (c : Collector) (trail : List DeclarationId) (subscribe : Bool) (u : DeclarationId) :
    List PropertyId :=
  (c.source.properties u).filter fun p => (c.fieldOf? trail subscribe p).isSome

/-- What some known properties become, one by one. -/
theorem forall₂_becomes {trail : List DeclarationId} {subscribe : Bool} {ps : List PropertyId}
    (hknown : ∀ p ∈ ps, ∃ info, c.source.property? p = some info) :
    List.Forall₂ c.Becomes (ps.filter fun p => (c.fieldOf? trail subscribe p).isSome)
      (ps.filterMap (c.fieldOf? trail subscribe)) := by
  induction ps with
  | nil => exact .nil
  | cons p ps ih =>
      obtain ⟨info, hinfo⟩ := hknown p List.mem_cons_self
      have hrest := ih fun q hq => hknown q (List.mem_cons_of_mem p hq)
      rcases becomes_or_leftOut trail subscribe p.declaration
        hinfo with ⟨field, heq, hbecomes⟩ | ⟨hnone, _⟩
      · rw [List.filterMap_cons_some heq, List.filter_cons_of_pos (by rw [heq]; rfl)]
        exact .cons hbecomes hrest
      · rw [List.filterMap_cons_none hnone, List.filter_cons_of_neg (by rw [hnone]; simp)]
        exact hrest

/--
**At the end of a simple path no property gets lost.**

What is reported there is among the diagnostics of the whole.
-/
theorem conserves_of_simplePath {root u : DeclarationId} {around : List DeclarationId}
    (htold : c.source.hiddenProperties = []) (hpath : c.SimplePath [root] (u :: around))
    (flag subscribe : Bool) :
    c.Conserves u (c.collectFrom (u :: around) u flag).fields (c.collect root subscribe).diagnostics
      (c.kept (u :: around) flag u) := by
  refine ⟨List.filter_sublist, (nodup_properties c.source u).filter _, ?_, fun p hp hnot => ?_⟩
  · rw [collectFrom_fields]
    exact forall₂_becomes fun p hp => SymbolSource.exists_property?_of_mem htold hp
  · obtain ⟨info, hinfo⟩ := SymbolSource.exists_property?_of_mem htold hp
    rcases becomes_or_leftOut (u :: around) flag u hinfo with ⟨field, heq, _⟩
      | ⟨_, d, hreport, hleft⟩
    · exact absurd (List.mem_filter.mpr ⟨hp, by rw [heq]; rfl⟩) hnot
    · exact ⟨d,
        (mem_collectFrom_diagnostics [root] root [] subscribe rfl).mpr
          ⟨u, around, hpath, p, hp, hreport⟩, hleft⟩

/-- **No property gets lost**, neither of the model nor of a section that gave an inner class. -/
theorem collect_conserves (t : SymbolTable) (markers : Markers) (simplifier : Simplifier)
    (root : DeclarationId) (subscribe : Bool) :
    let c : Collector := { source := { table := t }, markers := markers, simplifier := simplifier }
    (∃ kept, c.Conserves root (c.collect root subscribe).fields
      (c.collect root subscribe).diagnostics kept)
      ∧ ∀ cls ∈ (c.collect root subscribe).nested.classes, ∃ v, c.Entered root v
        ∧ c.classNameOf v = cls.name
        ∧ ∃ kept, c.Conserves v cls.fields (c.collect root subscribe).diagnostics kept := by
  intro c
  refine ⟨⟨_, conserves_of_simplePath rfl .here subscribe subscribe⟩, fun cls hcls => ?_⟩
  obtain ⟨w, hw, rfl⟩ := exists_visit_of_mem_nested hcls
  have hpath := (follows_of_mem_visits [root] root [] subscribe w rfl hw).path
  exact ⟨w.target, (entered_iff_visited subscribe).mpr ⟨w, hw, rfl⟩, rfl, _,
    conserves_of_simplePath rfl hpath w.subscribe subscribe⟩

end Collector

end WrapperGen
