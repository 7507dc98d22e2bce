import WrapperGen.Proofs.DeclaredKeys

/-!
# Which options can be subscribed to

A section passes its flag on to everything inside, so an option is subject to subscription if the
wrapper is, if a property on the chain to it is marked, or if its own is. But a section has one
class, whatever number of chains lead to it, and the first visit decides: it is the first chain that
counts, and a marker on any other is lost (`not_subscribed_along_every_chain`).
-/

namespace WrapperGen.Collector

variable {c : Collector}

/-- Members generated for properties in their order, where the options of those that are
`subscribed` can be subscribed to and no others. -/
inductive Generated (c : Collector) (subscribed : PropertyId → Prop) :
    List PropertyId → List ConfigField → Prop where
  | nil : Generated c subscribed [] []
  /-- A property that is not stored, or whose type is a type variable, is left out. -/
  | skip {p : PropertyId} {ps : List PropertyId} {fields : List ConfigField} :
      (∀ info, ¬ c.Stored p info) → Generated c subscribed ps fields →
      Generated c subscribed (p :: ps) fields
  | nest {p : PropertyId} {ps : List PropertyId} {info : PropertyInfo} {v : DeclarationId}
      {fields : List ConfigField} :
      c.Nests p info v → Generated c subscribed ps fields →
      Generated c subscribed (p :: ps) (.nest ⟨info.name, info.name, c.classNameOf v⟩ :: fields)
  | value {p : PropertyId} {ps : List PropertyId} {info : PropertyInfo} {field : ValueField}
      {fields : List ConfigField} :
      c.Stored p info → (∀ v, ¬ c.Nests p info v) → field.name = info.name →
      (field.subscribe = true ↔ subscribed p) → Generated c subscribed ps fields →
      Generated c subscribed (p :: ps) (.value field :: fields)

/-- A property is subscribed to by default, by its own marker, or by one on
the chain to its owner. -/
def SubscribedAlong (c : Collector) (default : Bool) (chain : List PropertyId)
    (p : PropertyId) : Prop :=
  default = true ∨ c.isHooked p = true ∨ ∃ q ∈ chain, c.isHooked q = true

/-- The members generated for the declaration `v` that a chain leads to: those of the wrapper itself
if the chain is empty, those of the inner class otherwise. -/
def generatedFields? (c : Collector) (root : DeclarationId) (subscribe : Bool)
    (chain : List PropertyId) (v : DeclarationId) : Option (List ConfigField) :=
  if chain = [] then some (c.collect root subscribe).fields
  else ((c.collect root subscribe).nested.get? (c.classNameOf v)).map NestedClass.fields

/-- The chain to `v` that goes through the earliest properties, looked at
from the outside inwards. -/
structure FirstChain (c : Collector) (root : DeclarationId) (chain : List PropertyId)
    (v : DeclarationId) :
    Prop where
  leads : c.Chain root chain v
  first : ∀ other, c.Chain root other v → chain = other ∨ positions chain < positions other

/-! ## What a section passes on -/

/-- The members collected at the end of a simple path are those generated,
with the flag passed on. -/
theorem generated_filterMap {root u : DeclarationId} {around : List DeclarationId} (flag : Bool)
    (hno : c.NoSelfReference root) (hpath : c.SimplePath [root] (u :: around))
    (ps : List PropertyId) (hsub : ps ⊆ c.source.properties u) :
    c.Generated (fun p => (flag || c.isHooked p) = true) ps
      (ps.filterMap (c.fieldOf? (u :: around) flag)) := by
  induction ps with
  | nil => exact .nil
  | cons p ps ih =>
      obtain ⟨hp, hsubrest⟩ := List.cons_subset.mp hsub
      have hrest := ih hsubrest
      rw [List.filterMap_cons]
      rcases c.stored_cases p with hnone | ⟨info, v, hv⟩ | ⟨info, hinfo, hnone⟩
      · rw [fieldOf?_of_not_stored flag hnone]
        exact .skip hnone hrest
      · have hnew := hno u v p around hpath ⟨hp, info, hv⟩
        rw [fieldOf?_of_nests flag hv hnew]
        exact .nest hv hrest
      · obtain ⟨field, heq, hname, _, hflag⟩ := fieldOf?_of_value flag (u :: around) hinfo hnone
        rw [heq]
        exact .value hinfo hnone hname (by rw [hflag]) hrest

theorem Generated.congr {subscribed subscribed' : PropertyId → Prop}
    (hiff : ∀ p, subscribed p ↔ subscribed' p) {ps : List PropertyId} {fields : List ConfigField}
    (h : c.Generated subscribed ps fields) :
    c.Generated subscribed' ps fields := by
  induction h with
  | nil => exact .nil
  | skip hs _ ih => exact .skip hs ih
  | nest hn _ ih => exact .nest hn ih
  | value hv hno hname hflag _ ih => exact .value hv hno hname (hflag.trans (hiff _)) ih

/-- What is collected at the end of a chain is subscribed to along that chain. -/
theorem generated_along {root u : DeclarationId} {around : List DeclarationId} {default flag : Bool}
    {chain : List PropertyId} (hno : c.NoSelfReference root)
    (hpath : c.SimplePath [root] (u :: around)) (hflag : flag = (default || chain.any c.isHooked)) :
    c.Generated (c.SubscribedAlong default chain) (c.source.properties u)
      (c.collectFrom (u :: around) u flag).fields := by
  rw [collectFrom_fields]
  refine (generated_filterMap flag hno hpath _ fun _ h => h).congr fun p => ?_
  unfold SubscribedAlong
  rw [hflag, Bool.or_eq_true, Bool.or_eq_true, List.any_eq_true]
  constructor
  · rintro ((hdefault | hchain) | hown)
    · exact Or.inl hdefault
    · exact Or.inr (Or.inr hchain)
    · exact Or.inr (Or.inl hown)
  · rintro (hdefault | hown | hchain)
    · exact Or.inl (Or.inl hdefault)
    · exact Or.inr hown
    · exact Or.inl (Or.inr hchain)

/-! ## The first chain counts -/

/-- Where no edge leads back, only the empty chain leads to the root. -/
theorem chain_to_root {root : DeclarationId} {ps : List PropertyId} (hno : c.NoSelfReference root)
    (h : c.Chain root ps root) : ps = [] := by
  by_contra hne
  exact noSelfReference_iff.mp hno ⟨root, ps, ⟨[], .nil⟩, hne, h⟩

/-- The first visit to a section was made through the first chain to it. -/
theorem firstChain_of_firstVisit {root v : DeclarationId} {subscribe : Bool} {w : Visit}
    (hno : c.NoSelfReference root) (hne : v ≠ root) (h : c.FirstVisit root subscribe v w) :
    c.FirstChain root w.chain v := by
  refine ⟨h.target ▸ h.follows.chain, fun other hother => ?_⟩
  have hnonempty : other ≠ [] := by
    rintro rfl
    cases hother
    exact hne rfl
  -- every chain to the section was visited, this one as well
  obtain ⟨x, hx, hchain, htarget⟩ := exists_visit_of_chain hno hother hnonempty [] subscribe .here
  rw [← hchain]
  rcases h.first x hx htarget with rfl | hlt
  · exact Or.inl rfl
  · exact Or.inr hlt

/--
**An option can be subscribed to just where the first chain says so.**

Whatever chain leads to a declaration, the members generated for it are its properties in their
order, and the option of a property is subject to subscription if the wrapper is, if the property is
marked for it, or if one on the first chain to the declaration is.
-/
theorem generated_along_firstChain {c : Collector} {root v : DeclarationId} {subscribe : Bool}
    {chain : List PropertyId}
    (hno : ∀ d ∈ (c.collect root subscribe).diagnostics, d.kind ≠ .illegalSelfReference)
    (hnames : c.DistinctNames root) (h : c.Chain root chain v) :
    ∃ first fields, c.FirstChain root first v
      ∧ c.generatedFields? root subscribe chain v = some fields
      ∧ c.Generated (c.SubscribedAlong subscribe first) (c.source.properties v) fields := by
  have hback : c.NoSelfReference root := noSelfReference_of_not_reported hno
  by_cases hempty : chain = []
  · -- the wrapper itself, to which no other chain leads
    subst hempty
    cases h
    refine ⟨[], _, ⟨.nil, fun other hother => Or.inl (chain_to_root hback hother).symm⟩,
      if_pos rfl, ?_⟩
    exact generated_along hback .here (by simp)
  · have hne : v ≠ root := by
      rintro rfl
      exact hempty (chain_to_root hback h)
    obtain ⟨x, hx, _, hxv⟩ := exists_visit_of_chain hback h hempty [] subscribe .here
    have hentered : c.Entered root v := (entered_iff_visited subscribe).mpr ⟨x, hx, hxv⟩
    obtain ⟨w, hw, hclass⟩ := class_of_entered hnames hentered subscribe
    refine ⟨w.chain, (c.classOf w).fields, firstChain_of_firstVisit hback hne hw, ?_, ?_⟩
    · rw [generatedFields?, if_neg hempty, hclass]
      rfl
    · rw [← hw.target]
      exact generated_along hback hw.follows.path hw.follows.flag

theorem sharedSection_chain : sharedSection.Chain ⟨0⟩ [⟨⟨0⟩, 1⟩] ⟨1⟩ :=
  .cons ⟨by decide, _, sharedSection_nests.2⟩ .nil

theorem generated_sharedSection :
    (∀ d ∈ (sharedSection.collect ⟨0⟩ false).diagnostics, d.kind ≠ .illegalSelfReference)
      ∧ sharedSection.DistinctNames ⟨0⟩ ∧ sharedSection.Chain ⟨0⟩ [⟨⟨0⟩, 1⟩] ⟨1⟩
      ∧ ∃ first fields, sharedSection.FirstChain ⟨0⟩ first ⟨1⟩
        ∧ sharedSection.generatedFields? ⟨0⟩ false [⟨⟨0⟩, 1⟩] ⟨1⟩ = some fields
        ∧ sharedSection.Generated (sharedSection.SubscribedAlong false first)
          (sharedSection.source.properties ⟨1⟩) fields := by
  have hno : ∀ d ∈ (sharedSection.collect ⟨0⟩ false).diagnostics, d.kind ≠ .illegalSelfReference :=
    fun d hd => absurd hd (sharedSection_diagnostics d)
  have hnames := sharedSection_distinctNames
  exact ⟨hno, hnames, sharedSection_chain,
    generated_along_firstChain hno hnames sharedSection_chain⟩

/-- **A marker on a chain that is not the first is lost.** -/
theorem not_subscribed_along_every_chain :
    (∀ d ∈ (sharedSection.collect ⟨0⟩ false).diagnostics, d.kind ≠ .illegalSelfReference)
      ∧ sharedSection.DistinctNames ⟨0⟩ ∧ sharedSection.Chain ⟨0⟩ [⟨⟨0⟩, 1⟩] ⟨1⟩
      ∧ ¬ ∃ fields, sharedSection.generatedFields? ⟨0⟩ false [⟨⟨0⟩, 1⟩] ⟨1⟩ = some fields
        ∧ sharedSection.Generated (sharedSection.SubscribedAlong false [⟨⟨0⟩, 1⟩])
          (sharedSection.source.properties ⟨1⟩) fields := by
  refine ⟨fun d hd => absurd hd (sharedSection_diagnostics d), sharedSection_distinctNames,
    sharedSection_chain, ?_⟩
  rintro ⟨fields, hfields, hgenerated⟩
  -- the class was made on the visit through the other property
  have hclass : (sharedSection.collect ⟨0⟩ false).nested.get? (sharedSection.classNameOf ⟨1⟩)
      = some (sharedSection.classOf ⟨[⟨⟨0⟩, 0⟩], [⟨0⟩], ⟨1⟩, false⟩) := by
    rw [collect, collectFrom_nested, NestedClassSet.get?_ofList, sharedSection_visits]
    simp [classOf]
  have hmembers : (sharedSection.classOf ⟨[⟨⟨0⟩, 0⟩], [⟨0⟩], ⟨1⟩, false⟩).fields
      = [.value ⟨"enabled", "enabled", "Boolean", true, false⟩] := by
    rw [classOf, collectFrom_fields, sharedSection_properties.2]
    rfl
  rw [generatedFields?, if_neg (by simp), hclass, Option.map_some, hmembers,
    Option.some.injEq] at hfields
  subst hfields
  rw [sharedSection_properties.2] at hgenerated
  cases hgenerated with
  | skip hs _ => exact hs _ sharedSection_stored
  | value _ _ _ hflag _ =>
      have hhooked : sharedSection.isHooked ⟨⟨0⟩, 1⟩ = true := by decide
      have hlost := hflag.mpr (Or.inr (Or.inr ⟨_, List.mem_cons_self, hhooked⟩))
      exact absurd hlost (by decide)

end WrapperGen.Collector
