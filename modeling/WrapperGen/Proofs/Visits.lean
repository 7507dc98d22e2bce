import WrapperGen.Proofs.Collecting
import WrapperGen.Proofs.NestedSets

/-!
# The sections that are visited

The collector enters one section after the other, each through a chain of properties. `visits` lists
them in the order in which their classes are offered: what lies inside a section comes before the
section. Every inner class is the class of a visit, and of the visits that offer one name the first
counts (`collectFrom_nested`).

The list is complete and in order. Every simple path is visited; where no edge leads back this is
every chain; and of two visits to one declaration the one through the earlier properties comes
first (`pairwise_visits`).
-/

namespace WrapperGen

/-- A section as it is entered. -/
structure Visit where
  /-- The properties that lead to it, outermost first. -/
  chain : List PropertyId
  /-- The declarations around it, innermost first. -/
  around : List DeclarationId
  target : DeclarationId
  /-- Whether every option inside is subject to subscription. -/
  subscribe : Bool

/-- The visit as it looks from one declaration further out. -/
def Visit.behind (p : PropertyId) (v : Visit) : Visit := { v with chain := p :: v.chain }

/-- The places of properties in the order of their declarations, outermost first. -/
def positions (chain : List PropertyId) : List Nat := chain.map PropertyId.index

namespace Collector

variable {c : Collector}

/-- The sections that are visited when a declaration is collected, each behind those inside it. -/
def visits (c : Collector) (trail : List DeclarationId) (id : DeclarationId)
    (subscribe : Bool) : List Visit :=
  (c.source.properties id).flatMap fun p =>
    match h : c.entered? trail p with
    | none => []
    | some target =>
      have := unmet_cons_lt (mem_unmet_of_entered? h)
      (c.visits (target :: trail) target (subscribe || c.isHooked p)).map (Visit.behind p)
        ++ [⟨[p], trail, target, subscribe || c.isHooked p⟩]
termination_by (c.source.unmet trail).length

/-- The visits made through one property. -/
def visitsThrough (c : Collector) (trail : List DeclarationId) (subscribe : Bool)
    (p : PropertyId) : List Visit :=
  match c.entered? trail p with
  | none => []
  | some target =>
    (c.visits (target :: trail) target (subscribe || c.isHooked p)).map (Visit.behind p)
      ++ [⟨[p], trail, target, subscribe || c.isHooked p⟩]

theorem visitsThrough_of_not_entered {trail : List DeclarationId} {subscribe : Bool}
    {p : PropertyId} (h : c.entered? trail p = none) : c.visitsThrough trail subscribe p = [] := by
  rw [visitsThrough, h]

theorem visitsThrough_of_entered {trail : List DeclarationId} {subscribe : Bool} {p : PropertyId}
    {target : DeclarationId} (h : c.entered? trail p = some target) :
    c.visitsThrough trail subscribe p
      = (c.visits (target :: trail) target (subscribe || c.isHooked p)).map (Visit.behind p)
        ++ [⟨[p], trail, target, subscribe || c.isHooked p⟩] := by
  rw [visitsThrough, h]

theorem visits_eq_flatMap (trail : List DeclarationId) (id : DeclarationId) (subscribe : Bool) :
    c.visits trail id subscribe = (c.source.properties id).flatMap
      (c.visitsThrough trail subscribe) := by
  rw [visits]
  refine congrArg (List.flatMap · _) ?_
  funext p
  split
  · rename_i h
    exact (visitsThrough_of_not_entered h).symm
  · rename_i h
    exact (visitsThrough_of_entered h).symm

/-- A visit through a property is the one it opens, or lies inside. -/
theorem mem_visitsThrough {trail : List DeclarationId} {subscribe : Bool}
    {p : PropertyId} {v : Visit} :
    v ∈ c.visitsThrough trail subscribe p
      ↔ ∃ target, c.entered? trail p = some target
        ∧ (v = ⟨[p], trail, target, subscribe || c.isHooked p⟩
          ∨ ∃ w ∈ c.visits (target :: trail) target (subscribe || c.isHooked p), v
            = w.behind p) := by
  cases h : c.entered? trail p with
  | none => simp [visitsThrough_of_not_entered h]
  | some target =>
      rw [visitsThrough_of_entered h, List.mem_append, List.mem_map, List.mem_singleton]
      constructor
      · rintro (⟨w, hw, rfl⟩ | rfl)
        · exact ⟨target, rfl, Or.inr ⟨w, hw, rfl⟩⟩
        · exact ⟨target, rfl, Or.inl rfl⟩
      · rintro ⟨target', heq, rfl | ⟨w, hw, rfl⟩⟩
        · obtain rfl := Option.some.inj heq
          exact Or.inr rfl
        · obtain rfl := Option.some.inj heq
          exact Or.inl ⟨w, hw, rfl⟩

theorem mem_visits {trail : List DeclarationId} {id : DeclarationId}
    {subscribe : Bool} {v : Visit} :
    v ∈ c.visits trail id subscribe
      ↔ ∃ p ∈ c.source.properties id, v ∈ c.visitsThrough trail subscribe p := by
  rw [visits_eq_flatMap, List.mem_flatMap]

/-! ## Inner classes are classes of visits -/

/-- The class that is offered at the end of a visit. -/
def classOf (c : Collector) (v : Visit) : NestedClass :=
  ⟨c.classNameOf v.target, (c.collectFrom (v.target :: v.around) v.target v.subscribe).fields⟩

/-- **The inner classes** are those of the visits; of two with the same name the first counts. -/
theorem collectFrom_nested (trail : List DeclarationId) :
    ∀ (id : DeclarationId) (subscribe : Bool), (c.collectFrom trail id subscribe).nested
      = .ofList ((c.visits trail id subscribe).map c.classOf) := by
  induction trail using trail_induction c.source with
  | h trail ih =>
    intro id subscribe
    -- a property offers the classes of the visits through it, the inner ones already sorted out
    have hstep : ∀ (collected : Collected) (p : PropertyId),
        (c.addProperty trail (c.source.nameOf id) subscribe collected p).nested
          = collected.nested.insertAll ((c.visitsThrough trail subscribe p).map c.classOf) := by
      intro collected p
      cases he : c.entered? trail p with
      | none =>
          rw [(addProperty_of_not_entered _ _ _ he).1, visitsThrough_of_not_entered he]
          rfl
      | some v =>
          obtain ⟨name, heq⟩ := addProperty_of_entered (c.source.nameOf id) subscribe collected he
          have hinside := ih v (mem_unmet_of_entered? he) v (subscribe || c.isHooked p)
          rw [heq, Collected.addSection, hinside, NestedClassSet.merge_ofList,
            visitsThrough_of_entered he, List.map_append, List.map_map,
            NestedClassSet.insertAll_append]
          rfl
    rw [collectFrom_eq_foldl, visits_eq_flatMap]
    generalize c.source.properties id = ps
    suffices ∀ collected : Collected,
        (ps.foldl (c.addProperty trail (c.source.nameOf id) subscribe) collected).nested
          = collected.nested.insertAll
            ((ps.flatMap (c.visitsThrough trail subscribe)).map c.classOf) from
      this {}
    induction ps with
    | nil => intro collected; rfl
    | cons p ps ihps =>
        intro collected
        rw [List.foldl_cons, ihps, hstep, List.flatMap_cons, List.map_append,
          NestedClassSet.insertAll_append]

/-! ## What a visit is -/

/-- A visit lies at the end of a chain and of a simple path, and passes on the
flag it was reached with. -/
structure Follows (c : Collector) (trail : List DeclarationId) (id : DeclarationId)
    (subscribe : Bool) (v : Visit) : Prop where
  path : c.SimplePath trail (v.target :: v.around)
  chain : c.Chain id v.chain v.target
  chain_ne_nil : v.chain ≠ []
  flag : v.subscribe = (subscribe || v.chain.any c.isHooked)
  /-- The visit goes deeper than where it starts. -/
  inside : id ∈ v.around
  /-- The section is none of those around it. -/
  fresh : v.target ∉ v.around

theorem follows_of_mem_visits (trail : List DeclarationId) :
    ∀ (id : DeclarationId) (around : List DeclarationId) (subscribe : Bool) (v : Visit),
      trail = id :: around → v ∈ c.visits trail id subscribe → c.Follows trail id subscribe v := by
  induction trail using trail_induction c.source with
  | h trail ih =>
    rintro id around subscribe v rfl hv
    obtain ⟨p, hp, hv⟩ := mem_visits.mp hv
    obtain ⟨target, he, rfl | ⟨w, hw, rfl⟩⟩ := mem_visitsThrough.mp hv
    · obtain ⟨hn, hnew⟩ := entered?_eq_some.mp he
      exact ⟨.enter .here ⟨hp, hn⟩ hnew, .cons ⟨hp, hn⟩ .nil, by simp, by simp,
        List.mem_cons_self, hnew⟩
    · obtain ⟨hn, hnew⟩ := entered?_eq_some.mp he
      have hw := ih target (mem_unmet_of_entered? he) target _ _ w rfl hw
      refine ⟨hw.path.before ⟨hp, hn⟩ hnew, .cons ⟨hp, hn⟩ hw.chain, by simp [Visit.behind],
        ?_, ?_, hw.fresh⟩
      · rw [Visit.behind, List.any_cons, ← Bool.or_assoc]
        exact hw.flag
      · exact hw.path.around_subset List.mem_cons_self

/-- **Every simple path is visited.** -/
theorem exists_visit_of_simplePath (trail : List DeclarationId) :
    ∀ (id : DeclarationId) (around path : List DeclarationId) (subscribe : Bool), trail
      = id :: around →
      c.SimplePath trail path → path ≠ trail →
      ∃ v ∈ c.visits trail id subscribe, v.target :: v.around = path := by
  induction trail using trail_induction c.source with
  | h trail ih =>
    rintro id around path subscribe rfl hpath hne
    rcases hpath.first with heq | ⟨p, v, ⟨hp, hn⟩, hnew, hrest⟩
    · exact absurd heq hne
    · have he : c.entered? (id :: around) p = some v := entered?_eq_some.mpr ⟨hn, hnew⟩
      by_cases hend : path = v :: id :: around
      · exact ⟨_, mem_visits.mpr ⟨p, hp, mem_visitsThrough.mpr ⟨v, he, Or.inl rfl⟩⟩, hend.symm⟩
      · obtain ⟨w, hw, hwpath⟩ :=
          ih v (mem_unmet_of_entered? he) v _ path (subscribe || c.isHooked p) rfl hrest hend
        exact ⟨w.behind p,
          mem_visits.mpr ⟨p, hp, mem_visitsThrough.mpr ⟨v, he, Or.inr ⟨w, hw, rfl⟩⟩⟩, hwpath⟩

/-- A simple path leads from `root` into the section `v`. -/
def Entered (c : Collector) (root v : DeclarationId) : Prop :=
  ∃ around, around ≠ [] ∧ c.SimplePath [root] (v :: around)

/-- The sections entered are those visited. -/
theorem entered_iff_visited {root v : DeclarationId} (subscribe : Bool) :
    c.Entered root v ↔ ∃ w ∈ c.visits [root] root subscribe, w.target = v := by
  constructor
  · rintro ⟨around, hne, hpath⟩
    obtain ⟨w, hw, heq⟩ :=
      exists_visit_of_simplePath [root] root [] _ subscribe rfl hpath (by simpa using fun _ => hne)
    exact ⟨w, hw, (List.cons.inj heq).1⟩
  · rintro ⟨w, hw, rfl⟩
    have hw := follows_of_mem_visits [root] root [] subscribe w rfl hw
    exact ⟨w.around, List.ne_nil_of_mem hw.inside, hw.path⟩

/-- **Where no edge leads back, every chain is visited.** -/
theorem exists_visit_of_chain {root : DeclarationId} (hno : c.NoSelfReference root)
    {id D : DeclarationId} {ps : List PropertyId} (h : c.Chain id ps D) (hne : ps ≠ []) :
    ∀ (around : List DeclarationId) (subscribe : Bool), c.SimplePath [root] (id :: around) →
      ∃ v ∈ c.visits (id :: around) id subscribe, v.chain = ps ∧ v.target = D := by
  induction h with
  | nil => exact absurd rfl hne
  | @cons u v w p ps he hrest ih =>
      intro around subscribe hpath
      have hnew := hno u v p around hpath he
      have hentered : c.entered? (u :: around) p = some v := entered?_eq_some.mpr ⟨he.2, hnew⟩
      cases hrest with
      | nil =>
          exact ⟨_, mem_visits.mpr ⟨p, he.1, mem_visitsThrough.mpr ⟨v, hentered, Or.inl rfl⟩⟩, rfl,
            rfl⟩
      | cons he' hrest' =>
          obtain ⟨x, hx, hchain, htarget⟩ :=
            ih (by simp) (u :: around) (subscribe || c.isHooked p) (.enter hpath he hnew)
          exact ⟨x.behind p,
            mem_visits.mpr ⟨p, he.1, mem_visitsThrough.mpr ⟨v, hentered, Or.inr ⟨x, hx, rfl⟩⟩⟩,
            congrArg (p :: ·) hchain, htarget⟩

/-! ## The order of the visits -/

theorem pairwise_index_properties (s : SymbolSource) (u : DeclarationId) :
    (s.properties u).Pairwise (fun p q => p.index < q.index) := by
  unfold SymbolSource.properties
  split
  · exact List.pairwise_map.mpr List.pairwise_lt_range
  · exact List.Pairwise.nil

/-- The chain of a visit through a property begins with it. -/
theorem chain_of_mem_visitsThrough {trail : List DeclarationId} {subscribe : Bool}
    {p : PropertyId} {v : Visit} (h : v ∈ c.visitsThrough trail subscribe p) :
    ∃ ps, v.chain = p :: ps := by
  obtain ⟨target, _, rfl | ⟨w, _, rfl⟩⟩ := mem_visitsThrough.mp h
  · exact ⟨[], rfl⟩
  · exact ⟨w.chain, rfl⟩

/--
**Of two visits to one declaration the one through earlier properties comes first.**

Two visits through different properties are told apart by these. Two through the same
property lie inside the section it opens, or one of them is that section itself, which
nothing inside leads to again.
-/
theorem pairwise_visits (trail : List DeclarationId) :
    ∀ (id : DeclarationId) (subscribe : Bool), (c.visits trail id subscribe).Pairwise
      (fun v w => v.target = w.target → positions v.chain < positions w.chain) := by
  induction trail using trail_induction c.source with
  | h trail ih =>
    intro id subscribe
    rw [visits_eq_flatMap, List.pairwise_flatMap]
    constructor
    · -- visits through the same property
      intro p _
      cases he : c.entered? trail p with
      | none => rw [visitsThrough_of_not_entered he]; exact List.Pairwise.nil
      | some target =>
          rw [visitsThrough_of_entered he, List.pairwise_append]
          refine ⟨?_, List.pairwise_singleton _ _, ?_⟩
          · refine List.pairwise_map.mpr ((ih target (mem_unmet_of_entered? he) target _).imp ?_)
            intro v w hlt htarget
            exact List.cons_lt_cons_iff.mpr (Or.inr ⟨rfl, hlt htarget⟩)
          · intro v hv w hw htarget
            rw [List.mem_singleton.mp hw] at htarget
            obtain ⟨x, hx, rfl⟩ := List.mem_map.mp hv
            have hx := follows_of_mem_visits _ target trail _ x rfl hx
            have hsame : x.target = target := htarget
            exact absurd (hsame ▸ hx.inside) hx.fresh
    · -- visits through different properties
      refine (pairwise_index_properties c.source id).imp ?_
      intro p q hpq v hv w hw _
      obtain ⟨ps, hps⟩ := chain_of_mem_visitsThrough hv
      obtain ⟨qs, hqs⟩ := chain_of_mem_visitsThrough hw
      rw [hps, hqs]
      exact List.cons_lt_cons_iff.mpr (Or.inl hpq)

/-! ## The class of a section -/

/-- No two sections entered from `root` have the same simple name. -/
def DistinctNames (c : Collector) (root : DeclarationId) : Prop :=
  ∀ u v, c.Entered root u → c.Entered root v → c.classNameOf u = c.classNameOf v → u = v

/-- The visit `w` to `v` was made through earlier properties than any other. -/
structure FirstVisit (c : Collector) (root : DeclarationId) (subscribe : Bool)
    (v : DeclarationId) (w : Visit) :
    Prop where
  follows : c.Follows [root] root subscribe w
  target : w.target = v
  first : ∀ x ∈ c.visits [root] root subscribe, x.target = v →
    x = w ∨ positions w.chain < positions x.chain

/-- **The class of a section is that of the first visit to it**, where no
other section has its name. -/
theorem class_of_entered {root v : DeclarationId} (hnames : c.DistinctNames root)
    (hv : c.Entered root v) (subscribe : Bool) :
    ∃ w, c.FirstVisit root subscribe v w
      ∧ (c.collect root subscribe).nested.get? (c.classNameOf v) = some (c.classOf w) := by
  have hsection : ∀ x ∈ c.visits [root] root subscribe, c.classNameOf x.target = c.classNameOf v →
      x.target = v :=
    fun x hx hsame => hnames _ _ ((entered_iff_visited subscribe).mpr ⟨x, hx, rfl⟩) hv hsame
  obtain ⟨x, hx, hxv⟩ := (entered_iff_visited subscribe).mp hv
  -- the class looked up is that of the first visit whose section has the name of `v`
  obtain ⟨w, hw⟩ : ∃ w, (c.visits [root] root subscribe).find?
      (fun x => c.classNameOf x.target == c.classNameOf v) = some w :=
    Option.isSome_iff_exists.mp (List.find?_isSome.mpr ⟨x, hx, by simp [hxv]⟩)
  have hmem := List.mem_of_find?_eq_some hw
  obtain ⟨hname, before, after, hsplit, hbefore⟩ := List.find?_eq_some_iff_append.mp hw
  have htarget : w.target = v := hsection w hmem (by simpa using hname)
  refine ⟨w, ⟨follows_of_mem_visits [root] root [] subscribe w rfl hmem, htarget, ?_⟩, ?_⟩
  · intro y hy hyv
    have hpairs := pairwise_visits (c := c) [root] root subscribe
    rw [hsplit, List.pairwise_append, List.pairwise_cons] at hpairs
    rw [hsplit, List.mem_append, List.mem_cons] at hy
    rcases hy with hy | rfl | hy
    · have hother := hbefore y hy
      rw [hyv] at hother
      exact absurd hother (by simp)
    · exact Or.inl rfl
    · exact Or.inr (hpairs.2.1.1 y hy (htarget.trans hyv.symm))
  · rw [collect, collectFrom_nested, NestedClassSet.get?_ofList, List.find?_map]
    exact congrArg (Option.map c.classOf) hw

end Collector

end WrapperGen
