import Mathlib.Data.List.Nodup
import WrapperGen.Proofs.Collecting

/-!
# The diagnostics are the problems of the graph

`Problem` says what is wrong with the declarations that chains of sections lead to, without a
word about how they are walked. The collector enters a section once for every simple path to it,
cuts off the edges that lead back, and drops a diagnostic it has already. What comes out is
`Problem`, no more and no less.

The way there is `mem_collectFrom_diagnostics`: a diagnostic is reported at the end of some simple
path that goes on from the trail. The rest is about the graph alone.
-/

namespace WrapperGen

namespace Collected

theorem mem_addDiagnostics {known more : List Diagnostic} {d : Diagnostic} :
    d ∈ addDiagnostics known more ↔ d ∈ known ∨ d ∈ more := by
  unfold addDiagnostics
  induction more generalizing known with
  | nil => simp
  | cons e more ih =>
      rw [List.foldl_cons, ih]
      by_cases he : e ∈ known
      · rw [if_pos he, List.mem_cons]
        constructor
        · rintro (h | h)
          · exact Or.inl h
          · exact Or.inr (Or.inr h)
        · rintro (h | rfl | h)
          · exact Or.inl h
          · exact Or.inl he
          · exact Or.inr h
      · rw [if_neg he, List.mem_append, List.mem_singleton, List.mem_cons, or_assoc]

theorem nodup_addDiagnostics {known : List Diagnostic} (more : List Diagnostic) (h : known.Nodup) :
    (addDiagnostics known more).Nodup := by
  unfold addDiagnostics
  refine List.foldlRecOn _ _ h ?_
  intro ds hds d _
  split
  · exact hds
  · rename_i hd
    rw [List.nodup_append]
    refine ⟨hds, List.pairwise_singleton _ d, ?_⟩
    intro a ha b hb hab
    rw [List.mem_singleton.mp hb] at hab
    exact hd (hab ▸ ha)

end Collected

namespace Collector

variable {c : Collector}

/-- The text by which diagnostics refer to a property: its owner's name and its own. -/
def symbolOf (c : Collector) (u : DeclarationId) (info : PropertyInfo) : String :=
  c.source.nameOf u ++ "." ++ info.name

/-- What is wrong with the declarations that chains of sections lead to from `root`. -/
inductive Problem (c : Collector) (root : DeclarationId) : Diagnostic → Prop where
  /-- A property without a backing field. -/
  | computed {u : DeclarationId} {p : PropertyId} {info : PropertyInfo} :
      c.Reaches root u → p ∈ c.source.properties u → c.source.property? p = some info →
      info.hasBackingField = false →
      Problem c root ⟨.missingStorageSlot, c.symbolOf u info,
        "property has no backing field; no option generated"⟩
  /-- A property with a backing field whose type is a type variable. -/
  | generic {u : DeclarationId} {p : PropertyId} {info : PropertyInfo} :
      c.Reaches root u → p ∈ c.source.properties u → c.source.property? p = some info →
      info.hasBackingField = true → (c.source.typeOf p).isTypeVariable = true →
      Problem c root ⟨.invalidFieldShape, c.symbolOf u info,
        "generic field type `" ++ (c.source.typeOf p).text ++ "` is not allowed in config classes"⟩
  /-- A stored property marked as a section whose type names none. -/
  | misplaced {u : DeclarationId} {p : PropertyId} {info : PropertyInfo} :
      c.Reaches root u → p ∈ c.source.properties u → c.Misplaced p info →
      Problem c root ⟨.nestOnValueType, c.symbolOf u info,
        "`" ++ (c.source.typeOf p).text ++ "` is not a config class; treating it as a value"⟩
  /-- An edge to a declaration on some simple path to its owner. -/
  | selfReference {u v : DeclarationId} {p : PropertyId} {info : PropertyInfo}
      {around : List DeclarationId} :
      c.SimplePath [root] (u :: around) → p ∈ c.source.properties u → c.Nests p info v →
      v ∈ u :: around →
      Problem c root ⟨.illegalSelfReference, c.symbolOf u info,
        "illegal self-reference to `" ++ (c.source.typeOf p).text ++ "` in nested config object"⟩

/-! ## Where diagnostics come from -/

/-- One property adds its own report, or what was found in the section entered through it. -/
theorem mem_addProperty_diagnostics {trail : List DeclarationId} {owner : String} {subscribe : Bool}
    {collected : Collected} {p : PropertyId} {d : Diagnostic} :
    d ∈ (c.addProperty trail owner subscribe collected p).diagnostics
      ↔ d ∈ collected.diagnostics ∨ c.report? trail owner p = some d
        ∨ ∃ v, c.entered? trail p = some v
          ∧ d ∈ (c.collectFrom (v :: trail) v (subscribe || c.isHooked p)).diagnostics := by
  cases he : c.entered? trail p with
  | none =>
      rw [(addProperty_of_not_entered _ _ _ he).2, List.mem_append, Option.mem_toList]
      simp
  | some v =>
      obtain ⟨name, heq⟩ := addProperty_of_entered owner subscribe collected he
      have hnone : c.report? trail owner p = none := by
        obtain ⟨⟨info, hn⟩, _⟩ := entered?_eq_some.mp he
        simp [report?, member?_eq_some (.opens hn), mem_unmet_of_entered? he]
      rw [heq, Collected.addSection, Collected.mem_addDiagnostics, hnone]
      simp

theorem mem_collectFrom_iff {trail : List DeclarationId} {id : DeclarationId} {subscribe : Bool}
    {d : Diagnostic} :
    d ∈ (c.collectFrom trail id subscribe).diagnostics
      ↔ ∃ p ∈ c.source.properties id, c.report? trail (c.source.nameOf id) p = some d
        ∨ ∃ v, c.entered? trail p = some v
          ∧ d ∈ (c.collectFrom (v :: trail) v (subscribe || c.isHooked p)).diagnostics := by
  rw [collectFrom_eq_foldl]
  generalize c.source.properties id = ps
  suffices ∀ collected : Collected,
      d ∈ (ps.foldl (c.addProperty trail (c.source.nameOf id) subscribe) collected).diagnostics
        ↔ d ∈ collected.diagnostics ∨ ∃ p ∈ ps, c.report? trail (c.source.nameOf id) p = some d
          ∨ ∃ v, c.entered? trail p = some v
            ∧ d ∈ (c.collectFrom (v :: trail) v (subscribe || c.isHooked p)).diagnostics by
    simpa using this {}
  induction ps with
  | nil => simp
  | cons p ps ih =>
      intro collected
      rw [List.foldl_cons, ih, mem_addProperty_diagnostics, or_assoc]
      simp only [List.mem_cons, exists_eq_or_imp]

/-- **A diagnostic is reported at the end of a simple path** that goes on from the trail. -/
theorem mem_collectFrom_diagnostics {d : Diagnostic} (trail : List DeclarationId) :
    ∀ (id : DeclarationId) (around : List DeclarationId) (subscribe : Bool), trail = id :: around →
      (d ∈ (c.collectFrom trail id subscribe).diagnostics
        ↔ ∃ u rest, c.SimplePath trail (u :: rest)
          ∧ ∃ p ∈ c.source.properties u, c.report? (u :: rest) (c.source.nameOf u) p = some d) := by
  induction trail using trail_induction c.source with
  | h trail ih =>
    rintro id around subscribe rfl
    rw [mem_collectFrom_iff]
    constructor
    · rintro ⟨p, hp, hown | ⟨v, he, hd⟩⟩
      · exact ⟨id, around, .here, p, hp, hown⟩
      · obtain ⟨hn, hv⟩ := entered?_eq_some.mp he
        obtain ⟨u, rest, hpath, hreport⟩ := (ih v (mem_unmet_of_entered? he) v _ _ rfl).mp hd
        exact ⟨u, rest, hpath.before ⟨hp, hn⟩ hv, hreport⟩
    · rintro ⟨u, rest, hpath, hreport⟩
      -- the report is about the declaration itself, or lies behind the first edge of the path
      rcases hpath.first with heq | ⟨p, v, ⟨hp, hn⟩, hv, hrest⟩
      · obtain ⟨rfl, rfl⟩ := List.cons.inj heq
        obtain ⟨p, hp, hd⟩ := hreport
        exact ⟨p, hp, Or.inl hd⟩
      · have he : c.entered? (id :: around) p = some v := entered?_eq_some.mpr ⟨hn, hv⟩
        refine ⟨p, hp, Or.inr ⟨v, he, ?_⟩⟩
        exact (ih v (mem_unmet_of_entered? he) v _ _ rfl).mpr ⟨u, rest, hrest, hreport⟩

/-! ## Reports are problems -/

/-- A report names its property. -/
theorem symbol_of_report? {trail : List DeclarationId} {u : DeclarationId} {p : PropertyId}
    {d : Diagnostic} (h : c.report? trail (c.source.nameOf u) p = some d) :
    ∃ info, c.source.property? p = some info ∧ d.symbol = c.symbolOf u info := by
  rcases member?_cases c p with ⟨_, hm⟩ | ⟨info, shape, hs⟩
  · simp [report?, hm] at h
  · refine ⟨info, hs.known, ?_⟩
    rw [report?, member?_eq_some hs, Option.bind_some] at h
    cases hs with
    | computed _ _ => rw [← Option.some.inj h]; rfl
    | generic _ _ _ => rw [← Option.some.inj h]; rfl
    | opens _ =>
        dsimp only at h
        split at h
        · exact absurd h (by simp)
        · rw [← Option.some.inj h]; rfl
    | misplacedMarker _ => rw [← Option.some.inj h]; rfl
    | plain _ _ => exact absurd h (by simp)

/-- The reports made at the ends of simple paths are the problems. -/
theorem problem_iff_report? {root : DeclarationId} {d : Diagnostic} :
    c.Problem root d
      ↔ ∃ u rest, c.SimplePath [root] (u :: rest)
        ∧ ∃ p ∈ c.source.properties u, c.report? (u :: rest) (c.source.nameOf u) p = some d := by
  constructor
  · intro h
    cases h with
    -- three of the problems are reported on any trail, so any simple path will do
    | @computed u p info hreach hp hk hb =>
        obtain ⟨rest, hpath⟩ := hreach.simplePath
        refine ⟨u, rest, hpath, p, hp, ?_⟩
        rw [report?, member?_eq_some (.computed hk hb)]
        rfl
    | @generic u p info hreach hp hk hb ht =>
        obtain ⟨rest, hpath⟩ := hreach.simplePath
        refine ⟨u, rest, hpath, p, hp, ?_⟩
        rw [report?, member?_eq_some (.generic hk hb ht)]
        rfl
    | @misplaced u p info hreach hp hm =>
        obtain ⟨rest, hpath⟩ := hreach.simplePath
        refine ⟨u, rest, hpath, p, hp, ?_⟩
        rw [report?, member?_eq_some (.misplacedMarker hm)]
        rfl
    | @selfReference u v p info around hpath hp hn hv =>
        refine ⟨u, around, hpath, p, hp, ?_⟩
        -- a section on the trail is none of the unmet ones, and is reported for that
        have hmet : v ∉ c.source.unmet (u :: around) := fun h => (SymbolSource.mem_unmet.mp h).2 hv
        rw [report?, member?_eq_some (.opens hn), Option.bind_some]
        exact if_neg hmet
  · rintro ⟨u, rest, hpath, p, hp, h⟩
    rcases member?_cases c p with ⟨_, hm⟩ | ⟨info, shape, hs⟩
    · simp [report?, hm] at h
    · rw [report?, member?_eq_some hs, Option.bind_some] at h
      cases hs with
      | computed hk hb =>
          rw [← Option.some.inj h]
          exact .computed hpath.reaches hp hk hb
      | generic hk hb ht =>
          rw [← Option.some.inj h]
          exact .generic hpath.reaches hp hk hb ht
      | @opens v hn =>
          dsimp only at h
          split at h
          · exact absurd h (by simp)
          · rename_i hmet
            rw [← Option.some.inj h]
            refine .selfReference hpath hp hn ?_
            by_contra hv
            exact hmet (SymbolSource.mem_unmet.mpr ⟨hn.names.mem_handles, hv⟩)
      | misplacedMarker hm =>
          rw [← Option.some.inj h]
          exact .misplaced hpath.reaches hp hm
      | plain _ _ => exact absurd h (by simp)

theorem mem_collect_diagnostics {root : DeclarationId} {subscribe : Bool} {d : Diagnostic} :
    d ∈ (c.collect root subscribe).diagnostics ↔ c.Problem root d := by
  rw [problem_iff_report?]
  exact mem_collectFrom_diagnostics [root] root [] subscribe rfl

/-- A self-reference is reported just where an edge leads back onto a simple path. -/
theorem selfReference_reported_iff {root : DeclarationId} {subscribe : Bool} :
    (∃ d ∈ (c.collect root subscribe).diagnostics, d.kind = .illegalSelfReference)
      ↔ ¬ c.NoSelfReference root := by
  constructor
  · rintro ⟨d, hd, hkind⟩ hno
    cases mem_collect_diagnostics.mp hd with
    | computed _ _ _ _ => exact absurd hkind (by simp)
    | generic _ _ _ _ _ => exact absurd hkind (by simp)
    | misplaced _ _ _ => exact absurd hkind (by simp)
    | @selfReference u v p info around hpath hp hn hv =>
        exact hno u v p around hpath ⟨hp, info, hn⟩ hv
  · intro hback
    by_contra hnone
    refine hback (fun u v p around hpath ⟨hp, info, hn⟩ hv => hnone ?_)
    exact ⟨_, mem_collect_diagnostics.mpr (.selfReference hpath hp hn hv), rfl⟩

theorem noSelfReference_of_not_reported {root : DeclarationId} {subscribe : Bool}
    (h : ∀ d ∈ (c.collect root subscribe).diagnostics, d.kind ≠ .illegalSelfReference) :
    c.NoSelfReference root := by
  by_contra hback
  obtain ⟨d, hd, hkind⟩ := selfReference_reported_iff.mpr hback
  exact h d hd hkind

/-! ## Each problem is listed once -/

/-- No two properties of declarations that chains lead to are written the same. -/
def DistinctSymbols (c : Collector) (root : DeclarationId) : Prop :=
  ∀ (u u' : DeclarationId) (p p' : PropertyId) (info info' : PropertyInfo),
    c.Reaches root u → c.Reaches root u' → p ∈ c.source.properties u → p' ∈ c.source.properties u' →
    c.source.property? p = some info → c.source.property? p' = some info' →
    c.symbolOf u info = c.symbolOf u' info' → p = p'

theorem nodup_properties (s : SymbolSource) (u : DeclarationId) : (s.properties u).Nodup := by
  unfold SymbolSource.properties
  split
  · refine List.Nodup.map (fun i j h => ?_) List.nodup_range
    exact congrArg PropertyId.index h
  · exact List.nodup_nil

theorem declaration_of_mem_properties {s : SymbolSource} {u : DeclarationId} {p : PropertyId}
    (h : p ∈ s.properties u) : p.declaration = u := by
  unfold SymbolSource.properties at h
  split at h
  · obtain ⟨i, _, rfl⟩ := List.mem_map.mp h
    rfl
  · exact absurd h (by simp)

/--
**Adding the properties of a declaration keeps its diagnostics distinct.**

The invariant is that nothing reported so far is written like a property still to come. What a
section adds is about other declarations, since the path to them does not come back here.
-/
theorem nodup_foldl_diagnostics {root id : DeclarationId} {around : List DeclarationId}
    {subscribe : Bool} (hsym : c.DistinctSymbols root) (hpath : c.SimplePath [root] (id :: around))
    (ps : List PropertyId) (hnodup : ps.Nodup) (hsub : ps ⊆ c.source.properties id) :
    ∀ collected : Collected, collected.diagnostics.Nodup →
      (∀ d ∈ collected.diagnostics, ∀ p ∈ ps, ∀ info, c.source.property? p = some info →
        d.symbol ≠ c.symbolOf id info) →
      (ps.foldl (c.addProperty (id :: around) (c.source.nameOf id) subscribe)
        collected).diagnostics.Nodup := by
  induction ps with
  | nil => intro collected hd _; exact hd
  | cons p ps ih =>
    obtain ⟨hfresh, hrest⟩ := List.nodup_cons.mp hnodup
    obtain ⟨hp, hsubrest⟩ := List.cons_subset.mp hsub
    intro collected hd hapart
    rw [List.foldl_cons]
    refine ih hrest hsubrest _ ?_ ?_
    · -- the diagnostics with `p` are distinct
      cases he : c.entered? (id :: around) p with
      | some v =>
          obtain ⟨name, heq⟩ := addProperty_of_entered (c.source.nameOf id) subscribe collected he
          rw [heq]
          exact Collected.nodup_addDiagnostics _ hd
      | none =>
          rw [(addProperty_of_not_entered _ _ _ he).2, List.nodup_append]
          refine ⟨hd, ?_, ?_⟩
          · cases c.report? (id :: around) (c.source.nameOf id) p <;> simp
          · intro a ha b hb hab
            obtain ⟨info, hk, hsymbol⟩ := symbol_of_report? (Option.mem_toList.mp hb)
            exact hapart a ha p List.mem_cons_self info hk (by rw [hab]; exact hsymbol)
    · -- and none of them is written like a property behind `p`
      intro d hmem q hq info hk hsame
      have hq' : q ∈ c.source.properties id := hsubrest hq
      rcases mem_addProperty_diagnostics.mp hmem with hold | hown | ⟨v, he, hin⟩
      · exact hapart d hold q (List.mem_cons_of_mem _ hq) info hk hsame
      · obtain ⟨info', hk', hsymbol⟩ := symbol_of_report? hown
        have hpq := hsym id id p q info' info hpath.reaches hpath.reaches hp hq' hk' hk
          (by rw [← hsymbol, hsame])
        exact hfresh (hpq ▸ hq)
      · -- what was found in the section is about a declaration on a path through `id`
        obtain ⟨hn, hv⟩ := entered?_eq_some.mp he
        obtain ⟨u, rest, hbeyond, q', hq'mem, hreport⟩ :=
          (mem_collectFrom_diagnostics _ v (id :: around) _ rfl).mp hin
        obtain ⟨info', hk', hsymbol⟩ := symbol_of_report? hreport
        have hfull : c.SimplePath [root] (u :: rest) :=
          (SimplePath.enter hpath ⟨hp, hn⟩ hv).trans hbeyond
        have hqq := hsym u id q' q info' info hfull.reaches hpath.reaches hq'mem hq' hk' hk
          (by rw [← hsymbol, hsame])
        have huid : u = id := by
          rw [← declaration_of_mem_properties hq'mem, hqq, declaration_of_mem_properties hq']
        -- but that path meets no declaration twice
        have hdistinct := hfull.nodup (List.pairwise_singleton _ root)
        have hbelow : id ∈ rest := hbeyond.around_subset List.mem_cons_self
        exact (List.nodup_cons.mp hdistinct).1 (huid ▸ hbelow)

/-- **The diagnostics of a wrapper are the problems of the declarations reached**, a
self-reference is among them just where there is a cycle, and none is listed twice if no two
properties are written the same. -/
theorem collect_diagnostics (c : Collector) (root : DeclarationId) (subscribe : Bool) :
    (∀ d, d ∈ (c.collect root subscribe).diagnostics ↔ c.Problem root d)
      ∧ ((∃ d ∈ (c.collect root subscribe).diagnostics, d.kind = .illegalSelfReference)
        ↔ c.HasCycle root)
      ∧ (c.DistinctSymbols root → (c.collect root subscribe).diagnostics.Nodup) := by
  refine ⟨fun d => mem_collect_diagnostics, ?_, fun hsym => ?_⟩
  · rw [selfReference_reported_iff, noSelfReference_iff, not_not]
  · unfold collect
    rw [collectFrom_eq_foldl]
    exact nodup_foldl_diagnostics hsym .here _ (nodup_properties _ _) (fun _ h => h)
      {} List.nodup_nil (by simp)

/-- A model with a section that is the model itself, and a property that stores nothing. -/
def selfContained : Collector where
  source := { table := {
    declarations := [⟨⟨⟨"dev.example", ["Model"]⟩, .plainClass, none⟩, .empty, [
      ⟨⟨"inner", false, true⟩, .named ⟨"dev.example", ["Model"]⟩, .ofList [("Nest", .empty)]⟩,
      ⟨⟨"derived", false, false⟩, .named ⟨"kotlin", ["Int"]⟩, .empty⟩]⟩]
    distinct := by decide } }
  markers := ⟨"Config", "Nest", "Hook"⟩
  simplifier := ⟨"dev.example", defaultNamespaces⟩

theorem selfContained_nests : selfContained.Nests ⟨⟨0⟩, 0⟩ ⟨"inner", false, true⟩ ⟨0⟩ :=
  ⟨⟨by decide, rfl, by decide⟩, by decide, SymbolSource.section?_eq_some.mp (by decide)⟩

theorem selfContained_distinctSymbols : selfContained.DistinctSymbols ⟨0⟩ := by
  have hproperties : ∀ u p info, p ∈ selfContained.source.properties u →
      selfContained.source.property? p = some info →
      (p = ⟨⟨0⟩, 0⟩ ∧ selfContained.symbolOf u info = "dev.example.Model.inner")
        ∨ (p = ⟨⟨0⟩, 1⟩ ∧ selfContained.symbolOf u info = "dev.example.Model.derived") := by
    intro u p info hp hk
    obtain ⟨_ | n⟩ := u
    · have hroot : selfContained.source.properties ⟨0⟩ = [⟨⟨0⟩, 0⟩, ⟨⟨0⟩, 1⟩] := by decide
      have hinner : selfContained.source.property? ⟨⟨0⟩, 0⟩ = some ⟨"inner", false, true⟩ := by
        decide
      have hderived : selfContained.source.property? ⟨⟨0⟩, 1⟩ = some ⟨"derived", false, false⟩ := by
        decide
      rw [hroot] at hp
      rcases List.mem_pair.mp hp with rfl | rfl
      · obtain rfl := Option.some.inj (hinner.symm.trans hk)
        exact Or.inl ⟨rfl, by decide⟩
      · obtain rfl := Option.some.inj (hderived.symm.trans hk)
        exact Or.inr ⟨rfl, by decide⟩
    · exact absurd hp List.not_mem_nil
  intro u u' p p' info info' _ _ hp hp' hk hk' hsame
  rcases hproperties u p info hp hk with ⟨rfl, hsymbol⟩ | ⟨rfl, hsymbol⟩ <;>
    rcases hproperties u' p' info' hp' hk' with ⟨rfl, hsymbol'⟩ | ⟨rfl, hsymbol'⟩
  · rfl
  · rw [hsymbol, hsymbol'] at hsame
    exact absurd hsame (by decide)
  · rw [hsymbol, hsymbol'] at hsame
    exact absurd hsame (by decide)
  · rfl

theorem collect_selfContained_diagnostics :
    selfContained.DistinctSymbols ⟨0⟩
      ∧ (selfContained.collect ⟨0⟩ false).diagnostics.Nodup
      ∧ ∃ d ∈ (selfContained.collect ⟨0⟩ false).diagnostics, d.kind = .illegalSelfReference := by
  have hsym := selfContained_distinctSymbols
  obtain ⟨_, hcycle, hnodup⟩ := collect_diagnostics selfContained ⟨0⟩ false
  refine ⟨hsym, hnodup hsym, hcycle.mpr ⟨⟨0⟩, [⟨⟨0⟩, 0⟩], ⟨[], .nil⟩, by simp, ?_⟩⟩
  exact .cons ⟨by decide, _, selfContained_nests⟩ .nil

end Collector

end WrapperGen
