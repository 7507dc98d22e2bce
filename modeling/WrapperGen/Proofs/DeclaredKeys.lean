import WrapperGen.Proofs.ClassOrder
import WrapperGen.Proofs.Problems
import WrapperGen.Proofs.Visits

/-!
# The keys are those of the declarations

`DeclaredKeys` walks the declarations themselves: a property gives its own name, or the keys of the
section it opens behind its name. `keyPaths` walks what was collected from them instead, where a
section is a class found by its simple name, and where one class stands for all visits to a section.

The two agree where no edge leads back and no two sections have the same simple name. The class of a
section was made on the first visit, behind other declarations and with another flag than the visit
at hand; but neither decides which members a section has or what they are called
(`unfolds_of_declaredKeys`).
-/

namespace WrapperGen

namespace Collector

variable {c : Collector}

/-- The keys that properties give, by the declarations alone. -/
inductive DeclaredKeys (c : Collector) : List PropertyId → List (List String) → Prop where
  | nil : DeclaredKeys c [] []
  /-- A property that is not stored, or whose type is a type variable, gives none. -/
  | skip {p : PropertyId} {ps : List PropertyId} {keys : List (List String)} :
      (∀ info, ¬ c.Stored p info) → DeclaredKeys c ps keys → DeclaredKeys c (p :: ps) keys
  /-- A section gives the keys inside it, behind its name. -/
  | nest {p : PropertyId} {ps : List PropertyId} {info : PropertyInfo} {v : DeclarationId}
      {inside keys : List (List String)} :
      c.Nests p info v → DeclaredKeys c (c.source.properties v) inside → DeclaredKeys c ps keys →
      DeclaredKeys c (p :: ps) (inside.map (info.name :: ·) ++ keys)
  /-- Any other property gives its name. -/
  | value {p : PropertyId} {ps : List PropertyId} {info : PropertyInfo}
      {keys : List (List String)} :
      c.Stored p info → (∀ v, ¬ c.Nests p info v) → DeclaredKeys c ps keys →
      DeclaredKeys c (p :: ps) ([info.name] :: keys)

theorem Stored.info_unique {p : PropertyId} {info info' : PropertyInfo} (h : c.Stored p info)
    (h' : c.Stored p info') : info = info' := Option.some.inj (h.known.symm.trans h'.known)

/-- The walk gives one list of keys at most. -/
theorem DeclaredKeys.unique {ps : List PropertyId} {keys keys' : List (List String)}
    (h : c.DeclaredKeys ps keys) (h' : c.DeclaredKeys ps keys') : keys = keys' := by
  induction h generalizing keys' with
  | nil => cases h'; rfl
  | skip hs _ ih =>
      cases h' with
      | skip _ hrest => exact ih hrest
      | nest hn _ _ => exact absurd hn.toStored (hs _)
      | value hv _ _ => exact absurd hv (hs _)
  | nest hn _ _ ihinside ihrest =>
      cases h' with
      | skip hs _ => exact absurd hn.toStored (hs _)
      | nest hn' hinside hrest =>
          obtain rfl := hn.target_unique hn'
          obtain rfl := hn.toStored.info_unique hn'.toStored
          rw [ihinside hinside, ihrest hrest]
      | value hv hno _ =>
          obtain rfl := hn.toStored.info_unique hv
          exact absurd hn (hno _)
  | value hv hno _ ih =>
      cases h' with
      | skip hs _ => exact absurd hv (hs _)
      | nest hn _ _ =>
          obtain rfl := hv.info_unique hn.toStored
          exact absurd hn (hno _)
      | value hv' _ hrest =>
          obtain rfl := hv.info_unique hv'
          rw [ih hrest]

/-- **Where no edge leads back, the walk ends.** Every section it goes into
prolongs a simple path. -/
theorem exists_declaredKeys {root : DeclarationId} (hno : c.NoSelfReference root)
    (trail : List DeclarationId) :
    ∀ (u : DeclarationId) (around : List DeclarationId), trail = u :: around →
    c.SimplePath [root] trail →
      ∀ ps ⊆ c.source.properties u, ∃ keys, c.DeclaredKeys ps keys := by
  induction trail using trail_induction c.source with
  | h trail ih =>
    rintro u around rfl hpath ps
    induction ps with
    | nil => exact fun _ => ⟨[], .nil⟩
    | cons p ps ihps =>
      intro hsub
      obtain ⟨hp, hrest⟩ := List.cons_subset.mp hsub
      obtain ⟨keys, hkeys⟩ := ihps hrest
      rcases c.stored_cases p with hnone | ⟨info, v, hv⟩ | ⟨info, hinfo, hnone⟩
      · exact ⟨_, .skip hnone hkeys⟩
      · have hedge : c.NestEdge u p v := ⟨hp, info, hv⟩
        have hnew := hno u v p around hpath hedge
        have hunmet := SymbolSource.mem_unmet.mpr ⟨hv.names.mem_handles, hnew⟩
        obtain ⟨inside, hinside⟩ := ih v hunmet v _ rfl (.enter hpath hedge hnew) _ (fun _ h => h)
        exact ⟨_, .nest hv hinside hkeys⟩
      · exact ⟨_, .value hinfo hnone hkeys⟩

/--
**What is collected unfolds to the keys of the declarations.**

The induction follows the walk over the declarations and speaks of every simple path to them and
of every flag, since the class of a section may have been made on another path and with another
flag than those at hand.
-/
theorem unfolds_of_declaredKeys {root : DeclarationId} (subscribe : Bool)
    (hno : c.NoSelfReference root) (hnames : c.DistinctNames root) {ps : List PropertyId}
    {keys : List (List String)} (h : c.DeclaredKeys ps keys) :
    ∀ (u : DeclarationId) (around : List DeclarationId) (flag : Bool) (parent : OptionKey),
      c.SimplePath [root] (u :: around) → ps ⊆ c.source.properties u →
      Unfolds (c.collect root subscribe).nested parent
        (ps.filterMap (c.fieldOf? (u :: around) flag)) (keys.map parent.below) := by
  induction h with
  | nil => intro _ _ _ _ _ _; exact .nil
  | skip hs _ ih =>
      intro u around flag parent hpath hsub
      rw [List.filterMap_cons, fieldOf?_of_not_stored flag hs]
      exact ih u around flag parent hpath (List.cons_subset.mp hsub).2
  | @nest p ps info v inside keys hn _ _ ihinside ihrest =>
      intro u around flag parent hpath hsub
      obtain ⟨hp, hrest⟩ := List.cons_subset.mp hsub
      have hedge : c.NestEdge u p v := ⟨hp, info, hn⟩
      have hnew := hno u v p around hpath hedge
      have hentered : c.Entered root v := ⟨u :: around, by simp, .enter hpath hedge hnew⟩
      -- the class of `v` was made on the visit `w`
      obtain ⟨w, hw, hclass⟩ := class_of_entered hnames hentered subscribe
      have hinside :=
        ihinside w.target w.around w.subscribe (parent.child info.name) hw.follows.path
          (by rw [hw.target]; exact fun _ h => h)
      rw [← hw.target, ← collectFrom_fields] at hinside
      rw [List.filterMap_cons, fieldOf?_of_nests flag hn hnew, List.map_append, List.map_map]
      have hbelow : parent.below ∘ (info.name :: ·) = (parent.child info.name).below :=
        funext fun segments => (parent.child_below info.name segments).symm
      rw [hbelow]
      exact .nest hclass hinside (ihrest u around flag parent hpath hrest)
  | @value p ps info keys hv hnests _ ih =>
      intro u around flag parent hpath hsub
      obtain ⟨field, heq, _, hkey, _⟩ := fieldOf?_of_value flag (u :: around) hv hnests
      rw [List.filterMap_cons, heq, List.map_cons]
      have hbelow : parent.below [info.name] = parent.child field.key := by rw [hkey]; rfl
      rw [hbelow]
      exact .value (ih u around flag parent hpath (List.cons_subset.mp hsub).2)

/-- **The keys of a wrapper are the keys of its declarations**, if no self-reference is reported and
no two sections have the same simple name. -/
theorem declaredKeys_iff_keyPaths {c : Collector} {root : DeclarationId} {subscribe : Bool}
    (hno : ∀ d ∈ (c.collect root subscribe).diagnostics, d.kind ≠ .illegalSelfReference)
    (hnames : c.DistinctNames root) (keys : List (List String)) :
    c.DeclaredKeys (c.source.properties root) keys
      ↔ keys = (keyPaths (c.collect root subscribe).fields (c.collect root subscribe).nested).map
          OptionKey.segments := by
  have hback : c.NoSelfReference root := noSelfReference_of_not_reported hno
  have hclosed : (c.collect root subscribe).Closed := closed_collectFrom [root] root subscribe
  have hwalk : ∀ {keys}, c.DeclaredKeys (c.source.properties root) keys →
      keys = (keyPaths (c.collect root subscribe).fields (c.collect root subscribe).nested).map
        OptionKey.segments := by
    intro keys hkeys
    have hunfolds := unfolds_of_declaredKeys subscribe hback hnames hkeys root [] subscribe
      OptionKey.root .here (fun _ h => h)
    rw [← collectFrom_fields] at hunfolds
    rw [(unfolds_keyPaths hclosed.layered hclosed.known).unique hunfolds, List.map_map]
    exact (List.map_id keys).symm
  constructor
  · exact hwalk
  · -- there is a walk, and its keys can only be these
    rintro rfl
    obtain ⟨keys, hkeys⟩ := exists_declaredKeys hback [root] root [] rfl .here _ (fun _ h => h)
    rw [← hwalk hkeys]
    exact hkeys

/-! ## A section that is shared -/

/-- A model with two properties for one section, of which only the second is
marked for subscription. -/
def sharedSection : Collector where
  source := { table := {
    declarations := [
      ⟨⟨⟨"dev.example", ["Model"]⟩, .plainClass, none⟩, .ofList [("Config", .empty)], [
        ⟨⟨"plain", false, true⟩, .named ⟨"dev.example", ["Sub"]⟩, .ofList [("Nest", .empty)]⟩,
        ⟨⟨"hooked", false, true⟩, .named ⟨"dev.example", ["Sub"]⟩,
          .ofList [("Nest", .empty), ("Hook", .empty)]⟩]⟩,
      ⟨⟨⟨"dev.example", ["Sub"]⟩, .plainClass, none⟩, .empty, [
        ⟨⟨"enabled", true, true⟩, .named ⟨"kotlin", ["Boolean"]⟩, .empty⟩]⟩]
    distinct := by decide } }
  markers := ⟨"Config", "Nest", "Hook"⟩
  simplifier := ⟨"dev.example", defaultNamespaces⟩

theorem sharedSection_stored : sharedSection.Stored ⟨⟨1⟩, 0⟩ ⟨"enabled", true, true⟩ :=
  ⟨by decide, rfl, by decide⟩

theorem sharedSection_not_nests (v : DeclarationId) :
    ¬ sharedSection.Nests ⟨⟨1⟩, 0⟩ ⟨"enabled", true, true⟩ v :=
  fun h => absurd h.marked (by decide)

theorem sharedSection_nests :
    sharedSection.Nests ⟨⟨0⟩, 0⟩ ⟨"plain", false, true⟩ ⟨1⟩
      ∧ sharedSection.Nests ⟨⟨0⟩, 1⟩ ⟨"hooked", false, true⟩ ⟨1⟩ :=
  ⟨⟨⟨by decide, rfl, by decide⟩, by decide, SymbolSource.section?_eq_some.mp (by decide)⟩,
    ⟨⟨by decide, rfl, by decide⟩, by decide, SymbolSource.section?_eq_some.mp (by decide)⟩⟩

theorem sharedSection_properties :
    sharedSection.source.properties ⟨0⟩ = [⟨⟨0⟩, 0⟩, ⟨⟨0⟩, 1⟩]
      ∧ sharedSection.source.properties ⟨1⟩ = [⟨⟨1⟩, 0⟩] := by decide

theorem sharedSection_visits : sharedSection.visits [⟨0⟩] ⟨0⟩ false
    = [⟨[⟨⟨0⟩, 0⟩], [⟨0⟩], ⟨1⟩, false⟩, ⟨[⟨⟨0⟩, 1⟩], [⟨0⟩], ⟨1⟩, true⟩] := by
  have hplain : sharedSection.entered? [⟨0⟩] ⟨⟨0⟩, 0⟩ = some ⟨1⟩ := by decide
  have hhooked : sharedSection.entered? [⟨0⟩] ⟨⟨0⟩, 1⟩ = some ⟨1⟩ := by decide
  have hnone : sharedSection.entered? [⟨1⟩, ⟨0⟩] ⟨⟨1⟩, 0⟩ = none := by decide
  have hinside : ∀ flag, sharedSection.visits [⟨1⟩, ⟨0⟩] ⟨1⟩ flag = [] := by
    intro flag
    rw [visits_eq_flatMap, sharedSection_properties.2, List.flatMap_singleton,
      visitsThrough_of_not_entered hnone]
  rw [visits_eq_flatMap, sharedSection_properties.1, List.flatMap_cons, List.flatMap_singleton,
    visitsThrough_of_entered hplain, visitsThrough_of_entered hhooked, hinside, hinside]
  rfl

theorem sharedSection_diagnostics (d : Diagnostic) :
    d ∉ (sharedSection.collect ⟨0⟩ false).diagnostics := by
  have hplain : sharedSection.report? [⟨0⟩] (sharedSection.source.nameOf ⟨0⟩) ⟨⟨0⟩, 0⟩ = none := by
    decide
  have hhooked : sharedSection.report? [⟨0⟩] (sharedSection.source.nameOf ⟨0⟩) ⟨⟨0⟩, 1⟩ = none := by
    decide
  have henabled : sharedSection.report? [⟨1⟩, ⟨0⟩] (sharedSection.source.nameOf ⟨1⟩) ⟨⟨1⟩, 0⟩
      = none := by decide
  rw [mem_collect_diagnostics, problem_iff_report?]
  rintro ⟨u, rest, hpath, p, hp, hreport⟩
  -- the only paths are the root itself and the one into the section
  by_cases hroot : u :: rest = [⟨0⟩]
  · obtain ⟨rfl, rfl⟩ := List.cons.inj hroot
    rw [sharedSection_properties.1] at hp
    rcases List.mem_pair.mp hp with rfl | rfl
    · exact absurd (hplain.symm.trans hreport) (by simp)
    · exact absurd (hhooked.symm.trans hreport) (by simp)
  · obtain ⟨w, hw, hend⟩ := exists_visit_of_simplePath [⟨0⟩] ⟨0⟩ [] _ false rfl hpath hroot
    have hsection : u :: rest = [⟨1⟩, ⟨0⟩] := by
      rw [← hend]
      rw [sharedSection_visits] at hw
      rcases List.mem_pair.mp hw with rfl | rfl
      · rfl
      · rfl
    obtain ⟨rfl, rfl⟩ := List.cons.inj hsection
    rw [sharedSection_properties.2] at hp
    rw [List.mem_singleton.mp hp] at hreport
    exact absurd (henabled.symm.trans hreport) (by simp)

theorem sharedSection_distinctNames : sharedSection.DistinctNames ⟨0⟩ := by
  have honly : ∀ v, sharedSection.Entered ⟨0⟩ v → v = ⟨1⟩ := by
    intro v hv
    obtain ⟨w, hw, rfl⟩ := (entered_iff_visited false).mp hv
    rw [sharedSection_visits] at hw
    rcases List.mem_pair.mp hw with rfl | rfl
    · rfl
    · rfl
  intro u v hu hv _
  rw [honly u hu, honly v hv]

theorem declaredKeys_sharedSection :
    (∀ d ∈ (sharedSection.collect ⟨0⟩ false).diagnostics, d.kind ≠ .illegalSelfReference)
      ∧ sharedSection.DistinctNames ⟨0⟩
      ∧ [["plain", "enabled"], ["hooked", "enabled"]]
        = (keyPaths (sharedSection.collect ⟨0⟩ false).fields
          (sharedSection.collect ⟨0⟩ false).nested).map
          OptionKey.segments := by
  have hno : ∀ d ∈ (sharedSection.collect ⟨0⟩ false).diagnostics, d.kind ≠ .illegalSelfReference :=
    fun d hd => absurd hd (sharedSection_diagnostics d)
  refine ⟨hno, sharedSection_distinctNames,
    (declaredKeys_iff_keyPaths hno sharedSection_distinctNames _).mp ?_⟩
  have hinside : sharedSection.DeclaredKeys (sharedSection.source.properties ⟨1⟩)
      [["enabled"]] := by
    rw [sharedSection_properties.2]
    exact .value sharedSection_stored sharedSection_not_nests .nil
  rw [sharedSection_properties.1]
  exact .nest sharedSection_nests.1 hinside (.nest sharedSection_nests.2 hinside .nil)

end Collector

end WrapperGen
