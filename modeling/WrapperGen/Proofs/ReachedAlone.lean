import WrapperGen.Proofs.MirroredTables

/-!
# Output depends on what is reached

From a declaration the generator reaches those that its marked properties name, and from these
others again. What it generates depends on nothing else. Two dumps may hold other declarations
besides, in any order, so that no handle is the same in both: as long as what is reached is written
alike, and a name that is declared in one of the dumps is declared in the other one, the same comes
out (`same_from_reached`).

The names that reached declarations use have to be mentioned on their own. A declaration that only
one of the dumps has can give a meaning to a name that has none in the other dump.
-/

namespace WrapperGen

/-! ## What is reached -/

/-- The declaration has a canonical name. -/
def DeclarationDump.Declares (d : DeclarationDump) (canonical : String) : Prop :=
  ∃ name, ClassName.read d.name = .ok name ∧ name.canonical = canonical

/-- The type of some marked property has a canonical name. -/
def DeclarationDump.Nests (d : DeclarationDump) (marker canonical : String) : Prop :=
  ∃ p ∈ d.properties, p.annotations.contains marker = true
    ∧ ∃ name, (p.typeRef d.typeParameters).className? = some name ∧ name.canonical = canonical

namespace SymbolDump

/-- Some declaration has a canonical name. -/
def Declares (dump : SymbolDump) (canonical : String) : Prop :=
  ∃ d ∈ dump.declarations, d.Declares canonical

/-- The declarations that are reached from the one called `root`. -/
inductive Reached (dump : SymbolDump) (marker root : String) : DeclarationDump → Prop where
  | root {d : DeclarationDump} :
      d ∈ dump.declarations → d.Declares root → Reached dump marker root d
  | nested {d e : DeclarationDump} {canonical : String} :
      Reached dump marker root d → d.Nests marker canonical →
      e ∈ dump.declarations → e.Declares canonical → Reached dump marker root e

theorem Reached.mem {dump : SymbolDump} {marker root : String} {d : DeclarationDump}
    (h : dump.Reached marker root d) :
    d ∈ dump.declarations := by
  cases h with
  | root hd _ => exact hd
  | nested _ _ he _ => exact he

/-- The second dump has everything that is reached in the first one, and gives a
meaning to the same names. -/
structure AgreesOn (dump dump' : SymbolDump) (marker root : String) : Prop where
  written : ∀ d, dump.Reached marker root d → d ∈ dump'.declarations
  named : ∀ d canonical, dump.Reached marker root d → d.Nests marker canonical →
    (dump.Declares canonical ↔ dump'.Declares canonical)

end SymbolDump

/-! ## Where it stands in the tables -/

namespace SymbolTable

variable {dump dump' : SymbolDump} {t t' : SymbolTable} {d : DeclarationDump}
    {marker root canonical : String}

/-- A declaration of a dump stands somewhere in the table. -/
theorem exists_entry?_of_mem (ht : ofDump dump = .ok t) (hd : d ∈ dump.declarations) :
    ∃ u entry, SymbolSource.entry? { table := t } u = some entry
      ∧ DeclarationEntry.ofDump d = .ok entry := by
  obtain ⟨i, hi⟩ := List.getElem?_of_mem hd
  obtain ⟨entry, hentry, hmade⟩ := (ofDump_eq_ok.mp ht).exists_entry hi
  exact ⟨⟨i⟩, entry, hentry, hmade⟩

/-- What stands in the table comes from a declaration of the dump. -/
theorem exists_mem_of_entry? (ht : ofDump dump = .ok t) {u : DeclarationId}
    {entry : DeclarationEntry} (hu : SymbolSource.entry? { table := t } u = some entry) :
    ∃ d ∈ dump.declarations, DeclarationEntry.ofDump d = .ok entry := by
  obtain ⟨d, hd, hmade⟩ := (ofDump_eq_ok.mp ht).exists_declaration hu
  exact ⟨d, List.mem_of_getElem? hd, hmade⟩

/-- The name of a declaration is that of its entry. -/
theorem declares_iff {entry : DeclarationEntry} (h : DeclarationEntry.ofDump d = .ok entry) :
    d.Declares canonical ↔ entry.canonical = canonical := by
  obtain ⟨name, hname, rfl⟩ := DeclarationEntry.ofDump_eq_ok.mp h
  unfold DeclarationDump.Declares
  rw [hname]
  simp [DeclarationEntry.canonical]

/-- A dump declares the names that are in its table. -/
theorem declares_iff_mem_names (ht : ofDump dump = .ok t) :
    dump.Declares canonical ↔ canonical ∈ t.names := by
  rw [SymbolTable.names, List.mem_map]
  constructor
  · rintro ⟨d, hd, hname⟩
    obtain ⟨u, entry, hu, hmade⟩ := exists_entry?_of_mem ht hd
    exact ⟨entry, List.mem_of_getElem? hu, (declares_iff hmade).mp hname⟩
  · rintro ⟨entry, hentry, hname⟩
    obtain ⟨i, hi⟩ := List.getElem?_of_mem hentry
    obtain ⟨d, hd, hmade⟩ := exists_mem_of_entry? ht (u := ⟨i⟩) hi
    exact ⟨d, hd, (declares_iff hmade).mpr hname⟩

/-- A name that is declared resolves to the entry of its declaration. -/
theorem resolve?_of_declares (ht : ofDump dump = .ok t) (hd : d ∈ dump.declarations)
    {name : ClassName} (hname : d.Declares name.canonical) :
    ∃ u entry, SymbolSource.resolve? { table := t } name = some u
      ∧ SymbolSource.entry? { table := t } u = some entry
      ∧ DeclarationEntry.ofDump d = .ok entry := by
  obtain ⟨u, entry, hu, hmade⟩ := exists_entry?_of_mem ht hd
  exact ⟨u, entry, SymbolSource.resolve?_eq_some.mpr ⟨entry, hu, (declares_iff hmade).mp hname⟩, hu,
    hmade⟩

/-- A name that is not declared does not resolve. -/
theorem resolve?_of_not_declares (ht : ofDump dump = .ok t) {name : ClassName}
    (h : ¬ dump.Declares name.canonical) :
    SymbolSource.resolve? { table := t } name = none := by
  refine Option.eq_none_iff_forall_ne_some.mpr fun u hu => h ((declares_iff_mem_names ht).mpr ?_)
  obtain ⟨entry, hentry, hname⟩ := SymbolSource.resolve?_eq_some.mp hu
  exact List.mem_map.mpr ⟨entry, List.mem_of_getElem? hentry, hname⟩

/-- Two handles of the same reached declaration, one in each table. -/
def SameReached (dump : SymbolDump) (marker root : String) (t t' : SymbolTable)
    (u u' : DeclarationId) : Prop :=
  ∃ d entry, dump.Reached marker root d ∧ DeclarationEntry.ofDump d = .ok entry
    ∧ SymbolSource.entry? { table := t } u = some entry
    ∧ SymbolSource.entry? { table := t' } u' = some entry

/-- A name of a reached declaration resolves to the same declaration in both tables, if to any. -/
theorem resolve?_sameReached (ht : ofDump dump = .ok t) (ht' : ofDump dump' = .ok t')
    (h : dump.AgreesOn dump' marker root) (hd : dump.Reached marker root d) {name : ClassName}
    (hname : d.Nests marker name.canonical) :
    Option.Rel (SameReached dump marker root t t') (SymbolSource.resolve? { table := t } name)
      (SymbolSource.resolve? { table := t' } name) := by
  -- without the agreement about names, only one of the dumps might declare this one
  by_cases hdeclared : dump.Declares name.canonical
  · obtain ⟨e, he, hename⟩ := hdeclared
    have hreached : dump.Reached marker root e := .nested hd hname he hename
    obtain ⟨u, entry, hu, hentry, hmade⟩ := resolve?_of_declares ht he hename
    obtain ⟨u', entry', hu', hentry', hmade'⟩ :=
      resolve?_of_declares ht' (h.written e hreached) hename
    obtain rfl : entry = entry' := Except.ok.inj (hmade.symm.trans hmade')
    rw [hu, hu']
    exact .some ⟨e, entry, hreached, hmade, hentry, hentry'⟩
  · have hmissing : ¬ dump'.Declares name.canonical :=
      fun hother => hdeclared ((h.named d _ hd hname).mpr hother)
    rw [resolve?_of_not_declares ht hdeclared, resolve?_of_not_declares ht' hmissing]
    exact .none

/-- **What is reached is held alike** by both tables. -/
theorem mirrored_of_agreesOn (ht : ofDump dump = .ok t) (ht' : ofDump dump' = .ok t')
    (h : dump.AgreesOn dump' marker root) :
    Mirrored (SameReached dump marker root t t') marker t t' where
  unique := by
    rintro u v u' v' ⟨_, d, _, _, hu, hu'⟩ ⟨_, e, _, _, hv, hv'⟩
    constructor
    · rintro rfl
      obtain rfl : d = e := Option.some.inj (hu.symm.trans hv)
      exact SymbolSource.eq_of_canonical_eq hu' hv' rfl
    · rintro rfl
      obtain rfl : d = e := Option.some.inj (hu'.symm.trans hv')
      exact SymbolSource.eq_of_canonical_eq hu hv rfl
  entry := by
    rintro u u' ⟨d, entry, hd, hmade, hu, hu'⟩
    refine ⟨entry, hu, hu', fun p hp hmarked => ?_⟩
    obtain ⟨_, _, rfl⟩ := DeclarationEntry.ofDump_eq_ok.mp hmade
    -- the type of the property is that of the dump, where it counts as a name that is used
    obtain ⟨q, hq, rfl⟩ := List.mem_map.mp hp
    unfold SymbolSource.section?
    cases hclass : (PropertyEntry.ofDump d.typeParameters q).type.className? with
    | none => exact .none
    | some name =>
        have hname : d.Nests marker name.canonical := ⟨q, hq, hmarked, name, hclass, rfl⟩
        have htarget := resolve?_sameReached ht ht' h hd hname
        simp only [Option.bind_eq_bind, Option.bind_some]
        generalize SymbolSource.resolve? { table := t } name = v? at htarget
        generalize SymbolSource.resolve? { table := t' } name = v'? at htarget
        cases htarget with
        | none => exact .none
        | @some v v' hv =>
            have ⟨_, e, _, _, hentry, hentry'⟩ := hv
            have hinfo : SymbolSource.declaration? { table := t } v = some e.info := by
              simp [SymbolSource.declaration?, hentry]
            have hinfo' : SymbolSource.declaration? { table := t' } v' = some e.info := by
              simp [SymbolSource.declaration?, hentry']
            simp only [Option.bind_some, hinfo, hinfo']
            split
            · exact .some hv
            · exact .none

/--
**Output depends on what is reached alone.**

Let two dumps both make a table and declare some class, and let the declarations reached from it be
written alike in both. A name that one of them uses for a section is declared in both dumps or in
none. Then the class is the same model in both, up to its handle, and from the model the same file
is generated, with the same diagnostics.
-/
theorem same_from_reached {dump dump' : SymbolDump} {t t' : SymbolTable} (ht : ofDump dump = .ok t)
    (ht' : ofDump dump' = .ok t') (o : Options) {root : ClassName} {id id' : DeclarationId}
    (hid : SymbolSource.resolve? { table := t } root = some id)
    (hid' : SymbolSource.resolve? { table := t' } root = some id')
    (h : dump.AgreesOn dump' o.markers.nest root.canonical) :
    buildModel { table := t' } id' o.markers
        = (buildModel { table := t } id o.markers).map (fun m => { m with declaration := id' })
      ∧ ∀ m, buildModel { table := t } id o.markers = .ok m →
        generate { table := t' } { m with declaration := id' } o = generate { table := t } m o := by
  have hmirrored := mirrored_of_agreesOn ht ht' h
  have hsame : SameReached dump o.markers.nest root.canonical t t' id id' := by
    obtain ⟨entry, hentry, hname⟩ := SymbolSource.resolve?_eq_some.mp hid
    obtain ⟨d, hd, hmade⟩ := exists_mem_of_entry? ht hentry
    have hdeclares : d.Declares root.canonical := (declares_iff hmade).mpr hname
    have hreached : dump.Reached o.markers.nest root.canonical d := .root hd hdeclares
    obtain ⟨v, entry', hv, hentry', hmade'⟩ :=
      resolve?_of_declares ht' (h.written d hreached) hdeclares
    obtain rfl : id' = v := Option.some.inj (hid'.symm.trans hv)
    obtain rfl : entry = entry' := Except.ok.inj (hmade.symm.trans hmade')
    exact ⟨d, entry, hreached, hmade, hentry, hentry'⟩
  refine ⟨hmirrored.buildModel_mirrored hsame o.markers, fun m hm => ?_⟩
  obtain rfl := declaration_of_buildModel hm
  exact hmirrored.generate_mirrored hsame

/-! ## A model alone and among others -/

/-- A model with a section and with another one that is not declared anywhere. -/
def shopModel : DeclarationDump where
  name := "dev.example.Shop"
  annotations := .ofList [("Config", .ofList [("wrapperName", .string "ShopConfig")])]
  properties := [
    { name := "prices", type := "dev.example.Prices", annotations := .ofList [("Nest", .empty)] },
    { name := "stock", type := "dev.example.Stock", annotations := .ofList [("Nest", .empty)] }]

/-- Its section, which refers back to it. -/
def pricesSection : DeclarationDump where
  name := "dev.example.Prices"
  properties := [
    { name := "shop", type := "dev.example.Shop?", annotations := .ofList [("Nest", .empty)] },
    { name := "rounded", type := "kotlin.Boolean", mutable := true }]

/-- Another model with the same section. -/
def marketModel : DeclarationDump where
  name := "dev.example.Market"
  annotations := .ofList [("Config", .ofList [("wrapperName", .string "MarketConfig")])]
  properties :=
    [{ name := "prices", type := "dev.example.Prices", annotations := .ofList [("Nest", .empty)] }]

def shopAlone : SymbolDump := ⟨[shopModel, pricesSection]⟩

/-- The same declarations at other places. -/
def shopAmongOthers : SymbolDump := ⟨[marketModel, pricesSection, shopModel]⟩

theorem ofDump_shopAlone :
    ∃ t, ofDump shopAlone = .ok t ∧ t.names = ["dev.example.Shop", "dev.example.Prices"]
      ∧ SymbolSource.resolve? { table := t } ⟨"dev.example", ["Shop"]⟩ = some ⟨0⟩ :=
  ⟨_, rfl, rfl, rfl⟩

theorem ofDump_shopAmongOthers :
    ∃ t, ofDump shopAmongOthers = .ok t
      ∧ t.names = ["dev.example.Market", "dev.example.Prices", "dev.example.Shop"]
      ∧ SymbolSource.resolve? { table := t } ⟨"dev.example", ["Shop"]⟩ = some ⟨2⟩ :=
  ⟨_, rfl, rfl, rfl⟩

/-- The model and its section use three names. -/
theorem name_of_nests_shop {d : DeclarationDump} (hd : d ∈ shopAlone.declarations)
    {canonical : String} (h : d.Nests "Nest" canonical) :
    canonical ∈ ["dev.example.Prices", "dev.example.Stock", "dev.example.Shop"] := by
  obtain ⟨p, hp, hmarked, name, hname, rfl⟩ := h
  have hd : d = shopModel ∨ d = pricesSection := by simpa [shopAlone] using hd
  rcases hd with rfl | rfl
  · simp only [shopModel, List.mem_cons, List.not_mem_nil, or_false] at hp
    rcases hp with rfl | rfl
    · obtain rfl : ⟨"dev.example", ["Prices"]⟩ = name := Option.some.inj hname
      decide
    · obtain rfl : ⟨"dev.example", ["Stock"]⟩ = name := Option.some.inj hname
      decide
  · simp only [pricesSection, List.mem_cons, List.not_mem_nil, or_false] at hp
    rcases hp with rfl | rfl
    · obtain rfl : ⟨"dev.example", ["Shop"]⟩ = name := Option.some.inj hname
      decide
    · exact absurd hmarked (by decide)

theorem shop_agreesOn : shopAlone.AgreesOn shopAmongOthers "Nest" "dev.example.Shop" where
  written := by
    intro d hd
    have hmem := hd.mem
    simp only [shopAlone, shopAmongOthers, List.mem_cons, List.not_mem_nil, or_false] at hmem ⊢
    exact Or.inr hmem.symm
  named := by
    intro d canonical hd hnests
    obtain ⟨t, ht, hnames, _⟩ := ofDump_shopAlone
    obtain ⟨t', ht', hnames', _⟩ := ofDump_shopAmongOthers
    rw [declares_iff_mem_names ht, declares_iff_mem_names ht', hnames, hnames']
    have hsame : ∀ name ∈ ["dev.example.Prices", "dev.example.Stock", "dev.example.Shop"],
        name ∈ ["dev.example.Shop", "dev.example.Prices"]
          ↔ name ∈ ["dev.example.Market", "dev.example.Prices", "dev.example.Shop"] := by decide
    exact hsame canonical (name_of_nests_shop hd.mem hnests)

theorem same_from_reached_shop :
    ∃ t t' m, ofDump shopAlone = .ok t ∧ ofDump shopAmongOthers = .ok t'
      ∧ buildModel { table := t } ⟨0⟩ ⟨"Config", "Nest", "Hook"⟩ = .ok m
      ∧ buildModel { table := t' } ⟨2⟩ ⟨"Config", "Nest", "Hook"⟩
        = .ok { m with declaration := ⟨2⟩ }
      ∧ generate { table := t' } { m with declaration := ⟨2⟩ }
        { markers := ⟨"Config", "Nest", "Hook"⟩ }
        = generate { table := t } m { markers := ⟨"Config", "Nest", "Hook"⟩ } := by
  obtain ⟨t, ht, _, hid⟩ := ofDump_shopAlone
  obtain ⟨t', ht', _, hid'⟩ := ofDump_shopAmongOthers
  have hbuilt : buildModel { table := t } ⟨0⟩ ⟨"Config", "Nest", "Hook"⟩
      = .ok ⟨⟨0⟩, ⟨"dev.example", ["Shop"]⟩, "ShopConfig", false, none⟩ := by
    obtain rfl := Except.ok.inj ht
    rfl
  obtain ⟨hmodel, hfile⟩ :=
    same_from_reached ht ht' { markers := ⟨"Config", "Nest", "Hook"⟩ } hid hid' shop_agreesOn
  rw [hbuilt] at hmodel
  exact ⟨t, t', _, ht, ht', hbuilt, hmodel, hfile _ hbuilt⟩

end SymbolTable

end WrapperGen
