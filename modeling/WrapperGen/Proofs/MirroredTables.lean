import WrapperGen.Proofs.Counterparts
import WrapperGen.Wrapper.Generate

/-!
# Generating from two tables

Two tables may hold some of their declarations alike, at different places and among others. As long
as the sections inside these declarations are again held alike, or are missing in both, everything
that is generated from one of them is the same in both tables. Only the handle of the model is
another one (`generate_mirrored`).
-/

namespace WrapperGen

/-- A model knows the declaration that it was built from. -/
theorem declaration_of_buildModel {s : SymbolSource} {id : DeclarationId} {markers : Markers}
    {m : ConfigModel} (h : buildModel s id markers = .ok m) : m.declaration = id := by
  unfold buildModel at h
  split at h
  · exact absurd h (by simp)
  · dsimp only at h
    split at h
    · exact absurd h (by simp)
    · exact absurd h (by simp)
    · rw [← Except.ok.inj h]

/-- `R` relates declarations that two tables hold alike, together with the sections inside. -/
structure SymbolTable.Mirrored (R : DeclarationId → DeclarationId → Prop) (marker : String)
    (t t' : SymbolTable) :
    Prop where
  /-- Each declaration is held once. -/
  unique : ∀ {u v u' v'}, R u u' → R v v' → (u = v ↔ u' = v')
  entry : ∀ {u u'}, R u u' → ∃ d, t.declarations[u.index]? = some d
    ∧ t'.declarations[u'.index]? = some d
    ∧ ∀ p ∈ d.properties, p.annotations.contains marker = true →
      Option.Rel R (SymbolSource.section? { table := t } p.type)
        (SymbolSource.section? { table := t' } p.type)

namespace SymbolTable.Mirrored

variable {R : DeclarationId → DeclarationId → Prop} {t t' : SymbolTable} {u u' : DeclarationId}
    {marker : String}

theorem entry?_eq (h : Mirrored R marker t t') (hu : R u u') :
    ∃ d, SymbolSource.entry? { table := t } u = some d
      ∧ SymbolSource.entry? { table := t' } u' = some d := by
  obtain ⟨d, hd, hd', _⟩ := h.entry hu
  exact ⟨d, hd, hd'⟩

theorem declaration?_eq (h : Mirrored R marker t t') (hu : R u u') :
    ∃ info, SymbolSource.declaration? { table := t } u = some info
      ∧ SymbolSource.declaration? { table := t' } u' = some info := by
  obtain ⟨d, hd, hd'⟩ := h.entry?_eq hu
  exact ⟨d.info, by simp [SymbolSource.declaration?, hd], by simp [SymbolSource.declaration?, hd']⟩

theorem nameOf_eq (h : Mirrored R marker t t') (hu : R u u') :
    SymbolSource.nameOf { table := t' } u' = SymbolSource.nameOf { table := t } u := by
  obtain ⟨info, hinfo, hinfo'⟩ := h.declaration?_eq hu
  rw [SymbolSource.nameOf, SymbolSource.nameOf, hinfo, hinfo']

/-- What is held alike is the same to the collector. -/
theorem counterparts {markers : Markers} (h : Mirrored R markers.nest t t')
    (simplifier : Simplifier) :
    Collector.Counterparts R id ⟨{ table := t }, markers, simplifier⟩
      ⟨{ table := t' }, markers, simplifier⟩ where
  simplifier := rfl
  unique := h.unique
  declared := by
    intro u u' hu
    obtain ⟨d, hd, hd'⟩ := h.entry?_eq hu
    obtain ⟨hlt, _⟩ := List.getElem?_eq_some_iff.mp hd
    obtain ⟨hlt', _⟩ := List.getElem?_eq_some_iff.mp hd'
    exact iff_of_true (SymbolSource.mem_handles.mpr hlt) (SymbolSource.mem_handles.mpr hlt')
  nameOf := h.nameOf_eq
  classNameOf := by
    intro u u' hu
    obtain ⟨info, hinfo, hinfo'⟩ := h.declaration?_eq hu
    rw [Collector.classNameOf, Collector.classNameOf, hinfo, hinfo']
  members := by
    intro u u' hu
    obtain ⟨d, hd, hd', hsections⟩ := h.entry hu
    refine Collector.counterpart_members (S := fun p p' => p = p' ∧ p ∈ d.properties) ?_
      (fun _ => by simp) ?_
    · have hentry : SymbolSource.entry? { table := t } u = some d := hd
      have hentry' : SymbolSource.entry? { table := t' } u' = some d := hd'
      rw [hentry, hentry']
      exact .some (List.forall₂_same.mpr fun p hp => ⟨rfl, hp⟩)
    · rintro p _ ⟨rfl, hp⟩
      refine Collector.counterpart_memberOf rfl rfl rfl (hsections p hp) ?_
      rintro flag _ rfl
      rfl

/-- **What is collected** is the same in both tables. -/
theorem collect_eq {markers : Markers} (h : Mirrored R markers.nest t t') (hu : R u u')
    (simplifier : Simplifier) (flag : Bool) :
    Collector.collect ⟨{ table := t' }, markers, simplifier⟩ u' flag
      = Collector.collect ⟨{ table := t }, markers, simplifier⟩ u flag := by
  have hsame := Collector.collect_counterpart (h.counterparts simplifier) hu
    (rfl : id flag = id flag)
  rw [Collected.withFlags_id, Collected.withFlags_id] at hsame
  exact hsame.symm

/-- **The model** is the same in both tables, up to its handle. -/
theorem buildModel_mirrored (h : Mirrored R marker t t') (hu : R u u') (markers : Markers) :
    buildModel { table := t' } u' markers
      = (buildModel { table := t } u markers).map fun m => { m with declaration := u' } := by
  obtain ⟨d, hd, hd'⟩ := h.entry?_eq hu
  obtain ⟨info, hinfo, hinfo'⟩ := h.declaration?_eq hu
  have harguments : SymbolSource.arguments? { table := t' } (.declaration u') markers.config
      = SymbolSource.arguments? { table := t } (.declaration u) markers.config := by
    simp [SymbolSource.arguments?, SymbolSource.annotations, hd, hd']
  unfold buildModel
  rw [hinfo, hinfo', harguments, h.nameOf_eq hu]
  dsimp only
  split <;> rfl

/-- **The generated file and the diagnostics** are the same in both tables. -/
theorem generate_mirrored {o : Options} (h : Mirrored R o.markers.nest t t') {m : ConfigModel}
    (hu : R m.declaration u') :
    generate { table := t' } { m with declaration := u' } o = generate { table := t } m o := by
  have hcollected : collectModel { table := t' } { m with declaration := u' } o
      = collectModel { table := t } m o :=
    h.collect_eq hu ⟨m.package, o.namespaces⟩ m.defaultHook
  unfold generate
  rw [hcollected]
  rfl

end SymbolTable.Mirrored

end WrapperGen
