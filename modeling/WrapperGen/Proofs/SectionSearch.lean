import WrapperGen.Proofs.NestGraph

/-!
# The search for sections meets everything

`metFrom` follows the sections of what it has met until no new ones turn up. What it ends with
is closed: the sections of everything met are met. So whatever edges lead to is met, and since
the search passes over nothing that the collector follows, a declaration that is ready is
resolved along every chain.

The search takes more steps than the collector does. It goes through properties that store nothing
and through edges that lead back, and both only make it meet more.
-/

namespace WrapperGen

namespace SymbolSource

variable {s : SymbolSource} {marker : String}

theorem mem_sections {id v : DeclarationId} :
    v ∈ s.sections marker id
      ↔ ∃ p ∈ s.properties id, s.isMarked (.property p) marker = true
        ∧ s.NamesSection (s.typeOf p) v := by
  simp only [sections, List.mem_filterMap, Option.ite_none_right_eq_some, section?_eq_some]

theorem mem_handles_of_mem_sections {id v : DeclarationId} (h : v ∈ s.sections marker id) :
    v ∈ s.handles := by
  obtain ⟨_, _, _, hnames⟩ := mem_sections.mp h
  exact hnames.mem_handles

/-- Where no new sections turn up, the search goes on with what is pending. -/
theorem metFrom_of_none {met pending : List DeclarationId} {id : DeclarationId}
    (h : (s.unmet met).filter (· ∈ s.sections marker id) = []) :
    s.metFrom marker met (id :: pending) = s.metFrom marker met pending := by
  rw [metFrom, dif_pos h]

/-- New sections are met and become pending. -/
theorem metFrom_of_fresh {met pending fresh : List DeclarationId} {id : DeclarationId}
    (h : (s.unmet met).filter (· ∈ s.sections marker id) = fresh) (hne : fresh ≠ []) :
    s.metFrom marker met (id :: pending) = s.metFrom marker (met ++ fresh) (fresh ++ pending) := by
  subst h
  rw [metFrom, dif_neg hne]

/-- A section is met already or turns up among the new ones. -/
theorem sections_subset_append (met : List DeclarationId) (id : DeclarationId) :
    s.sections marker id ⊆ met ++ (s.unmet met).filter (· ∈ s.sections marker id) := by
  intro v hv
  by_cases hmet : v ∈ met
  · exact List.mem_append_left _ hmet
  · have hunmet : v ∈ s.unmet met := mem_unmet.mpr ⟨mem_handles_of_mem_sections hv, hmet⟩
    exact List.mem_append_right _ (List.mem_filter.mpr ⟨hunmet, by simpa using hv⟩)

/-- What was met stays met. -/
theorem mem_metFrom {met pending : List DeclarationId} {x : DeclarationId} (h : x ∈ met) :
    x ∈ s.metFrom marker met pending := by
  induction met, pending using metFrom.induct s marker with
  | case1 met => rw [metFrom]; exact h
  | case2 met id pending found fresh hnone ih =>
      rw [metFrom_of_none hnone]
      exact ih h
  | case3 met id pending found fresh hsome _ ih =>
      rw [metFrom_of_fresh rfl hsome]
      exact ih (List.mem_append_left _ h)

/--
**The sections of everything met are met.**

Along the search this holds of all declarations that are no longer pending: their sections were met
when they were taken up.
-/
theorem sections_subset_metFrom (met pending : List DeclarationId)
    (h : ∀ x ∈ met, x ∉ pending → s.sections marker x ⊆ met) :
    ∀ x ∈ s.metFrom marker met pending, s.sections marker x ⊆ s.metFrom marker met pending := by
  induction met, pending using metFrom.induct s marker with
  | case1 met =>
      rw [metFrom]
      exact fun x hx => h x hx List.not_mem_nil
  | case2 met id pending found fresh hnone ih =>
      rw [metFrom_of_none hnone]
      refine ih fun x hx hdone => ?_
      by_cases hid : x = id
      · have hfound : s.sections marker id ⊆ met ++ fresh := sections_subset_append met id
        rw [hnone, List.append_nil] at hfound
        rw [hid]
        exact hfound
      · exact h x hx (by simp [hid, hdone])
  | case3 met id pending found fresh hsome _ ih =>
      rw [metFrom_of_fresh rfl hsome]
      refine ih fun x hx hdone => ?_
      rw [List.mem_append, not_or] at hdone
      by_cases hid : x = id
      · rw [hid]
        exact sections_subset_append met id
      · have hmet : x ∈ met := (List.mem_append.mp hx).resolve_right hdone.1
        exact fun v hv => List.mem_append_left _ (h x hmet (by simp [hid, hdone.2]) hv)

end SymbolSource

namespace Collector

variable {c : Collector}

/-- What the collector follows, the search follows. -/
theorem NestEdge.mem_sections {u v : DeclarationId} {p : PropertyId} (h : c.NestEdge u p v) :
    v ∈ c.source.sections c.markers.nest u := by
  obtain ⟨hp, _, hn⟩ := h
  exact SymbolSource.mem_sections.mpr ⟨p, hp, hn.marked, hn.names⟩

/-- **The search meets everything that chains lead to.** -/
theorem Reaches.mem_metFrom {root u : DeclarationId} (h : c.Reaches root u) :
    u ∈ c.source.metFrom c.markers.nest [root] [root] := by
  have hclosed : ∀ w ∈ c.source.metFrom c.markers.nest [root] [root],
      c.source.sections c.markers.nest w ⊆ c.source.metFrom c.markers.nest [root] [root] :=
    SymbolSource.sections_subset_metFrom [root] [root] fun x hx hdone => absurd hx hdone
  obtain ⟨ps, hchain⟩ := h
  suffices ∀ w, c.Chain w ps u → w ∈ c.source.metFrom c.markers.nest [root] [root] →
      u ∈ c.source.metFrom c.markers.nest [root] [root] from
    this root hchain (SymbolSource.mem_metFrom List.mem_cons_self)
  clear hchain
  intro w hchain
  induction hchain with
  | nil => exact fun h => h
  | cons he _ ih => exact fun hw => ih (hclosed _ hw he.mem_sections)

end Collector

/-! ## What being ready means -/

theorem isReady_of_mem_ready {s : SymbolSource} {markers : Markers} {id : DeclarationId}
    (h : id ∈ (scan s markers).ready) : s.isReady markers.nest id = true :=
  (List.mem_filter.mp h).2

namespace SymbolSource

/-- Everything met from a declaration that is ready is resolved. -/
theorem isResolved_of_isReady {s : SymbolSource} {marker : String} {id u : DeclarationId}
    (h : s.isReady marker id = true) (hu : u ∈ s.metFrom marker [id] [id]) :
    s.isResolved u = true :=
  List.all_eq_true.mp h u hu

/-- No property of a resolved declaration has anything unresolved in its type, at whatever depth. -/
theorem hasUnresolved_typeOf {s : SymbolSource} {u : DeclarationId} {p : PropertyId}
    (h : s.isResolved u = true) (hp : p ∈ s.properties u) : (s.typeOf p).hasUnresolved = false := by
  unfold properties at hp
  unfold isResolved at h
  cases hentry : s.entry? u with
  | none => simp [hentry] at hp
  | some d =>
      simp only [hentry, List.mem_map, List.mem_range] at hp h
      obtain ⟨i, hi, rfl⟩ := hp
      have hproperty : s.propertyEntry? ⟨u, i⟩ = some d.properties[i] := by
        unfold propertyEntry?
        simp [hentry, hi]
      rw [typeOf, hproperty]
      have hall := List.all_eq_true.mp h d.properties[i] (List.getElem_mem hi)
      simpa using hall

end SymbolSource

end WrapperGen
