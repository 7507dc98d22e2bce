import WrapperGen.Proofs.Counterparts
import WrapperGen.Proofs.Resolution

/-!
# Hooks decide about subscription alone

A hook makes an option, or all options inside a section, subject to subscription, and it does
nothing else. Two sources that are the same but for hooks are collected alike: the members, the
inner classes with their order, the keys and the diagnostics are the same as soon as the flags are
taken away (`collected_alike_but_for_hooks`). The flag that makes every option subject to
subscription is no different from a hook in this.
-/

namespace WrapperGen

/-! ## The same but for one marker -/

/-- The same property, but for a marker. -/
structure PropertyEntry.SameBut (marker : String) (p p' : PropertyEntry) : Prop where
  info : p'.info = p.info
  type : p'.type = p.type
  annotations : ∀ key, key ≠ marker → p'.annotations.get? key = p.annotations.get? key

/-- The same declaration, but for a marker on its properties. -/
structure DeclarationEntry.SameBut (marker : String) (d d' : DeclarationEntry) : Prop where
  info : d'.info = d.info
  annotations : d'.annotations = d.annotations
  properties : List.Forall₂ (PropertyEntry.SameBut marker) d.properties d'.properties

namespace SymbolSource

/-- The same source, but for a marker on properties. -/
structure SameBut (marker : String) (s s' : SymbolSource) : Prop where
  declarations : List.Forall₂ (DeclarationEntry.SameBut marker) s.table.declarations
    s'.table.declarations
  hiddenDeclarations : s'.hiddenDeclarations = s.hiddenDeclarations
  hiddenProperties : s'.hiddenProperties = s.hiddenProperties

variable {s s' : SymbolSource} {marker : String}

theorem SameBut.entry? (h : SameBut marker s s') (id : DeclarationId) :
    Option.Rel (DeclarationEntry.SameBut marker) (s.entry? id) (s'.entry? id) :=
  getElem?_of_forall₂ h.declarations id.index

theorem SameBut.sameInfos (h : SameBut marker s s') : s.SameInfos s' where
  infos := h.declarations.imp fun _ _ hd => hd.info
  hiddenDeclarations := h.hiddenDeclarations

end SymbolSource

/-! ## Collecting without flags -/

namespace Collected

/-- What is collected, with no option subject to subscription. -/
def unsubscribed (c : Collected) : Collected := c.withFlags fun _ => false

/-- All options, also those inside sections, are subject to subscription. -/
structure AllSubscribed (c : Collected) : Prop where
  fields : ∀ field, .value field ∈ c.fields → field.subscribe = true
  nested : ∀ cls ∈ c.nested.classes, ∀ field, .value field ∈ cls.fields → field.subscribe = true

end Collected

namespace Collector

variable {c : Collector} {s : SymbolSource}

/-- The collector over another source. -/
def withSource (c : Collector) (s : SymbolSource) : Collector := { c with source := s }

/-- Sources that are the same but for hooks have the same declarations under the same handles. -/
theorem counterparts_of_sameBut (h : c.source.SameBut c.markers.hook s)
    (hne : c.markers.hook ≠ c.markers.nest) :
    Counterparts Eq (fun _ => false) c (c.withSource s) where
  simplifier := rfl
  unique := by
    rintro u v _ _ rfl rfl
    rfl
  declared := by
    rintro u _ rfl
    rw [withSource, h.sameInfos.handles]
  nameOf := by
    rintro u _ rfl
    exact h.sameInfos.nameOf u
  classNameOf := by
    rintro u _ rfl
    rw [classNameOf, classNameOf, withSource, h.sameInfos.declaration?]
  members := by
    rintro u _ rfl
    refine counterpart_members (S := PropertyEntry.SameBut c.markers.hook) ?_ ?_ ?_
    · have hentry := h.entry? u
      rw [withSource]
      generalize c.source.entry? u = d? at hentry ⊢
      generalize s.entry? u = d'? at hentry ⊢
      cases hentry with
      | none => exact .none
      | some hd => exact .some hd.properties
    · intro i
      rw [withSource, h.hiddenProperties]
    · intro p p' hp
      -- the hooks may differ, since no flag is looked at
      refine counterpart_memberOf hp.info hp.type ?_ ?_ (fun _ _ _ => rfl)
      · rw [withSource, KeyMap.contains, KeyMap.contains, hp.annotations _ hne.symm]
      · intro _
        rw [withSource, h.sameInfos.section?]
        cases c.source.section? p.type with
        | none => exact .none
        | some _ => exact .some rfl

/-- A value is subject to subscription if everything around it is. -/
theorem subscribe_of_mem_collectFrom {c : Collector} {trail : List DeclarationId}
    {id : DeclarationId} {field : ValueField}
    (h : .value field ∈ (c.collectFrom trail id true).fields) : field.subscribe = true := by
  rw [collectFrom_fields, List.mem_filterMap] at h
  obtain ⟨p, _, hp⟩ := h
  rcases c.stored_cases p with hnone | ⟨info, v, hv⟩ | ⟨info, hinfo, hnone⟩
  · rw [fieldOf?_of_not_stored true hnone] at hp
    exact absurd hp (by simp)
  · by_cases hback : v ∈ trail
    · rw [fieldOf?_of_back true hv hback] at hp
      exact absurd hp (by simp)
    · rw [fieldOf?_of_nests true hv hback] at hp
      exact absurd hp (by simp)
  · obtain ⟨field', heq, _, _, hflag⟩ := fieldOf?_of_value true trail hinfo hnone
    obtain rfl : field' = field := by simpa using heq.symm.trans hp
    rw [hflag, Bool.true_or]

theorem allSubscribed_collect (c : Collector) (root : DeclarationId) :
    (c.collect root true).AllSubscribed where
  fields := fun _ h => subscribe_of_mem_collectFrom h
  nested := by
    intro cls hcls field hfield
    obtain ⟨v, hv, rfl⟩ := exists_visit_of_mem_nested hcls
    have hflag : v.subscribe = true := by
      rw [(follows_of_mem_visits [root] root [] true v rfl hv).flag, Bool.true_or]
    rw [classOf, hflag] at hfield
    exact subscribe_of_mem_collectFrom hfield

/--
**Hooks change nothing but subscriptions.**

Two sources that are the same but for hooks are collected alike, with whatever flags for the
whole wrapper: the members and the inner classes are the same once no option is subject to
subscription, and so are the keys and the diagnostics. Where the flag is set, every option is
subject to subscription.
-/
theorem collected_alike_but_for_hooks {c : Collector} {s : SymbolSource}
    (h : c.source.SameBut c.markers.hook s) (hne : c.markers.hook ≠ c.markers.nest)
    (root : DeclarationId) (flag flag' : Bool) :
    (c.collect root flag).unsubscribed.fields
      = ((c.withSource s).collect root flag').unsubscribed.fields
      ∧ (c.collect root flag).unsubscribed.nested
        = ((c.withSource s).collect root flag').unsubscribed.nested
      ∧ keyPaths (c.collect root flag).fields (c.collect root flag).nested
        = keyPaths ((c.withSource s).collect root flag').fields
          ((c.withSource s).collect root flag').nested
      ∧ (c.collect root flag).diagnostics = ((c.withSource s).collect root flag').diagnostics
      ∧ (c.collect root true).AllSubscribed
      ∧ ((c.withSource s).collect root true).AllSubscribed := by
  have hsame : (c.collect root flag).unsubscribed
      = ((c.withSource s).collect root flag').unsubscribed :=
    collect_counterpart (counterparts_of_sameBut h hne) rfl rfl
  have hkeys : ∀ x : Collected, keyPaths x.unsubscribed.fields x.unsubscribed.nested
      = keyPaths x.fields x.nested :=
    fun x => keyPaths_withFlags x.fields x.nested
  have hdiagnostics : ∀ x : Collected, x.unsubscribed.diagnostics = x.diagnostics := fun _ => rfl
  refine ⟨congrArg Collected.fields hsame, congrArg Collected.nested hsame, ?_, ?_,
    allSubscribed_collect c root, allSubscribed_collect (c.withSource s) root⟩
  · rw [← hkeys (c.collect root flag), hsame, hkeys]
  · rw [← hdiagnostics (c.collect root flag), hsame, hdiagnostics]

/-! ## A section with hooks inside and outside -/

/-- The markers of a section. -/
def sectionMarkers (hooked : Bool) : Annotations :=
  .ofList (("Nest", .empty) :: if hooked then [("Hook", .empty)] else [])

/-- A model with a section that refers back to it, and with one of another package that has the same
simple name. The sections are marked for subscription or not. -/
def hookedSections (first second : Bool) : Collector where
  source := { table := {
    declarations := [
      ⟨⟨⟨"dev.example", ["Model"]⟩, .plainClass, none⟩, .ofList [("Config", .empty)], [
        ⟨⟨"sub", false, true⟩, .named ⟨"dev.example", ["Sub"]⟩, sectionMarkers first⟩,
        ⟨⟨"other", false, true⟩, .named ⟨"dev.other", ["Sub"]⟩, sectionMarkers second⟩]⟩,
      ⟨⟨⟨"dev.example", ["Sub"]⟩, .plainClass, none⟩, .empty, [
        ⟨⟨"owner", false, true⟩, .nullable (.named ⟨"dev.example", ["Model"]⟩),
          sectionMarkers second⟩,
        ⟨⟨"enabled", true, true⟩, .named ⟨"kotlin", ["Boolean"]⟩, .empty⟩]⟩,
      ⟨⟨⟨"dev.other", ["Sub"]⟩, .object, none⟩, .empty, [
        ⟨⟨"level", true, true⟩, .named ⟨"kotlin", ["Int"]⟩, .empty⟩]⟩]
    distinct := by
      change ["dev.example.Model", "dev.example.Sub", "dev.other.Sub"].Nodup
      decide } }
  markers := ⟨"Config", "Nest", "Hook"⟩
  simplifier := ⟨"dev.example", defaultNamespaces⟩

theorem get?_sectionMarkers (hooked : Bool) {key : String} (h : key ≠ "Hook") :
    (sectionMarkers hooked).get? key = (sectionMarkers false).get? key := by
  cases hooked with
  | false => rfl
  | true =>
    have hentries : (sectionMarkers true).entries = [("Hook", .empty), ("Nest", .empty)] := rfl
    have hplain : (sectionMarkers false).entries = [("Nest", .empty)] := rfl
    rw [KeyMap.get?, KeyMap.get?, hentries, hplain, List.lookup_cons, beq_false_of_ne h]

theorem hookedSections_sameBut (first second first' second' : Bool) :
    (hookedSections first second).source.SameBut "Hook" (hookedSections first' second').source := by
  have hmarkers : ∀ (hooked hooked' : Bool) (info : PropertyInfo) (type : TypeRef),
      PropertyEntry.SameBut "Hook" ⟨info, type, sectionMarkers hooked⟩
        ⟨info, type, sectionMarkers hooked'⟩ :=
    fun hooked hooked' _ _ => ⟨rfl, rfl, fun key hkey =>
      (get?_sectionMarkers hooked' hkey).trans (get?_sectionMarkers hooked hkey).symm⟩
  have hplain : ∀ p, PropertyEntry.SameBut "Hook" p p := fun _ => ⟨rfl, rfl, fun _ _ => rfl⟩
  refine ⟨.cons ⟨rfl, rfl, ?_⟩ (.cons ⟨rfl, rfl, ?_⟩ (.cons ⟨rfl, rfl, ?_⟩ .nil)), rfl, rfl⟩
  · exact .cons (hmarkers _ _ _ _) (.cons (hmarkers _ _ _ _) .nil)
  · exact .cons (hmarkers _ _ _ _) (.cons (hplain _) .nil)
  · exact .cons (hplain _) .nil

theorem collected_alike_hookedSections :
    (hookedSections true false).source.SameBut "Hook" (hookedSections false true).source
      ∧ (hookedSections true false).markers.hook ≠ (hookedSections true false).markers.nest
      ∧ ((hookedSections true false).collect ⟨0⟩ false).unsubscribed.nested
        = ((hookedSections false true).collect ⟨0⟩ true).unsubscribed.nested
      ∧ ((hookedSections true false).collect ⟨0⟩ false).diagnostics
        = ((hookedSections false true).collect ⟨0⟩ true).diagnostics := by
  have hsame := hookedSections_sameBut true false false true
  have hne : (hookedSections true false).markers.hook
      ≠ (hookedSections true false).markers.nest := by decide
  obtain ⟨_, hnested, _, hdiagnostics, _⟩ := collected_alike_but_for_hooks hsame hne ⟨0⟩ false true
  exact ⟨hsame, hne, hnested, hdiagnostics⟩

end Collector

end WrapperGen
