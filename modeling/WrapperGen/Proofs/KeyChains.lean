import Mathlib.Data.List.Nodup
import Mathlib.Data.List.Perm.Subperm
import WrapperGen.Proofs.JoinedTexts
import WrapperGen.Proofs.KeyWalk

/-!
# The keys, route by route

`keysBelow` keeps a list of the classes it is inside of, which is what makes it end where classes
refer to each other in circles. What it returns can be said without a walk. A *route* is a row of
places: a nest field among the fields at hand, a field of its class, and so on down to an option. Of
all routes the walk takes those that enter no class twice, each once and in the order of their
places (`enumerates_keysBelow`).

Where the fields at hand and those of each class can be told apart by their keys, so can the routes
by their segments (`Leads.places_unique`).
-/

namespace WrapperGen

/-! ## Routes -/

/-- A way to an option. -/
structure KeyRoute where
  /-- The place of each field on it, the last one that of the option. -/
  places : List Nat
  /-- The key segment of each field on it. -/
  segments : List String

namespace KeyRoute

/-- A route among the fields behind the first, with the first in front. -/
def later (route : KeyRoute) : KeyRoute :=
  { route with places := route.places.modifyHead (· + 1) }

/-- A route inside the class of the first field, from that field on. -/
def throughFirst (key : String) (route : KeyRoute) : KeyRoute :=
  ⟨0 :: route.places, key :: route.segments⟩

end KeyRoute

/-- A route leads from some fields to an option when it follows each nest field into the class of
its name. The names are those of the classes that it enters. -/
inductive NestedClassSet.Leads (nested : NestedClassSet) :
    List ConfigField → KeyRoute → List String → Prop where
  | value {fields : List ConfigField} {i : Nat} {field : ValueField} :
      fields[i]? = some (.value field) → nested.Leads fields ⟨[i], [field.key]⟩ []
  | nest {fields : List ConfigField} {i : Nat} {field : NestField} {c : NestedClass}
      {places : List Nat} {segments names : List String} :
      fields[i]? = some (.nest field) → nested.get? field.className = some c →
      nested.Leads c.fields ⟨places, segments⟩ names →
      nested.Leads fields ⟨i :: places, field.key :: segments⟩ (field.className :: names)

/-- The routes that are taken inside some classes enter no class twice, and none of these. -/
def NestedClassSet.Takes (nested : NestedClassSet) (entered : List String)
    (fields : List ConfigField) (route : KeyRoute) : Prop :=
  ∃ names, nested.Leads fields route names ∧ names.Nodup ∧ names.Disjoint entered

/-- The routes that are taken, each once and in the order of their places. -/
structure NestedClassSet.Enumerates (nested : NestedClassSet) (entered : List String)
    (fields : List ConfigField) (routes : List KeyRoute) : Prop where
  ordered : (routes.map KeyRoute.places).Pairwise (· < ·)
  exact : ∀ route, route ∈ routes ↔ nested.Takes entered fields route

namespace NestedClassSet

variable {nested : NestedClassSet} {entered : List String} {fields : List ConfigField}
    {field : ConfigField}
  {route : KeyRoute} {names : List String}

theorem Leads.exists_place (h : nested.Leads fields route names) :
    ∃ i places, route.places = i :: places := by
  cases h with
  | value _ => exact ⟨_, _, rfl⟩
  | nest _ _ _ => exact ⟨_, _, rfl⟩

/-- A route has a place for each class it enters, and one for the option. -/
theorem Leads.length_segments (h : nested.Leads fields route names) :
    route.segments.length = names.length + 1 := by
  induction h with
  | value _ => rfl
  | nest _ _ _ ih => exact congrArg (· + 1) ih

theorem Leads.names_subset (h : nested.Leads fields route names) : names ⊆ nested.names := by
  induction h with
  | value _ => exact List.nil_subset _
  | nest _ hget _ ih =>
      refine List.cons_subset.mpr ⟨?_, ih⟩
      rw [← get?_name hget]
      exact List.mem_map_of_mem (get?_mem hget)

/-- A route that enters no class twice has a segment for each class at most,
and one for the option. -/
theorem Leads.length_segments_le (h : nested.Leads fields route names) (hnodup : names.Nodup) :
    route.segments.length ≤ nested.size + 1 := by
  have hnames : names.length ≤ nested.names.length :=
    (List.subperm_of_subset hnodup h.names_subset).length_le
  rw [NestedClassSet.names, List.length_map] at hnames
  rw [h.length_segments]
  exact Nat.succ_le_succ hnames

theorem not_leads_nil : ¬ nested.Leads [] route names := by
  intro h
  cases h with
  | value hplace => exact absurd hplace (by simp)
  | nest hplace _ _ => exact absurd hplace (by simp)

/-- A route behind the first field does not see it. -/
theorem leads_later_iff :
    nested.Leads (field :: fields) route.later names ↔ nested.Leads fields route names := by
  obtain ⟨places, segments⟩ := route
  constructor
  · intro h
    cases places with
    | nil => exact absurd h.exists_place (by simp [KeyRoute.later])
    | cons i places =>
        cases h with
        | value hplace => exact .value hplace
        | nest hplace hget hrest => exact .nest hplace hget hrest
  · intro h
    cases h with
    | value hplace => exact .value hplace
    | nest hplace hget hrest => exact .nest hplace hget hrest

theorem leads_first_value {field : ValueField} {places : List Nat} {segments : List String} :
    nested.Leads (.value field :: fields) ⟨0 :: places, segments⟩ names
      ↔ places = [] ∧ segments = [field.key] ∧ names = [] := by
  constructor
  · intro h
    cases h with
    | value hplace =>
        obtain rfl : field = _ := ConfigField.value.inj (Option.some.inj hplace)
        exact ⟨rfl, rfl, rfl⟩
    | nest hplace _ _ => exact absurd (Option.some.inj hplace) (by simp)
  · rintro ⟨rfl, rfl, rfl⟩
    exact .value rfl

theorem leads_first_nest {field : NestField} {places : List Nat} {segments : List String} :
    nested.Leads (.nest field :: fields) ⟨0 :: places, segments⟩ names
      ↔ ∃ c further inside, nested.get? field.className = some c
        ∧ nested.Leads c.fields ⟨places, further⟩ inside
        ∧ segments = field.key :: further ∧ names = field.className :: inside := by
  constructor
  · intro h
    cases h with
    | value hplace => exact absurd (Option.some.inj hplace) (by simp)
    | nest hplace hget hrest =>
        obtain rfl : field = _ := ConfigField.nest.inj (Option.some.inj hplace)
        exact ⟨_, _, _, hget, hrest, rfl, rfl⟩
  · rintro ⟨c, further, inside, hget, hrest, rfl, rfl⟩
    exact .nest rfl hget hrest

/-! ## The routes of the walk -/

theorem enumerates_nil : nested.Enumerates entered [] [] where
  ordered := .nil
  exact _ := ⟨fun h => absurd h List.not_mem_nil, fun ⟨_, h, _⟩ => absurd h not_leads_nil⟩

/-- The routes of some fields are those through the first, and behind them those of the others. -/
theorem Enumerates.cons (first : List KeyRoute) {routes : List KeyRoute}
    (h : nested.Enumerates entered fields routes)
    (hordered : (first.map KeyRoute.places).Pairwise (· < ·))
    (hexact : ∀ route, route ∈ first ↔ nested.Takes entered (field :: fields) route
      ∧ route.places.head? = some 0) :
    nested.Enumerates entered (field :: fields) (first ++ routes.map KeyRoute.later) := by
  have hlater : ∀ route ∈ routes, ∃ i places, route.places = i :: places := by
    intro route hroute
    obtain ⟨names, hleads, _⟩ := (h.exact route).mp hroute
    exact hleads.exists_place
  refine ⟨?_, fun route => ?_⟩
  · have hothers := h.ordered
    rw [List.pairwise_map] at hothers hordered ⊢
    -- routes through the first field begin with 0, so they come before all others
    refine List.pairwise_append.mpr ⟨hordered, List.pairwise_map.mpr ?_, fun r hr s hs => ?_⟩
    · refine hothers.imp_of_mem fun {r s} hr hs hless => ?_
      obtain ⟨i, places, hi⟩ := hlater r hr
      obtain ⟨j, others, hj⟩ := hlater s hs
      rw [hi, hj, List.cons_lt_cons_iff] at hless
      rw [KeyRoute.later, KeyRoute.later, hi, hj, List.modifyHead_cons, List.modifyHead_cons,
        List.cons_lt_cons_iff]
      exact hless.imp Nat.succ_lt_succ (And.imp_left (congrArg Nat.succ))
    · obtain ⟨places, hplaces⟩ := List.head?_eq_some_iff.mp ((hexact r).mp hr).2
      obtain ⟨t, ht, rfl⟩ := List.mem_map.mp hs
      obtain ⟨j, others, hj⟩ := hlater t ht
      rw [hplaces, KeyRoute.later, hj, List.modifyHead_cons, List.cons_lt_cons_iff]
      exact Or.inl (Nat.succ_pos j)
  · rw [List.mem_append, hexact, List.mem_map]
    constructor
    · rintro (⟨htakes, _⟩ | ⟨r, hr, rfl⟩)
      · exact htakes
      · obtain ⟨names, hleads, hnames⟩ := (h.exact r).mp hr
        exact ⟨names, leads_later_iff.mpr hleads, hnames⟩
    · rintro ⟨names, hleads, hnames⟩
      obtain ⟨places, segments⟩ := route
      obtain ⟨i, places, rfl⟩ := hleads.exists_place
      -- the first place of a route tells which of the two lists it is in
      cases i with
      | zero => exact Or.inl ⟨⟨names, hleads, hnames⟩, rfl⟩
      | succ i =>
          refine Or.inr ⟨⟨i :: places, segments⟩, (h.exact _).mpr ⟨names, ?_, hnames⟩, rfl⟩
          exact leads_later_iff.mp hleads

/-- An option is the only route through itself. -/
theorem takes_first_value {field : ValueField} :
    nested.Takes entered (.value field :: fields) route ∧ route.places.head? = some 0
      ↔ route = ⟨[0], [field.key]⟩ := by
  obtain ⟨places, segments⟩ := route
  constructor
  · rintro ⟨⟨names, hleads, _⟩, hfirst⟩
    obtain ⟨places, rfl⟩ := List.head?_eq_some_iff.mp hfirst
    obtain ⟨rfl, rfl, _⟩ := leads_first_value.mp hleads
    rfl
  · intro h
    obtain ⟨rfl, rfl⟩ := KeyRoute.mk.inj h
    exact ⟨⟨[], .value rfl, List.nodup_nil, List.disjoint_nil_left _⟩, rfl⟩

/-- The routes through a nest field are those inside its class, if this is
there and not entered yet. -/
theorem takes_first_nest {field : NestField} :
    nested.Takes entered (.nest field :: fields) route ∧ route.places.head? = some 0
      ↔ ∃ c inside, nested.get? field.className = some c ∧ c.name ∉ entered
        ∧ nested.Takes (c.name :: entered) c.fields inside
        ∧ inside.throughFirst field.key = route := by
  obtain ⟨places, segments⟩ := route
  constructor
  · rintro ⟨⟨names, hleads, hnodup, hdisjoint⟩, hfirst⟩
    obtain ⟨places, rfl⟩ := List.head?_eq_some_iff.mp hfirst
    obtain ⟨c, further, inside, hget, hinside, rfl, rfl⟩ := leads_first_nest.mp hleads
    obtain ⟨hnew, hnodup⟩ := List.nodup_cons.mp hnodup
    obtain ⟨hfree, hdisjoint⟩ := List.disjoint_cons_left.mp hdisjoint
    rw [← get?_name hget] at hnew hfree
    exact ⟨c, ⟨places, further⟩, hget, hfree,
      ⟨inside, hinside, hnodup, List.disjoint_cons_right.mpr ⟨hnew, hdisjoint⟩⟩, rfl⟩
  · rintro ⟨c, inside, hget, hfree, ⟨names, hinside, hnodup, hdisjoint⟩, heq⟩
    obtain ⟨rfl, rfl⟩ := KeyRoute.mk.inj heq
    obtain ⟨hnew, hdisjoint⟩ := List.disjoint_cons_right.mp hdisjoint
    rw [get?_name hget] at hfree hnew
    exact ⟨⟨field.className :: names, .nest rfl hget hinside, List.nodup_cons.mpr ⟨hnew, hnodup⟩,
      List.disjoint_cons_left.mpr ⟨hfree, hdisjoint⟩⟩, rfl⟩

/-- An option among some fields comes before the routes behind it. -/
theorem Enumerates.value {field : ValueField} {routes : List KeyRoute}
    (h : nested.Enumerates entered fields routes) :
    nested.Enumerates entered (.value field :: fields)
      (⟨[0], [field.key]⟩ :: routes.map KeyRoute.later) := by
  refine Enumerates.cons [⟨[0], [field.key]⟩] h (List.pairwise_singleton _ _) fun route => ?_
  rw [List.mem_singleton, takes_first_value]

/-- The routes inside a class that is entered come before the routes behind it. -/
theorem Enumerates.nest {field : NestField} {c : NestedClass} {inside routes : List KeyRoute}
    (h : nested.Enumerates entered fields routes) (hget : nested.get? field.className = some c)
    (hfree : c.name ∉ entered) (hinside : nested.Enumerates (c.name :: entered) c.fields inside) :
    nested.Enumerates entered (.nest field :: fields)
      (inside.map (KeyRoute.throughFirst field.key) ++ routes.map KeyRoute.later) := by
  refine Enumerates.cons _ h ?_ fun route => ?_
  · have hordered := hinside.ordered
    rw [List.pairwise_map] at hordered
    rw [List.map_map, List.pairwise_map]
    exact hordered.imp List.cons_lt_cons_self.mpr
  · rw [List.mem_map, takes_first_nest]
    constructor
    · rintro ⟨r, hr, rfl⟩
      exact ⟨c, r, hget, hfree, (hinside.exact r).mp hr, rfl⟩
    · rintro ⟨c', r, hget', _, htakes, rfl⟩
      obtain rfl : c = c' := Option.some.inj (hget.symm.trans hget')
      exact ⟨r, (hinside.exact r).mpr htakes, rfl⟩

/-- A nest field whose class is missing or entered already opens no route. -/
theorem Enumerates.closed {field : NestField} {routes : List KeyRoute}
    (h : nested.Enumerates entered fields routes)
    (hclosed : ∀ c, nested.get? field.className = some c → c.name ∈ entered) :
    nested.Enumerates entered (.nest field :: fields) (routes.map KeyRoute.later) := by
  refine Enumerates.cons [] h .nil fun route => ?_
  rw [takes_first_nest]
  constructor
  · exact fun hmem => absurd hmem List.not_mem_nil
  · rintro ⟨c, _, hget, hfree, _⟩
    exact absurd (hclosed c hget) hfree

end NestedClassSet

open NestedClassSet

/-- A nest field whose class is missing or entered already is passed over. -/
theorem keysBelow_closed {nested : NestedClassSet} {entered : List String} {parent : OptionKey}
    {field : NestField} {fields : List ConfigField}
    (hclosed : ∀ c, nested.get? field.className = some c → c.name ∈ entered) :
    keysBelow nested entered parent (.nest field :: fields)
      = keysBelow nested entered parent fields := by
  rw [keysBelow]
  refine (congrArg (· ++ _) ?_).trans (List.nil_append _)
  split
  · rfl
  · rename_i c hget
    rw [dif_pos (hclosed c hget)]

/-- **The walk takes each route once**, in the order of the places. -/
theorem enumerates_keysBelow (nested : NestedClassSet) (entered : List String) (parent : OptionKey)
    (fields : List ConfigField) :
    ∃ routes, nested.Enumerates entered fields routes
      ∧ keysBelow nested entered parent fields
        = routes.map fun route => parent.below route.segments := by
  induction entered, parent, fields using keysBelow.induct nested with
  | case1 entered parent => exact ⟨[], enumerates_nil, by rw [keysBelow]; rfl⟩
  | case2 entered parent field fields ih =>
      obtain ⟨routes, hroutes, heq⟩ := ih
      refine ⟨_, hroutes.value, ?_⟩
      rw [keysBelow, heq, List.map_cons, List.map_map]
      rfl
  | case3 entered parent field fields ihinside ih =>
      obtain ⟨routes, hroutes, heq⟩ := ih
      by_cases hopen : ∃ c, nested.get? field.className = some c ∧ c.name ∉ entered
      · obtain ⟨c, hget, hfree⟩ := hopen
        obtain ⟨inside, hinside, heqinside⟩ := ihinside c hget hfree
        refine ⟨_, hroutes.nest hget hfree hinside, ?_⟩
        rw [keysBelow_nest hget hfree, heq, heqinside, List.map_append, List.map_map, List.map_map]
        refine congrArg (· ++ _) (List.map_congr_left fun route _ => ?_)
        exact parent.child_below field.key route.segments
      · have hclosed : ∀ c, nested.get? field.className = some c → c.name ∈ entered := fun c hget =>
          by_contra fun hfree => hopen ⟨c, hget, hfree⟩
        refine ⟨_, hroutes.closed hclosed, ?_⟩
        rw [keysBelow_closed hclosed, heq, List.map_map]
        rfl

/-! ## Telling routes apart -/

/-- Fields have different keys among those at hand, and among those of each class. -/
structure NestedClassSet.KeysApart (nested : NestedClassSet)
    (fields : List ConfigField) : Prop where
  here : (fields.map ConfigField.key).Nodup
  inside : ∀ c ∈ nested.classes, (c.fields.map ConfigField.key).Nodup

theorem ConfigField.eq_of_key_eq {fields : List ConfigField} {i j : Nat} {f g : ConfigField}
    (hfields : (fields.map ConfigField.key).Nodup) (hf : fields[i]? = some f)
    (hg : fields[j]? = some g) (hkey : f.key = g.key) : i = j ∧ f = g := by
  obtain rfl : f = g :=
    List.inj_on_of_nodup_map hfields (List.mem_of_getElem? hf) (List.mem_of_getElem? hg) hkey
  have hlt : i < fields.length := (List.getElem?_eq_some_iff.mp hf).1
  exact ⟨(List.getElem?_inj hlt (hfields.of_map _)).mp (hf.trans hg.symm), rfl⟩

/-- **Routes with the same segments are the same**, where fields have different keys. -/
theorem NestedClassSet.Leads.places_unique {nested : NestedClassSet} {fields : List ConfigField}
    {route route' : KeyRoute} {names names' : List String} (h : nested.Leads fields route names)
    (h' : nested.Leads fields route' names') (hapart : nested.KeysApart fields)
    (hsame : route.segments = route'.segments) : route.places = route'.places := by
  -- keys are apart in every class, so the same segment is that of the same field
  induction h generalizing route' names' with
  | value hplace =>
      cases h' with
      | value hplace' =>
          obtain ⟨rfl, _⟩ :=
            ConfigField.eq_of_key_eq hapart.here hplace hplace' (List.cons.inj hsame).1
          rfl
      | nest hplace' _ _ =>
          have hfield :=
            (ConfigField.eq_of_key_eq hapart.here hplace hplace' (List.cons.inj hsame).1).2
          exact absurd hfield (by simp)
  | nest hplace hget _ ih =>
      cases h' with
      | value hplace' =>
          have hfield :=
            (ConfigField.eq_of_key_eq hapart.here hplace hplace' (List.cons.inj hsame).1).2
          exact absurd hfield (by simp)
      | nest hplace' hget' hrest' =>
          obtain ⟨rfl, hfield⟩ :=
            ConfigField.eq_of_key_eq hapart.here hplace hplace' (List.cons.inj hsame).1
          obtain rfl := ConfigField.nest.inj hfield
          obtain rfl := Option.some.inj (hget.symm.trans hget')
          have hinside : nested.KeysApart _ := ⟨hapart.inside _ (get?_mem hget), hapart.inside⟩
          exact congrArg (_ :: ·) (ih hrest' hinside (List.cons.inj hsame).2)

/-- The routes that are taken have different segments. -/
theorem NestedClassSet.Enumerates.nodup_segments {nested : NestedClassSet} {entered : List String}
    {fields : List ConfigField} {routes : List KeyRoute}
    (h : nested.Enumerates entered fields routes) (hapart : nested.KeysApart fields) :
    (routes.map KeyRoute.segments).Nodup := by
  refine List.pairwise_map.mpr
    ((List.pairwise_map.mp h.ordered).imp_of_mem fun {r s} hr hs hless hsame => ?_)
  obtain ⟨_, hr, _⟩ := (h.exact r).mp hr
  obtain ⟨_, hs, _⟩ := (h.exact s).mp hs
  rw [hr.places_unique hs hapart hsame] at hless
  exact List.lt_irrefl _ hless

/-- Keys with different segments have different texts, if no segment has a dot in it. -/
theorem OptionKey.nodup_texts {keys : List OptionKey} (h : (keys.map segments).Nodup)
    (hne : ∀ key ∈ keys, key.segments ≠ [])
    (hdots : ∀ key ∈ keys, ∀ segment ∈ key.segments, '.' ∉ segment.toList) :
    (keys.map text).Nodup := by
  have hparts : ∀ key ∈ keys, Text.parts '.' key.text = key.segments := fun key hkey =>
    Text.parts_joined rfl (hne key hkey) (hdots key hkey)
  refine h.of_map _ |>.map_on fun key hkey key' hkey' htext => ?_
  have hsame : key.segments = key'.segments := by rw [← hparts key hkey, htext, hparts key' hkey']
  exact congrArg OptionKey.mk hsame

/-! ## The keys of a wrapper -/

/--
**The keys of a wrapper are those of its routes**, whatever classes the set holds: one for each
route that enters no class twice, in the order of the places, with the segments along the route. So
no key has more segments than there are classes, but for that of its option. Fields with different
keys make different keys, and different texts if no segment has a dot in it.
-/
theorem keyPaths_along_routes (fields : List ConfigField) (nested : NestedClassSet) :
    (∃ routes : List KeyRoute, (routes.map KeyRoute.places).Pairwise (· < ·)
        ∧ (∀ route, route ∈ routes ↔ ∃ names, nested.Leads fields route names ∧ names.Nodup)
        ∧ keyPaths fields nested = routes.map fun route => ⟨route.segments⟩)
      ∧ (∀ key ∈ keyPaths fields nested, key.segments.length ≤ nested.size + 1)
      ∧ (nested.KeysApart fields →
          ((keyPaths fields nested).map OptionKey.segments).Nodup
            ∧ ((∀ key ∈ keyPaths fields nested, ∀ segment ∈ key.segments, '.' ∉ segment.toList) →
                ((keyPaths fields nested).map OptionKey.text).Nodup)) := by
  obtain ⟨routes, hroutes, hkeys⟩ := enumerates_keysBelow nested [] OptionKey.root fields
  have hexact : ∀ route, route ∈ routes ↔ ∃ names, nested.Leads fields route names
      ∧ names.Nodup := by
    intro route
    rw [hroutes.exact]
    exact exists_congr fun names => and_congr_right fun _ =>
      and_iff_left (List.disjoint_nil_right names)
  have hpaths : keyPaths fields nested = routes.map fun route => ⟨route.segments⟩ := hkeys
  -- each key is that of a route, and its length is that of the route
  have hleads : ∀ key ∈ keyPaths fields nested, ∃ route names,
      nested.Leads fields route names ∧ names.Nodup ∧ route.segments = key.segments := by
    intro key hkey
    rw [hpaths, List.mem_map] at hkey
    obtain ⟨route, hroute, rfl⟩ := hkey
    obtain ⟨names, hleads, hnodup⟩ := (hexact route).mp hroute
    exact ⟨route, names, hleads, hnodup, rfl⟩
  refine ⟨⟨routes, hroutes.ordered, hexact, hpaths⟩, fun key hkey => ?_, fun hapart => ?_⟩
  · obtain ⟨route, names, hleads, hnodup, hsegments⟩ := hleads key hkey
    rw [← hsegments]
    exact hleads.length_segments_le hnodup
  · have hsegments : ((keyPaths fields nested).map OptionKey.segments).Nodup := by
      rw [hpaths, List.map_map]
      exact hroutes.nodup_segments hapart
    refine ⟨hsegments, OptionKey.nodup_texts hsegments fun key hkey hnil => ?_⟩
    obtain ⟨route, names, hleads, _, hroute⟩ := hleads key hkey
    have hlength := hleads.length_segments
    rw [hroute, hnil] at hlength
    exact absurd hlength (Nat.succ_ne_zero _).symm

/-! ## Classes that refer to each other in circles -/

/-- Two classes that refer to each other, the first to itself as well and the
second to a missing one. -/
def circularClasses : NestedClassSet where
  classes := [
    ⟨"Outer", [.value ⟨"count", "count", "Int", true, false⟩, .nest ⟨"inner", "inner", "Inner"⟩,
      .nest ⟨"self", "self", "Outer"⟩]⟩,
    ⟨"Inner", [.nest ⟨"back", "back", "Outer"⟩, .value ⟨"flag", "flag", "Boolean", true, false⟩,
      .nest ⟨"gone", "gone", "Missing"⟩]⟩]
  distinct := by decide

/-- A section of each of the two classes. -/
def circularFields : List ConfigField :=
  [.nest ⟨"first", "first", "Outer"⟩, .nest ⟨"second", "second", "Inner"⟩]

theorem keyPaths_circularFields : keyPaths circularFields circularClasses
    = [⟨["first", "count"]⟩, ⟨["first", "inner", "flag"]⟩, ⟨["second", "back", "count"]⟩,
      ⟨["second", "flag"]⟩] := by
  cbv

theorem keyPaths_along_circularClasses :
    circularClasses.KeysApart circularFields
      ∧ (∀ key ∈ keyPaths circularFields circularClasses, ∀ segment ∈ key.segments,
        '.' ∉ segment.toList)
      ∧ ((keyPaths circularFields circularClasses).map OptionKey.text).Nodup := by
  have hapart : circularClasses.KeysApart circularFields := ⟨by decide, by decide⟩
  have hdots : ∀ key ∈ keyPaths circularFields circularClasses, ∀ segment ∈ key.segments,
      '.' ∉ segment.toList := by
    rw [keyPaths_circularFields]
    decide
  exact ⟨hapart, hdots, ((keyPaths_along_routes circularFields circularClasses).2.2 hapart).2 hdots⟩

end WrapperGen
