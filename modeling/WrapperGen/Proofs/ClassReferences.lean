import WrapperGen.Proofs.Resolution
import WrapperGen.Proofs.ShortText

/-!
# What the class names in a wrapper stand for

An option is written with the type of its property (`option_texts`), and in that the classes of some
packages without them (`names_of_written`). Nothing looks at what such a name stands for in the
wrapper: where there is an inner class of the name, that is meant instead, and two classes of
different packages are written alike. `unambiguous_iff` says when neither happens, in terms of what
is declared: which sections the model leads to, and which classes the types of the options refer to.
-/

namespace WrapperGen

/-! ## References in types -/

namespace TypeRef

mutual

/-- The classes that a type refers to, in the order in which they are written. -/
def classNames : TypeRef → List ClassName
  | named n => [n]
  | applied n arguments => n :: allClassNames arguments
  | nullable inner => inner.classNames
  | projected _ inner => inner.classNames
  | function parameters result => allClassNames parameters ++ result.classNames
  | typeVariable _ | star | unresolved _ | verbatim _ => []

/-- The classes that several types refer to. -/
def allClassNames : List TypeRef → List ClassName
  | [] => []
  | t :: ts => t.classNames ++ allClassNames ts

end

theorem allClassNames_eq_flatMap (ts : List TypeRef) :
    allClassNames ts = ts.flatMap classNames := by
  induction ts with
  | nil => rfl
  | cons t ts ih => rw [allClassNames, ih, List.flatMap_cons]

end TypeRef

namespace Simplifier

mutual

/-- The classes that a type refers to, each with the name it is written by in the short text. -/
def written (s : Simplifier) : TypeRef → List (ClassName × ClassName)
  | .named n => [(n, s.eraseName n)]
  | .applied n arguments => (n, s.eraseName n) :: s.allWritten arguments
  | .nullable inner =>
      if looksInside inner then s.written inner else inner.classNames.map fun n => (n, n)
  | t => t.classNames.map fun n => (n, n)

/-- The classes that several types refer to, each with the name it is written by. -/
def allWritten (s : Simplifier) : List TypeRef → List (ClassName × ClassName)
  | [] => []
  | t :: ts => s.written t ++ s.allWritten ts

end

mutual

/-- The classes at which shortening does not look. -/
def aside : TypeRef → List ClassName
  | .named _ => []
  | .applied _ arguments => allAside arguments
  | .nullable inner => if looksInside inner then aside inner else inner.classNames
  | t => t.classNames

/-- The classes in several types at which shortening does not look. -/
def allAside : List TypeRef → List ClassName
  | [] => []
  | t :: ts => aside t ++ allAside ts

end

variable {s : Simplifier} {t : TypeRef} {n m : ClassName}

theorem allWritten_eq_flatMap (ts : List TypeRef) : s.allWritten ts = ts.flatMap s.written := by
  induction ts with
  | nil => rfl
  | cons t ts ih => rw [allWritten, ih, List.flatMap_cons]

theorem allAside_eq_flatMap (ts : List TypeRef) : allAside ts = ts.flatMap aside := by
  induction ts with
  | nil => rfl
  | cons t ts ih => rw [allAside, ih, List.flatMap_cons]

theorem classes_of_written (s : Simplifier) (t : TypeRef) :
    (s.written t).map Prod.fst = t.classNames := by
  have hself : ∀ ns : List ClassName, (ns.map fun n => (n, n)).map Prod.fst = ns := by
    intro ns
    rw [List.map_map]
    exact List.map_id ns
  induction t using TypeRef.forms with
  | applied n arguments ih =>
      rw [written, TypeRef.classNames, allWritten_eq_flatMap, TypeRef.allClassNames_eq_flatMap,
        List.map_cons, List.map_flatMap, List.flatMap_congr ih]
  | nullable inner ih =>
      rw [written]
      split
      · exact ih
      · exact hself _
  | function parameters result _ _ => exact hself _
  | projected _ inner _ => exact hself _
  | _ => rfl

/-- **The names that classes are written by are those in the short text**, which is the text of the
type without the covered packages. -/
theorem names_of_written (s : Simplifier) (t : TypeRef) :
    (s.written t).map Prod.snd = (s.erase t).classNames := by
  have hself : ∀ ns : List ClassName, (ns.map fun n => (n, n)).map Prod.snd = ns := by
    intro ns
    rw [List.map_map]
    exact List.map_id ns
  induction t using TypeRef.forms with
  | applied n arguments ih =>
      rw [written, erase, TypeRef.classNames, allWritten_eq_flatMap,
        TypeRef.allClassNames_eq_flatMap, List.map_cons, List.map_flatMap, eraseAll_eq_map,
        List.flatMap_map, List.flatMap_congr ih]
  | nullable inner ih =>
      rw [written, erase]
      split
      · exact ih
      · exact hself _
  | function parameters result _ _ => exact hself _
  | projected _ inner _ => exact hself _
  | _ => rfl

/-- A class is written without its package if that is covered, where shortening looks at it, and
in full anywhere else. -/
theorem mem_written :
    (n, m) ∈ s.written t ↔ (n ∈ lookedAt t ∧ m = s.eraseName n) ∨ (n ∈ aside t ∧ m = n) := by
  -- where no package is looked for, every name is written as it is
  have hself : ∀ ns : List ClassName, (n, m) ∈ ns.map (fun n => (n, n))
      ↔ (n ∈ [] ∧ m = s.eraseName n) ∨ (n ∈ ns ∧ m = n) := by
    intro ns
    simp only [List.mem_map, Prod.mk.injEq, List.not_mem_nil, false_and, false_or]
    exact ⟨fun ⟨_, hmem, hn, hm⟩ => ⟨hn ▸ hmem, hm.symm.trans hn⟩,
      fun ⟨hmem, hm⟩ => ⟨n, hmem, rfl, hm.symm⟩⟩
  induction t using TypeRef.forms with
  | named n' =>
      simp only [written, lookedAt, aside, List.mem_singleton, Prod.mk.injEq, List.not_mem_nil,
        false_and, or_false]
      exact and_congr_right fun hn => hn ▸ Iff.rfl
  | applied n' arguments ih =>
      rw [written, lookedAt, aside, allWritten_eq_flatMap, lookedAtAll_eq_flatMap,
        allAside_eq_flatMap]
      simp only [List.mem_cons, List.mem_flatMap, Prod.mk.injEq]
      constructor
      · rintro (⟨rfl, rfl⟩ | ⟨t, ht, hmem⟩)
        · exact Or.inl ⟨Or.inl rfl, rfl⟩
        · exact ((ih t ht).mp hmem).imp (fun h => ⟨Or.inr ⟨t, ht, h.1⟩, h.2⟩)
            (fun h => ⟨⟨t, ht, h.1⟩, h.2⟩)
      · rintro (⟨rfl | ⟨t, ht, hmem⟩, rfl⟩ | ⟨⟨t, ht, hmem⟩, rfl⟩)
        · exact Or.inl ⟨rfl, rfl⟩
        · exact Or.inr ⟨t, ht, (ih t ht).mpr (Or.inl ⟨hmem, rfl⟩)⟩
        · exact Or.inr ⟨t, ht, (ih t ht).mpr (Or.inr ⟨hmem, rfl⟩)⟩
  | nullable inner ih =>
      rw [written, lookedAt, aside]
      split
      · exact ih
      · exact hself _
  | function parameters result _ _ => exact hself _
  | projected _ inner _ => exact hself _
  | _ => simp [written, lookedAt, aside, TypeRef.classNames]

theorem mem_classNames : n ∈ t.classNames ↔ n ∈ lookedAt t ∨ n ∈ aside t := by
  rw [← classes_of_written ⟨"", []⟩ t, List.mem_map]
  constructor
  · rintro ⟨⟨_, m⟩, hmem, rfl⟩
    exact (mem_written.mp hmem).imp And.left And.left
  · rintro (h | h)
    · exact ⟨(n, _), mem_written.mpr (Or.inl ⟨h, rfl⟩), rfl⟩
    · exact ⟨(n, n), mem_written.mpr (Or.inr ⟨h, rfl⟩), rfl⟩

end Simplifier

namespace Collector

variable {c : Collector} {root : DeclarationId} {subscribe : Bool}

/-! ## Options and the properties they come from -/

/-- A property that becomes an option. -/
def HoldsValue (c : Collector) (p : PropertyId) : Prop :=
  ∃ info, c.Stored p info ∧ ∀ v, ¬c.Nests p info v

/-- The first visit to a section of its name. -/
def FirstOfName (c : Collector) (root : DeclarationId) (subscribe : Bool) (v : Visit) : Prop :=
  (c.visits [root] root subscribe).find? (fun w => c.classNameOf w.target == c.classNameOf v.target)
    = some v

/-- Members of the wrapper or of an inner class, with the declaration that
they are collected from. -/
inductive Scope (c : Collector) (root : DeclarationId) (subscribe : Bool) :
    DeclarationId → List ConfigField → Prop where
  | wrapper : Scope c root subscribe root (c.collect root subscribe).fields
  | inner {v : Visit} :
      c.FirstOfName root subscribe v → Scope c root subscribe v.target (c.classOf v).fields

/-- A property whose value is an option of the wrapper or of an inner class. -/
def IsOption (c : Collector) (root : DeclarationId) (subscribe : Bool) (p : PropertyId) : Prop :=
  ∃ u fields, c.Scope root subscribe u fields ∧ p ∈ c.source.properties u ∧ c.HoldsValue p

theorem mem_nested {cls : NestedClass} : cls ∈ (c.collect root subscribe).nested.classes
    ↔ ∃ v, c.FirstOfName root subscribe v ∧ c.classOf v = cls := by
  have hget : ∀ name, (c.collect root subscribe).nested.get? name
      = ((c.visits [root] root subscribe).find? fun v => c.classNameOf v.target == name).map
        c.classOf := by
    intro name
    rw [collect, collectFrom_nested, NestedClassSet.get?_ofList, List.find?_map]
    rfl
  constructor
  · intro h
    have hcls := NestedClassSet.get?_of_mem h
    rw [hget] at hcls
    obtain ⟨v, hv, rfl⟩ := Option.map_eq_some_iff.mp hcls
    exact ⟨v, hv, rfl⟩
  · rintro ⟨v, hv, rfl⟩
    have hcls := hget (c.classNameOf v.target)
    rw [show _ = some v from hv] at hcls
    exact NestedClassSet.get?_mem hcls

/-- **The inner classes have the names of the sections that are entered.** -/
theorem mem_nested_names {name : String} : name ∈ (c.collect root subscribe).nested.names
    ↔ ∃ v, c.Entered root v ∧ c.classNameOf v = name := by
  have hnames : name ∈ (c.collect root subscribe).nested.names
      ↔ ∃ v ∈ c.visits [root] root subscribe, c.classNameOf v.target = name := by
    rw [collect, collectFrom_nested, NestedClassSet.ofList,
      NestedClassSet.mem_names_insertAll, List.map_map, List.mem_map]
    exact or_iff_right List.not_mem_nil
  rw [hnames]
  constructor
  · rintro ⟨v, hv, rfl⟩
    exact ⟨v.target, (entered_iff_visited subscribe).mpr ⟨v, hv, rfl⟩, rfl⟩
  · rintro ⟨v, hv, rfl⟩
    obtain ⟨w, hw, rfl⟩ := (entered_iff_visited subscribe).mp hv
    exact ⟨w, hw, rfl⟩

/-- **Options are what properties with values become**, with the short text of their types. -/
theorem mem_scope {u : DeclarationId} {fields : List ConfigField}
    (h : c.Scope root subscribe u fields) {text : String} :
    (∃ field, .value field ∈ fields ∧ field.typeText = text)
      ↔ ∃ p ∈ c.source.properties u, c.HoldsValue p
        ∧ c.simplifier.text (c.source.typeOf p) = text := by
  obtain ⟨trail, flag,
      rfl⟩ : ∃ trail flag, fields = (c.source.properties u).filterMap (c.fieldOf? trail flag) := by
    cases h with
    | wrapper => exact ⟨[root], subscribe, collectFrom_fields _ _ _⟩
    | @inner v _ => exact ⟨v.target :: v.around, v.subscribe, collectFrom_fields _ _ _⟩
  constructor
  · rintro ⟨field, hfield, rfl⟩
    obtain ⟨p, hp, heq⟩ := List.mem_filterMap.mp hfield
    refine ⟨p, hp, ?_, (typeText_of_fieldOf? heq).symm⟩
    rcases c.stored_cases p with hnone | ⟨info, v, hv⟩ | hvalue
    · rw [fieldOf?_of_not_stored flag hnone] at heq
      exact absurd heq (by simp)
    · by_cases hback : v ∈ trail
      · rw [fieldOf?_of_back flag hv hback] at heq
        exact absurd heq (by simp)
      · rw [fieldOf?_of_nests flag hv hback] at heq
        exact absurd heq (by simp)
    · exact hvalue
  · rintro ⟨p, hp, ⟨info, hinfo, hnone⟩, rfl⟩
    obtain ⟨field, heq, _⟩ := fieldOf?_of_value flag trail hinfo hnone
    exact ⟨field, List.mem_filterMap.mpr ⟨p, hp, heq⟩, typeText_of_fieldOf? heq⟩

/-- **The texts of the options, in the wrapper and in its inner classes, are the short
texts of their types.** -/
theorem option_texts {text : String} :
    (∃ field, (.value field ∈ (c.collect root subscribe).fields
        ∨ ∃ cls ∈ (c.collect root subscribe).nested.classes, .value field ∈ cls.fields)
        ∧ field.typeText = text)
      ↔ ∃ p, c.IsOption root subscribe p ∧ c.simplifier.text (c.source.typeOf p) = text := by
  constructor
  · rintro ⟨field, hfield | ⟨cls, hcls, hfield⟩, htext⟩
    · obtain ⟨p, hp, hvalue, heq⟩ := (mem_scope .wrapper).mp ⟨field, hfield, htext⟩
      exact ⟨p, ⟨_, _, .wrapper, hp, hvalue⟩, heq⟩
    · obtain ⟨v, hv, rfl⟩ := mem_nested.mp hcls
      obtain ⟨p, hp, hvalue, heq⟩ := (mem_scope (.inner hv)).mp ⟨field, hfield, htext⟩
      exact ⟨p, ⟨_, _, .inner hv, hp, hvalue⟩, heq⟩
  · rintro ⟨p, ⟨u, fields, hscope, hp, hvalue⟩, htext⟩
    obtain ⟨field, hfield, heq⟩ := (mem_scope hscope).mpr ⟨p, hp, hvalue, htext⟩
    cases hscope with
    | wrapper => exact ⟨field, Or.inl hfield, heq⟩
    | inner hv => exact ⟨field, Or.inr ⟨_, mem_nested.mpr ⟨_, hv, rfl⟩, hfield⟩, heq⟩

/-! ## What the options refer to -/

/-- The text of an option refers to the class `n` and writes it by the name `m`. -/
def Refers (c : Collector) (root : DeclarationId) (subscribe : Bool) (n m : ClassName) : Prop :=
  ∃ p, c.IsOption root subscribe p ∧ (n, m) ∈ c.simplifier.written (c.source.typeOf p)

/-- A class that an option refers to without a package: it is taken off, or there is none. -/
def Bare (c : Collector) (root : DeclarationId) (subscribe : Bool) (n : ClassName) : Prop :=
  ∃ p, c.IsOption root subscribe p
    ∧ ((n ∈ Simplifier.lookedAt (c.source.typeOf p) ∧ c.simplifier.covers n.package = true)
      ∨ (n ∈ (c.source.typeOf p).classNames ∧ n.package = ""))

/-- A class that an option refers to by its qualified name. -/
def Qualified (c : Collector) (root : DeclarationId) (subscribe : Bool) (n : ClassName) : Prop :=
  ∃ p, c.IsOption root subscribe p
    ∧ (n ∈ Simplifier.aside (c.source.typeOf p)
      ∨ (n ∈ Simplifier.lookedAt (c.source.typeOf p) ∧ c.simplifier.covers n.package = false))

/--
The texts of the options are unambiguous.

No class that is written without a package has, as its outermost class, one with the name of an
inner class; and classes with different qualified names are not written alike.
-/
structure Unambiguous (c : Collector) (root : DeclarationId) (subscribe : Bool) : Prop where
  unshadowed : ∀ n m, c.Refers root subscribe n m → m.package = "" →
    ∀ cls ∈ (c.collect root subscribe).nested.classes, m.simpleNames.head? ≠ some cls.name
  distinct : ∀ n m n' m', c.Refers root subscribe n m → c.Refers root subscribe n' m' →
    m.canonical = m'.canonical → n.canonical = n'.canonical

variable {n m : ClassName}

/-- A class is written without a package or by its qualified name. -/
theorem Refers.cases (h : c.Refers root subscribe n m) :
    (c.Bare root subscribe n ∧ m = ⟨"", n.simpleNames⟩)
      ∨ (c.Qualified root subscribe n ∧ m = n) := by
  obtain ⟨p, hp, hmem⟩ := h
  rcases Simplifier.mem_written.mp hmem with ⟨hlooked, rfl⟩ | ⟨haside, rfl⟩
  · rw [Simplifier.eraseName]
    split
    · exact Or.inl ⟨⟨p, hp, Or.inl ⟨hlooked, ‹_›⟩⟩, rfl⟩
    · exact Or.inr ⟨⟨p, hp, Or.inr ⟨hlooked, Bool.not_eq_true _ ▸ ‹_›⟩⟩, rfl⟩
  · exact Or.inr ⟨⟨p, hp, Or.inl haside⟩, rfl⟩

theorem Qualified.refers (h : c.Qualified root subscribe n) : c.Refers root subscribe n n := by
  obtain ⟨p, hp, haside | ⟨hlooked, hcovers⟩⟩ := h
  · exact ⟨p, hp, Simplifier.mem_written.mpr (Or.inr ⟨haside, rfl⟩)⟩
  · have hstays := Simplifier.eraseName_eq_self (Or.inr hcovers)
    exact ⟨p, hp, Simplifier.mem_written.mpr (Or.inl ⟨hlooked, hstays.symm⟩)⟩

theorem Bare.refers (h : c.Bare root subscribe n) :
    c.Refers root subscribe n ⟨"", n.simpleNames⟩ := by
  obtain ⟨p, hp, ⟨hlooked, hcovers⟩ | ⟨hmem, hroot⟩⟩ := h
  · exact ⟨p, hp, Simplifier.mem_written.mpr (Or.inl ⟨hlooked, (if_pos hcovers).symm⟩)⟩
  · have hsame : (⟨"", n.simpleNames⟩ : ClassName) = n :=
      congrArg (ClassName.mk · n.simpleNames) hroot.symm
    rw [hsame]
    rcases Simplifier.mem_classNames.mp hmem with hlooked | haside
    · exact ⟨p, hp,
        Simplifier.mem_written.mpr
          (Or.inl ⟨hlooked, (Simplifier.eraseName_eq_self (Or.inl hroot)).symm⟩)⟩
    · exact ⟨p, hp, Simplifier.mem_written.mpr (Or.inr ⟨haside, rfl⟩)⟩

/-- A class that is written by a qualified name without a package has none. -/
theorem Qualified.bare (h : c.Qualified root subscribe n) (hroot : n.package = "") :
    c.Bare root subscribe n := by
  obtain ⟨p, hp, haside | ⟨hlooked, _⟩⟩ := h
  · exact ⟨p, hp, Or.inr ⟨Simplifier.mem_classNames.mpr (Or.inr haside), hroot⟩⟩
  · exact ⟨p, hp, Or.inr ⟨Simplifier.mem_classNames.mpr (Or.inl hlooked), hroot⟩⟩

/--
**When the texts of the options are unambiguous.**

It takes three things. No section that the model leads to has the simple name of the outermost
class of one that is written without a package. No two classes written without a package differ in
their packages alone. And no class written without a package has, as its simple names, the whole
qualified name of another.
-/
theorem unambiguous_iff : c.Unambiguous root subscribe
    ↔ (∀ n, c.Bare root subscribe n → ∀ v, c.Entered root v →
      n.simpleNames.head? ≠ some (c.classNameOf v))
      ∧ (∀ n n', c.Bare root subscribe n → c.Bare root subscribe n' → n.nested = n'.nested →
        n.canonical = n'.canonical)
      ∧ (∀ n n', c.Bare root subscribe n → c.Qualified root subscribe n' → n.nested = n'.canonical →
        n.canonical = n'.canonical) := by
  constructor
  · rintro ⟨hunshadowed, hdistinct⟩
    refine ⟨fun n hn v hv hhead => ?_, fun n n' hn hn' => hdistinct n _ n' _ hn.refers hn'.refers,
      fun n n' hn hn' => hdistinct n _ n' _ hn.refers hn'.refers⟩
    obtain ⟨cls, hcls, hname⟩ := List.mem_map.mp (mem_nested_names.mpr ⟨v, hv, rfl⟩)
    exact hunshadowed n _ hn.refers rfl cls hcls (hname ▸ hhead)
  · rintro ⟨hsections, hbare, hqualified⟩
    refine ⟨fun n m h hroot cls hcls hhead => ?_, fun n m n' m' h h' heq => ?_⟩
    · obtain ⟨v, hv, hname⟩ := mem_nested_names.mp (List.mem_map_of_mem hcls)
      rw [← hname] at hhead
      rcases h.cases with ⟨hn, rfl⟩ | ⟨hn, rfl⟩
      · exact hsections n hn v hv hhead
      · exact hsections m (hn.bare hroot) v hv hhead
    · rcases h.cases with ⟨hn, rfl⟩ | ⟨hn, rfl⟩
      · rcases h'.cases with ⟨hn', rfl⟩ | ⟨hn', rfl⟩
        · exact hbare n n' hn hn' heq
        · exact hqualified n m' hn hn' heq
      · rcases h'.cases with ⟨hn', rfl⟩ | ⟨hn', rfl⟩
        · exact (hqualified n' m hn' hn heq.symm).symm
        · exact heq

/-! ## Names that clash -/

/-- A model with options of two classes `Mode`, and with an option of the class that
is a section beside it. -/
def clashing : Collector where
  source := { table := {
    declarations := [
      ⟨⟨⟨"dev.example", ["Model"]⟩, .plainClass, none⟩, .ofList [("Config", .empty)], [
        ⟨⟨"mode", true, true⟩, .named ⟨"dev.example", ["Mode"]⟩, .empty⟩,
        ⟨⟨"other", true, true⟩, .named ⟨"kotlin", ["Mode"]⟩, .empty⟩,
        ⟨⟨"sub", false, true⟩, .named ⟨"dev.example", ["Sub"]⟩, .ofList [("Nest", .empty)]⟩,
        ⟨⟨"plain", true, true⟩, .named ⟨"dev.example", ["Sub"]⟩, .empty⟩]⟩,
      ⟨⟨⟨"dev.example", ["Sub"]⟩, .plainClass, none⟩, .empty, [
        ⟨⟨"enabled", true, true⟩, .named ⟨"kotlin", ["Boolean"]⟩, .empty⟩]⟩]
    distinct := by decide } }
  markers := ⟨"Config", "Nest", "Hook"⟩
  simplifier := ⟨"dev.example", defaultNamespaces⟩

theorem clashing_sub_nests : clashing.Nests ⟨⟨0⟩, 2⟩ ⟨"sub", false, true⟩ ⟨1⟩ :=
  ⟨⟨by decide, rfl, by decide⟩, by decide, SymbolSource.section?_eq_some.mp (by decide)⟩

/-- A property of the model that is not marked as a section is an option of the wrapper. -/
theorem clashing_isOption {p : PropertyId} {info : PropertyInfo}
    (hp : p ∈ clashing.source.properties ⟨0⟩) (hstored : clashing.Stored p info)
    (hplain : clashing.source.isMarked (.property p) "Nest" = false) :
    clashing.IsOption ⟨0⟩ false p :=
  ⟨⟨0⟩, _, .wrapper, hp, info, hstored,
    fun _ hv => absurd (hplain.symm.trans hv.marked) (by decide)⟩

/-- Two classes `Mode` are written alike, and the class of the last option is written by the
name of the inner class. -/
theorem clashing_ambiguous :
    (clashing.collect ⟨0⟩ false).fields = [
        .value ⟨"mode", "mode", "Mode", true, false⟩,
        .value ⟨"other", "other", "Mode", true, false⟩, .nest ⟨"sub", "sub", "Sub"⟩,
        .value ⟨"plain", "plain", "Sub", true, false⟩]
      ∧ "Sub" ∈ (clashing.collect ⟨0⟩ false).nested.names
      ∧ clashing.Refers ⟨0⟩ false ⟨"dev.example", ["Mode"]⟩ ⟨"", ["Mode"]⟩
      ∧ clashing.Refers ⟨0⟩ false ⟨"kotlin", ["Mode"]⟩ ⟨"", ["Mode"]⟩
      ∧ clashing.Refers ⟨0⟩ false ⟨"dev.example", ["Sub"]⟩ ⟨"", ["Sub"]⟩
      ∧ ¬ clashing.Unambiguous ⟨0⟩ false := by
  have hstored : clashing.Stored ⟨⟨0⟩, 0⟩ ⟨"mode", true, true⟩ := ⟨by decide, rfl, by decide⟩
  have hstored' : clashing.Stored ⟨⟨0⟩, 1⟩ ⟨"other", true, true⟩ := ⟨by decide, rfl, by decide⟩
  have hstored'' : clashing.Stored ⟨⟨0⟩, 3⟩ ⟨"plain", true, true⟩ := ⟨by decide, rfl, by decide⟩
  have hmode : clashing.Refers ⟨0⟩ false ⟨"dev.example", ["Mode"]⟩ ⟨"", ["Mode"]⟩ :=
    ⟨_, clashing_isOption (by decide) hstored (by decide), by decide⟩
  have hother : clashing.Refers ⟨0⟩ false ⟨"kotlin", ["Mode"]⟩ ⟨"", ["Mode"]⟩ :=
    ⟨_, clashing_isOption (by decide) hstored' (by decide), by decide⟩
  have hplain : clashing.Refers ⟨0⟩ false ⟨"dev.example", ["Sub"]⟩ ⟨"", ["Sub"]⟩ :=
    ⟨_, clashing_isOption (by decide) hstored'' (by decide), by decide⟩
  have hsub : "Sub" ∈ (clashing.collect ⟨0⟩ false).nested.names :=
    mem_nested_names.mpr
      ⟨⟨1⟩, ⟨[⟨0⟩], by decide, .enter .here ⟨by decide, _, clashing_sub_nests⟩ (by decide)⟩,
        by decide⟩
  refine ⟨?_, hsub, hmode, hother, hplain,
    fun h => absurd (h.distinct _ _ _ _ hmode hother rfl) (by decide)⟩
  rw [collect, collectFrom_fields]
  decide

end Collector

end WrapperGen
