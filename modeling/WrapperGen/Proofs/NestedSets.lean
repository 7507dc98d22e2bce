import Mathlib.Data.List.Nodup
import WrapperGen.Model

/-!
# What a set of inner classes remembers

A set is built by offering it classes one after the other. It keeps the first of each name, in the
order in which they were offered, and merging in another set offers it the classes of that set. So a
set says of a name exactly what the list of everything ever offered says: `get?_ofList`.

The second half is about the references between the classes. A list of classes is *layered* when
each class refers to earlier ones only, and offering classes that refer to what is there already
keeps it so, whether or not they are taken.
-/

namespace WrapperGen

namespace NestedClassSet

theorem ext_classes {s t : NestedClassSet} (h : s.classes = t.classes) : s = t := by
  cases s
  cases t
  congr

/-! ## Offering one class -/

theorem insert_of_mem {s : NestedClassSet} {c : NestedClass} (h : c.name ∈ s.names) :
    s.insert c = s := by
  unfold insert
  exact dif_pos h

theorem classes_insert_of_not_mem {s : NestedClassSet} {c : NestedClass} (h : c.name ∉ s.names) :
    (s.insert c).classes = s.classes ++ [c] := by
  unfold insert
  split
  · rename_i hc
    exact absurd hc h
  · rfl

theorem mem_names_insert {s : NestedClassSet} {c : NestedClass} {name : String} :
    name ∈ (s.insert c).names ↔ name ∈ s.names ∨ name = c.name := by
  by_cases h : c.name ∈ s.names
  · rw [insert_of_mem h]
    constructor
    · exact Or.inl
    · rintro (hn | rfl)
      · exact hn
      · exact h
  · simp [names, classes_insert_of_not_mem h]

/-- A class can be looked up by its own name. -/
theorem get?_name {s : NestedClassSet} {name : String} {c : NestedClass}
    (h : s.get? name = some c) :
    c.name = name := by
  have := List.find?_some h
  simpa using this

/-- The name of a class determines the class. -/
theorem get?_of_mem {s : NestedClassSet} {c : NestedClass} (h : c ∈ s.classes) :
    s.get? c.name = some c := by
  obtain ⟨d, hd⟩ : ∃ d, s.get? c.name = some d := by
    cases hg : s.get? c.name with
    | some d => exact ⟨d, rfl⟩
    | none =>
        rw [get?, List.find?_eq_none] at hg
        exact absurd (beq_self_eq_true c.name) (hg c h)
  have hname := get?_name hd
  -- no two classes have the same name, so the one found is `c`
  have hsame : d = c := List.inj_on_of_nodup_map s.distinct (get?_mem hd) h hname
  rw [hd, hsame]

theorem exists_get?_of_mem_names {s : NestedClassSet} {name : String} (h : name ∈ s.names) :
    ∃ c, s.get? name = some c := by
  obtain ⟨c, hc, rfl⟩ := List.mem_map.mp h
  exact ⟨c, get?_of_mem hc⟩

theorem get?_insert {s : NestedClassSet} {c : NestedClass} {name : String} :
    (s.insert c).get? name = (s.get? name).or (if c.name = name then some c else none) := by
  by_cases h : c.name ∈ s.names
  · rw [insert_of_mem h]
    by_cases hn : c.name = name
    · -- the class is not taken, but neither is it looked up
      subst hn
      obtain ⟨d, hd⟩ := exists_get?_of_mem_names h
      rw [hd, Option.some_or]
    · rw [if_neg hn, Option.or_none]
  · rw [get?, classes_insert_of_not_mem h, List.find?_append, List.find?_singleton]
    simp [get?]

/-! ## Offering many -/

@[simp] theorem insertAll_nil (s : NestedClassSet) : s.insertAll [] = s := rfl

@[simp] theorem insertAll_cons (s : NestedClassSet) (c : NestedClass) (cs : List NestedClass) :
    s.insertAll (c :: cs) = (s.insert c).insertAll cs := rfl

theorem insertAll_append (s : NestedClassSet) (cs ds : List NestedClass) :
    s.insertAll (cs ++ ds) = (s.insertAll cs).insertAll ds :=
  List.foldl_append

theorem mem_names_insertAll {s : NestedClassSet} {cs : List NestedClass} {name : String} :
    name ∈ (s.insertAll cs).names ↔ name ∈ s.names ∨ name ∈ cs.map NestedClass.name := by
  induction cs generalizing s with
  | nil => simp
  | cons c cs ih =>
      rw [insertAll_cons, ih, mem_names_insert, List.map_cons, List.mem_cons, or_assoc]

theorem mem_names_merge {s t : NestedClassSet} {name : String} :
    name ∈ (s.merge t).names ↔ name ∈ s.names ∨ name ∈ t.names :=
  mem_names_insertAll

theorem get?_insertAll {s : NestedClassSet} {cs : List NestedClass} {name : String} :
    (s.insertAll cs).get? name = (s.get? name).or (cs.find? (·.name == name)) := by
  induction cs generalizing s with
  | nil => simp
  | cons c cs ih =>
      rw [insertAll_cons, ih, get?_insert, List.find?_cons, Option.or_assoc]
      by_cases h : c.name = name
      · simp [h]
      · have hne : (c.name == name) = false := by simpa using h
        rw [if_neg h, hne, Option.none_or]

/-- **A set says of a name what the classes offered say**: the first of that
name, if there is any. -/
theorem get?_ofList {cs : List NestedClass} {name : String} :
    (ofList cs).get? name = cs.find? (·.name == name) := by
  rw [ofList, get?_insertAll]
  rfl

/-! ## Merging -/

/-- Offering a class to a set that is merged in afterwards is offering it last. -/
theorem merge_insert (s t : NestedClassSet) (c : NestedClass) :
    s.merge (t.insert c) = (s.merge t).insert c := by
  by_cases h : c.name ∈ t.names
  · -- a name that is taken before merging is taken after it
    rw [insert_of_mem h, insert_of_mem (mem_names_merge.mpr (Or.inr h))]
  · rw [merge, classes_insert_of_not_mem h, insertAll_append]
    rfl

theorem merge_insertAll (s t : NestedClassSet) (cs : List NestedClass) :
    s.merge (t.insertAll cs) = (s.merge t).insertAll cs := by
  induction cs generalizing t with
  | nil => rfl
  | cons c cs ih => rw [insertAll_cons, ih, merge_insert, insertAll_cons]

/-- **Merging in a set offers everything that was ever offered to it**,
also what it did not take. -/
theorem merge_ofList (s : NestedClassSet) (cs : List NestedClass) :
    s.merge (ofList cs) = s.insertAll cs := by
  rw [ofList, merge_insertAll]
  rfl

end NestedClassSet

/-! ## References between classes -/

/-- The names of the classes that some fields refer to. -/
def references (fields : List ConfigField) : List String :=
  fields.filterMap fun
    | .nest field => some field.className
    | .value _ => none

theorem mem_references {fields : List ConfigField} {name : String} :
    name ∈ references fields ↔ ∃ field : NestField, .nest field ∈ fields
      ∧ field.className = name := by
  rw [references, List.mem_filterMap]
  constructor
  · rintro ⟨field, hf, hn⟩
    cases field with
    | value field => exact absurd hn (by simp)
    | nest field => exact ⟨field, hf, Option.some.inj hn⟩
  · rintro ⟨field, hf, hn⟩
    exact ⟨.nest field, hf, congrArg some hn⟩

/-- Classes of which each refers to earlier ones only. -/
inductive Layered : List NestedClass → Prop where
  | nil : Layered []
  | snoc {cs : List NestedClass} {c : NestedClass} :
      Layered cs → references c.fields ⊆ cs.map NestedClass.name → Layered (cs ++ [c])

/-- Offering a class that refers to what is there keeps the classes layered. -/
theorem Layered.insert {s : NestedClassSet} {c : NestedClass}
    (h : Layered s.classes) (hc : references c.fields ⊆ s.names) :
    Layered (s.insert c).classes := by
  by_cases hn : c.name ∈ s.names
  · rw [NestedClassSet.insert_of_mem hn]
    exact h
  · rw [NestedClassSet.classes_insert_of_not_mem hn]
    exact .snoc h hc

/-- A layered list may be offered to any layered set. -/
theorem Layered.insertAll {s : NestedClassSet} {cs : List NestedClass}
    (hs : Layered s.classes) (hcs : Layered cs) : Layered (s.insertAll cs).classes := by
  induction hcs with
  | nil => exact hs
  | @snoc cs c _ hc ih =>
      rw [NestedClassSet.insertAll_append]
      refine Layered.insert ih (fun name hname => ?_)
      exact NestedClassSet.mem_names_insertAll.mpr (Or.inr (hc hname))

theorem Layered.merge {s t : NestedClassSet} (hs : Layered s.classes) (ht : Layered t.classes) :
    Layered (s.merge t).classes :=
  hs.insertAll ht

/-- Each class of a layered list refers to names at earlier places. -/
theorem Layered.earlier {cs : List NestedClass} (h : Layered cs) :
    ∀ (i : Nat) (c : NestedClass), cs[i]? = some c → ∀ name ∈ references c.fields,
      ∃ j, j < i ∧ (cs.map NestedClass.name)[j]? = some name := by
  induction h with
  | nil => intro i c hc; simp at hc
  | @snoc cs d _ hd ih =>
      intro i c hc name hname
      rw [List.map_append]
      by_cases hi : i < cs.length
      · rw [List.getElem?_append_left hi] at hc
        obtain ⟨j, hj, hjn⟩ := ih i c hc name hname
        refine ⟨j, hj, ?_⟩
        rw [List.getElem?_append_left (by rw [List.length_map]; omega)]
        exact hjn
      · -- only the class behind all others is left
        rw [List.getElem?_append_right (by omega)] at hc
        have hlast : i - cs.length = 0 := by
          by_contra hne
          rw [List.getElem?_eq_none (by simp; omega)] at hc
          exact absurd hc (by simp)
        rw [hlast] at hc
        obtain rfl : d = c := by simpa using hc
        obtain ⟨j, hj, hjn⟩ := List.mem_iff_getElem.mp (hd hname)
        have hjlen : j < cs.length := by simpa using hj
        refine ⟨j, by omega, ?_⟩
        rw [List.getElem?_append_left hj, List.getElem?_eq_getElem hj, hjn]

end WrapperGen
