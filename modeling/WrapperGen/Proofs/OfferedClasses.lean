import Mathlib.Data.Finset.Card
import WrapperGen.Proofs.NestedSets

/-!
# Sets and what they were offered

A set of inner classes comes about by offering it classes and by merging in other sets, which
came about the same way. `Building` writes such a course down. Two things are read off it:
`offered`, the classes that were ever offered, and `replies`, what the set replied to each of
those it was offered itself.

A set that is merged in leaves out the classes it turned away. But each of these had a namesake that
was offered before it and is still there, so nothing is lost: a set is that of all classes ever
offered (`set_eq_ofList`). What is said of a building is then said of `ofList`, and the laws of
merging are laws of offering the classes of one set after those of another.

Sets are compared here with the fields of their classes; `hasSameNames` compares the names alone.
-/

namespace WrapperGen

namespace NestedClassSet

/-! ## The reply to a class -/

theorem contains_iff {s : NestedClassSet} {name : String} :
    s.contains name = true ↔ name ∈ s.names :=
  List.contains_iff_mem

/-- A name is taken when a class can be looked up by it. -/
theorem contains_eq_isSome_get? (s : NestedClassSet) (name : String) :
    s.contains name = (s.get? name).isSome := by
  rw [Bool.eq_iff_iff, contains_iff]
  constructor
  · intro h
    obtain ⟨c, hc⟩ := exists_get?_of_mem_names h
    rw [hc, Option.isSome_some]
  · intro h
    obtain ⟨c, hc⟩ := Option.isSome_iff_exists.mp h
    rw [← get?_name hc]
    exact List.mem_map_of_mem (get?_mem hc)

@[simp] theorem offer_fst (s : NestedClassSet) (c : NestedClass) : (s.offer c).1 = s.insert c := by
  unfold offer
  split
  · rename_i h
    exact (insert_of_mem (contains_iff.mp h)).symm
  · rfl

@[simp] theorem offer_snd (s : NestedClassSet) (c : NestedClass) :
    (s.offer c).2 = !s.contains c.name := by
  unfold offer
  split
  · rename_i h
    rw [h]
    rfl
  · rename_i h
    simp [h]

/-- The replies to classes that are offered one after the other. -/
def replies (s : NestedClassSet) : List NestedClass → List (NestedClass × Bool)
  | [] => []
  | c :: cs => (c, (s.offer c).2) :: (s.offer c).1.replies cs

/-- The classes that were added, by the replies. -/
def added (replies : List (NestedClass × Bool)) : List NestedClass :=
  (replies.filter Prod.snd).map Prod.fst

theorem added_append (before after : List (NestedClass × Bool)) :
    added (before ++ after) = added before ++ added after := by
  simp [added]

/-- Offering a class adds it where the reply says so. -/
theorem classes_insert (s : NestedClassSet) (c : NestedClass) :
    (s.insert c).classes = s.classes ++ added [(c, (s.offer c).2)] := by
  rw [offer_snd]
  by_cases h : c.name ∈ s.names
  · rw [insert_of_mem h, contains_iff.mpr h]
    simp [added]
  · rw [classes_insert_of_not_mem h, Bool.eq_false_iff.mpr (mt contains_iff.mp h)]
    rfl

theorem classes_insertAll (s : NestedClassSet) (cs : List NestedClass) :
    (s.insertAll cs).classes = s.classes ++ added (s.replies cs) := by
  induction cs generalizing s with
  | nil => simp [replies, added]
  | cons c cs ih =>
      rw [insertAll_cons, ih, classes_insert, replies, offer_fst, List.append_assoc, ← added_append]
      rfl

/-! ## The set of some classes -/

theorem ofList_append (cs ds : List NestedClass) : ofList (cs ++ ds) = (ofList cs).insertAll ds :=
  insertAll_append {} cs ds

/-- One more element is new or stands there already. -/
theorem eraseDups_concat (names : List String) (name : String) :
    (names ++ [name]).eraseDups = if name ∈ names then names.eraseDups
      else names.eraseDups ++ [name] := by
  rw [List.eraseDups_append, List.removeAll]
  by_cases h : name ∈ names
  · simp [h]
  · simp [h, List.eraseDups_cons]

/-- **The names of a set stand in the order in which they were first offered.** -/
theorem names_ofList (cs : List NestedClass) :
    (ofList cs).names = (cs.map NestedClass.name).eraseDups := by
  induction cs using List.reverseRecOn with
  | nil => rfl
  | append_singleton cs c ih =>
      -- the last class is added to the set of those before it unless one of them has its name
      have hoffered : c.name ∈ (ofList cs).names ↔ c.name ∈ cs.map NestedClass.name := by
        rw [ih, List.mem_eraseDups]
      rw [ofList_append, insertAll_cons, insertAll_nil, List.map_append, List.map_singleton,
        eraseDups_concat, ← ih]
      by_cases h : c.name ∈ (ofList cs).names
      · rw [insert_of_mem h, if_pos (hoffered.mp h)]
      · rw [if_neg (mt hoffered.mpr h), names, classes_insert_of_not_mem h, List.map_append]
        rfl

theorem size_eq_card_names (s : NestedClassSet) : s.size = s.names.toFinset.card := by
  have hdistinct : s.names.Nodup := s.distinct
  rw [List.toFinset_card_of_nodup hdistinct, names, List.length_map, size]

/-- There are as many classes as names that were offered. -/
theorem size_ofList (cs : List NestedClass) :
    (ofList cs).size = (cs.map NestedClass.name).toFinset.card := by
  have hsame : (cs.map NestedClass.name).eraseDups.toFinset
      = (cs.map NestedClass.name).toFinset := by
    ext name
    rw [List.mem_toFinset, List.mem_toFinset, List.mem_eraseDups]
  rw [size_eq_card_names, names_ofList, hsame]

/-! ## The laws of merging -/

theorem insertAll_of_subset {s : NestedClassSet} {cs : List NestedClass}
    (h : cs.map NestedClass.name ⊆ s.names) :
    s.insertAll cs = s := by
  induction cs with
  | nil => rfl
  | cons c cs ih =>
      rw [List.map_cons, List.cons_subset] at h
      rw [insertAll_cons, insert_of_mem h.1, ih h.2]

/-- **Merging changes nothing just where all names are taken.** -/
theorem merge_eq_left_iff {s t : NestedClassSet} : s.merge t = s ↔ t.names ⊆ s.names := by
  constructor
  · intro h name hname
    rw [← h]
    exact mem_names_merge.mpr (Or.inr hname)
  · exact insertAll_of_subset

/-- Classes with new names are all added. -/
theorem classes_insertAll_of_nodup {s : NestedClassSet} {cs : List NestedClass}
    (h : (s.names ++ cs.map NestedClass.name).Nodup) :
    (s.insertAll cs).classes = s.classes ++ cs := by
  induction cs generalizing s with
  | nil => simp
  | cons c cs ih =>
      have hnew : c.name ∉ s.names := fun hmem =>
        (List.nodup_append.mp h).2.2 c.name hmem c.name (by simp) rfl
      have hclasses := classes_insert_of_not_mem hnew
      have hnames : (s.insert c).names = s.names ++ [c.name] := by
        rw [names, hclasses, List.map_append]
        rfl
      rw [insertAll_cons, ih (by rw [hnames, List.append_assoc]; exact h), hclasses,
        List.append_assoc]
      rfl

/-- The empty set takes over what is merged into it. -/
theorem empty_merge (s : NestedClassSet) : merge {} s = s :=
  ext_classes (classes_insertAll_of_nodup s.distinct)

/-- What a set adds to another is offered to a third as if both were offered in turn. -/
theorem merge_assoc (s t u : NestedClassSet) : (s.merge t).merge u = s.merge (t.merge u) :=
  (merge_insertAll s t u.classes).symm

/-! ## Buildings -/

/-- How a set came about, from the empty set by offering classes and merging in other sets. -/
inductive Building where
  | empty
  | insert (before : Building) (c : NestedClass)
  | merge (before other : Building)

namespace Building

/-- The set that comes about. -/
def set : Building → NestedClassSet
  | empty => {}
  | insert before c => (before.set.offer c).1
  | merge before other => before.set.merge other.set

/-- Every class that was ever offered, to the set itself or to one that was merged in, in order. -/
def offered : Building → List NestedClass
  | empty => []
  | insert before c => before.offered ++ [c]
  | merge before other => before.offered ++ other.offered

/-- What the set replied to the classes that it was offered, among them those
of the sets merged in. -/
def replies : Building → List (NestedClass × Bool)
  | empty => []
  | insert before c => before.replies ++ [(c, (before.set.offer c).2)]
  | merge before other => before.replies ++ before.set.replies other.set.classes

/-- **A set is that of all classes ever offered**, also of those that a set
merged in had turned away. -/
theorem set_eq_ofList (b : Building) : b.set = ofList b.offered := by
  induction b with
  | empty => rfl
  | insert before c ih =>
      rw [set, offer_fst, ih, offered, ofList_append]
      rfl
  | merge before other ihbefore ihother =>
      rw [set, ihbefore, ihother, merge_ofList, offered, ofList_append]

/-- **A set has the classes that it replied to by adding them**, in the order of the replies. -/
theorem classes_set (b : Building) : b.set.classes = added b.replies := by
  induction b with
  | empty => rfl
  | insert before c ih => rw [set, offer_fst, classes_insert, ih, replies, added_append]
  | merge before other ihbefore _ =>
      rw [set, NestedClassSet.merge, classes_insertAll, ihbefore, replies, added_append]

end Building

/--
**A set holds the first class of each name that it was ever offered.**

However it came about: its names stand in the order in which they were first offered, once
each; a name is looked up to the first class of that name, and to none where none was offered;
and its classes are those that were added by the replies, a class being added when its name
could not be looked up before.

Merging is associative, the empty set changes nothing on either side, and a set changes nothing just
where all its names are there already.
-/
theorem holds_first_offered :
    (∀ b : Building, b.set.names.Nodup
        ∧ b.set.names = (b.offered.map NestedClass.name).eraseDups
        ∧ b.set.size = (b.offered.map NestedClass.name).toFinset.card
        ∧ (∀ name, b.set.get? name = b.offered.find? (·.name == name)
            ∧ (b.set.get? name = none ↔ ∀ c ∈ b.offered, c.name ≠ name)
            ∧ b.set.contains name = (b.set.get? name).isSome)
        ∧ b.set.classes = added b.replies
        ∧ ∀ c, (b.set.offer c).2 = (b.set.get? c.name).isNone)
      ∧ (∀ s t u : NestedClassSet, (s.merge t).merge u = s.merge (t.merge u))
      ∧ (∀ s : NestedClassSet, merge {} s = s ∧ s.merge {} = s)
      ∧ ∀ s t : NestedClassSet, s.merge t = s ↔ t.names ⊆ s.names := by
  refine ⟨fun b => ?_, merge_assoc, fun s => ⟨empty_merge s, rfl⟩, fun s t => merge_eq_left_iff⟩
  have hfirst : ∀ name, b.set.get? name = b.offered.find? (·.name == name) := by
    intro name
    rw [b.set_eq_ofList, get?_ofList]
  refine ⟨b.set.distinct, ?_, ?_, fun name => ⟨hfirst name, ?_, contains_eq_isSome_get? b.set name⟩,
    b.classes_set, fun c => ?_⟩
  · rw [b.set_eq_ofList, names_ofList]
  · rw [b.set_eq_ofList, size_ofList]
  · rw [hfirst, List.find?_eq_none]
    simp only [beq_iff_eq, ne_eq]
  · rw [offer_snd, contains_eq_isSome_get?, Option.not_isSome]

end NestedClassSet

end WrapperGen
