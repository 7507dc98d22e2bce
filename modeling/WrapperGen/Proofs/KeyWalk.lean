import WrapperGen.Proofs.NestedSets

/-!
# The walk over the keys, without its checks

`keysBelow` passes over a class that is missing, and over one that is being walked already; the
second check is what makes it end. `Unfolds` is the walk without either: it has no rule for a
missing class and keeps no list of classes entered. Where a set is layered, the checks never decide
anything, and the two agree.
-/

namespace WrapperGen

/-- The key further in by several segments. -/
def OptionKey.below (k : OptionKey) (segments : List String) : OptionKey := ⟨k.segments ++ segments⟩

theorem OptionKey.child_below (k : OptionKey) (segment : String) (segments : List String) :
    (k.child segment).below segments = k.below (segment :: segments) := by
  simp [child, below]

/-- The keys below `parent` when every nest field is replaced by the fields of its class. -/
inductive Unfolds (nested : NestedClassSet) :
    OptionKey → List ConfigField → List OptionKey → Prop where
  | nil {parent : OptionKey} : Unfolds nested parent [] []
  | value {parent : OptionKey} {field : ValueField} {fields : List ConfigField}
      {keys : List OptionKey} :
      Unfolds nested parent fields keys →
      Unfolds nested parent (.value field :: fields) (parent.child field.key :: keys)
  | nest {parent : OptionKey} {field : NestField} {fields : List ConfigField} {c : NestedClass}
      {inside keys : List OptionKey} :
      nested.get? field.className = some c →
      Unfolds nested (parent.child field.key) c.fields inside →
      Unfolds nested parent fields keys →
      Unfolds nested parent (.nest field :: fields) (inside ++ keys)

/-- There is one unfolding at most. -/
theorem Unfolds.unique {nested : NestedClassSet} {parent : OptionKey} {fields : List ConfigField}
    {keys keys' : List OptionKey} (h : Unfolds nested parent fields keys)
    (h' : Unfolds nested parent fields keys') : keys = keys' := by
  induction h generalizing keys' with
  | nil => cases h'; rfl
  | value _ ih =>
      cases h' with
      | value hrest => rw [ih hrest]
  | nest hget _ _ ihinside ihrest =>
      cases h' with
      | nest hget' hinside hrest =>
          rw [hget] at hget'
          obtain rfl := Option.some.inj hget'
          rw [ihinside hinside, ihrest hrest]

theorem keysBelow_nest {nested : NestedClassSet} {entered : List String} {parent : OptionKey}
    {field : NestField} {fields : List ConfigField} {c : NestedClass}
    (hget : nested.get? field.className = some c) (hnew : c.name ∉ entered) :
    keysBelow nested entered parent (.nest field :: fields)
      = keysBelow nested (c.name :: entered) (parent.child field.key) c.fields
        ++ keysBelow nested entered parent fields := by
  rw [keysBelow]
  refine congrArg (· ++ _) ?_
  split
  · rename_i hnone
    rw [hget] at hnone
    exact absurd hnone (by simp)
  · rename_i d hsome
    obtain rfl : c = d := Option.some.inj (hget.symm.trans hsome)
    rw [dif_neg hnew]

/--
**In a layered set the checks of the walk never decide anything.**

The induction is on the number `k` of classes in front: fields that refer to these only are walked
with none of them entered. The class of a nest field stands at some place `j` before `k`, its own
fields refer to places before `j`, and it is the only one newly entered.
-/
theorem unfolds_keysBelow {nested : NestedClassSet} (h : Layered nested.classes) :
    ∀ (k : Nat) (entered : List String) (parent : OptionKey) (fields : List ConfigField),
      (∀ name ∈ references fields, ∃ j, j < k ∧ nested.names[j]? = some name) →
      (∀ j name, j < k → nested.names[j]? = some name → name ∉ entered) →
      Unfolds nested parent fields (keysBelow nested entered parent fields) := by
  intro k
  induction k using Nat.strongRecOn with
  | ind k ih =>
    intro entered parent fields hrefs hfree
    induction fields with
    | nil => rw [keysBelow]; exact .nil
    | cons field fields ihfields =>
      have hrest : Unfolds nested parent fields (keysBelow nested entered parent fields) := by
        refine ihfields (fun name hname => hrefs name ?_)
        obtain ⟨f, hf, hn⟩ := mem_references.mp hname
        exact mem_references.mpr ⟨f, List.mem_cons_of_mem _ hf, hn⟩
      cases field with
      | value field => rw [keysBelow]; exact .value hrest
      | nest field =>
        -- the class of the field stands at a place `j` in front of `k`
        obtain ⟨j, hj, hjn⟩ :=
          hrefs field.className (mem_references.mpr ⟨field, List.mem_cons_self, rfl⟩)
        obtain ⟨c, hc, hcn⟩ : ∃ c, nested.classes[j]? = some c ∧ c.name = field.className := by
          rw [NestedClassSet.names, List.getElem?_map] at hjn
          exact Option.map_eq_some_iff.mp hjn
        have hget : nested.get? field.className = some c := by
          rw [← hcn]
          exact NestedClassSet.get?_of_mem (List.mem_of_getElem? hc)
        have hnew : c.name ∉ entered := hfree j c.name hj (by rw [hcn]; exact hjn)
        rw [keysBelow_nest hget hnew]
        refine .nest hget (ih j hj _ _ _ (h.earlier j c hc) ?_) hrest
        intro i name hi hin hmem
        rcases List.mem_cons.mp hmem with hsame | hmem
        · -- names are distinct, so the class does not stand at two places
          have hlt : i < nested.names.length := (List.getElem?_eq_some_iff.mp hin).1
          have hij : i = j := by
            have hnodup : nested.names.Nodup := nested.distinct
            refine (List.getElem?_inj hlt hnodup).mp ?_
            rw [hin, hjn, hsame, hcn]
          omega
        · exact hfree i name (by omega) hin hmem

/-- The keys of a wrapper are the unfolding of its fields if these refer to
classes of a layered set. -/
theorem unfolds_keyPaths {nested : NestedClassSet} {fields : List ConfigField}
    (h : Layered nested.classes) (hfields : references fields ⊆ nested.names) :
    Unfolds nested OptionKey.root fields (keyPaths fields nested) := by
  refine unfolds_keysBelow h nested.names.length [] OptionKey.root fields ?_
    (fun _ _ _ _ => by simp)
  intro name hname
  obtain ⟨j, hj, hjn⟩ := List.mem_iff_getElem.mp (hfields hname)
  exact ⟨j, hj, by rw [List.getElem?_eq_getElem hj, hjn]⟩

end WrapperGen
