import WrapperGen.Proofs.Collecting
import WrapperGen.Proofs.NestedSets

/-!
# Flags decide nothing else

Whether an option can be subscribed to is a flag of the option, and nothing looks at it while
members are put together: classes are told apart by their names, and keys are made of names. So
changing every flag of what is collected, in whatever way, can be done before a step as well as
after it, and the keys stay as they are (`keyPaths_withFlags`).
-/

namespace WrapperGen

/-! ## Changing flags -/

/-- The member with its flag changed, if it is an option. -/
def ConfigField.withFlag (f : Bool → Bool) : ConfigField → ConfigField
  | value field => value { field with subscribe := f field.subscribe }
  | nest field => nest field

/-- The class with the flags of all its options changed. -/
def NestedClass.withFlags (f : Bool → Bool) (c : NestedClass) : NestedClass :=
  { c with fields := c.fields.map (ConfigField.withFlag f) }

/-- The classes with the flags of all their options changed. -/
def NestedClassSet.withFlags (f : Bool → Bool) (s : NestedClassSet) : NestedClassSet where
  classes := s.classes.map (NestedClass.withFlags f)
  distinct := by
    rw [List.map_map]
    exact s.distinct

/-- Everything that is collected, with the flags of all options changed. -/
def Collected.withFlags (f : Bool → Bool) (c : Collected) : Collected where
  fields := c.fields.map (ConfigField.withFlag f)
  nested := c.nested.withFlags f
  diagnostics := c.diagnostics

variable {f : Bool → Bool}

@[simp] theorem NestedClass.name_withFlags (c : NestedClass) : (c.withFlags f).name = c.name := rfl

theorem NestedClassSet.classes_withFlags (s : NestedClassSet) :
    (s.withFlags f).classes = s.classes.map (NestedClass.withFlags f) := rfl

theorem ConfigField.withFlag_id : ConfigField.withFlag id = id := by
  funext field
  cases field <;> rfl

/-- Flags that are changed to what they are stay the same. -/
theorem Collected.withFlags_id (c : Collected) : c.withFlags id = c := by
  have hclass : NestedClass.withFlags id = id := by
    funext cls
    rw [NestedClass.withFlags, ConfigField.withFlag_id, List.map_id]
    rfl
  have hnested : c.nested.withFlags id = c.nested := by
    apply NestedClassSet.ext_classes
    rw [NestedClassSet.classes_withFlags, hclass, List.map_id]
  rw [withFlags, hnested, ConfigField.withFlag_id, List.map_id]

/-! ## Sets of classes -/

namespace NestedClassSet

@[simp] theorem names_withFlags (s : NestedClassSet) : (s.withFlags f).names = s.names := by
  rw [names, withFlags, List.map_map]
  rfl

theorem withFlags_insert (s : NestedClassSet) (c : NestedClass) :
    (s.insert c).withFlags f = (s.withFlags f).insert (c.withFlags f) := by
  by_cases h : c.name ∈ s.names
  · rw [insert_of_mem h, insert_of_mem (by simpa using h)]
  · apply ext_classes
    rw [classes_insert_of_not_mem (by simpa using h), classes_withFlags,
      classes_insert_of_not_mem h, List.map_append]
    rfl

theorem withFlags_insertAll (s : NestedClassSet) (cs : List NestedClass) :
    (s.insertAll cs).withFlags f = (s.withFlags f).insertAll
      (cs.map (NestedClass.withFlags f)) := by
  induction cs generalizing s with
  | nil => rfl
  | cons c cs ih => rw [insertAll_cons, ih, withFlags_insert, List.map_cons, insertAll_cons]

theorem withFlags_merge (s t : NestedClassSet) :
    (s.merge t).withFlags f = (s.withFlags f).merge (t.withFlags f) :=
  withFlags_insertAll s t.classes

theorem get?_withFlags (s : NestedClassSet) (name : String) :
    (s.withFlags f).get? name = (s.get? name).map (NestedClass.withFlags f) := by
  rw [get?, withFlags, List.find?_map]
  rfl

end NestedClassSet

/-! ## Steps of collecting -/

namespace Collected

theorem withFlags_report (c : Collected) (d : Diagnostic) :
    (c.report d).withFlags f = (c.withFlags f).report d :=
  rfl

theorem withFlags_addValue (c : Collected) (field : ValueField) :
    (c.addValue field).withFlags f = (c.withFlags f).addValue
      { field with subscribe := f field.subscribe } := by
  simp [withFlags, addValue, ConfigField.withFlag]

theorem withFlags_addSection (c inside : Collected) (name className : String) :
    (c.addSection name className inside).withFlags f
      = (c.withFlags f).addSection name className (inside.withFlags f) := by
  have hnested : ((c.nested.merge inside.nested).insert ⟨className, inside.fields⟩).withFlags f
      = ((c.nested.withFlags f).merge (inside.nested.withFlags f)).insert
        ⟨className, inside.fields.map (ConfigField.withFlag f)⟩ := by
    rw [NestedClassSet.withFlags_insert, NestedClassSet.withFlags_merge]
    rfl
  simp [withFlags, addSection, hnested, ConfigField.withFlag]

end Collected

/-! ## Keys -/

/-- A section gives the keys inside its class, unless that is missing or being walked already. -/
theorem keysBelow_nest_eq (nested : NestedClassSet) (entered : List String) (parent : OptionKey)
    (field : NestField) (fields : List ConfigField) :
    keysBelow nested entered parent (.nest field :: fields)
      = (match nested.get? field.className with
          | none => []
          | some c =>
            if c.name ∈ entered then []
            else keysBelow nested (c.name :: entered) (parent.child field.key) c.fields)
        ++ keysBelow nested entered parent fields := by
  rw [keysBelow]
  refine congrArg (· ++ _) ?_
  split
  · rename_i hnone
    simp only [hnone]
  · rename_i c hsome
    simp only [hsome]
    rfl

theorem keysBelow_withFlags (nested : NestedClassSet) (entered : List String) (parent : OptionKey)
    (fields : List ConfigField) :
    keysBelow (nested.withFlags f) entered parent (fields.map (ConfigField.withFlag f))
      = keysBelow nested entered parent fields := by
  induction entered, parent, fields using keysBelow.induct nested with
  | case1 entered parent => rw [List.map_nil, keysBelow, keysBelow]
  | case2 entered parent field fields ih =>
    rw [List.map_cons, ConfigField.withFlag, keysBelow, keysBelow, ih]
  | case3 entered parent field fields ihinside ih =>
    rw [List.map_cons, ConfigField.withFlag, keysBelow_nest_eq, keysBelow_nest_eq, ih,
      NestedClassSet.get?_withFlags]
    refine congrArg (· ++ _) ?_
    cases hget : nested.get? field.className with
    | none => rfl
    | some c =>
      rw [Option.map_some]
      by_cases hentered : c.name ∈ entered
      · have hsame : (c.withFlags f).name ∈ entered := hentered
        simp only [if_pos hentered, if_pos hsame]
      · have hsame : (c.withFlags f).name ∉ entered := hentered
        simp only [if_neg hentered, if_neg hsame]
        exact ihinside c hget hentered

/-- **The keys do not depend on the flags.** -/
theorem keyPaths_withFlags (fields : List ConfigField) (nested : NestedClassSet) :
    keyPaths (fields.map (ConfigField.withFlag f)) (nested.withFlags f) = keyPaths fields nested :=
  keysBelow_withFlags nested [] OptionKey.root fields

end WrapperGen
