import WrapperGen.Symbols.Source

/-!
# The members of a wrapper

A wrapper has a member for every stored property of its model: an option for a plain value, an inner
class for a nested section. Inner classes are known by their simple name alone, so two sections
whose declarations share it also share the class, and the first one counts.
-/

namespace WrapperGen

/-! ## Option keys -/

/-- The place of an option in the store, a path of sections from the root. -/
structure OptionKey where
  segments : List String := []
deriving DecidableEq, Repr, Inhabited

namespace OptionKey

/-- The root of the keys of a wrapper. -/
def root : OptionKey := {}

/-- The key one section further in. -/
def child (k : OptionKey) (segment : String) : OptionKey := ⟨k.segments ++ [segment]⟩

/-- The text of a key. -/
def text (k : OptionKey) : String := Text.joined "." k.segments

/-- Keys are ordered segment by segment. -/
def compare (a b : OptionKey) : Ordering := Ord.compare a.segments b.segments

end OptionKey

/-! ## Members -/

/-- An option. -/
structure ValueField where
  name : String
  /-- The segment of its key. -/
  key : String
  /-- The declared type as the wrapper writes it. -/
  typeText : String
  mutable : Bool
  /-- Whether changes can be subscribed to. -/
  subscribe : Bool
deriving DecidableEq, Repr, Inhabited

/-- A nested section. -/
structure NestField where
  name : String
  /-- The segment that it adds to the keys inside. -/
  key : String
  /-- The inner class that holds its members. -/
  className : String
deriving DecidableEq, Repr, Inhabited

/-- A member of a wrapper or of an inner class. -/
inductive ConfigField where
  | value (field : ValueField)
  | nest (field : NestField)
deriving DecidableEq, Repr

/-- The name of a member. -/
def ConfigField.name : ConfigField → String
  | value field => field.name
  | nest field => field.name

/-- The key segment of a member. -/
def ConfigField.key : ConfigField → String
  | value field => field.key
  | nest field => field.key

/-- The inner class of a section. -/
structure NestedClass where
  name : String
  fields : List ConfigField
deriving DecidableEq, Repr

/-! ## Inner classes -/

/-- Inner classes in the order in which they were first met, no two with the same name. -/
structure NestedClassSet where
  classes : List NestedClass := []
  distinct : (classes.map NestedClass.name).Nodup := by exact List.nodup_nil

namespace NestedClassSet

instance : Inhabited NestedClassSet := ⟨{}⟩

/-- The names of the classes in order. -/
def names (s : NestedClassSet) : List String := s.classes.map NestedClass.name

/-- How many classes there are. -/
def size (s : NestedClassSet) : Nat := s.classes.length

/-- Whether there is a class of this name. -/
def contains (s : NestedClassSet) (name : String) : Bool := s.names.contains name

/-- The class of this name. -/
def get? (s : NestedClassSet) (name : String) : Option NestedClass :=
  s.classes.find? (·.name == name)

/-- The set with a class added, unless its name is taken. -/
def insert (s : NestedClassSet) (c : NestedClass) : NestedClassSet :=
  if h : c.name ∈ s.classes.map NestedClass.name then s
  else {
    classes := s.classes ++ [c]
    distinct := by
      rw [List.map_append, List.nodup_append]
      refine ⟨s.distinct, by simp, ?_⟩
      intro a ha b hb same
      simp only [List.map_cons, List.map_nil, List.mem_singleton] at hb
      exact h (hb ▸ same ▸ ha) }

/-- Offers a class to a set: the set with the class added, and whether it was; it is not
when its name is taken. -/
def offer (s : NestedClassSet) (c : NestedClass) : NestedClassSet × Bool :=
  if s.contains c.name then (s, false) else (s.insert c, true)

/-- The set with several classes added one by one. -/
def insertAll (s : NestedClassSet) (classes : List NestedClass) : NestedClassSet :=
  classes.foldl insert s

/-- The set with the classes of another added; of two with the same name the
one already there stays. -/
def merge (s t : NestedClassSet) : NestedClassSet := s.insertAll t.classes

/-- The set of some classes. -/
def ofList (classes : List NestedClass) : NestedClassSet := insertAll {} classes

/-- Whether two sets have the same names in the same order. -/
def hasSameNames (s t : NestedClassSet) : Bool := s.names == t.names

theorem get?_mem {s : NestedClassSet} {name : String} {c : NestedClass} (h : s.get? name = some c) :
    c ∈ s.classes :=
  List.mem_of_find?_eq_some h

/-- The names of the classes that are not among `entered`. -/
def unentered (s : NestedClassSet) (entered : List String) : List String :=
  s.names.filter (· ∉ entered)

/-- Entering a class leaves fewer to enter. -/
theorem unentered_lt {s : NestedClassSet} {entered : List String} {c : NestedClass}
    (mem : c ∈ s.classes) (new : c.name ∉ entered) :
    (s.unentered (c.name :: entered)).length < (s.unentered entered).length := by
  have named : c.name ∈ s.unentered entered :=
    List.mem_filter.mpr ⟨List.mem_map_of_mem mem, by simpa using new⟩
  have sub : s.unentered (c.name :: entered) = (s.unentered entered).filter (· ≠ c.name) := by
    simp only [unentered, List.filter_filter]
    apply List.filter_congr
    intro x _
    simp [not_or]
  rw [sub]
  exact List.length_filter_lt_length_iff_exists.mpr ⟨c.name, named, by simp⟩

end NestedClassSet

/-! ## The keys of all options -/

/-- The keys of the options among some fields and in the sections they open, below
`parent`. The classes in `entered` are being walked already and not entered again, which is
what makes the walk end. -/
def keysBelow (nested : NestedClassSet) (entered : List String) (parent : OptionKey) :
    List ConfigField → List OptionKey
  | [] => []
  | .value field :: fields => parent.child field.key :: keysBelow nested entered parent fields
  | .nest field :: fields =>
    let inside := match h : nested.get? field.className with
      | none => []
      | some c =>
        if new : c.name ∈ entered then []
        else
          have := NestedClassSet.unentered_lt (NestedClassSet.get?_mem h) new
          keysBelow nested (c.name :: entered) (parent.child field.key) c.fields
    inside ++ keysBelow nested entered parent fields
termination_by fields => ((nested.unentered entered).length, fields.length)

/-- The keys of all options of a wrapper, sections in the place of the field that opens them. -/
def keyPaths (fields : List ConfigField) (nested : NestedClassSet) : List OptionKey :=
  keysBelow nested [] OptionKey.root fields

/-! ## Models -/

/-- A declaration for which a wrapper is generated. -/
structure ConfigModel where
  declaration : DeclarationId
  name : ClassName
  /-- The simple name of the wrapper. -/
  wrapperName : String
  /-- Whether every option can be subscribed to. -/
  defaultHook : Bool
  /-- The source file of the model, when known. -/
  source : Option String
deriving DecidableEq, Repr

/-- The package of a model, in which its wrapper is put as well. -/
def ConfigModel.package (m : ConfigModel) : String := m.name.package

end WrapperGen
