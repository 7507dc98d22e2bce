import WrapperGen.Proofs.Emitting
import WrapperGen.Proofs.OutputPaths
import WrapperGen.Proofs.Resolution

/-!
# The names of members

What a class declares can be read off its source: a property behind `val` or `var`, a function
behind `fun`. The wrapper and the inner classes declare their fields, and besides these the key that
they are rooted at (`properties_wrapperClass`, `properties_innerClass`). The fields are called like
properties of one declaration (`sublist_names`), so their names are as distinct as those are.

Members can still have the same name. A field may be called like the key, and the names of two
options may differ in the case of their first letter only, which their subscriptions do not keep.
Nothing else can happen (`distinct_members_iff`).
-/

namespace WrapperGen

open Text

namespace Block

/-! ## Reading declarations -/

/-- The property that a text declares: the name behind `val` or `var`, private or not. -/
def property? (text : List Char) : Option String :=
  let declaration := ("private ".toList.isPrefixOf? text).getD text
  (("val ".toList.isPrefixOf? declaration).or
    ("var ".toList.isPrefixOf? declaration)).map fun name =>
    String.ofList (name.takeWhile isIdentifierPart)

/-- The function that a header declares: what stands between `fun` and the bracket. -/
def function? (header : List Char) : Option String :=
  ("fun ".toList.isPrefixOf? header).map fun name => String.ofList (name.takeWhile (· ≠ '('))

/-- What stands behind the last bracket that opens. -/
def lastBracket (header : List Char) : List Char := (header.reverse.takeWhile (· ≠ '(')).reverse

/-- The property that a piece of a class declares. -/
def properties : Block → List String
  | line text => (property? text.toList).toList
  | blank => []
  | braces _ _ => []

/-- The function that a piece of a class declares. -/
def functions : Block → List String
  | line _ => []
  | blank => []
  | braces header _ => (function? header.toList).toList

/-- Whether a header declares a class. -/
def isClass (header : String) : Bool :=
  "class ".toList.isPrefixOf header.toList || "inner class ".toList.isPrefixOf header.toList

end Block

/-- A class in a source. -/
structure ClassText where
  header : String
  body : List Block

namespace ClassText

/-- The properties that a class declares: one that its constructor takes, and those in its body. -/
def properties (c : ClassText) : List String :=
  (Block.property? (Block.lastBracket c.header.toList)).toList ++ c.body.flatMap Block.properties

/-- The functions that a class declares in its body. -/
def functions (c : ClassText) : List String := c.body.flatMap Block.functions

end ClassText

namespace Block

mutual

/-- The classes in a piece of source, outermost first. -/
def classes : Block → List ClassText
  | line _ => []
  | blank => []
  | braces header body => (if isClass header then [⟨header, body⟩] else []) ++ allClasses body

/-- The classes in several pieces of source. -/
def allClasses : List Block → List ClassText
  | [] => []
  | b :: bs => b.classes ++ allClasses bs

end

/-- The class that is declared by a block in braces. -/
def classText : Block → ClassText
  | line _ => ⟨"", []⟩
  | blank => ⟨"", []⟩
  | braces header body => ⟨header, body⟩

theorem allClasses_eq_flatMap (bs : List Block) : allClasses bs = bs.flatMap classes := by
  induction bs with
  | nil => rfl
  | cons b bs ih => rw [allClasses, List.flatMap_cons, ih]

theorem classes_of_isClass {header : String} (h : isClass header = true) (body : List Block) :
    (braces header body).classes = ⟨header, body⟩ :: allClasses body := by
  rw [classes, if_pos h, List.singleton_append]

theorem classes_of_not_isClass {header : String} (h : isClass header = false) (body : List Block) :
    (braces header body).classes = allClasses body := by
  rw [classes, h]
  rfl

/-- A name ends where no identifier goes on. -/
theorem takeWhile_identifier {x : String} {s : List Char} (hx : isIdentifier x = true)
    (hs : EndsWord s) :
    (x.toList ++ s).takeWhile isIdentifierPart = x.toList := by
  rw [List.takeWhile_append_of_pos fun c hc => isIdentifierPart_of_isIdentifier hx hc]
  cases s with
  | nil => rw [List.takeWhile_nil, List.append_nil]
  | cons c s => rw [List.takeWhile_cons_of_neg (by rw [hs c s rfl]; decide), List.append_nil]

theorem lastBracket_append {s : List Char} (before : List Char) (h : '(' ∉ s) :
    lastBracket (before ++ '(' :: s) = s := by
  have hbehind : ∀ c ∈ s.reverse, decide (c ≠ '(') = true := fun c hc =>
    decide_eq_true fun heq => h (heq ▸ List.mem_reverse.mp hc)
  rw [lastBracket, List.reverse_append, List.reverse_cons, List.append_assoc,
    List.takeWhile_append_of_pos hbehind, List.singleton_append,
    List.takeWhile_cons_of_neg (by simp), List.append_nil, List.reverse_reverse]

end Block

namespace Wrapper

open Block

/-! ## Single members -/

/-- The function that subscribes to the option of this name. -/
def subscribing (name : String) : String := "subscribeTo" ++ capitalized name

theorem property?_optionLine {f : ValueField} (h : isIdentifier f.name = true) :
    property? (optionLine f).toList = some f.name := by
  rw [optionLine_toList]
  have hname := takeWhile_identifier h (endsWord_cons (by decide : isIdentifierPart ':' = false)
    (' ' :: (f.typeText.toList ++ " by optionForKey(parentKey.child(".toList ++ '"' :: f.key.toList
        ++ "\"))!!".toList)))
  cases f.mutable with
  | true =>
      exact congrArg (some ∘ String.ofList) hname |>.trans (congrArg some String.ofList_toList)
  | false =>
      exact congrArg (some ∘ String.ofList) hname |>.trans (congrArg some String.ofList_toList)

theorem property?_sectionLine {f : NestField} (h : isIdentifier f.name = true) :
    property? (sectionLine f).toList = some f.name := by
  rw [sectionLine_toList]
  have hname := takeWhile_identifier h (endsWord_cons (by decide : isIdentifierPart ' ' = false)
    ('=' :: ' ' :: (f.className.toList ++ '('
        :: ("parentKey.child(\"".toList ++ (f.key.toList ++ "\"))".toList)))))
  exact congrArg (some ∘ String.ofList) hname |>.trans (congrArg some String.ofList_toList)

theorem function?_subscription {f : ValueField} (h : isIdentifier f.name = true) :
    function? ("fun subscribeTo" ++ capitalized f.name ++ "(subscriber: (" ++ f.typeText
      ++ ") -> Unit)").toList
      = some (subscribing f.name) := by
  have hname : ∀ c ∈ (subscribing f.name).toList, decide (c ≠ '(') = true := by
    have hcapital :=
      notMem_capitalized h (by decide : isIdentifierPart '(' = false) (by decide) (by decide)
    have hword : '(' ∉ "subscribeTo".toList := by decide
    refine fun c hc => decide_eq_true ?_
    rintro rfl
    rw [subscribing, String.toList_append, List.mem_append] at hc
    exact hc.elim hword hcapital
  have htext : ("fun subscribeTo" ++ capitalized f.name ++ "(subscriber: (" ++ f.typeText
      ++ ") -> Unit)").toList
      = "fun ".toList ++ ((subscribing f.name).toList
        ++ '(' :: ("subscriber: (" ++ f.typeText ++ ") -> Unit)").toList) := by
    simp [subscribing]
  rw [function?, htext, List.isPrefixOf?_eq_some_iff_append_eq.mpr rfl, Option.map_some,
    List.takeWhile_append_of_pos hname, List.takeWhile_cons_of_neg (by simp), List.append_nil,
    String.ofList_toList]

/-! ## Members -/

/-- The name of an option that can be subscribed to. -/
def subscribed? : ConfigField → Option String
  | .value f => if f.subscribe then some f.name else none
  | .nest _ => none

theorem properties_memberBlocks {f : ConfigField} (h : isIdentifier f.name = true) :
    (memberBlocks f).flatMap Block.properties = [f.name] := by
  cases f with
  | value f =>
      rw [memberBlocks, List.flatMap_cons, Block.properties, property?_optionLine h]
      split <;> rfl
  | nest f =>
      rw [memberBlocks, List.flatMap_singleton, Block.properties, property?_sectionLine h]
      rfl

theorem functions_memberBlocks {f : ConfigField} (h : isIdentifier f.name = true) :
    (memberBlocks f).flatMap Block.functions = (subscribed? f).toList.map subscribing := by
  cases f with
  | value f =>
      rw [memberBlocks, subscribed?, List.flatMap_cons, Block.functions, List.nil_append]
      split
      · rw [subscription, List.flatMap_cons, List.flatMap_singleton, Block.functions,
          Block.functions, function?_subscription h]
        rfl
      · rfl
  | nest f => rfl

theorem classes_memberBlocks (f : ConfigField) : (memberBlocks f).flatMap classes = [] := by
  cases f with
  | value f =>
      rw [memberBlocks, List.flatMap_cons, classes, List.nil_append]
      split
      · have hheader :
            isClass ("fun subscribeTo" ++ capitalized f.name ++ "(subscriber: (" ++ f.typeText
            ++ ") -> Unit)") = false := by
          simp only [isClass, String.toList_append]
          rfl
        rw [subscription, List.flatMap_cons, List.flatMap_singleton, classes,
          classes_of_not_isClass hheader]
        rfl
      · rfl
  | nest f => rfl

theorem classes_companion (wrapper : String) : (companion wrapper).classes = [] := by
  have hcreate : isClass
      ("fun createAndLoad(builder: BuilderConsumer = BuilderConsumer \x7b\x7d): " ++ wrapper)
      = false := by
    simp only [isClass, String.toList_append]
    rfl
  have hreturn : isClass ("return " ++ wrapper ++ "(builder).apply") = false := by
    simp only [isClass, String.toList_append]
    rfl
  rw [companion, classes_of_not_isClass (by decide), allClasses_eq_flatMap, List.flatMap_singleton,
    classes_of_not_isClass hcreate, allClasses_eq_flatMap, List.flatMap_singleton,
    classes_of_not_isClass hreturn]
  rfl

/-- What is read off several members is read off each. -/
theorem flatMap_separatedMembers {α : Type} {read : Block → List α} (hblank : read .blank = [])
    (fields : List ConfigField) :
    (separatedMembers fields).flatMap read
      = fields.flatMap fun f => (memberBlocks f).flatMap read := by
  induction fields with
  | nil => rfl
  | cons f fields ih =>
      cases fields with
      | nil => rw [separatedMembers, List.flatMap_singleton]
      | cons g fields =>
          rw [separatedMembers, List.flatMap_append, List.flatMap_cons, hblank, List.nil_append, ih]
          rfl

/-- What is read off the body of the wrapper class is read off its opening, its members
and its inner classes. -/
theorem flatMap_wrapperBody {α : Type} {read : Block → List α} (hblank : read .blank = [])
    (m : ConfigModel) (fields : List ConfigField) (nested : NestedClassSet) :
    (wrapperClass m fields nested).classText.body.flatMap read
      = read (.line "private val parentKey = Option.Key.ROOT")
        ++ read (.line "constructor() : this(\x7b\x7d)")
        ++ read (companion m.wrapperName) ++ (fields.flatMap fun f => (memberBlocks f).flatMap read)
        ++ nested.classes.flatMap fun c => read (innerClass c) := by
  rw [wrapperClass, classText, List.flatMap_append, List.flatMap_append, List.flatMap_assoc,
    List.flatMap_assoc]
  simp only [List.flatMap_cons, List.flatMap_nil, hblank, List.nil_append, List.append_nil,
    List.append_assoc]

/-! ## Classes -/

section Classes

variable {c : NestedClass} {m : ConfigModel} {fields : List ConfigField} {nested : NestedClassSet}

theorem lastBracket_innerHeader (name : String) :
    lastBracket ("inner class " ++ name ++ "(private val parentKey: Option.Key)").toList
      = "private val parentKey: Option.Key)".toList := by
  have htext : ("inner class " ++ name ++ "(private val parentKey: Option.Key)").toList
      = ("inner class " ++ name).toList ++ '(' :: "private val parentKey: Option.Key)".toList := by
    simp
  rw [htext, lastBracket_append _ (by decide)]

/-- Behind a name there is a blank only behind the colon. -/
theorem not_prefix_of_blank {word x : List Char} (rest : List Char) (hblank : ' ' ∈ word)
    (hcolon : ':' ∉ word) (hx : ' ' ∉ x) : ¬word <+: x ++ ':' :: rest := by
  rintro ⟨behind, heq⟩
  rcases List.append_eq_append_iff.mp heq with ⟨more, rfl, _⟩ | ⟨more, rfl, hmore⟩
  · exact hx (List.mem_append_left _ hblank)
  · cases more with
    | nil => exact hx (by rwa [List.append_nil] at hblank)
    | cons d more => exact hcolon (by rw [(List.cons.inj hmore).1]; simp)

/-- The wrapper class takes no property. -/
theorem property?_wrapperHeader {wrapper nested : String} (hparen : '(' ∉ nested.toList)
    (hblank : ' ' ∉ nested.toList) :
    property? (lastBracket
      ("class " ++ wrapper ++ " private constructor(builder: BuilderConsumer) : ConfigWrapper<"
      ++ nested ++ ">(" ++ nested ++ "::class.java, builder)").toList) = none := by
  have htext :
      ("class " ++ wrapper ++ " private constructor(builder: BuilderConsumer) : ConfigWrapper<"
      ++ nested ++ ">(" ++ nested ++ "::class.java, builder)").toList
      = ("class " ++ wrapper ++ " private constructor(builder: BuilderConsumer) : ConfigWrapper<"
        ++ nested
        ++ ">").toList ++ '(' :: (nested.toList ++ ':' :: ":class.java, builder)".toList) := by
    simp
  have hbehind : '(' ∉ nested.toList ++ ':' :: ":class.java, builder)".toList := by
    rw [List.mem_append, not_or]
    exact ⟨hparen, by decide⟩
  have hnone : ∀ {word : List Char}, ' ' ∈ word → ':' ∉ word →
      word.isPrefixOf? (nested.toList ++ ':' :: ":class.java, builder)".toList) = none := by
    intro word hword hcolon
    refine Option.eq_none_iff_forall_ne_some.mpr fun behind heq => ?_
    exact not_prefix_of_blank _ hword hcolon hblank
      ⟨behind, List.isPrefixOf?_eq_some_iff_append_eq.mp heq⟩
  rw [htext, lastBracket_append _ hbehind, property?, hnone (by decide) (by decide),
    Option.getD_none, hnone (by decide) (by decide), hnone (by decide) (by decide)]
  rfl

/-- **The properties of an inner class** are its key and those of its fields. -/
theorem properties_innerClass (h : ∀ f ∈ c.fields, isIdentifier f.name = true) :
    (innerClass c).classText.properties = "parentKey" :: c.fields.map ConfigField.name := by
  rw [innerClass, classText, ClassText.properties, lastBracket_innerHeader,
    flatMap_separatedMembers rfl, List.flatMap_congr fun f hf => properties_memberBlocks (h f hf),
    ← List.map_eq_flatMap]
  rfl

/-- **The functions of an inner class** subscribe to options. -/
theorem functions_innerClass (h : ∀ f ∈ c.fields, isIdentifier f.name = true) :
    (innerClass c).classText.functions = (c.fields.filterMap subscribed?).map subscribing := by
  rw [innerClass, classText, ClassText.functions, flatMap_separatedMembers rfl,
    List.flatMap_congr fun f hf => functions_memberBlocks (h f hf),
    List.filterMap_eq_flatMap_toList, List.map_flatMap]

theorem classes_innerClass (c : NestedClass) :
    (innerClass c).classes = [(innerClass c).classText] := by
  have hheader : isClass ("inner class " ++ c.name ++ "(private val parentKey: Option.Key)")
      = true := by
    simp only [isClass, String.toList_append]
    rfl
  rw [innerClass, classes_of_isClass hheader, allClasses_eq_flatMap, flatMap_separatedMembers rfl,
    List.flatMap_eq_nil_iff.mpr fun f _ => classes_memberBlocks f]
  rfl

/-- **The properties of the wrapper class** are its key and those of its fields. -/
theorem properties_wrapperClass (hname : m.name.Spelled)
    (h : ∀ f ∈ fields, isIdentifier f.name = true) :
    (wrapperClass m fields nested).classText.properties
      = "parentKey" :: fields.map ConfigField.name := by
  have hnested : ∀ d, isIdentifierPart d = false → d ≠ '.' →
      d ∉ m.name.nested.toList := fun d hd hdot =>
    notMem_joined (by simpa using hdot) fun x hx =>
      notMem_of_isIdentifier (hname.identifiers x (List.mem_append_right _ hx)) hd
  rw [ClassText.properties, flatMap_wrapperBody rfl,
    List.flatMap_congr fun f hf => properties_memberBlocks (h f hf), ← List.map_eq_flatMap,
    (List.flatMap_eq_nil_iff.mpr fun c _ => rfl :
      (nested.classes.flatMap fun c => (innerClass c).properties) = []),
    List.append_nil, wrapperClass, classText,
    property?_wrapperHeader (hnested _ (by decide) (by decide)) (hnested _ (by decide) (by decide))]
  rfl

theorem functions_innerHeader (c : NestedClass) : (innerClass c).functions = [] := by
  rw [innerClass, Block.functions, function?]
  simp only [String.toList_append]
  rfl

/-- **The functions of the wrapper class** subscribe to options. -/
theorem functions_wrapperClass (h : ∀ f ∈ fields, isIdentifier f.name = true) :
    (wrapperClass m fields nested).classText.functions
      = (fields.filterMap subscribed?).map subscribing := by
  rw [ClassText.functions, flatMap_wrapperBody rfl,
    List.flatMap_congr fun f hf => functions_memberBlocks (h f hf),
    List.filterMap_eq_flatMap_toList, List.map_flatMap,
    List.flatMap_eq_nil_iff.mpr fun c _ => functions_innerHeader c, List.append_nil]
  rfl

theorem classes_wrapperClass (m : ConfigModel) (fields : List ConfigField)
    (nested : NestedClassSet) :
    (wrapperClass m fields nested).classes
      = (wrapperClass m fields nested).classText
        :: nested.classes.map fun c => (innerClass c).classText := by
  have hheader : isClass ("class " ++ m.wrapperName
      ++ " private constructor(builder: BuilderConsumer) : ConfigWrapper<" ++ m.name.nested ++ ">("
      ++ m.name.nested ++ "::class.java, builder)") = true := by
    simp only [isClass, String.toList_append]
    rfl
  have hbody : allClasses (wrapperClass m fields nested).classText.body
      = nested.classes.map fun c => (innerClass c).classText := by
    rw [allClasses_eq_flatMap, flatMap_wrapperBody rfl, classes_companion,
      List.flatMap_eq_nil_iff.mpr fun f _ => classes_memberBlocks f,
      List.flatMap_congr fun c _ => classes_innerClass c, ← List.map_eq_flatMap]
    rfl
  rw [← hbody]
  exact classes_of_isClass hheader _

/-- **The classes of a source** are the wrapper and its inner classes. -/
theorem allClasses_file (m : ConfigModel) (fields : List ConfigField) (nested : NestedClassSet) :
    allClasses (file m fields nested)
      = (wrapperClass m fields nested).classText
        :: nested.classes.map fun c => (innerClass c).classText := by
  have hpackage : (if m.package = "" then [] else [.line ("package " ++ m.package), .blank]).flatMap
      classes = [] := by
    split <;> rfl
  have himports : (imports.map fun name => .line ("import " ++ name)).flatMap classes = [] := rfl
  have hdelegates : (delegates.flatMap fun delegate => [.blank, .line delegate]).flatMap classes
      = [] := rfl
  rw [allClasses_eq_flatMap, file, List.flatMap_append, List.flatMap_append, List.flatMap_append,
    hpackage, himports, hdelegates, List.flatMap_cons, List.flatMap_singleton, classes,
    classes_wrapperClass, List.append_nil]
  rfl

end Classes

/-! ## Names of fields -/

theorem sublist_subscribed (fields : List ConfigField) :
    (fields.filterMap subscribed?).Sublist (fields.map ConfigField.name) := by
  induction fields with
  | nil => exact .slnil
  | cons f fields ih =>
      rw [List.map_cons]
      cases hf : subscribed? f with
      | none =>
          rw [List.filterMap_cons_none hf]
          exact ih.cons _
      | some name =>
          have hname : name = f.name := by
            cases f with
            | value f => exact (Option.ite_some_none_eq_some.mp hf).2.symm
            | nest f => exact absurd hf (by simp [subscribed?])
          rw [List.filterMap_cons_some hf, hname]
          exact ih.cons_cons _

/-- Fields with distinct identifiers for names. -/
structure NamedApart (fields : List ConfigField) : Prop where
  distinct : (fields.map ConfigField.name).Nodup
  identifiers : ∀ f ∈ fields, isIdentifier f.name = true

/-- The properties of a class are distinct unless a field is called like the key. -/
theorem NamedApart.nodup_properties_iff {fields : List ConfigField} (h : NamedApart fields) :
    ("parentKey" :: fields.map ConfigField.name).Nodup ↔ ∀ f ∈ fields, f.name ≠ "parentKey" := by
  rw [List.nodup_cons, and_iff_left h.distinct, List.mem_map]
  exact ⟨fun hno f hf heq => hno ⟨f, hf, heq⟩, fun hno ⟨f, hf, heq⟩ => hno f hf heq⟩

/-- The functions of a class are distinct unless two names become the same
when they are capitalized. -/
theorem NamedApart.nodup_functions_iff {fields : List ConfigField} (h : NamedApart fields) :
    ((fields.filterMap subscribed?).map subscribing).Nodup
      ↔ ∀ x ∈ fields.filterMap subscribed?, ∀ y ∈ fields.filterMap subscribed?,
        capitalized x = capitalized y → x = y := by
  rw [List.nodup_map_iff_inj_on (h.distinct.sublist (sublist_subscribed fields))]
  simp only [subscribing, String.append_right_inj]

end Wrapper

/-! ## Names of properties -/

namespace SymbolSource

/-- The name of a property. -/
def propertyName? (s : SymbolSource) (p : PropertyId) : Option String :=
  (s.property? p).map PropertyInfo.name

/-- The names of the properties of a declaration. -/
def propertyNames (s : SymbolSource) (u : DeclarationId) : List String :=
  (s.properties u).filterMap s.propertyName?

/-- The properties of a declaration have distinct identifiers for names. -/
structure NamesApart (s : SymbolSource) (u : DeclarationId) : Prop where
  distinct : (s.propertyNames u).Nodup
  identifiers : ∀ x ∈ s.propertyNames u, isIdentifier x = true

instance (s : SymbolSource) (u : DeclarationId) : Decidable (s.NamesApart u) :=
  decidable_of_iff (_ ∧ _) ⟨fun h => ⟨h.1, h.2⟩, fun h => ⟨h.distinct, h.identifiers⟩⟩

end SymbolSource

namespace Collector

variable {c : Collector}

/-- A member is called like its property. -/
theorem name_of_fieldOf? {trail : List DeclarationId} {subscribe : Bool} {p : PropertyId}
    {field : ConfigField} (h : c.fieldOf? trail subscribe p = some field) :
    c.source.propertyName? p = some field.name := by
  rcases member?_cases c p with ⟨_, hm⟩ | ⟨info, shape, hs⟩
  · rw [fieldOf?, hm] at h
    exact absurd h (by simp)
  · rw [fieldOf?, member?_eq_some hs, Option.bind_some] at h
    rw [SymbolSource.propertyName?, hs.known, Option.map_some]
    cases hs with
    | computed _ _ => exact absurd h (by simp)
    | generic _ _ _ => exact absurd h (by simp)
    | opens _ => rw [← Option.some.inj (Option.ite_none_right_eq_some.mp h).2]; rfl
    | misplacedMarker _ => rw [← Option.some.inj h]; rfl
    | plain _ _ => rw [← Option.some.inj h]; rfl

theorem sublist_names (trail : List DeclarationId) (u : DeclarationId) (subscribe : Bool) :
    ((c.collectFrom trail u subscribe).fields.map ConfigField.name).Sublist
      (c.source.propertyNames u) := by
  rw [collectFrom_fields, SymbolSource.propertyNames]
  induction c.source.properties u with
  | nil => exact .slnil
  | cons p ps ih =>
      cases hfield : c.fieldOf? trail subscribe p with
      | some field =>
          rw [List.filterMap_cons_some hfield, List.map_cons,
            List.filterMap_cons_some (name_of_fieldOf? hfield)]
          exact ih.cons_cons _
      | none =>
          rw [List.filterMap_cons_none hfield]
          exact ih.trans ((List.sublist_cons_self p ps).filterMap _)

end Collector

/-- The members are called like the properties. -/
theorem SymbolSource.NamesApart.collectFrom {c : Collector} {u : DeclarationId}
    (h : c.source.NamesApart u) (trail : List DeclarationId) (subscribe : Bool) :
    Wrapper.NamedApart (c.collectFrom trail u subscribe).fields := by
  have hsub := Collector.sublist_names (c := c) trail u subscribe
  exact ⟨h.distinct.sublist hsub,
    fun f hf => h.identifiers _ (hsub.subset (List.mem_map_of_mem hf))⟩

/-! ## Distinct members -/

/--
**The members of a class have distinct names**, with two exceptions.

Where the properties of each declaration that is entered have distinct identifiers for names, two
properties of a class have the same name only if one is the key and the other is a field that is
called like it. Two functions have the same name only if the options that they subscribe to have
names that differ but are the same once they are capitalized.
-/
theorem distinct_members_iff (s : SymbolSource) (m : ConfigModel) (o : Options)
    (hname : m.name.Spelled) (hapart : ∀ u, u = m.declaration
      ∨ Collector.Entered ⟨s, o.markers, ⟨m.package, o.namespaces⟩⟩ m.declaration u →
      s.NamesApart u) :
    let collected := collectModel s m o
    let blocks := Wrapper.file m collected.fields collected.nested
    (generate s m o).file.content = Block.render blocks
      ∧ List.Forall₂ (fun cls fields =>
          (cls.properties.Nodup ↔ ∀ f ∈ fields, f.name ≠ "parentKey")
            ∧ (cls.functions.Nodup ↔ ∀ x ∈ fields.filterMap Wrapper.subscribed?,
              ∀ y ∈ fields.filterMap Wrapper.subscribed?, Wrapper.capitalized x
                = Wrapper.capitalized y → x = y))
        (Block.allClasses blocks)
          (collected.fields :: collected.nested.classes.map NestedClass.fields) := by
  intro collected blocks
  refine ⟨rfl, ?_⟩
  rw [Wrapper.allClasses_file]
  refine .cons ?_ ?_
  · have hfields : Wrapper.NamedApart collected.fields := (hapart _ (Or.inl rfl)).collectFrom _ _
    rw [Wrapper.properties_wrapperClass hname hfields.identifiers,
      Wrapper.functions_wrapperClass hfields.identifiers]
    exact ⟨hfields.nodup_properties_iff, hfields.nodup_functions_iff⟩
  · rw [List.forall₂_map_left_iff, List.forall₂_map_right_iff, List.forall₂_same]
    intro cls hcls
    -- an inner class comes from a visit, so its members are those of a declaration entered
    obtain ⟨w, hw, rfl⟩ := Collector.exists_visit_of_mem_nested hcls
    have hentered := (Collector.entered_iff_visited m.defaultHook).mpr ⟨w, hw, rfl⟩
    have hfields : Wrapper.NamedApart
        (Collector.classOf ⟨s, o.markers, ⟨m.package, o.namespaces⟩⟩ w).fields :=
      (hapart _ (Or.inr hentered)).collectFrom _ _
    rw [Wrapper.properties_innerClass hfields.identifiers,
      Wrapper.functions_innerClass hfields.identifiers]
    exact ⟨hfields.nodup_properties_iff, hfields.nodup_functions_iff⟩

/-! ## Names that are not distinct -/

/-- A model with an option called like the key, with two whose names differ in the case of a
letter, and with a section. -/
def clashingNames : SymbolTable where
  declarations := [
    ⟨⟨⟨"dev.example", ["Model"]⟩, .plainClass, none⟩,
      .ofList
        [("Config", .ofList [("wrapperName", .string "ModelConfig"),
          ("defaultHook", .bool true)])], [
      ⟨⟨"parentKey", false, true⟩, .named ⟨"kotlin", ["Int"]⟩, .empty⟩,
      ⟨⟨"url", false, true⟩, .named ⟨"kotlin", ["String"]⟩, .empty⟩,
      ⟨⟨"Url", false, true⟩, .named ⟨"kotlin", ["String"]⟩, .empty⟩,
      ⟨⟨"sub", false, true⟩, .named ⟨"dev.example", ["Sub"]⟩, .ofList [("Nest", .empty)]⟩]⟩,
    ⟨⟨⟨"dev.example", ["Sub"]⟩, .plainClass, none⟩, .empty, [
      ⟨⟨"enabled", false, true⟩, .named ⟨"kotlin", ["Boolean"]⟩, .empty⟩]⟩]
  distinct := by decide

theorem loaded_clashingNames : clashingNames.Loaded := by
  refine SymbolTable.loaded_iff.mpr ⟨[
    { name := "dev.example.Model"
      annotations := .ofList
        [("Config", .ofList [("wrapperName", .string "ModelConfig"), ("defaultHook", .bool true)])]
      properties := [
        { name := "parentKey", type := "kotlin.Int" }, { name := "url", type := "kotlin.String" },
        { name := "Url", type := "kotlin.String" },
        { name := "sub", type := "dev.example.Sub", annotations := .ofList [("Nest", .empty)] }] },
    { name := "dev.example.Sub", properties := [{ name := "enabled", type := "kotlin.Boolean" }] }],
    .cons rfl (.cons rfl .nil)⟩

theorem namesApart_clashingNames (u : DeclarationId) :
    SymbolSource.NamesApart { table := clashingNames } u := by
  match u with
  | ⟨0⟩ => decide
  | ⟨1⟩ => decide
  | ⟨_ + 2⟩ => exact ⟨List.nodup_nil, List.forall_mem_nil _⟩

def clashingOptions : Options := { markers := ⟨"Config", "Nest", "Hook"⟩ }

def clashingModel : ConfigModel := ⟨⟨0⟩, ⟨"dev.example", ["Model"]⟩, "ModelConfig", true, none⟩

theorem buildModel_clashingNames :
    buildModel { table := clashingNames } ⟨0⟩ clashingOptions.markers = .ok clashingModel := by
  decide

theorem fields_clashingNames :
    (collectModel { table := clashingNames } clashingModel clashingOptions).fields = [
    .value ⟨"parentKey", "parentKey", "Int", false, true⟩,
    .value ⟨"url", "url", "String", false, true⟩, .value ⟨"Url", "Url", "String", false, true⟩,
    .nest ⟨"sub", "sub", "Sub"⟩] := by
  rw [collectModel, Collector.collect, Collector.collectFrom_fields]
  decide

theorem distinct_members_iff_clashingNames :
    clashingModel.name.Spelled ∧ (∀ u, SymbolSource.NamesApart { table := clashingNames } u)
      ∧ let collected := collectModel { table := clashingNames } clashingModel clashingOptions
        let blocks := Wrapper.file clashingModel collected.fields collected.nested
        (generate { table := clashingNames } clashingModel clashingOptions).file.content
          = Block.render blocks
          ∧ List.Forall₂ (fun cls fields =>
              (cls.properties.Nodup ↔ ∀ f ∈ fields, f.name ≠ "parentKey")
                ∧ (cls.functions.Nodup ↔ ∀ x ∈ fields.filterMap Wrapper.subscribed?,
                  ∀ y ∈ fields.filterMap Wrapper.subscribed?, Wrapper.capitalized x
                    = Wrapper.capitalized y → x = y))
            (Block.allClasses blocks)
              (collected.fields :: collected.nested.classes.map NestedClass.fields) :=
  have hspelled := spelled_of_buildModel loaded_clashingNames buildModel_clashingNames
  ⟨hspelled, namesApart_clashingNames,
    distinct_members_iff _ _ clashingOptions hspelled fun u _ => namesApart_clashingNames u⟩

/-- The properties have distinct names, but the wrapper has two members `parentKey` and two
functions `subscribeToUrl`. -/
theorem members_clash :
    clashingNames.Loaded ∧ buildModel { table := clashingNames } ⟨0⟩ clashingOptions.markers
      = .ok clashingModel
      ∧ (∀ u, SymbolSource.NamesApart { table := clashingNames } u)
      ∧ let collected := collectModel { table := clashingNames } clashingModel clashingOptions
        ∃ cls ∈ Block.allClasses (Wrapper.file clashingModel collected.fields collected.nested),
          cls.properties = ["parentKey", "parentKey", "url", "Url", "sub"] ∧ ¬cls.properties.Nodup
            ∧ cls.functions = ["subscribeToParentKey", "subscribeToUrl", "subscribeToUrl"]
            ∧ ¬cls.functions.Nodup := by
  refine ⟨loaded_clashingNames, buildModel_clashingNames, namesApart_clashingNames, ?_⟩
  intro collected
  have hspelled := spelled_of_buildModel loaded_clashingNames buildModel_clashingNames
  have hidentifiers : ∀ f ∈ collected.fields, isIdentifier f.name = true := by
    rw [show collected.fields = _ from fields_clashingNames]
    decide
  rw [Wrapper.allClasses_file]
  refine ⟨_, List.mem_cons_self, ?_⟩
  rw [Wrapper.properties_wrapperClass hspelled hidentifiers,
    Wrapper.functions_wrapperClass hidentifiers,
    show collected.fields = _ from fields_clashingNames]
  decide

end WrapperGen
