import WrapperGen.Proofs.MemberLines

/-!
# What the source of a wrapper tells

The source of a wrapper is written for a compiler, but nothing that went into it is lost: the
package, the names of the model and of the wrapper, the members in order and the inner classes can
all be told from the text (`emit_inj`). The parts are found from the front: each of them either ends
in a line of its own, or what follows it cannot belong to it.
-/

namespace WrapperGen

open Text

namespace Wrapper

open Block

/-- A wrapper that can be written: all its names are made of identifiers, and types
are written in one line. -/
structure Legal (m : ConfigModel) (fields : List ConfigField) (nested : NestedClassSet) : Prop where
  model : m.name.Spelled
  wrapperName : isIdentifier m.wrapperName = true
  fields : ∀ f ∈ fields, f.Legal
  classNames : ∀ c ∈ nested.classes, isIdentifier c.name = true
  classFields : ∀ c ∈ nested.classes, ∀ f ∈ c.fields, f.Legal

/-! ## Inner classes -/

/-- A blank line before several members makes them a row. -/
theorem memberRow_of_separated {fields : List ConfigField} (h : fields ≠ []) (depth : Nat) :
    "" :: allLines depth (separatedMembers fields) = memberRow depth fields := by
  induction fields with
  | nil => exact absurd rfl h
  | cons f fields ih =>
      cases fields with
      | nil =>
          rw [separatedMembers, memberRow, List.flatMap_cons, List.flatMap_nil, List.append_nil]
      | cons g fields =>
          rw [separatedMembers, allLines_append, allLines, lines, List.singleton_append,
            ih (List.cons_ne_nil g fields), ← memberRow_cons]

/-- The members of an inner class end where it is closed. -/
theorem separatedLines_inj {fields others : List ConfigField} {ls ls' : List String}
    (hfields : ∀ f ∈ fields, f.Legal) (hothers : ∀ f ∈ others, f.Legal)
    (h : allLines 2 (separatedMembers fields) ++ indented 1 "\x7d" :: ls
      = allLines 2 (separatedMembers others) ++ indented 1 "\x7d" :: ls') :
    fields = others ∧ ls = ls' := by
  have hclosing : ∀ rest, ¬GoesOn 2 "va" ("" :: indented 1 "\x7d" :: rest) := by
    intro rest ⟨l, _, heq, hbegins⟩
    rw [← (List.cons.inj (List.cons.inj heq).2).1] at hbegins
    exact absurd hbegins (by decide)
  -- behind a blank line they are a row, unless there are none
  replace h := congrArg (List.cons "") h
  rw [← List.cons_append, ← List.cons_append] at h
  cases fields with
  | nil =>
      cases others with
      | nil => exact ⟨rfl, (List.cons.inj (List.cons.inj h).2).2⟩
      | cons g others =>
          rw [memberRow_of_separated (List.cons_ne_nil g others)] at h
          have hmember := goesOn_memberRow 2 g others (indented 1 "\x7d" :: ls')
          rw [← h] at hmember
          exact absurd hmember (hclosing ls)
  | cons f fields =>
      rw [memberRow_of_separated (List.cons_ne_nil f fields)] at h
      cases others with
      | nil =>
          have hmember := goesOn_memberRow 2 f fields (indented 1 "\x7d" :: ls)
          rw [h] at hmember
          exact absurd hmember (hclosing ls')
      | cons g others =>
          rw [memberRow_of_separated (List.cons_ne_nil g others)] at h
          obtain ⟨hsame, hrest⟩ := memberRow_append_inj hfields hothers (ends_cons (by decide) ls)
            (ends_cons (by decide) ls') h
          exact ⟨hsame, (List.cons.inj hrest).2⟩

/-- The lines of inner classes, a blank line before each. -/
def classRow (classes : List NestedClass) : List String :=
  classes.flatMap fun c => allLines 1 [.blank, innerClass c]

theorem classRow_cons (c : NestedClass) (classes : List NestedClass) (ls : List String) :
    classRow (c :: classes) ++ ls
      = "" :: indented 1 ("inner class " ++ c.name ++ "(private val parentKey: Option.Key) \x7b")
        :: (allLines 2 (separatedMembers c.fields) ++ indented 1 "\x7d"
          :: (classRow classes ++ ls)) := by
  rw [classRow, List.flatMap_cons, ← classRow, allLines, allLines, allLines,
    innerClass, lines, lines]
  simp only [String.append_assoc, List.cons_append, List.append_assoc, List.nil_append]
  rfl

/-- No member goes on with an inner class. -/
theorem ends_classRow (classes : List NestedClass) (ls : List String) :
    Ends 1 (classRow classes ++ "\x7d" :: ls) := by
  cases classes with
  | nil => exact ends_cons (by decide) ls
  | cons c classes =>
      rw [classRow_cons]
      have hgoes : ∀ rest, GoesOn 1 "inner class "
          ("" :: indented 1 ("inner class " ++ c.name ++ "(private val parentKey: Option.Key) \x7b")
            :: rest) := by
        intro rest
        rw [String.append_assoc]
        exact ⟨_, rest, rfl, begins_indented _ _ _⟩
      exact ⟨fun h => absurd (h.comparable (hgoes _)) (by decide),
        fun h => absurd (h.comparable (hgoes _)) (by decide)⟩

/-- The header of an inner class tells its name. -/
theorem innerHeader_inj {x y : String} (hx : isIdentifier x = true) (hy : isIdentifier y = true)
    (h : "inner class " ++ x ++ "(private val parentKey: Option.Key) \x7b"
      = "inner class " ++ y ++ "(private val parentKey: Option.Key) \x7b") : x = y := by
  have hlist := congrArg String.toList h
  simp only [String.toList_append, List.append_assoc] at hlist
  exact (identifier_append_inj hx hy (endsWord_cons (by decide) _) (endsWord_cons (by decide) _)
    (List.append_cancel_left hlist)).1

/-- **Inner classes can be told from what follows them.** -/
theorem classRow_append_inj {classes others : List NestedClass} {line : String}
    {ls ls' : List String}
    (hclasses : ∀ c ∈ classes, isIdentifier c.name = true ∧ ∀ f ∈ c.fields, f.Legal)
    (hothers : ∀ c ∈ others, isIdentifier c.name = true ∧ ∀ f ∈ c.fields, f.Legal)
    (hline : line ≠ "") (h : classRow classes ++ line :: ls = classRow others ++ line :: ls') :
    classes = others ∧ ls = ls' := by
  induction classes generalizing others with
  | nil =>
      cases others with
      | nil => exact ⟨rfl, (List.cons.inj h).2⟩
      | cons d others => exact absurd (List.cons.inj h).1 hline
  | cons c classes ih =>
      cases others with
      | nil => exact absurd (List.cons.inj h).1.symm hline
      | cons d others =>
          rw [List.forall_mem_cons] at hclasses hothers
          rw [classRow_cons, classRow_cons] at h
          obtain ⟨hheader, hbody⟩ := List.cons.inj (List.cons.inj h).2
          have hname := innerHeader_inj hclasses.1.1 hothers.1.1 (indented_inj hheader)
          obtain ⟨hfields, hrest⟩ := separatedLines_inj hclasses.1.2 hothers.1.2 hbody
          obtain ⟨rfl, htail⟩ := ih hclasses.2 hothers.2 hrest
          have hsame : c = d := by
            cases c
            cases d
            simp_all
          exact ⟨by rw [hsame], htail⟩

/-! ## The wrapper -/

/-- The lines of the wrapper class up to its members. -/
def openingLines (wrapper : String) : List String :=
  allLines 1 [.line "private val parentKey = Option.Key.ROOT", .blank,
    .line "constructor() : this(\x7b\x7d)", .blank, companion wrapper]

/-- The header of the wrapper class. -/
def classHeader (wrapper nested : String) : String :=
  "class " ++ wrapper ++ " private constructor(builder: BuilderConsumer) : ConfigWrapper<" ++ nested
    ++ ">(" ++ nested ++ "::class.java, builder) \x7b"

/-- The line that names the package, if it is not the root package. -/
def packageLines (package : String) : List String :=
  if package = "" then [] else ["package " ++ package, ""]

theorem wrapperLines (m : ConfigModel) (fields : List ConfigField) (nested : NestedClassSet) :
    (wrapperClass m fields nested).lines 0
      = classHeader m.wrapperName m.name.nested
        :: (openingLines m.wrapperName
          ++ (memberRow 1 fields ++ (classRow nested.classes ++ ["\x7d"]))) := by
  have hheader : indented 0 ("class " ++ m.wrapperName
      ++ " private constructor(builder: BuilderConsumer) : ConfigWrapper<" ++ m.name.nested ++ ">("
      ++ m.name.nested ++ "::class.java, builder)" ++ " \x7b")
        = classHeader m.wrapperName m.name.nested := by
    rw [indented_zero, classHeader, String.append_assoc]
    rfl
  have hmembers : (fields.flatMap fun f => allLines 1 (.blank :: memberBlocks f))
      = memberRow 1 fields := rfl
  have hclasses : (nested.classes.flatMap fun c => allLines 1 [.blank, innerClass c])
      = classRow nested.classes := rfl
  rw [wrapperClass, lines, hheader, allLines_append, allLines_append, allLines_flatMap,
    allLines_flatMap, ← openingLines, hmembers, hclasses, indented_zero, List.append_assoc,
    List.append_assoc]

/-- The lines of the source, part by part. -/
theorem fileLines (m : ConfigModel) (fields : List ConfigField) (nested : NestedClassSet) :
    allLines 0 (file m fields nested)
      = packageLines m.package
        ++ (imports.map ("import " ++ ·) ++ "" :: classHeader m.wrapperName m.name.nested
          :: (openingLines m.wrapperName ++ (memberRow 1 fields ++ (classRow nested.classes
            ++ "\x7d" :: allLines 0
              (delegates.flatMap fun delegate => [.blank, .line delegate]))))) := by
  have hpackage :
      allLines 0 (if m.package = "" then [] else [.line ("package " ++ m.package), .blank])
        = packageLines m.package := by
    rw [packageLines]
    split
    · rfl
    · rw [allLines, allLines, lines, lines, indented_zero]
      rfl
  have himports : allLines 0 (imports.map fun name => .line ("import " ++ name))
      = imports.map ("import " ++ ·) := rfl
  rw [file, allLines_append, allLines_append, allLines_append, hpackage, himports, allLines,
    allLines, allLines, wrapperLines]
  simp only [lines, List.append_assoc, List.cons_append, List.nil_append, List.append_nil]

/-- The package can be told from the imports behind it. -/
theorem packageLines_append_inj {x y name : String} {ls ls' : List String}
    (h : packageLines x ++ ("import " ++ name) :: ls
      = packageLines y ++ ("import " ++ name) :: ls') :
    x = y ∧ ls = ls' := by
  -- the first letters are different
  have hpackage : ∀ package, "import " ++ name ≠ "package " ++ package := by
    intro package heq
    have hlist := congrArg String.toList heq
    rw [String.toList_append, String.toList_append] at hlist
    exact absurd (List.cons.inj hlist).1 (by decide)
  rw [packageLines, packageLines] at h
  split at h
  · rename_i hx
    split at h
    · rename_i hy
      exact ⟨hx.trans hy.symm, (List.cons.inj h).2⟩
    · exact absurd (List.cons.inj h).1 (hpackage y)
  · split at h
    · exact absurd (List.cons.inj h).1.symm (hpackage x)
    · obtain ⟨hname, hrest⟩ := List.cons.inj h
      exact ⟨(String.append_right_inj _).mp hname, (List.cons.inj (List.cons.inj hrest).2).2⟩

/-- The header of the wrapper class tells the names of both classes. -/
theorem classHeader_inj {x y : String} {names others : List String} (hx : isIdentifier x = true)
    (hy : isIdentifier y = true) (hne : names ≠ []) (hne' : others ≠ [])
    (hnames : ∀ n ∈ names, isIdentifier n = true) (hothers : ∀ n ∈ others, isIdentifier n = true)
    (h : classHeader x (joined "." names) = classHeader y (joined "." others)) :
    x = y ∧ names = others := by
  have hlist := congrArg String.toList h
  rw [classHeader, classHeader] at hlist
  simp only [String.toList_append, List.append_assoc] at hlist
  have hblank : ∀ rest,
      EndsWord (" private constructor(builder: BuilderConsumer) : ConfigWrapper<".toList ++ rest) :=
    endsWord_append (by decide : _ = some ' ') (by decide)
  obtain ⟨hwrapper, hlist⟩ :=
    identifier_append_inj hx hy (hblank _) (hblank _) (List.append_cancel_left hlist)
  replace hlist := List.append_cancel_left hlist
  -- the first name of the model ends at the next bracket
  have hbracket : ∀ rest c more, ">(".toList ++ rest = c :: more → isIdentifierPart c = false
      ∧ c ≠ '.' := by
    intro rest c more heq
    rw [show ">(".toList = ['>', '('] from rfl] at heq
    rw [← (List.cons.inj heq).1]
    decide
  exact ⟨hwrapper, (joined_append_inj hne hne' hnames hothers (hbracket _) (hbracket _) hlist).1⟩

/-! ## The source is made of lines -/

/-- Only the first character of a name becomes another. -/
theorem notMem_capitalized_of_capital {x : String} {d : Char}
    (hcapital : ∀ c, c ≠ d → d ∉ Unicode.capital c) (h : d ∉ x.toList) :
    d ∉ (capitalized x).toList := by
  rw [capitalized]
  split
  · exact List.not_mem_nil
  · rename_i c rest heq
    rw [heq, List.mem_cons, not_or] at h
    rw [String.toList_ofList, List.mem_append, not_or]
    exact ⟨hcapital c (Ne.symm h.1), h.2⟩

/-- A character that comes before all letters and is in no identifier is in no capitalized one. -/
theorem notMem_capitalized {x : String} {d : Char} (h : isIdentifier x = true)
    (hpart : isIdentifierPart d = false) (hd : d ≠ Char.ofNat 0) (hbefore : d.toNat < 0x41) :
    d ∉ (capitalized x).toList :=
  notMem_capitalized_of_capital (fun _ => Unicode.notMem_capital hd hbefore)
    (notMem_of_isIdentifier h hpart)

theorem oneLine_capitalized {x : String} (h : isIdentifier x = true) : OneLine (capitalized x) :=
  notMem_capitalized h (by decide) (by decide) (by decide)

theorem oneLine_memberBlocks {f : ConfigField} (h : f.Legal) :
    ∀ text ∈ allTexts (memberBlocks f), OneLine text := by
  cases f with
  | value f =>
      have hname := oneLine_of_isIdentifier h.1
      have hkey := oneLine_of_isIdentifier h.2.1
      have hcapital := oneLine_capitalized h.1
      have htype : OneLine f.typeText := h.2.2
      have hkeyword : OneLine (if f.mutable then "var " else "val ") := by
        split <;> decide
      have hoption : OneLine (optionLine f) := by
        simp only [optionLine, oneLine_append, hname, hkey, htype, hkeyword, true_and, and_true]
        exact ⟨⟨by decide, oneLine_ofList (by decide)⟩, by decide⟩
      rw [memberBlocks, allTexts, texts, List.forall_mem_append, List.forall_mem_singleton]
      refine ⟨hoption, ?_⟩
      split
      · simp only [subscription, allTexts, texts, List.nil_append, List.append_nil,
          List.forall_mem_cons, oneLine_append, hcapital, htype, hkey, and_true]
        exact ⟨⟨⟨by decide, by decide⟩, by decide⟩,
          ⟨⟨by decide, oneLine_ofList (by decide)⟩, oneLine_ofList (by decide)⟩,
          List.forall_mem_nil _⟩
      · exact List.forall_mem_nil _
  | nest f =>
      have hname := oneLine_of_isIdentifier h.1
      have hkey := oneLine_of_isIdentifier h.2.1
      have hclass := oneLine_of_isIdentifier h.2.2
      simp only [memberBlocks, allTexts, texts, List.append_nil, List.forall_mem_singleton,
        sectionLine, oneLine_append, hname, hkey, hclass, and_true]
      exact ⟨⟨⟨by decide, by decide⟩, by decide⟩, by decide⟩

theorem oneLine_separatedMembers {fields : List ConfigField} (h : ∀ f ∈ fields, f.Legal) :
    ∀ text ∈ allTexts (separatedMembers fields), OneLine text := by
  induction fields with
  | nil => exact List.forall_mem_nil _
  | cons f fields ih =>
      rw [List.forall_mem_cons] at h
      cases fields with
      | nil => exact oneLine_memberBlocks h.1
      | cons g fields =>
          rw [separatedMembers, allTexts_append, List.forall_mem_append, allTexts, texts,
            List.nil_append]
          exact ⟨oneLine_memberBlocks h.1, ih h.2⟩

theorem oneLine_package {n : ClassName} (h : n.Spelled) : OneLine n.package := by
  rw [ClassName.package_eq]
  refine oneLine_joined (by decide) fun x hx => oneLine_of_isIdentifier (h.identifiers x ?_)
  exact List.mem_append_left _ hx

theorem oneLine_nested {n : ClassName} (h : n.Spelled) : OneLine n.nested := by
  refine oneLine_joined (by decide) fun x hx => oneLine_of_isIdentifier (h.identifiers x ?_)
  exact List.mem_append_right _ hx

theorem oneLine_imports :
    ∀ text ∈ allTexts (imports.map fun name => .line ("import " ++ name)), OneLine text := by
  simp only [imports, List.map_cons, List.map_nil, allTexts, texts, List.cons_append,
    List.nil_append, List.forall_mem_cons, oneLine_append]
  exact ⟨⟨by decide, oneLine_ofList (by decide)⟩, ⟨by decide, oneLine_ofList (by decide)⟩,
    ⟨by decide, oneLine_ofList (by decide)⟩, List.forall_mem_nil _⟩

theorem oneLine_delegates :
    ∀ text ∈ allTexts (delegates.flatMap fun delegate => [.blank, .line delegate]),
      OneLine text := by
  simp only [delegates, List.flatMap_cons, List.flatMap_nil, allTexts, texts, List.cons_append,
    List.nil_append, List.forall_mem_cons]
  exact ⟨oneLine_ofList (by decide), oneLine_ofList (by decide), List.forall_mem_nil _⟩

/-- No part of a legal source goes over the end of its line. -/
theorem oneLine_file {m : ConfigModel} {fields : List ConfigField} {nested : NestedClassSet}
    (h : Legal m fields nested) : ∀ text ∈ allTexts (file m fields nested), OneLine text := by
  -- part by part: each text is a fixed one, or is put together from identifiers and types
  have hwrapper := oneLine_of_isIdentifier h.wrapperName
  have hpackage : OneLine m.package := oneLine_package h.model
  have hnested := oneLine_nested h.model
  have hmembers : ∀ text ∈ allTexts (fields.flatMap fun f => .blank :: memberBlocks f),
      OneLine text := by
    rw [allTexts_flatMap]
    intro text htext
    obtain ⟨f, hf, htext⟩ := List.mem_flatMap.mp htext
    exact oneLine_memberBlocks (h.fields f hf) text htext
  have hclasses : ∀ text ∈ allTexts (nested.classes.flatMap fun c => [.blank, innerClass c]),
      OneLine text := by
    rw [allTexts_flatMap]
    intro text htext
    obtain ⟨c, hc, htext⟩ := List.mem_flatMap.mp htext
    have hname := oneLine_of_isIdentifier (h.classNames c hc)
    rw [allTexts, allTexts, allTexts, innerClass, texts, texts, List.nil_append,
      List.append_nil] at htext
    rcases List.mem_cons.mp htext with rfl | htext
    · simp only [oneLine_append, hname, and_true]
      exact ⟨by decide, oneLine_ofList (by decide)⟩
    · exact oneLine_separatedMembers (h.classFields c hc) text htext
  have hopening : ∀ text ∈ allTexts [.line "private val parentKey = Option.Key.ROOT", .blank,
      .line "constructor() : this(\x7b\x7d)", .blank, companion m.wrapperName], OneLine text := by
    simp only [companion, allTexts, texts, List.nil_append, List.append_nil, List.cons_append,
      List.forall_mem_cons, oneLine_append, hwrapper, and_true]
    exact ⟨oneLine_ofList (by decide), oneLine_ofList (by decide), by decide,
      oneLine_ofList (by decide), ⟨by decide, by decide⟩, by decide, List.forall_mem_nil _⟩
  rw [file, allTexts_append, allTexts_append, allTexts_append]
  simp only [List.forall_mem_append]
  refine ⟨⟨⟨?_, oneLine_imports⟩, ?_⟩, oneLine_delegates⟩
  · split
    · exact List.forall_mem_nil _
    · simp only [allTexts, texts, List.append_nil, List.forall_mem_singleton, oneLine_append,
        hpackage, and_true]
      decide
  · rw [allTexts, allTexts, allTexts, texts, List.nil_append, List.append_nil, wrapperClass, texts,
      List.forall_mem_cons, allTexts_append, allTexts_append, List.forall_mem_append,
      List.forall_mem_append]
    refine ⟨?_, ⟨hopening, hmembers⟩, hclasses⟩
    simp only [oneLine_append, hwrapper, hnested, and_true]
    exact ⟨⟨⟨by decide, oneLine_ofList (by decide)⟩, by decide⟩, oneLine_ofList (by decide)⟩

/-! ## What is told -/

variable {m m' : ConfigModel} {fields fields' : List ConfigField} {nested nested' : NestedClassSet}

/-- **The source of a wrapper tells all that was written into it.** -/
theorem emit_inj (h : Legal m fields nested) (h' : Legal m' fields' nested')
    (heq : emit m fields nested = emit m' fields' nested') :
    m.package = m'.package ∧ m.name.simpleNames = m'.name.simpleNames
      ∧ m.wrapperName = m'.wrapperName ∧ fields = fields' ∧ nested.classes = nested'.classes := by
  have hlines := allLines_eq_of_render_eq (oneLine_file h) (oneLine_file h') heq
  rw [fileLines, fileLines] at hlines
  obtain ⟨hpackage, hlines⟩ := packageLines_append_inj hlines
  -- the imports are the same, and the class stands behind a blank line
  obtain ⟨hheader, hlines⟩ := List.cons.inj (List.cons.inj (List.append_cancel_left hlines)).2
  obtain ⟨hwrapper, hnames⟩ :=
    classHeader_inj h.wrapperName h'.wrapperName h.model.simpleNames_ne_nil
    h'.model.simpleNames_ne_nil (fun n hn => h.model.identifiers n (List.mem_append_right _ hn))
    (fun n hn => h'.model.identifiers n (List.mem_append_right _ hn)) hheader
  rw [hwrapper] at hlines
  obtain ⟨hfields, hlines⟩ :=
    memberRow_append_inj h.fields h'.fields (ends_classRow nested.classes _)
      (ends_classRow nested'.classes _) (List.append_cancel_left hlines)
  obtain ⟨hclasses, _⟩ := classRow_append_inj (fun c hc => ⟨h.classNames c hc, h.classFields c hc⟩)
    (fun c hc => ⟨h'.classNames c hc, h'.classFields c hc⟩) (by decide) hlines
  exact ⟨hpackage, hnames, hwrapper, hfields, hclasses⟩

/-- A model inside another class. -/
def galleryModel : ConfigModel where
  declaration := ⟨0⟩
  name := ⟨"dev.example", ["Gallery", "Model"]⟩
  wrapperName := "GalleryConfig"
  defaultHook := false
  source := none

/-- Members of all kinds; one has a type that looks like the end of a line. -/
def galleryFields : List ConfigField := [
  .value ⟨"größe", "größe", "List<Int> by optionForKey(parentKey.child(\"größe\"))!!", true, false⟩,
  .nest ⟨"frame", "frame", "Frame"⟩,
  .value ⟨"title", "title", "String", false, true⟩]

/-- A class with members and one without. -/
def galleryClasses : NestedClassSet where
  classes := [
    ⟨"Frame", [.value ⟨"fun_", "fun_", "() -> Unit", true, true⟩,
      .value ⟨"width", "width", "Int", true, false⟩]⟩,
    ⟨"Empty", []⟩]
  distinct := by decide

theorem emit_inj_gallery :
    let moved :=
      { galleryModel with declaration := ⟨7⟩, source := some "Gallery.kt", defaultHook := true }
    let again := NestedClassSet.ofList galleryClasses.classes
    Legal galleryModel galleryFields galleryClasses ∧ Legal moved galleryFields again
      ∧ emit galleryModel galleryFields galleryClasses = emit moved galleryFields again
      ∧ galleryModel.package = moved.package
      ∧ galleryModel.name.simpleNames = moved.name.simpleNames
      ∧ galleryModel.wrapperName = moved.wrapperName ∧ galleryClasses.classes = again.classes := by
  intro moved again
  have hspelled : galleryModel.name.Spelled := ⟨by decide, by decide⟩
  have hlegal : Legal galleryModel galleryFields galleryClasses :=
    ⟨hspelled, by decide, by decide, by decide, by decide⟩
  have hmoved : Legal moved galleryFields again :=
    ⟨hspelled, by decide, by decide, by decide, by decide⟩
  have hsame : emit galleryModel galleryFields galleryClasses = emit moved galleryFields again := by
    rw [emit, emit, file, file, wrapperClass, wrapperClass,
      show again.classes = galleryClasses.classes from by decide]
    rfl
  obtain ⟨hpackage, hnames, hwrapper, _, hclasses⟩ := emit_inj hlegal hmoved hsame
  exact ⟨hlegal, hmoved, hsame, hpackage, hnames, hwrapper, hclasses⟩

end Wrapper

end WrapperGen
