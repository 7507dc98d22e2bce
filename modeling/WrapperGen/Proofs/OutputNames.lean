import WrapperGen.Proofs.OutputPaths

/-!
# What the names of outputs tell

A file is stored under the names of its package and its class, its record under one name joined of
them all. Where these are identifiers, both can be taken apart again: slashes and dots stand only
between them, and the class comes last. So two files have the same path just when they have the same
record, and then they are of the same class (`same_path_iff_same_record`). What a path ends with
tells a source from a record, whatever the names are.
-/

namespace WrapperGen

open Text

/-! ## The ends of paths -/

namespace Path

/-- What a text ends with is at the end of its last segment, if it holds no slash. -/
theorem exists_segments_append {ending : String} (h : '/' ∉ ending.toList) (text : String) :
    ∃ init last, (⟨text ++ ending⟩ : Path).segments = init ++ [last ++ ending] := by
  obtain ⟨init, last, hparts⟩ :=
    (List.eq_nil_or_concat' _).resolve_left (parts_ne_nil (c := '/') text)
  have hslash : ∀ x ∈ parts '/' text, '/' ∉ x.toList := (segmented_segments ⟨text⟩).noSlash
  rw [hparts] at hslash
  have htext : text ++ ending = joined "/" (init ++ [last ++ ending]) := by
    rw [← joined_concat_append, ← hparts, joined_parts rfl]
  refine ⟨init, last, ?_⟩
  rw [segments, htext]
  refine parts_joined rfl (by simp) fun x hx => ?_
  rcases List.mem_append.mp hx with hx | hx
  · exact hslash x (List.mem_append_left _ hx)
  · rw [List.mem_singleton.mp hx, String.toList_append, List.mem_append, not_or]
    exact ⟨hslash last (by simp), h⟩

/-- The last name of a path ends as its text does, if that is no dot alone. -/
theorem exists_names_append {ending : String} (h : '/' ∉ ending.toList)
    (hlength : 1 < ending.length) (text : String) :
    ∃ before last, (⟨text ++ ending⟩ : Path).names = before ++ [last ++ ending] := by
  obtain ⟨init, last, hsegments⟩ := exists_segments_append h text
  have hvoid : ¬IsVoid (last ++ ending) := by
    rintro (hempty | hdot)
    · have hnone := congrArg String.length hempty
      rw [String.length_append, String.length_empty] at hnone
      omega
    · have hone := congrArg String.length hdot
      rw [String.length_append, show ".".length = 1 from rfl] at hone
      omega
  exact ⟨namesIn init, last, by rw [names, hsegments, namesIn_append, namesIn_singleton hvoid]⟩

/-- A path that is joined ends with what it is joined to. -/
theorem exists_text_join_append (p q : Path) : ∃ before, (p.join q).text = before ++ q.text := by
  rw [join]
  split
  · exact ⟨"", String.empty_append.symm⟩
  · split
    · exact ⟨p.text, rfl⟩
    · exact ⟨p.text ++ "/", rfl⟩

end Path

/-! ## Files of classes -/

namespace GeneratedFile

/-- A file of a class whose name is an identifier, in a package that is empty or
joined of identifiers. -/
structure OfClass (f : GeneratedFile) : Prop where
  package : ∃ segments, (∀ x ∈ segments, isIdentifier x = true) ∧ f.package = joined "." segments
  fileName : isIdentifier f.fileName = true

/-- The name of the class that a file is of. -/
def ofName (f : GeneratedFile) : ClassName := ⟨f.package, [f.fileName]⟩

variable {f g : GeneratedFile}

theorem OfClass.spelled (h : f.OfClass) : f.ofName.Spelled := by
  obtain ⟨segments, hsegments, hpackage⟩ := h.package
  rw [ofName, hpackage]
  exact ClassName.spelled_mk (List.cons_ne_nil _ _) hsegments
    (List.forall_mem_singleton.mpr h.fileName)

theorem OfClass.named (h : f.OfClass) : f.Named f.ofName :=
  ⟨rfl, h.spelled, slash_notMem_of_isIdentifier h.fileName⟩

/-- Two files of the same package and the same class. -/
structure SameClass (f g : GeneratedFile) : Prop where
  package : f.package = g.package
  fileName : f.fileName = g.fileName

/-- **The names in a path tell the class**: the package is all of them but the last. -/
theorem sameClass_of_names (hf : f.OfClass) (hg : g.OfClass)
    (h : f.relativePath.names = g.relativePath.names) :
    f.SameClass g := by
  rw [hf.named.names_relativePath.1, hg.named.names_relativePath.1] at h
  obtain ⟨hpackage, hname⟩ := OutputRoots.class_eq_of_steps hf.named hg.named h
  exact ⟨hpackage, hname⟩

/-- **The name of a record tells the class**: what stands behind the last dot
of the qualified name. -/
theorem sameClass_of_recordName (hf : f.OfClass) (hg : g.OfClass)
    (h : f.recordName = g.recordName) :
    f.SameClass g := by
  have hsegments : ∀ {e : GeneratedFile}, e.OfClass →
      parts '.' e.className = e.ofName.packageSegments ++ [e.fileName] := by
    intro e he
    rw [show e.className = e.ofName.canonical from rfl,
      ClassName.canonical_eq he.spelled.simpleNames_ne_nil,
      parts_joined rfl he.spelled.segments_ne_nil fun x hx => dot_notMem_of_isIdentifier
        (he.spelled.identifiers x hx)]
    rfl
  rw [recordName_eq, recordName_eq] at h
  have hparts := congrArg (parts '.') ((String.append_left_inj _).mp h)
  rw [hsegments hf, hsegments hg] at hparts
  obtain ⟨hpackage, hname⟩ := List.append_inj' hparts rfl
  refine ⟨?_, List.singleton_inj.mp hname⟩
  rw [show f.package = f.ofName.package from rfl, f.ofName.package_eq, hpackage,
    ← g.ofName.package_eq]
  rfl

theorem SameClass.relativePath (h : f.SameClass g) : f.relativePath = g.relativePath := by
  rw [GeneratedFile.relativePath, GeneratedFile.relativePath, h.package, h.fileName]

theorem SameClass.recordName (h : f.SameClass g) : f.recordName = g.recordName := by
  rw [GeneratedFile.recordName, GeneratedFile.recordName, h.package, h.fileName]

/-- The path of a source ends as sources do, whatever its class is called. -/
theorem exists_names_relativePath (f : GeneratedFile) :
    ∃ before last, f.relativePath.names = before ++ [last ++ ".kt"] := by
  obtain ⟨before, hjoin⟩ := Path.exists_text_join_append
    (((parts '.' f.package).filter (· ≠ "")).foldl (fun path segment => path.join ⟨segment⟩) ⟨""⟩)
    ⟨f.fileName ++ ".kt"⟩
  have htext : f.relativePath.text = before ++ f.fileName ++ ".kt" := by
    rw [GeneratedFile.relativePath, List.foldl_append, List.foldl_cons, List.foldl_nil, hjoin,
      String.append_assoc]
  have hpath : f.relativePath = ⟨before ++ f.fileName ++ ".kt"⟩ := congrArg Path.mk htext
  rw [hpath]
  exact Path.exists_names_append (by decide) (by decide) _

/--
**Two files have the same path just when they have the same record, and just when they
are of the same class.**

The paths may as well be compared name by name. No path of a source is the name of a record,
whatever packages and classes are called.
-/
theorem same_path_iff_same_record (f g : GeneratedFile) :
    (f.OfClass → g.OfClass →
      (f.relativePath = g.relativePath ↔ f.recordName = g.recordName)
        ∧ (f.recordName = g.recordName ↔ f.SameClass g)
        ∧ (f.relativePath.names = g.relativePath.names ↔ f.SameClass g))
      ∧ f.relativePath ≠ ⟨g.recordName⟩
      ∧ f.relativePath.names ≠ (⟨g.recordName⟩ : Path).names := by
  have hapart : f.relativePath.names ≠ (⟨g.recordName⟩ : Path).names := by
    intro h
    obtain ⟨before, last, hsource⟩ := f.exists_names_relativePath
    obtain ⟨before', last', hrecord⟩ :=
      Path.exists_names_append (by decide : '/' ∉ ".json".toList) (by decide) g.className
    rw [hsource, recordName_eq, hrecord] at h
    have hlast := congrArg String.toList (List.singleton_inj.mp (List.append_inj' h rfl).2)
    rw [String.toList_append, String.toList_append] at hlast
    exact absurd (congrArg List.getLast? hlast) (by simp)
  refine ⟨fun hf hg =>
    ⟨⟨fun h => ?_, fun h => ?_⟩, ⟨sameClass_of_recordName hf hg, fun h => h.recordName⟩,
      ⟨sameClass_of_names hf hg, fun h => by rw [h.relativePath]⟩⟩,
      fun h => hapart (by rw [h]), hapart⟩
  · exact (sameClass_of_names hf hg (by rw [h])).recordName
  · exact (sameClass_of_recordName hf hg h).relativePath

/-- A class in a package, and one with the name of the package in the package around it. -/
theorem same_path_iff_same_record_nearby :
    let f : GeneratedFile := ⟨"dev.größe", "Größe", "", [], true⟩
    let g : GeneratedFile := ⟨"dev", "größe", "", [], true⟩
    f.OfClass ∧ g.OfClass ∧ f.relativePath ≠ g.relativePath ∧ f.recordName ≠ g.recordName
      ∧ f.relativePath.names ≠ g.relativePath.names := by
  intro f g
  have hf : f.OfClass := ⟨⟨["dev", "größe"], by decide, rfl⟩, by decide⟩
  have hg : g.OfClass := ⟨⟨["dev"], by decide, rfl⟩, by decide⟩
  obtain ⟨hpath, hrecord, hnames⟩ := (same_path_iff_same_record f g).1 hf hg
  have hclass : ¬f.SameClass g := fun h => absurd h.fileName (by decide)
  exact ⟨hf, hg, fun h => hclass (hrecord.mp (hpath.mp h)), fun h => hclass (hrecord.mp h),
    fun h => hclass (hnames.mp h)⟩

end GeneratedFile

end WrapperGen
