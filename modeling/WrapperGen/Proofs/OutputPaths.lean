import WrapperGen.Proofs.LoadedTables
import WrapperGen.Proofs.RoundCourse
import WrapperGen.Proofs.Storing

/-!
# Where generated files go

The package of a model comes from the name of a declaration, so its segments are identifiers.
The name of the wrapper is any text. Where that text is a name for a file, as it should be,
the source of the wrapper is at the name, in a directory for each segment of the package,
below the root of the sources; and the record is a file in the root of the records
(`names_sourcePath`, `names_recordPath`).
-/

namespace WrapperGen

/-! ## Joining paths -/

namespace Path

variable {p q : Path}

/-- A path that is joined stands behind a slash. -/
theorem exists_text_join (h : q.isAbsolute = false) (hp : p.text ≠ "") :
    ∃ text, (p.join q).text = text ++ "/" ++ q.text ∧ (p.text = text ∨ p.text = text ++ "/") := by
  rw [join, h, if_neg (by simp)]
  by_cases hslash : p.text.toList.getLast? = some '/'
  · rw [if_pos (by simp [hslash])]
    obtain ⟨front, hfront⟩ := List.getLast?_eq_some_iff.mp hslash
    have htext : p.text = String.ofList front ++ "/" := by
      rw [← String.toList_inj, hfront, String.toList_append, String.toList_ofList]
      rfl
    exact ⟨String.ofList front, by rw [htext], Or.inr htext⟩
  · rw [if_neg (by simp [hslash, hp])]
    exact ⟨p.text, rfl, Or.inl rfl⟩

/-- **The names of a relative path come behind those of the path it is joined to.** -/
theorem names_join (h : q.isAbsolute = false) : (p.join q).names = p.names ++ q.names := by
  by_cases hp : p.text = ""
  · have hnone : p.names = [] := by
      rw [names, segments, hp]
      rfl
    rw [join, h, if_neg (by simp), if_pos (by simp [hp]), hp, String.empty_append, hnone,
      List.nil_append]
  · have hslash : "/".toList = ['/'] := rfl
    obtain ⟨text, hjoin, htext⟩ := exists_text_join h hp
    have hnames : p.names = namesIn (Text.parts '/' text) := by
      rcases htext with htext | htext
      · rw [names, segments, htext]
      · have hparts : Text.parts '/' (text ++ "/") = Text.parts '/' text ++ [""] := by
          have happend := Text.parts_append hslash text ""
          rwa [String.append_empty] at happend
        rw [names, segments, htext, hparts, namesIn_append]
        exact List.append_nil _
    rw [hnames, names, names, segments, segments, hjoin, Text.parts_append hslash, namesIn_append]

theorem isAbsolute_join (h : q.isAbsolute = false) : (p.join q).isAbsolute = p.isAbsolute := by
  by_cases hp : p.text = ""
  · rw [join, h, if_neg (by simp), if_pos (by simp [hp]), hp, String.empty_append, h,
      isAbsolute, hp]
    rfl
  · obtain ⟨c, rest, hc⟩ := List.exists_cons_of_ne_nil (fun hnil => hp (String.toList_inj.mp hnil))
    rw [join, h, if_neg (by simp)]
    split
    · simp [isAbsolute, List.isPrefixOf, String.toList_append, hc]
    · simp [isAbsolute, List.isPrefixOf, String.toList_append, hc]

/-- A text without a slash is a single segment. -/
theorem segments_of_noSlash {name : String} (h : '/' ∉ name.toList) :
    (⟨name⟩ : Path).segments = [name] := by
  rw [segments, Text.parts, Text.splitAt_of_not_mem h, List.map_singleton, String.ofList_toList]

theorem names_of_noSlash {name : String} (h : '/' ∉ name.toList) (hvoid : ¬IsVoid name) :
    (⟨name⟩ : Path).names = [name] := by
  rw [names, segments_of_noSlash h, namesIn_singleton hvoid]

theorem isAbsolute_of_noSlash {name : String} (h : '/' ∉ name.toList) :
    (⟨name⟩ : Path).isAbsolute = false := by
  rw [isAbsolute]
  cases hlist : name.toList with
  | nil => rfl
  | cons c rest =>
      rw [hlist, List.mem_cons, not_or] at h
      simpa [List.isPrefixOf] using h.1

/-- Names that are joined one by one come one behind the other. -/
theorem names_foldl_join {steps : List String}
    (h : ∀ name ∈ steps, '/' ∉ name.toList ∧ ¬IsVoid name) (p : Path) :
    (steps.foldl (fun path name => path.join ⟨name⟩) p).names = p.names ++ steps
      ∧ (steps.foldl (fun path name => path.join ⟨name⟩) p).isAbsolute = p.isAbsolute := by
  induction steps generalizing p with
  | nil => exact ⟨(List.append_nil _).symm, rfl⟩
  | cons name steps ih =>
      obtain ⟨hslash, hvoid⟩ := h name List.mem_cons_self
      obtain ⟨hnames, habs⟩ := ih (fun n hn => h n (List.mem_cons_of_mem _ hn)) (p.join ⟨name⟩)
      have hrelative := isAbsolute_of_noSlash hslash
      rw [List.foldl_cons, hnames, habs, names_join hrelative, isAbsolute_join hrelative,
        names_of_noSlash hslash hvoid, List.append_assoc]
      exact ⟨rfl, rfl⟩

end Path

/-! ## Segments of packages -/

theorem slash_notMem_of_isIdentifier {x : String} (h : isIdentifier x = true) : '/' ∉ x.toList :=
  notMem_of_isIdentifier h (by decide)

/-- An identifier is a name, and not the one that leads back. -/
theorem not_isVoid_of_isIdentifier {x : String} (h : isIdentifier x = true) : ¬Path.IsVoid x := by
  rintro (rfl | rfl)
  · exact absurd h (by decide)
  · exact absurd h (by decide)

theorem not_dots_of_isIdentifier {x : String} (h : isIdentifier x = true) : x ≠ ".." := by
  rintro rfl
  exact absurd h (by decide)

theorem ClassName.Spelled.package_identifiers {n : ClassName} (h : n.Spelled) :
    ∀ x ∈ n.packageSegments, isIdentifier x = true :=
  fun x hx => h.identifiers x (List.mem_append_left _ hx)

/-- The parts of a package that are not empty are its segments. -/
theorem ClassName.Spelled.filter_parts {n : ClassName} (h : n.Spelled) :
    (Text.parts '.' n.package).filter (· ≠ "") = n.packageSegments := by
  by_cases hempty : n.package = ""
  · rw [(packageSegments_eq_nil_iff n).mpr hempty, hempty]
    rfl
  · have hsegments : n.packageSegments = Text.parts '.' n.package := if_neg hempty
    rw [← hsegments]
    refine List.filter_eq_self.mpr fun x hx => ?_
    simpa using ne_empty_of_isIdentifier (h.package_identifiers x hx)

/-! ## Files that are named like files -/

namespace GeneratedFile

/-- The qualified name of the class in a file. -/
def className (f : GeneratedFile) : String :=
  if f.package = "" then f.fileName else f.package ++ "." ++ f.fileName

/-- The package of a file is that of a name made of identifiers, and its class
has a name for a file. -/
structure Named (f : GeneratedFile) (n : ClassName) : Prop where
  package_eq : f.package = n.package
  spelled : n.Spelled
  noSlash : '/' ∉ f.fileName.toList

variable {f g : GeneratedFile} {n n' : ClassName}

theorem recordName_eq (f : GeneratedFile) : f.recordName = f.className ++ ".json" := by
  rw [recordName, className]
  split <;> rfl

namespace Named

/-- The name of the source file is no other than a name. -/
theorem sourceName (h : f.Named n) :
    '/' ∉ (f.fileName ++ ".kt").toList ∧ ¬Path.IsVoid (f.fileName ++ ".kt")
    ∧ f.fileName ++ ".kt" ≠ ".." := by
  have hlast : (f.fileName ++ ".kt").toList.getLast? = some 't' := by simp [String.toList_append]
  refine ⟨?_, ?_, fun heq => ?_⟩
  · rw [String.toList_append, List.mem_append, not_or]
    exact ⟨h.noSlash, by decide⟩
  · rintro (heq | heq)
    · exact absurd (heq ▸ hlast) (by decide)
    · exact absurd (heq ▸ hlast) (by decide)
  · exact absurd (heq ▸ hlast) (by decide)

/-- No step from the root of the sources leads back. -/
theorem not_dots (h : f.Named n) : ".." ∉ n.packageSegments ++ [f.fileName ++ ".kt"] := by
  rw [List.mem_append, List.mem_singleton, not_or]
  exact ⟨fun hmem => not_dots_of_isIdentifier (h.spelled.package_identifiers _ hmem) rfl,
    fun heq => h.sourceName.2.2 heq.symm⟩

theorem slash_notMem_package (h : f.Named n) : '/' ∉ f.package.toList := by
  rw [h.package_eq, n.package_eq]
  exact Text.notMem_joined (by decide) fun x hx =>
    slash_notMem_of_isIdentifier (h.spelled.package_identifiers x hx)

theorem recordName (h : f.Named n) :
    '/' ∉ f.recordName.toList ∧ ¬Path.IsVoid f.recordName ∧ f.recordName ≠ ".." := by
  have hlast : f.recordName.toList.getLast? = some 'n' := by
    rw [recordName_eq]
    simp [String.toList_append]
  refine ⟨?_, ?_, fun heq => ?_⟩
  · rw [recordName_eq, className, String.toList_append, List.mem_append, not_or]
    refine ⟨?_, by decide⟩
    split
    · exact h.noSlash
    · rw [String.toList_append, String.toList_append, List.mem_append, List.mem_append,
        not_or, not_or]
      exact ⟨⟨h.slash_notMem_package, by decide⟩, h.noSlash⟩
  · rintro (heq | heq)
    · exact absurd (heq ▸ hlast) (by decide)
    · exact absurd (heq ▸ hlast) (by decide)
  · exact absurd (heq ▸ hlast) (by decide)

theorem names_relativePath (h : f.Named n) :
    f.relativePath.names = n.packageSegments ++ [f.fileName ++ ".kt"]
    ∧ f.relativePath.isAbsolute = false := by
  have hsteps : ∀ name ∈ n.packageSegments ++ [f.fileName ++ ".kt"], '/' ∉ name.toList
      ∧ ¬Path.IsVoid name := by
    intro name hname
    rcases List.mem_append.mp hname with hname | hname
    · have hid := h.spelled.package_identifiers name hname
      exact ⟨slash_notMem_of_isIdentifier hid, not_isVoid_of_isIdentifier hid⟩
    · rw [List.mem_singleton.mp hname]
      exact ⟨h.sourceName.1, h.sourceName.2.1⟩
  rw [relativePath, h.package_eq, h.spelled.filter_parts]
  exact Path.names_foldl_join hsteps ⟨""⟩

end Named

end GeneratedFile

namespace OutputRoots

open Disk

variable {roots : OutputRoots} {f g : GeneratedFile} {n n' : ClassName}

/-- **A source is below the root of the sources**, in a directory for each
segment of its package. -/
theorem names_sourcePath (roots : OutputRoots) (h : f.Named n) :
    (roots.sourcePath f).names = roots.sources.names ++ (n.packageSegments ++ [f.fileName ++ ".kt"])
      ∧ (roots.sourcePath f).isAbsolute = roots.sources.isAbsolute := by
  obtain ⟨hnames, hrelative⟩ := h.names_relativePath
  rw [sourcePath, Path.names_join hrelative, Path.isAbsolute_join hrelative, hnames]
  exact ⟨rfl, rfl⟩

/-- **A record is in the root of the records.** -/
theorem names_recordPath (roots : OutputRoots) (h : f.Named n) :
    (roots.recordPath f).names = roots.records.names ++ [f.recordName]
    ∧ (roots.recordPath f).isAbsolute = roots.records.isAbsolute := by
  obtain ⟨hslash, hvoid, _⟩ := h.recordName
  have hrelative := Path.isAbsolute_of_noSlash hslash
  rw [recordPath, Path.names_join hrelative, Path.isAbsolute_join hrelative,
    Path.names_of_noSlash hslash hvoid]
  exact ⟨rfl, rfl⟩

end OutputRoots

/-! ## Places -/

namespace Disk

/-- Names that do not lead back lead further on. -/
theorem endOf_append {place : Location} {names more : List String} (h : ".." ∉ more) :
    endOf place (names ++ more) = endOf place names ++ more := by
  have hfold : ∀ start : Location, more.foldl onward start = start ++ more := by
    induction more with
    | nil => exact fun start => (List.append_nil start).symm
    | cons n more ih =>
        rw [List.mem_cons, not_or] at h
        intro start
        rw [List.foldl_cons, onward_of_name (Ne.symm h.1), ih h.2, List.append_assoc]
        rfl
  rw [endOf, List.foldl_append, hfold]
  rfl

end Disk

namespace OutputRoots

open Disk

variable {roots : OutputRoots} {f g : GeneratedFile} {n n' : ClassName} {d : Disk}

theorem placeOf_sourcePath (h : f.Named n) : d.placeOf (roots.sourcePath f)
    = d.placeOf roots.sources ++ (n.packageSegments ++ [f.fileName ++ ".kt"]) := by
  obtain ⟨hnames, habs⟩ := names_sourcePath roots h
  rw [placeOf, placeOf, hnames, start, start, habs, endOf_append h.not_dots]

theorem placeOf_recordPath (h : f.Named n) :
    d.placeOf (roots.recordPath f) = d.placeOf roots.records ++ [f.recordName] := by
  obtain ⟨hnames, habs⟩ := names_recordPath roots h
  have hdots : ".." ∉ [f.recordName] := by
    rw [List.mem_singleton]
    exact fun heq => h.recordName.2.2 heq.symm
  rw [placeOf, placeOf, hnames, start, start, habs, endOf_append hdots]

/-! ## When files share a path -/

/-- The steps to a source tell its class. -/
theorem class_eq_of_steps (hf : f.Named n) (hg : g.Named n')
    (h : n.packageSegments ++ [f.fileName ++ ".kt"] = n'.packageSegments ++ [g.fileName ++ ".kt"]) :
    f.package = g.package ∧ f.fileName = g.fileName := by
  obtain ⟨hsegments, hlast⟩ := List.append_inj' h rfl
  refine ⟨?_, (String.append_left_inj _).mp (List.singleton_inj.mp hlast)⟩
  rw [hf.package_eq, hg.package_eq, n.package_eq, n'.package_eq, hsegments]

/-- **Two sources are the same when their classes are**: the package and the name of both. -/
theorem sourcePath_eq_iff (hf : f.Named n) (hg : g.Named n') :
    roots.sourcePath f = roots.sourcePath g ↔ f.package = g.package ∧ f.fileName = g.fileName := by
  constructor
  · intro h
    have hnames := congrArg Path.names h
    rw [(names_sourcePath _ hf).1, (names_sourcePath _ hg).1] at hnames
    exact class_eq_of_steps hf hg (List.append_cancel_left hnames)
  · rintro ⟨hpackage, hname⟩
    rw [sourcePath, sourcePath, GeneratedFile.relativePath, GeneratedFile.relativePath,
      hpackage, hname]

/-- So are the places of sources. -/
theorem placeOf_sourcePath_eq_iff (hf : f.Named n) (hg : g.Named n') :
    d.placeOf (roots.sourcePath f) = d.placeOf (roots.sourcePath g)
      ↔ roots.sourcePath f = roots.sourcePath g := by
  refine ⟨fun h => ?_, fun h => by rw [h]⟩
  rw [placeOf_sourcePath hf, placeOf_sourcePath hg] at h
  exact (sourcePath_eq_iff hf hg).mpr (class_eq_of_steps hf hg (List.append_cancel_left h))

/-- **Two records are the same when the qualified names of their classes are.** -/
theorem recordPath_eq_iff (hf : f.Named n) (hg : g.Named n') :
    roots.recordPath f = roots.recordPath g ↔ f.className = g.className := by
  constructor
  · intro h
    have hnames := congrArg Path.names h
    rw [(names_recordPath _ hf).1, (names_recordPath _ hg).1] at hnames
    have hlast := List.singleton_inj.mp (List.append_cancel_left hnames)
    rw [GeneratedFile.recordName_eq, GeneratedFile.recordName_eq] at hlast
    exact (String.append_left_inj _).mp hlast
  · intro h
    rw [recordPath, recordPath, GeneratedFile.recordName_eq, GeneratedFile.recordName_eq, h]

/-- So are the places of records. -/
theorem placeOf_recordPath_eq_iff (hf : f.Named n) (hg : g.Named n') :
    d.placeOf (roots.recordPath f) = d.placeOf (roots.recordPath g)
      ↔ roots.recordPath f = roots.recordPath g := by
  refine ⟨fun h => ?_, fun h => by rw [h]⟩
  rw [placeOf_recordPath hf, placeOf_recordPath hg] at h
  have hlast := List.singleton_inj.mp (List.append_cancel_left h)
  rw [recordPath, recordPath, hlast]

end OutputRoots

/-! ## Files of models -/

/-- A model of a loaded table has a name made of identifiers. -/
theorem spelled_of_buildModel {s : SymbolSource} {id : DeclarationId} {markers : Markers}
    {model : ConfigModel} (hloaded : s.table.Loaded) (h : buildModel s id markers = .ok model) :
    model.name.Spelled := by
  unfold buildModel at h
  split at h
  · exact absurd h (by simp)
  · rename_i info hinfo
    obtain ⟨entry, hentry, rfl⟩ := SymbolSource.entry?_of_declaration? hinfo
    have hspelled := hloaded.spelled (List.mem_of_getElem? hentry)
    dsimp only at h
    split at h
    · exact absurd h (by simp)
    · exact absurd h (by simp)
    · rw [← Except.ok.inj h]
      exact hspelled

/-- The wrapper of an accepted model is named like a file, if its name has no slash. -/
theorem named_of_buildModel {s : SymbolSource} {id : DeclarationId} {markers : Markers}
    {model : ConfigModel} {o : Options} (hloaded : s.table.Loaded)
    (h : buildModel s id markers = .ok model) (hname : '/' ∉ model.wrapperName.toList) :
    (generate s model o).file.Named model.name :=
  ⟨rfl, spelled_of_buildModel hloaded h, hname⟩

end WrapperGen
