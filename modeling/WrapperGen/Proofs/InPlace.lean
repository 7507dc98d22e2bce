import WrapperGen.Proofs.Footprint

/-!
# Files in place

A file that was written stands where its path leads, whatever failed on the way
(`holds_of_writeAtomic`), and it stays there while only other places are touched. To write it once
more then takes no more than a look at it, as long as directories can be opened and files can be
read (`writeAtomic_again`). The same is true of a generated file that was stored together with its
record: the two are never in each other's place.
-/

namespace WrapperGen

namespace Disk

open Script

variable {d d₁ d' : Disk} {p path : Path} {name process content : String} {unsure : DiskCall → Prop}
  {touched : Location → Prop}

/-! ## A file that was written -/

/-- A path leads to a file with some content. -/
structure Holds (d : Disk) (path : Path) (content : String) : Prop where
  named : ∃ name, path.fileName? = some name ∧ isTooLong name = false
  isOpen : d.OpenTo path.directory
  file : d.at? (d.placeOf path) = some (.file (.text content))

/-- A file stays in its place while others are touched. -/
theorem Holds.kept (h : d.Holds path content) (hkept : Kept touched d d')
    (hplace : ¬touched (d.placeOf path)) :
    d'.Holds path content := by
  refine ⟨h.named, hkept.openTo h.isOpen, ?_⟩
  rw [hkept.placeOf_eq]
  exact (hkept.file_iff _ hplace _).mpr h.file

theorem createFile_of_answers (h : d.Answers unsure (.createFile p name) (.ok ()) d') :
    d.createFile p name = .ok d' := by
  rcases h with h | ⟨_, _, h⟩
  · exact (apply_cases h).elim And.right fun ⟨_, herror, _⟩ => absurd herror (by simp)
  · exact absurd (congrArg Prod.fst h) (by simp [answerFailing])

theorem fill_of_answers (h : d.Answers unsure (.fill p name content) (.ok ()) d') :
    d.fill p name (.text content) = .ok d' := by
  rcases h with h | ⟨_, _, h⟩
  · exact (apply_cases h).elim And.right fun ⟨_, herror, _⟩ => absurd herror (by simp)
  · exact absurd (congrArg Prod.fst h) (by simp [answerFailing])

/-- A temporary file that was filled has the content. -/
theorem file_of_fillTemporary {temporary : String}
    (h : (fillTemporary p temporary content).Leads unsure d (.ok ()) d') :
    d'.workingDirectory = d.workingDirectory
      ∧ d'.at? (d.placeIn p temporary) = some (.file (.text content)) := by
  rw [fillTemporary] at h
  obtain ⟨answer, d₁, hcreate, h⟩ := leads_bind.mp h
  split at h
  · exact absurd (leads_pure.mp h).1 (by simp)
  · have hcreated := createFile_of_answers (leads_ask.mp hcreate)
    obtain ⟨x, hchild, _⟩ := bind_eq_ok.mp hcreated
    obtain ⟨_, _, _, rfl⟩ := createFile_eq_ok (openTo_of_child hchild).1 hcreated
    obtain ⟨_, rfl⟩ := fill_eq_ok (fill_of_answers (leads_ask.mp h))
    refine ⟨rfl, ?_⟩
    rw [at?_put placeIn_ne_nil]
    exact if_pos rfl

/-- A file that was replaced has the content. -/
theorem file_of_replaceFile {status : WriteStatus}
    (h : (replaceFile process path p name content).Leads unsure d (.ok status) d') :
    isTooLong name = false ∧ d'.at? (d.placeIn p name) = some (.file (.text content)) := by
  obtain ⟨answer, d₁, hfill, ⟨⟨_, herror⟩, _⟩ | ⟨_, rfl, hrename⟩⟩ := replaceFile_cases h
  · exact absurd herror (by simp)
  · obtain ⟨hdirectory, hfilled⟩ := file_of_fillTemporary hfill
    obtain ⟨old, hold, hname, _, hd'⟩ := moved_of_rename hrename
    rw [placeIn_of_workingDirectory hdirectory] at hold hd'
    rw [hfilled] at hold
    rw [hd', placeIn_of_workingDirectory hdirectory, at?_put placeIn_ne_nil, if_pos rfl, hold]
    exact ⟨hname, rfl⟩

/-- A path to which a file is written has a file name. -/
theorem exists_fileName_of_writeAtomic {status : WriteStatus}
    (h : (writeAtomic process path content).Leads unsure d (.ok status) d') :
    ∃ name, path.fileName? = some name := by
  cases hname : path.fileName? with
  | none =>
      rw [writeAtomic, hname] at h
      exact absurd (leads_pure.mp h).1 (by simp)
  | some name => exact ⟨name, rfl⟩

/-- **A file that was written is in place**, whatever failed before. -/
theorem holds_of_writeAtomic {status : WriteStatus}
    (h : (writeAtomic process path content).Leads unsure d (.ok status) d') :
    d'.Holds path content := by
  obtain ⟨name, hname⟩ := exists_fileName_of_writeAtomic h
  rcases writeAtomic_cases hname h with ⟨_, _, herror⟩
    | ⟨d₁, _, hopen, ⟨_, rfl, hshort, hfile⟩ | hreplace⟩
  · exact absurd herror (by simp)
  · rw [placeIn_of_fileName? hname] at hfile
    exact ⟨⟨name, hname, hshort⟩, hopen, hfile⟩
  · -- replacing the file leaves the directory where it is
    obtain ⟨hshort, hfile⟩ := file_of_replaceFile hreplace
    have hasks : (replaceFile process path path.directory name content).Asks
        (d₁.Within fun _ => True) :=
      asks_replaceFile trivial trivial
    have hkept := kept_of_leads hasks rfl hreplace
    rw [placeIn_of_fileName? hname, ← hkept.placeOf_eq] at hfile
    exact ⟨⟨name, hname, hshort⟩, hkept.openTo hopen, hfile⟩

/-! ## Writing it again -/

/-- The calls that open a directory or read a file in it. -/
def looks : DiskCall → Prop
  | .openDirectory _ => True
  | .readText _ _ => True
  | _ => False

theorem answer_of_sure {c : DiskCall} {answer : c.Answer} (hsure : ¬unsure c)
    (h : d.Answers unsure c answer d') :
    (answer, d') = d.answer c :=
  h.resolve_right fun ⟨_, hunsure, _⟩ => hsure hunsure

/-- **A file that is in place is left as it is** when it is written again. -/
theorem writeAtomic_again {r : Except IoError WriteStatus} (hheld : d.Holds path content)
    (hsure : ∀ c, looks c → ¬unsure c)
    (h : (writeAtomic process path content).Leads unsure d r d') :
    r = .ok .unchanged ∧ d' = d := by
  have hp := path.text_directory_ne
  obtain ⟨name, hname, hshort⟩ := hheld.named
  have hfile := hheld.file
  rw [← placeIn_of_fileName? hname] at hfile
  have hopened : d.answer (.openDirectory path.directory) = (.ok (), d) := by
    simp only [answer, (locateDirectory_iff hp).mpr ⟨rfl, hheld.isOpen⟩]
    rfl
  have hread : d.answer (.readText path.directory name) = (.ok content, d) :=
    Prod.ext (readText_of_openTo hp hheld.isOpen hshort hfile) rfl
  -- both calls that look are sure to succeed, and find that nothing is left to do
  rw [writeAtomic, hname] at h
  dsimp only at h
  obtain ⟨answer, d₁, hensure, h⟩ := leads_bind.mp h
  have hdirectory : answer = .ok () ∧ d₁ = d := by
    rw [ensureDirectory] at hensure
    obtain ⟨answer', d₂, hask, hensure⟩ := leads_bind.mp hensure
    have htrue := answer_of_sure (hsure (.openDirectory path.directory) trivial) (leads_ask.mp hask)
    obtain ⟨hanswer', hd₂⟩ := Prod.mk.inj (htrue.trans hopened)
    rw [hanswer', hd₂] at hensure
    exact leads_pure.mp hensure
  rw [hdirectory.1, hdirectory.2] at h
  obtain ⟨answer, d₂, hask, h⟩ := leads_bind.mp h
  have htrue := answer_of_sure (hsure (.readText path.directory name) trivial) (leads_ask.mp hask)
  obtain ⟨hanswer, hd₂⟩ := Prod.mk.inj (htrue.trans hread)
  rw [hanswer, hd₂] at h
  dsimp only at h
  rw [if_pos rfl] at h
  exact leads_pure.mp h

/-- Writing a file touches its own places only. -/
theorem kept_writeAtomic {r : Except IoError WriteStatus}
    (h : (writeAtomic process path content).Leads unsure d r d') :
    Kept (d.WrittenAt process path) d d' :=
  kept_of_leads (asks_writeAtomic fun _ hx => hx) rfl h

/-! ## Places and names -/

/-- Places in directories have the names of their last steps. -/
theorem name_eq_of_placeIn_eq {q : Path} {n m : String}
    (h : d.placeIn p n = d.placeIn q m) : n = m :=
  List.singleton_inj.mp (List.append_inj' h rfl).2

/-- A file whose name has another ending than those that are written is not touched. -/
theorem not_writtenAt_of_suffix {q : Path} {ending other : List Char} {n m : String}
    (hname : path.fileName? = some n) (hending : ending <:+ n.toList)
    (hother : q.fileName? = some m) (hothers : other <:+ m.toList)
    (htemporary : ¬".tmp".toList <:+ n.toList) (hne : ¬ending <:+ other)
    (hne' : ¬other <:+ ending) :
    ¬d.WrittenAt process q (d.placeOf path) := by
  rintro ⟨m', hm, hplace⟩
  obtain rfl := Option.some.inj (hother.symm.trans hm)
  rw [← placeIn_of_fileName? hname, ← placeIn_of_fileName? hother] at hplace
  rcases hplace with hplace | hplace
  · rw [name_eq_of_placeIn_eq hplace] at hending
    exact (List.suffix_or_suffix_of_suffix hending hothers).elim hne hne'
  · rw [name_eq_of_placeIn_eq hplace] at htemporary
    exact htemporary (suffix_temporaryName _ _)

/-- A file without a temporary file's name is touched when its own place is written. -/
theorem writtenAt_iff {q : Path} {n : String} (hname : path.fileName? = some n)
    (htemporary : ¬".tmp".toList <:+ n.toList) (hq : ∃ m, q.fileName? = some m) :
    d.WrittenAt process q (d.placeOf path) ↔ d.placeOf path = d.placeOf q := by
  obtain ⟨m, hm⟩ := hq
  constructor
  · rintro ⟨m', _, hplace | hplace⟩
    · exact hplace
    · rw [← placeIn_of_fileName? hname] at hplace
      rw [name_eq_of_placeIn_eq hplace] at htemporary
      exact absurd (suffix_temporaryName _ _) htemporary
  · exact fun h => ⟨m, hm, Or.inl h⟩

end Disk

namespace OutputRoots

open Disk Script

variable {roots : OutputRoots} {f g : GeneratedFile} {d d' : Disk} {unsure : DiskCall → Prop}

/-- A source is touched when a file with its source in the same place is stored. -/
theorem touches_source_iff : roots.Touches g d (d.placeOf (roots.sourcePath f))
    ↔ d.placeOf (roots.sourcePath f) = d.placeOf (roots.sourcePath g) := by
  obtain ⟨source, record, hf⟩ := roots.exists_stores f
  obtain ⟨source', record', hg⟩ := roots.exists_stores g
  rw [Touches, writtenAt_iff hf.source_eq hf.not_temporary_source ⟨_, hg.source_eq⟩]
  exact or_iff_left
    (not_writtenAt_of_suffix hf.source_eq hf.source_suffix hg.record_eq hg.record_suffix
    hf.not_temporary_source (by decide) (by decide))

/-- A record is touched when a file with its record in the same place is stored. -/
theorem touches_record_iff : roots.Touches g d (d.placeOf (roots.recordPath f))
    ↔ d.placeOf (roots.recordPath f) = d.placeOf (roots.recordPath g) := by
  obtain ⟨source, record, hf⟩ := roots.exists_stores f
  obtain ⟨source', record', hg⟩ := roots.exists_stores g
  rw [Touches, writtenAt_iff hf.record_eq hf.not_temporary_record ⟨_, hg.record_eq⟩]
  exact or_iff_right
    (not_writtenAt_of_suffix hf.record_eq hf.record_suffix hg.source_eq hg.source_suffix
    hf.not_temporary_record (by decide) (by decide))

/-! ## A file that was stored -/

/-- What storing a file reports about it. -/
def outcome (roots : OutputRoots) (f : GeneratedFile) (status : WriteStatus) : WrittenFile :=
  ⟨roots.sourcePath f, roots.recordPath f, roots.recordOf f, status⟩

@[simp] theorem outcome_path (status : WriteStatus) :
    (roots.outcome f status).path = roots.sourcePath f := by
  rw [outcome]

@[simp] theorem outcome_recordPath (status : WriteStatus) :
    (roots.outcome f status).recordPath = roots.recordPath f := by
  rw [outcome]

/-- A file and its record are in place. -/
structure InPlace (roots : OutputRoots) (f : GeneratedFile) (d : Disk) : Prop where
  source : d.Holds (roots.sourcePath f) f.content
  record : d.Holds (roots.recordPath f) (roots.recordText f)

/-- The places that are touched when files with a property are stored. -/
def TouchedBy (roots : OutputRoots) (P : GeneratedFile → Prop) (d : Disk) (x : Location) : Prop :=
  ∃ g, P g ∧ roots.Touches g d x

variable {P Q : GeneratedFile → Prop}

theorem TouchedBy.mono {x : Location} (h : roots.TouchedBy P d' x) (hmore : ∀ g, P g → Q g)
    (hdirectory : d'.workingDirectory = d.workingDirectory) : roots.TouchedBy Q d x := by
  obtain ⟨g, hg, htouches⟩ := h
  exact ⟨g, hmore g hg, (touches_of_workingDirectory hdirectory).mp htouches⟩

/-- **A source stays in place** while files with their sources in other places are stored. -/
theorem InPlace.source_kept (h : roots.InPlace f d) (hkept : Kept (roots.TouchedBy P d) d d')
    (hapart : ∀ g, P g → d.placeOf (roots.sourcePath f) ≠ d.placeOf (roots.sourcePath g)) :
    d'.Holds (roots.sourcePath f) f.content :=
  h.source.kept hkept fun ⟨g, hg, htouches⟩ => hapart g hg (touches_source_iff.mp htouches)

/-- **A record stays in place** while files with their records in other places are stored. -/
theorem InPlace.record_kept (h : roots.InPlace f d) (hkept : Kept (roots.TouchedBy P d) d d')
    (hapart : ∀ g, P g → d.placeOf (roots.recordPath f) ≠ d.placeOf (roots.recordPath g)) :
    d'.Holds (roots.recordPath f) (roots.recordText f) :=
  h.record.kept hkept fun ⟨g, hg, htouches⟩ => hapart g hg (touches_record_iff.mp htouches)

/-- **A file that was stored is in place, and so is its record.** -/
theorem inPlace_of_store {file : WrittenFile} (h : (roots.store f).Leads unsure d (.ok file) d') :
    roots.InPlace f d' ∧ ∃ status, file = roots.outcome f status := by
  obtain ⟨source, record, hf⟩ := roots.exists_stores f
  rcases store_cases h with ⟨_, herror, _⟩ | ⟨status, d₁, hwrite,
    ⟨_, herror, _⟩ | ⟨_, hfile, hrecord⟩⟩
  · exact absurd herror (by simp)
  · exact absurd herror (by simp)
  · have hkept := kept_writeAtomic hrecord
    have hapart : ¬d₁.WrittenAt roots.process (roots.recordPath f)
        (d₁.placeOf (roots.sourcePath f)) :=
      not_writtenAt_of_suffix hf.source_eq hf.source_suffix hf.record_eq hf.record_suffix
        hf.not_temporary_source (by decide) (by decide)
    exact ⟨⟨(holds_of_writeAtomic hwrite).kept hkept hapart, holds_of_writeAtomic hrecord⟩, status,
      Except.ok.inj hfile⟩

/-- **A file that is in place is stored again without a change.** -/
theorem store_again {r : Except IoError WrittenFile} (hplace : roots.InPlace f d)
    (hsure : ∀ c, looks c → ¬unsure c) (h : (roots.store f).Leads unsure d r d') :
    r = .ok (roots.outcome f .unchanged) ∧ d' = d := by
  rw [store] at h
  obtain ⟨answer, d₁, hwrite, h⟩ := leads_bind.mp h
  obtain ⟨hanswer, hd₁⟩ := writeAtomic_again hplace.source hsure hwrite
  rw [hanswer, hd₁] at h
  obtain ⟨answer, d₂, hrecord, h⟩ := leads_bind.mp h
  obtain ⟨hanswer, hd₂⟩ := writeAtomic_again hplace.record hsure hrecord
  rw [hanswer, hd₂] at h
  obtain ⟨_, d₃, hlog, h⟩ := leads_bind.mp h
  rw [leads_log.mp hlog] at h
  exact leads_pure.mp h

end OutputRoots

end WrapperGen
