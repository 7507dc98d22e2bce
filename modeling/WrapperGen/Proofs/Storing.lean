import WrapperGen.Proofs.Replacing

/-!
# Storing a file and its record

A file is stored by writing its source and then its record. What a failed attempt leaves behind is
known precisely (`Attempted`): directories for the source, or the source and directories for the
record. From there the next attempt comes to the same end as an undisturbed one from the start.

Sources end in `.kt`, records in `.json`, and temporary files in `.tmp`, so no file that is stored
is ever in the way of a temporary one.
-/

namespace WrapperGen

/-! ## Names of files -/

namespace Text

variable {α : Type} [DecidableEq α]

/-- What holds no separator stays together at the end of the last part. -/
theorem splitAt_append_of_not_mem {a : α} (xs : List α) {ys : List α} (h : a ∉ ys) :
    ∃ init last, splitAt a (xs ++ ys) = init ++ [last ++ ys] := by
  induction xs with
  | nil => exact ⟨[], [], splitAt_of_not_mem h⟩
  | cons x xs ih =>
      obtain ⟨init, last, heq⟩ := ih
      rw [List.cons_append, splitAt]
      split
      · exact ⟨[] :: init, last, by rw [heq, List.cons_append]⟩
      · rw [heq]
        cases init with
        | nil => exact ⟨[], x :: last, rfl⟩
        | cons part init => exact ⟨(x :: part) :: init, last, rfl⟩

end Text

namespace Path

/-- A path that is written with an ending longer than two characters ends in a
name with that ending. -/
theorem fileName?_of_suffix {p : Path} {ending : List Char} (h : ending <:+ p.text.toList)
    (hslash : '/' ∉ ending) (hlength : 2 < ending.length) :
    ∃ name, p.fileName? = some name ∧ ending <:+ name.toList := by
  obtain ⟨front, hfront⟩ := h
  obtain ⟨init, last, hsplit⟩ := Text.splitAt_append_of_not_mem front hslash
  have hsegments : p.segments = init.map String.ofList ++ [String.ofList (last ++ ending)] := by
    rw [segments, Text.parts, ← hfront, hsplit, List.map_append, List.map_singleton]
  have hlong : ∀ s : String, s.length ≤ 2 → String.ofList (last ++ ending) ≠ s := by
    intro s hs heq
    have := congrArg String.length heq
    rw [String.length_ofList, List.length_append] at this
    omega
  have hvoid : ¬IsVoid (String.ofList (last ++ ending)) :=
    fun hvoid => hvoid.elim (hlong "" (by decide)) (hlong "." (by decide))
  have hlast : (trimmed p.segments).getLast? = some (String.ofList (last ++ ending)) := by
    rw [hsegments]
    by_cases hinit : init = []
    · rw [hinit]
      rfl
    · rw [trimmed_append (by simpa using hinit) hvoid (fun s hs => absurd hs List.not_mem_nil),
        List.getLast?_concat]
  refine ⟨String.ofList (last ++ ending), ?_,
    by rw [String.toList_ofList]; exact List.suffix_append _ _⟩
  rw [fileName?, hlast]
  dsimp only
  rw [if_neg]
  rw [Bool.or_eq_true, Bool.or_eq_true, beq_iff_eq, beq_iff_eq, beq_iff_eq, not_or, not_or]
  exact ⟨⟨hlong "" (by decide), hlong "." (by decide)⟩, hlong ".." (by decide)⟩

/-- What is joined to a path stands at its end. -/
theorem suffix_join (p q : Path) : q.text.toList <:+ (p.join q).text.toList := by
  rw [join]
  split
  · exact List.suffix_refl _
  · split
    · rw [String.toList_append]
      exact List.suffix_append _ _
    · rw [String.toList_append]
      exact List.suffix_append _ _

end Path

namespace OutputRoots

variable (roots : OutputRoots) (f : GeneratedFile)

/-- **A source has a name, and it ends in `.kt`.** -/
theorem fileName?_sourcePath :
    ∃ name, (roots.sourcePath f).fileName? = some name ∧ ".kt".toList <:+ name.toList := by
  refine Path.fileName?_of_suffix ?_ (by decide) (by decide)
  have hrelative : ".kt".toList <:+ f.relativePath.text.toList := by
    rw [GeneratedFile.relativePath, List.foldl_append]
    refine List.IsSuffix.trans ?_ (Path.suffix_join _ _)
    rw [String.toList_append]
    exact List.suffix_append _ _
  exact hrelative.trans (Path.suffix_join _ _)

/-- **A record has a name, and it ends in `.json`.** -/
theorem fileName?_recordPath :
    ∃ name, (roots.recordPath f).fileName? = some name ∧ ".json".toList <:+ name.toList := by
  refine Path.fileName?_of_suffix ?_ (by decide) (by decide)
  refine List.IsSuffix.trans ?_ (Path.suffix_join _ _)
  rw [GeneratedFile.recordName]
  split
  · rw [String.toList_append]
    exact List.suffix_append _ _
  · rw [String.toList_append]
    exact List.suffix_append _ _

end OutputRoots

theorem suffix_temporaryName (name process : String) :
    ".tmp".toList <:+ (temporaryName name process).toList := by
  rw [temporaryName, String.toList_append]
  exact List.suffix_append _ _

/-- A name with another ending is no temporary file's. -/
theorem not_temporary_of_suffix {name : String} {ending : List Char} (h : ending <:+ name.toList)
    (hne : ¬ending <:+ ".tmp".toList) (hne' : ¬".tmp".toList <:+ ending) :
    ¬".tmp".toList <:+ name.toList :=
  fun htmp => (List.suffix_or_suffix_of_suffix h htmp).elim hne hne'

namespace OutputRoots

/-- The names of the files in which a generated file and its record are stored. -/
structure Stores (roots : OutputRoots) (f : GeneratedFile) (source record : String) : Prop where
  source_eq : (roots.sourcePath f).fileName? = some source
  record_eq : (roots.recordPath f).fileName? = some record
  source_suffix : ".kt".toList <:+ source.toList
  record_suffix : ".json".toList <:+ record.toList

theorem exists_stores (roots : OutputRoots) (f : GeneratedFile) :
    ∃ source record, roots.Stores f source record := by
  obtain ⟨source, hsource, hs⟩ := roots.fileName?_sourcePath f
  obtain ⟨record, hrecord, hr⟩ := roots.fileName?_recordPath f
  exact ⟨source, record, hsource, hrecord, hs, hr⟩

/-- The text that is stored as a record. -/
def recordText (roots : OutputRoots) (f : GeneratedFile) : String := (roots.recordOf f).text ++ "\n"

/-- A path at which something is stored for a file, and the name that it ends in. -/
def IsOutput (roots : OutputRoots) (f : GeneratedFile) (path : Path) (name : String) : Prop :=
  (path = roots.sourcePath f ∨ path = roots.recordPath f) ∧ path.fileName? = some name

namespace Stores

variable {roots : OutputRoots} {f : GeneratedFile} {source record : String}

theorem isOutput_source (h : roots.Stores f source record) :
    roots.IsOutput f (roots.sourcePath f) source :=
  ⟨Or.inl rfl, h.source_eq⟩

theorem isOutput_record (h : roots.Stores f source record) :
    roots.IsOutput f (roots.recordPath f) record :=
  ⟨Or.inr rfl, h.record_eq⟩

/-- A source has no temporary file's name, -/
theorem not_temporary_source (h : roots.Stores f source record) :
    ¬".tmp".toList <:+ source.toList :=
  not_temporary_of_suffix h.source_suffix (by decide) (by decide)

/-- and no record has. -/
theorem not_temporary_record (h : roots.Stores f source record) :
    ¬".tmp".toList <:+ record.toList :=
  not_temporary_of_suffix h.record_suffix (by decide) (by decide)

end Stores

/-! ## No temporary files -/

open Disk

/-- No file is in the place of a temporary file that is made to store some files. -/
def FreeFor (roots : OutputRoots) (files : List GeneratedFile) (d : Disk) : Prop :=
  ∀ f ∈ files, ∀ path name, roots.IsOutput f path name →
    d.NoFileAt (d.placeIn path.directory (temporaryName name roots.process))

namespace FreeFor

variable {roots : OutputRoots} {files : List GeneratedFile} {d d' : Disk}

theorem grown {new : Location → Prop} (h : roots.FreeFor files d) (hgrown : Grown new d d') :
    roots.FreeFor files d' := by
  intro f hf path name houtput content hfile
  rw [placeIn_of_workingDirectory hgrown.workingDirectory] at hfile
  exact h f hf path name houtput content (hgrown.file_iff.mp hfile)

theorem written {process name content : String} {path : Path} (h : roots.FreeFor files d)
    (hwritable : d.Writable process path name content) (hwritten : d.Written path name content d')
    (hname : ¬".tmp".toList <:+ name.toList) : roots.FreeFor files d' := by
  intro f hf path' name' houtput c hfile
  rw [placeIn_of_workingDirectory hwritten.workingDirectory] at hfile
  refine h f hf path' name' houtput c ((hwritten.file_iff hwritable fun heq => hname ?_).mp hfile)
  -- the two places end in the same name
  rw [← List.singleton_inj.mp (List.append_inj' heq rfl).2]
  exact suffix_temporaryName name' roots.process

end FreeFor

end OutputRoots

/-! ## Attempts -/

namespace OutputRoots

open Disk Script

variable {roots : OutputRoots} {f : GeneratedFile} {files : List GeneratedFile}
    {source record : String}
  {unsure : DiskCall → Prop}

/-- What attempts at storing a file on the disk `d` may have left, all of which failed. -/
def Attempted (roots : OutputRoots) (f : GeneratedFile) (source : String) (d d' : Disk) : Prop :=
  Grown (d.CreatedFor (roots.sourcePath f).directory) d d'
    ∨ ∃ d₁, d.Writable roots.process (roots.sourcePath f) source f.content
      ∧ d.Written (roots.sourcePath f) source f.content d₁
      ∧ Grown (d₁.CreatedFor (roots.recordPath f).directory) d₁ d'

/-- On the disk `d` a file can be stored, and that leads to the disk `d'`. -/
structure StoredTo (roots : OutputRoots) (f : GeneratedFile) (source record : String)
    (d d₁ d' : Disk) : Prop where
  sourceWritable : d.Writable roots.process (roots.sourcePath f) source f.content
  sourceWritten : d.Written (roots.sourcePath f) source f.content d₁
  recordWritable : d₁.Writable roots.process (roots.recordPath f) record (roots.recordText f)
  recordWritten : d₁.Written (roots.recordPath f) record (roots.recordText f) d'

theorem Attempted.start_eq {d d' : Disk} (h : roots.Attempted f source d d') (p : Path) :
    d'.start p = d.start p := by
  rcases h with hgrown | ⟨d₁, _, hwritten, hgrown⟩
  · exact hgrown.start_eq p
  · rw [hgrown.start_eq, Disk.start, Disk.start, hwritten.workingDirectory]

theorem Attempted.freeFor {d d' : Disk} (h : roots.Attempted f source d d')
    (hstores : roots.Stores f source record) (hfree : roots.FreeFor files d) :
    roots.FreeFor files d' := by
  rcases h with hgrown | ⟨d₁, hwritable, hwritten, hgrown⟩
  · exact hfree.grown hgrown
  · exact (hfree.written hwritable hwritten hstores.not_temporary_source).grown hgrown

/-- Another attempt at the source: it fails and leaves no more than was left, or the source is
there, and beyond it no more than directories for the record. -/
theorem source_attempted {d d₁ d₂ : Disk} {r : Except IoError WriteStatus}
    (hstores : roots.Stores f source record) (hfree : roots.FreeFor files d) (hf : f ∈ files)
    (hremoval : ∀ directory name, ¬unsure (.removeFile directory name))
    (hattempted : roots.Attempted f source d d₁)
    (h : (writeAtomic roots.process (roots.sourcePath f) f.content).Leads unsure d₁ r d₂) :
    ((∃ e, r = .error e) ∧ roots.Attempted f source d d₂)
      ∨ ((∃ status, r = .ok status) ∧ ∃ e,
        d.Writable roots.process (roots.sourcePath f) source f.content
        ∧ d.Written (roots.sourcePath f) source f.content e
        ∧ Grown (e.CreatedFor (roots.recordPath f).directory) e d₂) := by
  have hfree₁ := hattempted.freeFor hstores hfree f hf _ _ hstores.isOutput_source
  have hcreated : d₁.CreatedFor (roots.sourcePath f).directory
      = d.CreatedFor (roots.sourcePath f).directory := by
    rw [CreatedFor, CreatedFor, hattempted.start_eq]
  rcases writeAtomic_leads hstores.source_eq hfree₁ hremoval h with ⟨hgrown₂, hr⟩
    | ⟨hr, hwritable₁, hwritten₁⟩
  · refine Or.inl ⟨hr, ?_⟩
    rcases hattempted with hgrown | ⟨e, hwritable, hwritten, hgrown⟩
    · rw [hcreated] at hgrown₂
      exact Or.inl (hgrown.trans hgrown₂)
    · -- the way to the source is open already, so nothing was created
      have hopen : d₁.OpenTo (roots.sourcePath f).directory :=
        hgrown.openTo (hwritten.openTo hwritable)
      exact Or.inr ⟨e, hwritable, hwritten, hgrown.trans (hgrown₂.alike_of_openTo hopen).grown⟩
  · refine Or.inr ⟨hr, ?_⟩
    rcases hattempted with hgrown | ⟨e, hwritable, hwritten, hgrown⟩
    · exact ⟨d₂, writable_of_grown hgrown hwritable₁, written_of_grown hgrown hwritten₁, .refl d₂⟩
    · -- the source was there already, so nothing was changed
      have hopen : d₁.OpenTo (roots.sourcePath f).directory :=
        hgrown.openTo (hwritten.openTo hwritable)
      have hplace : d₁.at? (d₁.placeIn (roots.sourcePath f).directory source)
          = some (.file (.text f.content)) := by
        rw [placeIn_of_workingDirectory (hgrown.workingDirectory.trans hwritten.workingDirectory)]
        exact hgrown.file_iff.mpr hwritten.at_place
      exact ⟨e, hwritable, hwritten, hgrown.trans (hwritten₁.alike_self hopen hplace).grown⟩

/-- Storing a file fails at the source, or at the record when the source is there, or at neither. -/
theorem store_cases {d d' : Disk} {r : Except IoError WrittenFile}
    (h : (roots.store f).Leads unsure d r d') :
    (∃ e, r = .error e ∧ (writeAtomic roots.process (roots.sourcePath f) f.content).Leads unsure d
      (.error e) d')
      ∨ ∃ status d₁, (writeAtomic roots.process (roots.sourcePath f) f.content).Leads unsure d
        (.ok status) d₁
        ∧ ((∃ e, r = .error e
            ∧ (writeAtomic roots.process (roots.recordPath f) (roots.recordText f)).Leads unsure d₁
              (.error e) d')
          ∨ ∃ again, r = .ok ⟨roots.sourcePath f, roots.recordPath f, roots.recordOf f, status⟩
            ∧ (writeAtomic roots.process (roots.recordPath f) (roots.recordText f)).Leads unsure d₁
              (.ok again) d') := by
  -- the source comes first, and the record only behind a source that was written
  rw [store] at h
  obtain ⟨answer, d₁, hwrite, h⟩ := leads_bind.mp h
  split at h
  · obtain ⟨hr, rfl⟩ := leads_pure.mp h
    exact Or.inl ⟨_, hr, hwrite⟩
  · rename_i status
    refine Or.inr ⟨status, d₁, hwrite, ?_⟩
    obtain ⟨answer, d₂, hrecord, h⟩ := leads_bind.mp h
    split at h
    · obtain ⟨hr, rfl⟩ := leads_pure.mp h
      exact Or.inl ⟨_, hr, hrecord⟩
    · obtain ⟨_, d₃, hlog, h⟩ := leads_bind.mp h
      obtain ⟨hr, rfl⟩ := leads_pure.mp h
      obtain rfl := leads_log.mp hlog
      exact Or.inr ⟨_, hr, hrecord⟩

/--
**Another attempt at storing a file** fails and leaves no more than was left, or it comes to the
same end as storing the file on the disk as it was before all attempts.
-/
theorem store_attempted {d d₁ d₂ : Disk} {r : Except IoError WrittenFile}
    (hstores : roots.Stores f source record) (hfree : roots.FreeFor files d) (hf : f ∈ files)
    (hremoval : ∀ directory name, ¬unsure (.removeFile directory name))
    (hattempted : roots.Attempted f source d d₁) (h : (roots.store f).Leads unsure d₁ r d₂) :
    ((∃ e, r = .error e) ∧ roots.Attempted f source d d₂)
      ∨ ((∃ file, r = .ok file) ∧ ∃ e, roots.StoredTo f source record d e d₂) := by
  rcases store_cases h with ⟨cause, rfl, hwrite⟩ | ⟨status, d₃, hwrite, hrest⟩
  · rcases source_attempted hstores hfree hf hremoval hattempted hwrite with ⟨_, hattempted₂⟩
      | ⟨⟨_, hanswer⟩, _⟩
    · exact Or.inl ⟨⟨_, rfl⟩, hattempted₂⟩
    · exact absurd hanswer (by simp)
  rcases source_attempted hstores hfree hf hremoval hattempted hwrite with
    ⟨⟨_, hanswer⟩, _⟩ | ⟨_, e, hwritable, hwritten, hgrown⟩
  · exact absurd hanswer (by simp)
  -- the source is in place, so all that is left to fail is the record
  have hfree₁ := hfree.written hwritable hwritten hstores.not_temporary_source
  have hfree₃ := hfree₁.grown hgrown f hf _ _ hstores.isOutput_record
  rcases hrest with ⟨cause, rfl, hrecord⟩ | ⟨again, rfl, hrecord⟩
  · rcases writeAtomic_leads hstores.record_eq hfree₃ hremoval hrecord with ⟨hgrown₂, _⟩
      | ⟨⟨_, hanswer⟩, _⟩
    · rw [CreatedFor, hgrown.start_eq, ← CreatedFor] at hgrown₂
      exact Or.inl ⟨⟨_, rfl⟩, Or.inr ⟨e, hwritable, hwritten, hgrown.trans hgrown₂⟩⟩
    · exact absurd hanswer (by simp)
  · rcases writeAtomic_leads hstores.record_eq hfree₃ hremoval hrecord with ⟨_, _, hanswer⟩
      | ⟨_, hwritable₂, hwritten₂⟩
    · exact absurd hanswer (by simp)
    · exact Or.inr ⟨⟨_, rfl⟩, e, hwritable, hwritten, writable_of_grown hgrown hwritable₂,
        written_of_grown hgrown hwritten₂⟩

/-- **What can be stored is stored** when nothing fails. -/
theorem store_on {d d₁ d₂ : Disk} (hstores : roots.Stores f source record)
    (h : roots.StoredTo f source record d d₁ d₂) :
    ∃ file e₁ e₂, (roots.store f).on d = (.ok file, e₂) ∧ roots.StoredTo f source record d e₁ e₂
      ∧ e₂.Alike d₂ := by
  obtain ⟨status, e₁, hsource, hwritten₁⟩ := writeAtomic_on hstores.source_eq h.sourceWritable
  have halike₁ : e₁.Alike d₁ := hwritten₁.alike h.sourceWritten
  have hwritable := writable_of_grown halike₁.grown h.recordWritable
  obtain ⟨status', e₂, hrecord, hwritten₂⟩ := writeAtomic_on hstores.record_eq hwritable
  refine ⟨⟨roots.sourcePath f, roots.recordPath f, roots.recordOf f, status⟩, e₁, e₂, ?_,
    ⟨h.sourceWritable, hwritten₁, hwritable, hwritten₂⟩,
    hwritten₂.alike (written_of_grown halike₁.grown h.recordWritten)⟩
  rw [recordText] at hrecord
  rw [store, on_bind, hsource]
  dsimp only
  rw [on_bind, hrecord]
  rfl

/-! ## Several files -/

/-- Files are stored one after the other without failures. -/
inductive StoresAll (roots : OutputRoots) : List GeneratedFile → Disk → Disk → Prop where
  | nil {d : Disk} : StoresAll roots [] d d
  | cons {f : GeneratedFile} {files : List GeneratedFile} {source record : String}
      {file : WrittenFile} {d d₁ d₂ d' : Disk} :
      roots.Stores f source record → roots.StoredTo f source record d d₁ d₂ →
      (roots.store f).on d = (.ok file, d₂) → StoresAll roots files d₂ d' →
      StoresAll roots (f :: files) d d'

/-- Files are stored one after the other up to the first for which that fails; `rest` are that
one and those behind it. -/
inductive Tries (unsure : DiskCall → Prop) (roots : OutputRoots) :
    List GeneratedFile → Disk → List GeneratedFile → Disk → Prop where
  | nil {d : Disk} : Tries unsure roots [] d [] d
  | stored {f : GeneratedFile} {files rest : List GeneratedFile} {file : WrittenFile}
      {d d₁ d' : Disk} :
      (roots.store f).Leads unsure d (.ok file) d₁ → Tries unsure roots files d₁ rest d' →
      Tries unsure roots (f :: files) d rest d'
  | failed {f : GeneratedFile} {files : List GeneratedFile} {e : IoError} {d d' : Disk} :
      (roots.store f).Leads unsure d (.error e) d' →
      Tries unsure roots (f :: files) d (f :: files) d'

/-- The disk `d'` is behind what it is to be: of the files that are still to be stored on the disk
`d`, the first may have been attempted. -/
def Behind (roots : OutputRoots) : List GeneratedFile → Disk → Disk → Prop
  | [], d, d' => d.Alike d'
  | f :: _, d, d' => ∃ source record, roots.Stores f source record ∧ roots.Attempted f source d d'

theorem behind_of_alike {files : List GeneratedFile} {d d' : Disk} (h : d.Alike d') :
    roots.Behind files d d' := by
  cases files with
  | nil => exact h
  | cons f files =>
      obtain ⟨source, record, hstores⟩ := roots.exists_stores f
      exact ⟨source, record, hstores, Or.inl h.grown⟩

theorem StoresAll.append {files more : List GeneratedFile} {d d₁ d' : Disk}
    (h : roots.StoresAll files d d₁) (h' : roots.StoresAll more d₁ d') :
    roots.StoresAll (files ++ more) d d' := by
  induction h with
  | nil => exact h'
  | cons hstores hto hon _ ih => exact .cons hstores hto hon (ih h')

/-- What is tried where nothing may fail is what is stored without failures. -/
theorem StoresAll.unique {files rest : List GeneratedFile} {d d₁ d₂ : Disk}
    (h : roots.StoresAll files d d₁) (h' : roots.Tries (fun _ => False) files d rest d₂) :
    rest = [] ∧ d₂ = d₁ := by
  induction h with
  | nil =>
      cases h'
      exact ⟨rfl, rfl⟩
  | cons _ _ hon _ ih =>
      cases h' with
      | stored hleads hrest =>
          obtain ⟨_, rfl⟩ := Prod.mk.inj (hon.symm.trans (on_of_leads hleads))
          exact ih hrest
      | failed hleads =>
          exact absurd (Prod.mk.inj (hon.symm.trans (on_of_leads hleads))).1 (by simp)

/-- **Trying leads as far as storing without failures does**, and for the first file that is left no
more was done than attempts leave. -/
theorem tries_behind {all files rest : List GeneratedFile} {d d₁ d₂ : Disk}
    (hremoval : ∀ directory name, ¬unsure (.removeFile directory name))
    (hfree : roots.FreeFor all d) (hsub : ∀ f ∈ files, f ∈ all) (hbehind : roots.Behind files d d₁)
    (h : roots.Tries unsure files d₁ rest d₂) :
    ∃ done e, files = done ++ rest ∧ roots.StoresAll done d e ∧ roots.FreeFor all e
      ∧ roots.Behind rest e d₂ := by
  -- the disk that storing the files done leads to is at most one attempt behind the real one
  induction h generalizing d with
  | nil => exact ⟨[], d, rfl, .nil, hfree, hbehind⟩
  | @stored f files rest file d₁ d₃ d₂ hleads _ ih =>
      obtain ⟨source, record, hstores, hattempted⟩ := hbehind
      rcases store_attempted hstores hfree
        (hsub f List.mem_cons_self) hremoval hattempted hleads with
        ⟨⟨_, herror⟩, _⟩ | ⟨_, e, hto⟩
      · exact absurd herror (by simp)
      · obtain ⟨file', e₁, e₂, hon, hto', halike⟩ := store_on hstores hto
        have hfree₁ :=
          hfree.written hto'.sourceWritable hto'.sourceWritten hstores.not_temporary_source
        have hfree₂ :=
          hfree₁.written hto'.recordWritable hto'.recordWritten hstores.not_temporary_record
        obtain ⟨done, e', hsplit, hdone, hfree', hbehind'⟩ :=
          ih hfree₂ (fun f' hf' => hsub f' (List.mem_cons_of_mem _ hf')) (behind_of_alike halike)
        exact ⟨f :: done, e', congrArg (f :: ·) hsplit, .cons hstores hto' hon hdone,
          hfree', hbehind'⟩
  | @failed f files e d₁ d₂ hleads =>
      obtain ⟨source, record, hstores, hattempted⟩ := hbehind
      rcases store_attempted hstores hfree
        (hsub f List.mem_cons_self) hremoval hattempted hleads with
        ⟨_, hattempted'⟩ | ⟨⟨_, hok⟩, _⟩
      · exact ⟨[], d, rfl, .nil, hfree, source, record, hstores, hattempted'⟩
      · exact absurd hok (by simp)

/-! ## All other files -/

theorem StoredTo.workingDirectory {d d₁ d₂ : Disk} (h : roots.StoredTo f source record d d₁ d₂) :
    d₂.workingDirectory = d.workingDirectory :=
  h.recordWritten.workingDirectory.trans h.sourceWritten.workingDirectory

/-- **Files at other places are as they were.** -/
theorem StoresAll.file_iff {files : List GeneratedFile} {d d' : Disk}
    (h : roots.StoresAll files d d') {x : Location}
    (hx : ∀ f ∈ files, ∀ path name, roots.IsOutput f path name → x ≠ d.placeIn path.directory name)
    {content : Content} : d'.at? x = some (.file content) ↔ d.at? x = some (.file content) := by
  induction h with
  | nil => rfl
  | @cons f files source record file d d₁ d₂ d' hstores hto _ _ ih =>
      have hfirst := hx f List.mem_cons_self
      have hrest : ∀ f' ∈ files, ∀ path name, roots.IsOutput f' path name →
          x ≠ d₂.placeIn path.directory name := by
        intro f' hf' path name houtput
        rw [placeIn_of_workingDirectory hto.workingDirectory]
        exact hx f' (List.mem_cons_of_mem _ hf') path name houtput
      have hrecord : x ≠ d₁.placeIn (roots.recordPath f).directory record := by
        rw [placeIn_of_workingDirectory hto.sourceWritten.workingDirectory]
        exact hfirst _ record hstores.isOutput_record
      rw [ih hrest, hto.recordWritten.file_iff hto.recordWritable hrecord,
        hto.sourceWritten.file_iff hto.sourceWritable (hfirst _ source hstores.isOutput_source)]

end OutputRoots

end WrapperGen
