import WrapperGen.Proofs.StoredRecords

/-!
# Records that go stale

The source of a file and its record are replaced one after the other, so there is a moment when the
record still describes the source of before. Whoever stores the file learns of a failure in between,
but does not take the source back: the record is stale then. This is the only way for it to become
so (`recordCurrent_iff`).
-/

namespace WrapperGen

/-- The digest of the content of a file, as records hold it. -/
def Content.hexDigest : Content → String
  | .text s => Sha256.hexDigest s
  | .binary bytes => String.ofList ((Sha256.digest bytes).toList.flatMap Sha256.hexWord)

namespace Disk

open Script

variable {d d' : Disk} {process content name : String} {path q : Path} {unsure : DiskCall → Prop}

/-- A write that fails leaves all files as they were whose names are not
those of temporary files. -/
theorem file_iff_of_failed {e : IoError}
    (h : (writeAtomic process path content).Leads unsure d (.error e) d')
    (hname : q.fileName? = some name) (hending : ¬".tmp".toList <:+ name.toList) (c : Content) :
    d'.at? (d.placeOf q) = some (.file c) ↔ d.at? (d.placeOf q) = some (.file c) := by
  rcases grownBut_of_leads h with hgrown | ⟨other, _, hbut⟩
  · exact hgrown.file_iff
  · refine hbut.file_iff fun heq => ?_
    rw [← placeIn_of_fileName? hname] at heq
    exact hending (name_eq_of_placeIn_eq heq ▸ suffix_temporaryName _ _)

end Disk

namespace OutputRoots

open Disk Script

variable {roots : OutputRoots} {f : GeneratedFile} {d d₁ d' : Disk} {unsure : DiskCall → Prop}

/-- If there is a record of a file, it says where the source is, and holds the
digest of what is there. -/
def RecordCurrent (roots : OutputRoots) (f : GeneratedFile) (d : Disk) : Prop :=
  ∀ stored, d.at? (d.placeOf (roots.recordPath f)) = some (.file stored) →
    ∃ text record source, stored = .text text
      ∧ Json.decode DependencyRecord.decode text = .ok record
      ∧ record.output = (roots.sourcePath f).text
      ∧ d.at? (d.placeOf (roots.sourcePath f)) = some (.file source)
      ∧ record.sha256 = source.hexDigest

/-- The same files are in the places of the source and of the record. -/
structure SameFiles (roots : OutputRoots) (f : GeneratedFile) (d d' : Disk) : Prop where
  workingDirectory : d'.workingDirectory = d.workingDirectory
  source : ∀ c, d'.at? (d.placeOf (roots.sourcePath f)) = some (.file c)
    ↔ d.at? (d.placeOf (roots.sourcePath f)) = some (.file c)
  record : ∀ c, d'.at? (d.placeOf (roots.recordPath f)) = some (.file c)
    ↔ d.at? (d.placeOf (roots.recordPath f)) = some (.file c)

theorem SameFiles.recordCurrent (h : roots.SameFiles f d d') :
    roots.RecordCurrent f d' ↔ roots.RecordCurrent f d := by
  rw [RecordCurrent, RecordCurrent, placeOf_of_workingDirectory h.workingDirectory,
    placeOf_of_workingDirectory h.workingDirectory]
  simp only [h.source, h.record]

theorem sameFiles_of_failed {process content : String} {path : Path} {e : IoError}
    (h : (writeAtomic process path content).Leads unsure d (.error e) d') :
    roots.SameFiles f d d' := by
  obtain ⟨source, record, hstores⟩ := roots.exists_stores f
  refine ⟨(kept_writeAtomic h).workingDirectory, ?_, ?_⟩
  · exact file_iff_of_failed h hstores.source_eq hstores.not_temporary_source
  · exact file_iff_of_failed h hstores.record_eq hstores.not_temporary_record

/-- The source has been replaced by another one, and the record of before is still there. -/
structure LeftBehind (roots : OutputRoots) (f : GeneratedFile) (d d' : Disk) : Prop where
  replaced : d'.at? (d.placeOf (roots.sourcePath f)) = some (.file (.text f.content))
  other : ∃ old, d.at? (d.placeOf (roots.sourcePath f)) = some (.file old)
    ∧ old.hexDigest ≠ Sha256.hexDigest f.content
  record : ∃ stored, d.at? (d.placeOf (roots.recordPath f)) = some (.file stored)

/-- When the source is replaced, a record that was current stays so only if
the digest is the same. -/
theorem recordCurrent_of_replaced {status : WriteStatus} (hcurrent : roots.RecordCurrent f d)
    (h : (writeAtomic roots.process (roots.sourcePath f) f.content).Leads unsure d
      (.ok status) d₁) :
    roots.RecordCurrent f d₁ ↔ ¬roots.LeftBehind f d d₁ := by
  obtain ⟨source, record, hstores⟩ := roots.exists_stores f
  have hkept := kept_writeAtomic h
  have hsource := (holds_of_writeAtomic h).file
  have hrecord := hkept.file_iff (d.placeOf (roots.recordPath f))
    (not_writtenAt_of_suffix hstores.record_eq
    hstores.record_suffix hstores.source_eq hstores.source_suffix hstores.not_temporary_record
      (by decide) (by decide))
  rw [hkept.placeOf_eq] at hsource
  rw [RecordCurrent, hkept.placeOf_eq, hkept.placeOf_eq]
  constructor
  · intro hafter hleft
    obtain ⟨stored, hstored⟩ := hleft.record
    obtain ⟨old, hold, hother⟩ := hleft.other
    obtain ⟨text, r, before, rfl, hdecoded, _, hbefore, hdigest⟩ := hcurrent stored hstored
    obtain ⟨text', r', now, heq, hdecoded', _, hnow, hdigest'⟩ := hafter _ ((hrecord _).mpr hstored)
    -- it is one record, with the digest of both sources
    obtain rfl := Content.text.inj heq
    obtain rfl := Except.ok.inj (hdecoded.symm.trans hdecoded')
    obtain rfl := Entry.file.inj (Option.some.inj (hbefore.symm.trans hold))
    obtain rfl := Entry.file.inj (Option.some.inj (hsource.symm.trans hnow))
    exact hother (hdigest.symm.trans hdigest')
  · intro hnot stored hstored
    obtain ⟨text, r, old, htext, hdecoded, houtput, hold,
        hdigest⟩ := hcurrent stored ((hrecord _).mp hstored)
    refine ⟨text, r, .text f.content, htext, hdecoded, houtput, hsource, ?_⟩
    by_contra hother
    exact hnot ⟨hsource, ⟨old, hold, fun heq => hother (hdigest.trans heq)⟩, stored,
      (hrecord _).mp hstored⟩

/-- A file that is stored is described by its record. -/
theorem recordCurrent_of_inPlace (h : roots.InPlace f d) : roots.RecordCurrent f d := by
  intro stored hstored
  obtain rfl := Entry.file.inj (Option.some.inj (hstored.symm.trans h.record.file))
  refine ⟨roots.recordText f, roots.recordOf f, .text f.content, rfl,
    DependencyRecord.decode_text _, ?_, h.source.file, ?_⟩
  · rw [recordOf]
  · rw [recordOf, Content.hexDigest]

/-- A source that has not changed has not been replaced by another one. -/
theorem SameFiles.not_leftBehind (h : roots.SameFiles f d d') : ¬roots.LeftBehind f d d' := by
  intro hleft
  obtain ⟨old, hold, hother⟩ := hleft.other
  obtain rfl := Entry.file.inj (Option.some.inj (hold.symm.trans ((h.source _).mp hleft.replaced)))
  exact hother rfl

/-- What is left behind when the source is replaced stays so while the files are the same. -/
theorem SameFiles.leftBehind (hdirectory : d₁.workingDirectory = d.workingDirectory)
    (h : roots.SameFiles f d₁ d') :
    roots.LeftBehind f d d' ↔ roots.LeftBehind f d d₁ := by
  have hsource := h.source (.text f.content)
  rw [placeOf_of_workingDirectory hdirectory] at hsource
  exact ⟨fun hleft => ⟨hsource.mp hleft.replaced, hleft.other, hleft.record⟩,
    fun hleft => ⟨hsource.mpr hleft.replaced, hleft.other, hleft.record⟩⟩

/-- A record that is current stays so unless storing the file fails and leaves it behind. -/
theorem recordCurrent_of_leads {r : Except IoError WrittenFile} (hcurrent : roots.RecordCurrent f d)
    (h : (roots.store f).Leads unsure d r d') :
    roots.RecordCurrent f d' ↔ ¬((∃ e, r = .error e) ∧ roots.LeftBehind f d d') := by
  rcases store_cases h with ⟨e, rfl, hsource⟩
    | ⟨status, d₁, hsource, ⟨e, rfl, hrecord⟩ | ⟨again, rfl, _⟩⟩
  · have hsame : roots.SameFiles f d d' := sameFiles_of_failed hsource
    exact iff_of_true (hsame.recordCurrent.mpr hcurrent) fun hstale => hsame.not_leftBehind hstale.2
  · -- the source is replaced and the record is not
    have hsame : roots.SameFiles f d₁ d' := sameFiles_of_failed hrecord
    rw [hsame.recordCurrent, recordCurrent_of_replaced hcurrent hsource,
      hsame.leftBehind (kept_writeAtomic hsource).workingDirectory]
    exact not_congr (iff_and_self.mpr fun _ => ⟨e, rfl⟩)
  · exact iff_of_true (recordCurrent_of_inPlace (inPlace_of_store h).1) fun hstale =>
      absurd hstale.1 (by simp)

/--
**A record that is current stays so, unless storing the file fails and leaves it behind.**

Any calls may fail.
-/
theorem recordCurrent_iff (m : Machine) (hcurrent : roots.RecordCurrent f m.disk) :
    roots.RecordCurrent f ((roots.store f).play m).2.disk ↔
      ¬((∃ e, ((roots.store f).play m).1 = .error e)
        ∧ roots.LeftBehind f m.disk ((roots.store f).play m).2.disk) :=
  recordCurrent_of_leads hcurrent (leads_play_any (roots.store f) m)

/-! ## A record that goes stale -/

/-- A file that is stored is replaced when it is generated again with another content. -/
theorem leftBehind_of_inPlace (h : roots.InPlace f d) {content : String}
    (hother : Sha256.hexDigest f.content ≠ Sha256.hexDigest content)
    (hreplaced : d'.at? (d.placeOf (roots.sourcePath f)) = some (.file (.text content))) :
    roots.LeftBehind { f with content := content } d d' where
  replaced := hreplaced
  other := ⟨.text f.content, h.source.file, hother⟩
  record := ⟨_, h.record.file⟩

/-- A file that was stored is in its place. -/
theorem inPlace_of_isOk (m : Machine) (h : ((roots.store f).play m).1.isOk = true) :
    roots.InPlace f ((roots.store f).play m).2.disk := by
  obtain ⟨w, hw⟩ := exists_ok_of_isOk h
  have hleads := leads_play_any (roots.store f) m
  rw [hw] at hleads
  exact (inPlace_of_store hleads).1

/-- The disk when the menu file has been stored. -/
@[irreducible]
def menuStored : Disk := ((menuRoots.store menuFile).play emptyMachine).2.disk

/-- The menu file with another content. -/
def changedMenu : GeneratedFile := { menuFile with content := "class Menu\n" }

theorem inPlace_menuStored : menuRoots.InPlace menuFile menuStored := by
  unfold menuStored
  exact inPlace_of_isOk emptyMachine (by decide +kernel)

theorem recordCurrent_menuStored : menuRoots.RecordCurrent changedMenu menuStored := by
  have hcurrent : menuRoots.RecordCurrent menuFile menuStored :=
    recordCurrent_of_inPlace inPlace_menuStored
  exact hcurrent

/-- The disk gets full while the temporary file of the source is filled. -/
def menuDiskFull : Machine where
  disk := menuStored
  faults := [none, none, none, some ⟨.other "No space left on device (os error 28)", .text "class"⟩]

theorem recordCurrent_iff_menuDiskFull : menuRoots.RecordCurrent changedMenu menuDiskFull.disk
    ∧ ((menuRoots.store changedMenu).play menuDiskFull).1.isOk = false
    ∧ menuRoots.RecordCurrent changedMenu
      ((menuRoots.store changedMenu).play menuDiskFull).2.disk := by
  have hcurrent : menuRoots.RecordCurrent changedMenu menuDiskFull.disk := recordCurrent_menuStored
  have hfailed : ((menuRoots.store changedMenu).play menuDiskFull).1.isOk = false := by
    decide +kernel
  have hsource : ((menuRoots.store changedMenu).play menuDiskFull).2.disk.at?
      (menuDiskFull.disk.placeOf (menuRoots.sourcePath changedMenu))
        ≠ some (.file (.text changedMenu.content)) := by
    decide +kernel
  exact ⟨hcurrent, hfailed,
    (recordCurrent_iff menuDiskFull hcurrent).mpr fun hstale => hsource hstale.2.replaced⟩

/-- The directory of the records cannot be opened any more. -/
def menuRecordsClosed : Machine where
  disk := menuStored
  faults :=
    [none, none, none, none, none, some ⟨.other "Permission denied (os error 13)", .text ""⟩]

/-- **A record can go stale**: when the record cannot be replaced, the source has
been replaced already. -/
theorem changedMenu_leaves_record_behind :
    menuRoots.RecordCurrent changedMenu menuRecordsClosed.disk
    ∧ ((menuRoots.store changedMenu).play menuRecordsClosed).1.isOk = false
    ∧ ¬menuRoots.RecordCurrent changedMenu
      ((menuRoots.store changedMenu).play menuRecordsClosed).2.disk := by
  have hcurrent : menuRoots.RecordCurrent changedMenu menuRecordsClosed.disk :=
    recordCurrent_menuStored
  have hfailed : ((menuRoots.store changedMenu).play menuRecordsClosed).1.isOk = false := by
    decide +kernel
  have hreplaced : ((menuRoots.store changedMenu).play menuRecordsClosed).2.disk.at?
      (menuStored.placeOf (menuRoots.sourcePath menuFile))
        = some (.file (.text "class Menu\n")) := by decide +kernel
  have hleft := leftBehind_of_inPlace inPlace_menuStored (by decide +kernel) hreplaced
  have hleads := leads_play_any (menuRoots.store changedMenu) menuRecordsClosed
  refine ⟨hcurrent, hfailed, fun hafter => ?_⟩
  exact (recordCurrent_of_leads hcurrent hleads).mp hafter ⟨exists_error_of_isOk hfailed, hleft⟩

end OutputRoots

end WrapperGen
