import WrapperGen.Proofs.InPlace

/-!
# All or nothing

Writing a file does all of it or nothing. If it succeeds, the file has the content and the temporary
file is gone. If it fails, at whatever call, every file is as it was, and only directories on the
way may be new; a temporary file is left only when its removal failed as well
(`writeAtomic_allOrNothing`). That a file is reported as unchanged means that it was read and had
the content, not just that it had it: a file that cannot be read is replaced.
-/

namespace WrapperGen

namespace Disk

open Script

variable {d d₁ d' : Disk} {p path : Path} {name process content : String} {unsure : DiskCall → Prop}

/-! ## One place -/

/-- The same is at every place but one. -/
structure AlikeBut (place : Location) (d d' : Disk) : Prop where
  workingDirectory : d'.workingDirectory = d.workingDirectory
  at? : ∀ x, x ≠ place → d'.at? x = d.at? x

namespace AlikeBut

variable {place : Location}

theorem refl (d : Disk) : AlikeBut place d d := ⟨rfl, fun _ _ => rfl⟩

theorem trans (h : AlikeBut place d d₁) (h' : AlikeBut place d₁ d') : AlikeBut place d d' :=
  ⟨h'.workingDirectory.trans h.workingDirectory, fun x hx => (h'.at? x hx).trans (h.at? x hx)⟩

end AlikeBut

theorem alikeBut_put {place : Location} {entry : Entry} (h : place ≠ []) :
    AlikeBut place d (d.put place entry) :=
  ⟨rfl, fun x hx => by rw [at?_put h, if_neg hx]⟩

theorem alikeBut_clear {place : Location} (h : place ≠ []) : AlikeBut place d (d.clear place) :=
  ⟨rfl, fun x hx => by rw [at?_clear h, if_neg hx]⟩

theorem Filled.alikeBut {place : Location} {c : Content} (h : d.Filled place c d') :
    AlikeBut place d d' :=
  ⟨h.workingDirectory, fun _ hx => h.at_other hx⟩

theorem alikeBut_apply {place : Location} {after : Except IoCause Disk}
    (h : ∀ e, after = .ok e → AlikeBut place d e) :
    AlikeBut place d (d.apply after).2 := by
  cases after with
  | error cause => exact .refl _
  | ok e => exact h e rfl

/-- Such a call changes the place of the file only, whatever it is answered. -/
theorem alikeBut_of_answers {c : DiskCall} {answer : c.Answer} (hc : Handles p name c)
    (h : d.Answers unsure c answer d') : AlikeBut (d.placeIn p name) d d' := by
  have hfill : ∀ content : Content, AlikeBut (d.placeIn p name) d
      (d.apply (d.fill p name content)).2 := by
    intro content
    refine alikeBut_apply fun e he => ?_
    obtain ⟨_, rfl⟩ := fill_eq_ok he
    exact alikeBut_put placeIn_ne_nil
  -- a call that fails leaves the disk as it is, but for filling, which may stop halfway
  have hanswered : d' = (d.answer c).2 ∨ ∃ fault, d' = (d.answerFailing fault c).2 := by
    rcases h with h | ⟨fault, _, h⟩
    · exact Or.inl (congrArg Prod.snd h)
    · exact Or.inr ⟨fault, congrArg Prod.snd h⟩
  cases c with
  | createFile q n =>
      obtain ⟨rfl, rfl⟩ := hc
      rcases hanswered with rfl | ⟨_, rfl⟩
      · refine alikeBut_apply fun e he => ?_
        obtain ⟨x, hchild, _⟩ := bind_eq_ok.mp he
        obtain ⟨_, _, _, rfl⟩ := createFile_eq_ok (openTo_of_child hchild).1 he
        exact alikeBut_put placeIn_ne_nil
      · exact .refl _
  | fill q n text =>
      obtain ⟨rfl, rfl⟩ := hc
      rcases hanswered with rfl | ⟨_, rfl⟩
      · exact hfill _
      · exact hfill _
  | removeFile q n =>
      obtain ⟨rfl, rfl⟩ := hc
      rcases hanswered with rfl | ⟨_, rfl⟩
      · refine alikeBut_apply fun e he => ?_
        obtain ⟨_, rfl⟩ := removeFile_eq_ok he
        exact alikeBut_clear placeIn_ne_nil
      · exact .refl _
  | _ => exact hc.elim

/-- A script that handles one file changes its place only. -/
theorem alikeBut_of_leads {α : Type} {x : Script α} {a : α} (hx : x.Asks (Handles p name))
    (h : x.Leads unsure d a d') : AlikeBut (d.placeIn p name) d d' := by
  induction h with
  | done => exact .refl _
  | note _ ih =>
      cases hx with
      | note hx => exact ih hx
  | call hanswer _ ih =>
      cases hx with
      | call hc hx =>
          have hfirst := alikeBut_of_answers hc hanswer
          have hnext := ih (hx _)
          rw [placeIn_of_workingDirectory hfirst.workingDirectory] at hnext
          exact hfirst.trans hnext

/-! ## Replacing a file -/

/-- A file that was not replaced is as it was, and so is everything but the temporary file. -/
theorem alikeBut_replaceFile {e : IoError}
    (h : (replaceFile process path p name content).Leads unsure d (.error e) d') :
    AlikeBut (d.placeIn p (temporaryName name process)) d d' := by
  obtain ⟨answer, d₁, hfill, ⟨_, hdiscard⟩ | ⟨hok, _⟩⟩ := replaceFile_cases h
  · have hfilled := alikeBut_of_leads (asks_fillTemporary _ _ _) hfill
    have hdiscarded := alikeBut_of_leads (asks_discardTemporary _ _) hdiscard
    rw [placeIn_of_workingDirectory hfilled.workingDirectory] at hdiscarded
    exact hfilled.trans hdiscarded
  · exact absurd hok (by simp)

/-- A file that was replaced has the content, and nothing else has changed. -/
theorem filled_replaceFile {status : WriteStatus} (hp : p.text ≠ "")
    (hfree : d.NoFileAt (d.placeIn p (temporaryName name process)))
    (h : (replaceFile process path p name content).Leads unsure d (.ok status) d') :
    status = .written ∧ d.Filled (d.placeIn p name) (.text content) d' := by
  obtain ⟨answer, d₁, hfill, ⟨⟨_, herror⟩, _⟩ | ⟨hstatus, rfl, hrename⟩⟩ := replaceFile_cases h
  · exact absurd herror (by simp)
  rcases fillTemporary_leads hp hfree hfill with ⟨_, _, hanswer⟩
    | ⟨_, hnone, filled, hfilled, hcontent⟩
  · exact absurd hanswer (by simp)
  · rw [hcontent rfl] at hfilled
    obtain ⟨old, hold, _, _, hd'⟩ := moved_of_rename hrename
    rw [placeIn_of_workingDirectory hfilled.workingDirectory] at hold hd'
    rw [placeIn_of_workingDirectory hfilled.workingDirectory] at hd'
    obtain rfl := Entry.file.inj (Option.some.inj (hold.symm.trans hfilled.at_place))
    refine ⟨Except.ok.inj hstatus, ?_⟩
    rw [hd']
    exact filled_renamed hfilled hnone

/-! ## Writing a file -/

/-- Only missing directories are new, but for one place. -/
structure GrownBut (new : Location → Prop) (place : Location) (d d' : Disk) : Prop where
  workingDirectory : d'.workingDirectory = d.workingDirectory
  place : ∀ x, x ≠ place → d'.at? x = d.at? x
    ∨ (new x ∧ d.at? x = none ∧ d'.at? x = some .directory)

theorem Grown.but {new : Location → Prop} (h : Grown new d d₁) {place : Location}
    (h' : AlikeBut place d₁ d') :
    GrownBut new place d d' := by
  refine ⟨h'.workingDirectory.trans h.workingDirectory, fun x hx => ?_⟩
  rw [h'.at? x hx]
  exact h.place x

theorem GrownBut.file_iff {new : Location → Prop} {place x : Location} {c : Content}
    (h : GrownBut new place d d') (hx : x ≠ place) :
    d'.at? x = some (.file c) ↔ d.at? x = some (.file c) := by
  rcases h.place x hx with heq | ⟨_, hnone, hdirectory⟩
  · rw [heq]
  · simp [hnone, hdirectory]

/-- What writing a file leaves when it succeeds. -/
structure WrittenWhole (d : Disk) (process : String) (path : Path) (content : String)
    (status : WriteStatus) (d' : Disk) : Prop where
  holds : d'.Holds path content
  others : GrownBut (d.CreatedFor path.directory) (d.placeOf path) d d'
  no_temporary : ∀ name, path.fileName? = some name →
    d'.NoFileAt (d.placeIn path.directory (temporaryName name process))
  unchanged : status = .unchanged → Grown (d.CreatedFor path.directory) d d'

/-- There is no file that has the name of the temporary one. -/
def NoTemporary (d : Disk) (process : String) (path : Path) : Prop :=
  ∀ name, path.fileName? = some name →
  d.NoFileAt (d.placeIn path.directory (temporaryName name process))

theorem writtenWhole_of_leads {status : WriteStatus} (hfree : d.NoTemporary process path)
    (h : (writeAtomic process path content).Leads unsure d (.ok status) d') :
    d.WrittenWhole process path content status d' := by
  have hholds := holds_of_writeAtomic h
  obtain ⟨name, hname, _⟩ := hholds.named
  have htemporary : d.placeIn path.directory (temporaryName name process) ≠ d.placeOf path := by
    rw [← placeIn_of_fileName? hname]
    exact fun heq => temporaryName_ne name process (placeIn_inj heq)
  have hwhole : GrownBut (d.CreatedFor path.directory) (d.placeOf path) d d'
      ∧ (status = .unchanged → Grown (d.CreatedFor path.directory) d d') := by
    rcases writeAtomic_cases hname h with ⟨_, e, he⟩ | ⟨d₁, hgrown, _, ⟨_, rfl, _⟩ | hreplace⟩
    · exact absurd he (by simp)
    · exact ⟨hgrown.but (.refl d'), fun _ => hgrown⟩
    · have hplaceIn : ∀ n, d₁.placeIn path.directory n = d.placeIn path.directory n :=
        fun n => placeIn_of_workingDirectory hgrown.workingDirectory _ n
      have hfree₁ : d₁.NoFileAt (d₁.placeIn path.directory (temporaryName name process)) := by
        rw [hplaceIn]
        exact fun c hfile => hfree name hname c (hgrown.file_iff.mp hfile)
      obtain ⟨rfl, hfilled⟩ := filled_replaceFile path.text_directory_ne hfree₁ hreplace
      rw [hplaceIn, placeIn_of_fileName? hname] at hfilled
      exact ⟨hgrown.but hfilled.alikeBut, fun heq => absurd heq (by simp)⟩
  refine ⟨hholds, hwhole.1, fun other hother c hfile => ?_, hwhole.2⟩
  obtain rfl := Option.some.inj (hname.symm.trans hother)
  exact hfree name hname c ((hwhole.1.file_iff htemporary).mp hfile)

/-- No temporary file of another path is there then. -/
theorem WrittenWhole.noTemporary {other : Path} {status : WriteStatus}
    (h : d.WrittenWhole process path content status d') (hname : path.fileName? = some name)
    (hending : ¬".tmp".toList <:+ name.toList) (hfree : d.NoTemporary process other) :
    d'.NoTemporary process other := by
  intro temporary htemporary c hfile
  rw [placeIn_of_workingDirectory h.others.workingDirectory] at hfile
  refine hfree temporary htemporary c ((h.others.file_iff fun heq => ?_).mp hfile)
  rw [← placeIn_of_fileName? hname] at heq
  exact hending (name_eq_of_placeIn_eq heq ▸ suffix_temporaryName _ _)

/-- When writing a file fails, nothing has changed but directories on the way
and the temporary file, -/
theorem grownBut_of_leads {e : IoError}
    (h : (writeAtomic process path content).Leads unsure d (.error e) d') :
    Grown (d.CreatedFor path.directory) d d' ∨ ∃ name, path.fileName? = some name
      ∧ GrownBut (d.CreatedFor path.directory)
        (d.placeIn path.directory (temporaryName name process)) d d' := by
  cases hname : path.fileName? with
  | none =>
      rw [writeAtomic, hname] at h
      rw [(leads_pure.mp h).2]
      exact Or.inl (.refl d)
  | some name =>
      rcases writeAtomic_cases hname h with ⟨hgrown, _⟩ | ⟨d₁, hgrown, _, ⟨hr, _⟩ | hreplace⟩
      · exact Or.inl hgrown
      · exact absurd hr (by simp)
      · have halike := alikeBut_replaceFile hreplace
        rw [placeIn_of_workingDirectory hgrown.workingDirectory] at halike
        exact Or.inr ⟨name, rfl, hgrown.but halike⟩

/-- and not the temporary file, if it can be removed. -/
theorem grown_of_leads {e : IoError} (hfree : d.NoTemporary process path)
    (hremoval : ∀ directory name, ¬unsure (.removeFile directory name))
    (h : (writeAtomic process path content).Leads unsure d (.error e) d') :
    Grown (d.CreatedFor path.directory) d d' := by
  cases hname : path.fileName? with
  | none =>
      rw [writeAtomic, hname] at h
      rw [(leads_pure.mp h).2]
      exact .refl d
  | some name =>
      rcases writeAtomic_leads hname (hfree name hname) hremoval h with ⟨hgrown, _⟩
        | ⟨⟨status, hstatus⟩, _⟩
      · exact hgrown
      · exact absurd hstatus (by simp)

/-! ## Which file is unchanged -/

/-- The calls that read a file of a directory. -/
def ReadsText : DiskCall → Prop
  | .readText _ _ => True
  | _ => False

/-- A file that is replaced is not reported as unchanged. -/
theorem replaceFile_ne_unchanged (m : Machine) :
    ((replaceFile process path p name content).play m).1 ≠ .ok .unchanged := by
  intro h
  rw [replaceFile, play_bind] at h
  split at h
  · rw [play_bind] at h
    exact absurd h (by simp)
  · rw [play_bind] at h
    split at h
    · rw [play_bind] at h
      exact absurd h (by simp)
    · exact absurd h (by simp)

/-- Where the directory was opened, it depends on what is read there. -/
theorem unchanged_iff_read {m m₁ : Machine} (hname : path.fileName? = some name)
    (hensure : (ensureDirectory path.directory).play m = (.ok (), m₁)) :
    ((writeAtomic process path content).play m).1 = .ok .unchanged
      ↔ (m₁.answer (.readText path.directory name)).1 = .ok content := by
  rw [writeAtomic, hname]
  dsimp only
  rw [play_bind, hensure]
  dsimp only
  rw [play_bind, play_ask]
  cases (m₁.answer (.readText path.directory name)).1 with
  | error cause => exact iff_of_false (replaceFile_ne_unchanged _) (by simp)
  | ok existing =>
      dsimp only
      by_cases hsame : existing = content
      · rw [if_pos hsame, hsame]
        exact iff_of_true rfl rfl
      · rw [if_neg hsame]
        exact iff_of_false (replaceFile_ne_unchanged _) fun heq => hsame (Except.ok.inj heq)

/-- What is read of a file is there, and what is there is read unless that is made to fail. -/
theorem read_iff {m : Machine} (hopen : m.disk.OpenTo p) (hp : p.text ≠ "")
    (hname : isTooLong name = false) :
    (m.answer (.readText p name)).1 = .ok content
      ↔ m.disk.at? (m.disk.placeIn p name) = some (.file (.text content))
        ∧ ∀ fault faults, m.faults ≠ some fault :: faults := by
  constructor
  · intro hread
    have hanswers : m.disk.Answers (fun _ => True) (.readText p name) _ _ :=
      m.answers_answer _ fun _ _ _ => trivial
    refine ⟨((readText_answers hp hanswers).2 content hread).2, fun fault faults hfaults => ?_⟩
    obtain ⟨disk, _, events⟩ := m
    obtain rfl : _ = some fault :: faults := hfaults
    exact absurd hread (by simp [Machine.answer, answerFailing])
  · rintro ⟨hfile, hfaults⟩
    have hanswers : m.disk.Answers (fun _ => False) (.readText p name) _ _ :=
      m.answers_answer _ fun fault faults heq => hfaults fault faults heq
    exact (Prod.mk.inj (answer_of_sure id hanswers)).1.trans
      (readText_of_openTo hp hopen hname hfile)

/-- **A file that was written is reported as unchanged if it had the content and could be read.** -/
theorem unchanged_iff {m : Machine} {status : WriteStatus}
    (h : ((writeAtomic process path content).play m).1 = .ok status) :
    status = .unchanged ↔ m.disk.at? (m.disk.placeOf path) = some (.file (.text content))
      ∧ (writeAtomic process path content).FailsOnly (fun c => ¬ReadsText c) m := by
  have hleads := leads_play_any (writeAtomic process path content) m
  rw [h] at hleads
  obtain ⟨name, hname, hshort⟩ := (holds_of_writeAtomic hleads).named
  obtain ⟨m₁, hensure⟩ : ∃ m₁, (ensureDirectory path.directory).play m = (.ok (), m₁) := by
    cases hplay : (ensureDirectory path.directory).play m with
    | mk answer m₁ =>
        cases answer with
        | ok => exact ⟨m₁, rfl⟩
        | error e =>
            rw [writeAtomic, hname] at h
            dsimp only at h
            rw [play_bind, hplay] at h
            exact absurd h (by simp)
  -- the file is read on the disk on which the way is made, and that has the same files
  have hopened := leads_play_any (ensureDirectory path.directory) m
  rw [hensure] at hopened
  obtain ⟨hgrown, hopen⟩ := grown_ensureDirectory hopened
  have hplace : m₁.disk.at? (m₁.disk.placeIn path.directory name) = some (.file (.text content))
      ↔ m.disk.at? (m.disk.placeOf path) = some (.file (.text content)) := by
    rw [placeIn_of_workingDirectory hgrown.workingDirectory, placeIn_of_fileName? hname]
    exact hgrown.file_iff
  have hstatus : status = .unchanged ↔ ((writeAtomic process path content).play m).1
      = .ok .unchanged := by
    rw [h, Except.ok.injEq]
  have hread : (m₁.answer (.readText path.directory name)).1 = .ok content ↔ _ :=
    read_iff (hopen rfl) path.text_directory_ne hshort
  rw [hstatus, unchanged_iff_read hname hensure, hread, hplace]
  refine and_congr_right fun hfile => ?_
  -- making the way reads no file, so of all failures only one of the read counts
  have hdirectories := ((asks_ensureDirectory path.directory).mono
    (Q := fun c => ¬ReadsText c) fun c hc hreads => by
    cases c <;> first | exact hc | exact hreads).failsOnly m
  rw [writeAtomic, hname]
  dsimp only
  rw [failsOnly_bind, and_iff_right hdirectories, hensure]
  dsimp only
  rw [failsOnly_bind]
  constructor
  · intro hfaults
    have hcontent := hread.mpr ⟨hplace.mpr hfile, hfaults⟩
    refine ⟨⟨fun fault faults heq => absurd heq (hfaults fault faults), trivial⟩, ?_⟩
    rw [play_ask, hcontent]
    dsimp only
    rw [if_pos rfl]
    trivial
  · rintro ⟨⟨hsure, _⟩, _⟩ fault faults heq
    exact hsure fault faults heq trivial

/--
**Writing a file does all of it or nothing.**

Any calls may fail. The temporary file of a failed attempt stays only if its removal was among them.
-/
theorem writeAtomic_allOrNothing (m : Machine) (hfree : m.disk.NoTemporary process path) :
    (∀ status, ((writeAtomic process path content).play m).1 = .ok status →
      m.disk.WrittenWhole process path content status
        ((writeAtomic process path content).play m).2.disk
        ∧ (status = .unchanged ↔ m.disk.at? (m.disk.placeOf path) = some (.file (.text content))
          ∧ (writeAtomic process path content).FailsOnly (fun c => ¬ReadsText c) m))
    ∧ ∀ e, ((writeAtomic process path content).play m).1 = .error e →
      Grown (m.disk.CreatedFor path.directory) m.disk
        ((writeAtomic process path content).play m).2.disk
        ∨ (¬(writeAtomic process path content).FailsOnly (fun c => ¬RemovesFile c) m
          ∧ ∃ name, path.fileName? = some name ∧ GrownBut (m.disk.CreatedFor path.directory)
            (m.disk.placeIn path.directory (temporaryName name process)) m.disk
            ((writeAtomic process path content).play m).2.disk) := by
  have hleads := leads_play_any (writeAtomic process path content) m
  refine ⟨fun status hstatus => ⟨?_, unchanged_iff hstatus⟩, fun e he => ?_⟩
  · rw [hstatus] at hleads
    exact writtenWhole_of_leads hfree hleads
  · by_cases hremoval : (writeAtomic process path content).FailsOnly (fun c => ¬RemovesFile c) m
    · have hsure := leads_play _ m hremoval
      rw [he] at hsure
      exact Or.inl (grown_of_leads hfree (fun _ _ hnot => hnot trivial) hsure)
    · rw [he] at hleads
      exact (grownBut_of_leads hleads).imp_right fun hbut => ⟨hremoval, hbut⟩

/-- A disk with a single file. -/
def oneFile : Disk where
  entries := [(["f"], .file (.text "one"))]

theorem noTemporary_oneFile (hname : path.fileName? = some "f")
    (hplace : oneFile.at? (oneFile.placeIn path.directory (temporaryName "f" "7")) = none) :
    oneFile.NoTemporary "7" path := by
  intro name hother c hfile
  obtain rfl := Option.some.inj (hname.symm.trans hother)
  exact absurd (hplace.symm.trans hfile) (by simp)

/-- A disk that gets full while the temporary file is filled, and does not let it be removed. -/
def fullDisk : Machine where
  disk := oneFile
  faults := [none, none, none, some ⟨.other "No space left on device (os error 28)", .text "tw"⟩,
    some ⟨.other "Input/output error (os error 5)", .text ""⟩]

theorem writeAtomic_allOrNothing_fullDisk : fullDisk.disk.NoTemporary "7" ⟨"f"⟩
    ∧ ((writeAtomic "7" ⟨"f"⟩ "two").play fullDisk).1
      = .error ⟨⟨"./.f.7.tmp"⟩, .other "No space left on device (os error 28)"⟩
    ∧ ¬(writeAtomic "7" ⟨"f"⟩ "two").FailsOnly (fun c => ¬RemovesFile c) fullDisk
    ∧ ∃ name, (⟨"f"⟩ : Path).fileName? = some name
      ∧ GrownBut (fullDisk.disk.CreatedFor (Path.directory ⟨"f"⟩))
        (fullDisk.disk.placeIn (Path.directory ⟨"f"⟩) (temporaryName name "7")) fullDisk.disk
      ((writeAtomic "7" ⟨"f"⟩ "two").play fullDisk).2.disk := by
  have hfree : fullDisk.disk.NoTemporary "7" ⟨"f"⟩ := noTemporary_oneFile rfl rfl
  have hresult : ((writeAtomic "7" ⟨"f"⟩ "two").play fullDisk).1
      = .error ⟨⟨"./.f.7.tmp"⟩, .other "No space left on device (os error 28)"⟩ := rfl
  have hleft : ((writeAtomic "7" ⟨"f"⟩ "two").play fullDisk).2.disk.at? [".f.7.tmp"]
      = some (.file (.text "tw")) := rfl
  refine ⟨hfree, hresult,
    ((writeAtomic_allOrNothing fullDisk hfree).2 _ hresult).resolve_left fun hgrown => ?_⟩
  -- half of the content is still there
  have hbefore := hgrown.file_iff.mp hleft
  exact absurd hbefore (by decide)

/--
**That a file is unchanged does not tell what its path led to before.**

The way is made before the file is read, so a path through a directory that is missing yet can
lead to a file that has the content. A file that cannot be read, on the other hand, is replaced
even by the same content.
-/
theorem unchanged_unlike_before :
    (oneFile.NoTemporary "7" ⟨"missing/../f"⟩ ∧ oneFile.read ⟨"missing/../f"⟩ = .error .notFound
      ∧ ((writeAtomic "7" ⟨"missing/../f"⟩ "one").play { disk := oneFile }).1 = .ok .unchanged)
    ∧ oneFile.NoTemporary "7" ⟨"f"⟩ ∧ oneFile.read ⟨"f"⟩ = .ok (.text "one")
      ∧ ((writeAtomic "7" ⟨"f"⟩ "one").play
        { disk := oneFile,
          faults := [none, some ⟨.other "Input/output error (os error 5)", .text ""⟩] }).1
        = .ok .written := by
  refine ⟨⟨noTemporary_oneFile rfl rfl, rfl, rfl⟩, noTemporary_oneFile rfl rfl, rfl, rfl⟩

end Disk

end WrapperGen
