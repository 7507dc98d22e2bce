import WrapperGen.Output
import WrapperGen.Proofs.Directories

/-!
# Replacing files

A file is replaced through a temporary one beside it. If that fails at any moment, and the temporary
file can be removed, nothing is left of the attempt but directories around the file
(`writeAtomic_leads`). If it succeeds, the file has the new content and nothing else has changed.
When nothing fails, it succeeds wherever it could succeed at all (`writeAtomic_on`).
-/

namespace WrapperGen

namespace Disk

/-! ## A file at a place -/

/-- The same is at every place. -/
structure Alike (d d' : Disk) : Prop where
  workingDirectory : d'.workingDirectory = d.workingDirectory
  at? : ∀ x, d'.at? x = d.at? x

/-- The disk with a file at a place, whatever was there. -/
structure Filled (d : Disk) (place : Location) (content : Content) (d' : Disk) : Prop where
  workingDirectory : d'.workingDirectory = d.workingDirectory
  at? : ∀ x, d'.at? x = if x = place then some (.file content) else d.at? x

theorem Alike.refl (d : Disk) : d.Alike d := ⟨rfl, fun _ => rfl⟩

theorem Alike.grown {new : Location → Prop} {d d' : Disk} (h : d.Alike d') : Grown new d d' :=
  ⟨h.workingDirectory, fun x => Or.inl (h.at? x)⟩

/-- A file that is there need not be put there. -/
theorem filled_self {d : Disk} {place : Location} {content : Content}
    (h : d.at? place = some (.file content)) :
    d.Filled place content d := by
  refine ⟨rfl, fun x => ?_⟩
  split
  · rename_i hx
    rw [hx, h]
  · rfl

theorem filled_put {d : Disk} {place : Location} {content : Content} (h : place ≠ []) :
    d.Filled place content (d.put place (.file content)) :=
  ⟨rfl, fun x => at?_put h _ x⟩

namespace Filled

variable {d d₁ d' : Disk} {place : Location} {content more : Content}

theorem at_place (h : d.Filled place content d') : d'.at? place = some (.file content) := by
  rw [h.at?, if_pos rfl]

theorem at_other (h : d.Filled place content d') {x : Location} (hx : x ≠ place) :
    d'.at? x = d.at? x := by
  rw [h.at?, if_neg hx]

theorem placeOf_eq (h : d.Filled place content d') (p : Path) : d'.placeOf p = d.placeOf p := by
  rw [placeOf, placeOf, start, start, h.workingDirectory]

theorem trans (h : d.Filled place content d₁) (h' : d₁.Filled place more d') :
    d.Filled place more d' := by
  refine ⟨h'.workingDirectory.trans h.workingDirectory, fun x => ?_⟩
  rw [h'.at?]
  split
  · rfl
  · exact h.at_other ‹_›

/-- A file in no directory's place stands in no way. -/
theorem openTo (h : d.Filled place content d') (hplace : d.at? place ≠ some .directory) {p : Path}
    (hopen : d.OpenTo p) : d'.OpenTo p := by
  rw [OpenTo, start, h.workingDirectory, ← start]
  refine ⟨fun x hx => ?_, hopen.short⟩
  have hdirectory := hopen.directories x hx
  rw [h.at_other fun heq => hplace (heq ▸ hdirectory), hdirectory]

/-- When it is cleared again, nothing has changed, if nothing was there. -/
theorem clear (h : d.Filled place content d') (hplace : place ≠ []) (hnone : d.at? place = none) :
    d.Alike (d'.clear place) := by
  refine ⟨h.workingDirectory, fun x => ?_⟩
  rw [at?_clear hplace]
  split
  · rename_i hx
    rw [hx, hnone]
  · exact h.at_other ‹_›

end Filled

/-! ## Single calls -/

variable {d d' : Disk} {p : Path} {name : String}

/-- There is no file at a place. -/
def NoFileAt (d : Disk) (x : Location) : Prop := ∀ content, d.at? x ≠ some (.file content)

theorem NoFileAt.cases {x : Location} (h : d.NoFileAt x) :
    d.at? x = none ∨ d.at? x = some .directory := by
  cases hx : d.at? x with
  | none => exact Or.inl rfl
  | some entry =>
      cases entry with
      | directory => exact Or.inr rfl
      | file content => exact absurd hx (h content)

theorem child_of_openTo (hp : p.text ≠ "") (hopen : d.OpenTo p) (hname : isTooLong name = false) :
    d.child p name = .ok (d.placeIn p name) :=
  (child_eq_ok hp).mpr ⟨hopen, hname, rfl⟩

theorem createFile_of_openTo (hp : p.text ≠ "") (hopen : d.OpenTo p)
    (hname : isTooLong name = false) (hplace : d.at? (d.placeIn p name) ≠ some .directory) :
    d.createFile p name = .ok (d.put (d.placeIn p name) (.file (.text ""))) := by
  have hnot : d.isDirectoryAt (d.placeIn p name) = false := by
    rw [Bool.eq_false_iff, Ne, isDirectoryAt_iff]
    exact hplace
  rw [createFile, child_of_openTo hp hopen hname]
  simp only [Bind.bind, Except.bind, hnot]
  rfl

/-- A file is created where the way is open and no directory stands in its place. -/
theorem createFile_eq_ok (hp : p.text ≠ "") (h : d.createFile p name = .ok d') :
    d.OpenTo p ∧ isTooLong name = false ∧ d.at? (d.placeIn p name) ≠ some .directory
      ∧ d' = d.put (d.placeIn p name) (.file (.text "")) := by
  cases hchild : d.child p name with
  | error cause =>
      rw [createFile, hchild] at h
      cases h
  | ok x =>
      obtain ⟨hopen, hname, hx⟩ := (child_eq_ok hp).mp hchild
      have hplace : d.at? (d.placeIn p name) ≠ some .directory := by
        intro hplace
        rw [createFile, hchild, hx] at h
        simp only [Bind.bind, Except.bind] at h
        rw [if_pos (isDirectoryAt_iff.mpr hplace)] at h
        exact absurd h (by simp)
      rw [createFile_of_openTo hp hopen hname hplace] at h
      exact ⟨hopen, hname, hplace, (Except.ok.inj h).symm⟩

theorem fill_of_openTo {old : Content} (content : Content) (hp : p.text ≠ "") (hopen : d.OpenTo p)
    (hname : isTooLong name = false) (hplace : d.at? (d.placeIn p name) = some (.file old)) :
    d.fill p name content = .ok (d.put (d.placeIn p name) (.file content)) := by
  rw [fill, child_of_openTo hp hopen hname]
  simp only [Bind.bind, Except.bind, contentAt, hplace]
  rfl

theorem removeFile_of_openTo {old : Content} (hp : p.text ≠ "") (hopen : d.OpenTo p)
    (hname : isTooLong name = false) (hplace : d.at? (d.placeIn p name) = some (.file old)) :
    d.removeFile p name = .ok (d.clear (d.placeIn p name)) := by
  rw [removeFile, child_of_openTo hp hopen hname]
  simp only [Bind.bind, Except.bind, contentAt, hplace]
  rfl

/-- What is no file cannot be removed as one. -/
theorem removeFile_of_noFile (hp : p.text ≠ "") (h : d.NoFileAt (d.placeIn p name)) :
    ∃ cause, d.removeFile p name = .error cause := by
  rw [removeFile]
  cases hchild : d.child p name with
  | error cause => exact ⟨cause, rfl⟩
  | ok x =>
      have hx : x = d.placeIn p name := ((child_eq_ok hp).mp hchild).2.2
      rcases h.cases with hnone | hdirectory
      · exact ⟨.notFound, by simp [Bind.bind, Except.bind, contentAt, hx, hnone]⟩
      · exact ⟨.isADirectory, by simp [Bind.bind, Except.bind, contentAt, hx, hdirectory]⟩

theorem rename_of_openTo {content : Content} (target : String) (hp : p.text ≠ "")
    (hopen : d.OpenTo p) (hname : isTooLong name = false)
    (hplace : d.at? (d.placeIn p name) = some (.file content)) (htarget : isTooLong target = false)
    (hfree : d.at? (d.placeIn p target) ≠ some .directory) :
    d.rename p name target
      = .ok ((d.clear (d.placeIn p name)).put (d.placeIn p target) (.file content)) := by
  have hnot : d.isDirectoryAt (d.placeIn p target) = false := by
    rw [Bool.eq_false_iff, Ne, isDirectoryAt_iff]
    exact hfree
  rw [rename, child_of_openTo hp hopen hname, child_of_openTo hp hopen htarget]
  simp only [Bind.bind, Except.bind, contentAt, hplace, hnot]
  rfl

/-- A file is renamed only to a name that is not too long and that no directory has. -/
theorem rename_eq_ok {target : String} {content : Content} (hp : p.text ≠ "") (hopen : d.OpenTo p)
    (hname : isTooLong name = false) (hplace : d.at? (d.placeIn p name) = some (.file content))
    (h : d.rename p name target = .ok d') :
    isTooLong target = false ∧ d.at? (d.placeIn p target) ≠ some .directory
      ∧ d' = (d.clear (d.placeIn p name)).put (d.placeIn p target) (.file content) := by
  cases hchild : d.child p target with
  | error cause =>
      rw [rename, child_of_openTo hp hopen hname, hchild] at h
      cases h
  | ok x =>
      obtain ⟨_, htarget, hx⟩ := (child_eq_ok hp).mp hchild
      have hfree : d.at? (d.placeIn p target) ≠ some .directory := by
        intro hdirectory
        rw [rename, child_of_openTo hp hopen hname, hchild, hx] at h
        simp only [Bind.bind, Except.bind, contentAt, hplace] at h
        rw [if_pos (isDirectoryAt_iff.mpr hdirectory)] at h
        exact absurd h (by simp)
      rw [rename_of_openTo target hp hopen hname hplace htarget hfree] at h
      exact ⟨htarget, hfree, (Except.ok.inj h).symm⟩

/-- An operation that was carried out has changed the disk, or has failed and changed nothing. -/
theorem apply_cases {d d₁ : Disk} {after : Except IoCause Disk} {answer : Except IoCause Unit}
    (h : (answer, d₁) = d.apply after) :
    (answer = .ok () ∧ after = .ok d₁) ∨ ∃ cause, answer = .error cause ∧ after = .error cause
      ∧ d₁ = d := by
  cases after with
  | ok d' =>
      obtain ⟨hanswer, hd⟩ := Prod.mk.inj h
      exact Or.inl ⟨hanswer, congrArg Except.ok hd.symm⟩
  | error cause =>
      obtain ⟨hanswer, hd⟩ := Prod.mk.inj h
      exact Or.inr ⟨cause, hanswer, rfl, hd⟩

/-! ## The temporary file -/

/-- The calls that remove a file. -/
def RemovesFile : DiskCall → Prop
  | .removeFile _ _ => True
  | _ => False

open Script

section Attempt

variable {d d' : Disk} {p : Path} {temporary : String} {unsure : DiskCall → Prop}

/-- Where there is no temporary file, removing it changes nothing. -/
theorem discardTemporary_nothing {a : Unit} (hp : p.text ≠ "")
    (hfree : d.NoFileAt (d.placeIn p temporary))
    (hremoval : ∀ directory name, ¬unsure (.removeFile directory name))
    (h : (discardTemporary p temporary).Leads unsure d a d') : d' = d := by
  obtain ⟨cause, hcause⟩ := removeFile_of_noFile hp hfree
  rw [discardTemporary] at h
  obtain ⟨answer, d₁, hask, h⟩ := leads_bind.mp h
  rcases leads_ask.mp hask with htrue | ⟨_, hunsure, _⟩
  · rcases apply_cases htrue with ⟨_, hok⟩ | ⟨_, _, _, hd⟩
    · rw [hcause] at hok
      exact absurd hok (by simp)
    · rw [hd] at h
      split at h
      · exact (leads_pure.mp h).2
      · exact leads_log.mp h
  · exact absurd hunsure (hremoval _ _)

/-- A temporary file that is there is removed. -/
theorem discardTemporary_file {a : Unit} {content : Content} (hp : p.text ≠ "") (hopen : d.OpenTo p)
    (hname : isTooLong temporary = false)
    (hplace : d.at? (d.placeIn p temporary) = some (.file content))
    (hremoval : ∀ directory name, ¬unsure (.removeFile directory name))
    (h : (discardTemporary p temporary).Leads unsure d a d') :
    d' = d.clear (d.placeIn p temporary) := by
  have hremove := removeFile_of_openTo hp hopen hname hplace
  rw [discardTemporary] at h
  obtain ⟨answer, d₁, hask, h⟩ := leads_bind.mp h
  rcases leads_ask.mp hask with htrue | ⟨_, hunsure, _⟩
  · rcases apply_cases htrue with ⟨_, hok⟩ | ⟨_, _, herror, _⟩
    · rw [hremove] at hok
      rw [← Except.ok.inj hok] at h
      split at h
      · exact (leads_pure.mp h).2
      · exact leads_log.mp h
    · rw [hremove] at herror
      exact absurd herror (by simp)
  · exact absurd hunsure (hremoval _ _)

/-- After filling the temporary file nothing has changed, or there is a file, and just the right
one if that succeeded. -/
theorem fillTemporary_leads {content : String} {r : Except IoCause Unit} (hp : p.text ≠ "")
    (hfree : d.NoFileAt (d.placeIn p temporary))
    (h : (fillTemporary p temporary content).Leads unsure d r d') :
    (d' = d ∧ ∃ cause, r = .error cause)
      ∨ (isTooLong temporary = false ∧ d.at? (d.placeIn p temporary) = none
        ∧ ∃ filled, d.Filled (d.placeIn p temporary) filled d'
          ∧ (r = .ok () → filled = .text content)) := by
  rw [fillTemporary] at h
  obtain ⟨answer, d₁, hask, h⟩ := leads_bind.mp h
  rcases leads_ask.mp hask with htrue | ⟨fault, _, hfail⟩
  · rcases apply_cases htrue with ⟨hanswer, hok⟩ | ⟨cause, hanswer, _, hd⟩
    · obtain ⟨hopen, hname, hplace, hd⟩ := createFile_eq_ok hp hok
      have hnone := hfree.cases.resolve_right hplace
      have hempty : d.Filled (d.placeIn p temporary) (.text "") d₁ := hd ▸ filled_put placeIn_ne_nil
      have hplaceIn : d₁.placeIn p temporary = d.placeIn p temporary := by
        rw [placeIn, placeIn, hempty.placeOf_eq]
      have hthere : d₁.at? (d₁.placeIn p temporary) = some (.file (.text "")) := by
        rw [hplaceIn]
        exact hempty.at_place
      have hfilled : ∀ c, d₁.fill p temporary c
          = .ok (d₁.put (d.placeIn p temporary) (.file c)) := fun c =>
        (fill_of_openTo c hp (hempty.openTo hplace hopen) hname hthere).trans (by rw [hplaceIn])
      rw [hanswer] at h
      -- from here on there is a temporary file, whatever becomes of its content
      refine Or.inr ⟨hname, hnone, ?_⟩
      rcases leads_ask.mp h with htrue | ⟨fault, _, hfail⟩
      · rcases apply_cases htrue with ⟨_, hok⟩ | ⟨_, _, herror, _⟩
        · rw [hfilled] at hok
          exact ⟨.text content, Except.ok.inj hok ▸ hempty.trans (filled_put placeIn_ne_nil),
            fun _ => rfl⟩
        · rw [hfilled] at herror
          exact absurd herror (by simp)
      · -- filling stopped halfway
        obtain ⟨hr, hd'⟩ := Prod.mk.inj hfail
        rw [hfilled] at hd'
        exact ⟨fault.remains, hd' ▸ hempty.trans (filled_put placeIn_ne_nil),
          fun hok => absurd (hr.symm.trans hok) (by simp)⟩
    · rw [hanswer] at h
      obtain ⟨hr, hd'⟩ := leads_pure.mp h
      exact Or.inl ⟨hd'.trans hd, cause, hr⟩
  · obtain ⟨hanswer, hd⟩ := Prod.mk.inj hfail
    rw [hanswer] at h
    obtain ⟨hr, hd'⟩ := leads_pure.mp h
    exact Or.inl ⟨hd'.trans hd, _, hr⟩

/-! ## Replacing a file -/

theorem temporaryName_ne (name process : String) : temporaryName name process ≠ name := by
  intro h
  have hlength := congrArg String.length h
  have hdot : ".".length = 1 := rfl
  simp only [temporaryName, String.length_append, hdot] at hlength
  omega

theorem placeIn_inj {n m : String} (h : d.placeIn p n = d.placeIn p m) : n = m := by
  rw [placeIn, placeIn] at h
  exact List.singleton_inj.mp (List.append_cancel_left h)

/-- A temporary file that was renamed is a file under its new name, and nothing else. -/
theorem filled_renamed {d₁ : Disk} {name : String} {content : Content}
    (h : d.Filled (d.placeIn p temporary) content d₁)
    (hnone : d.at? (d.placeIn p temporary) = none) :
    d.Filled (d.placeIn p name) content
      ((d₁.clear (d.placeIn p temporary)).put (d.placeIn p name) (.file content)) := by
  refine ⟨h.workingDirectory, fun x => ?_⟩
  rw [at?_put placeIn_ne_nil]
  split
  · rfl
  · exact (h.clear placeIn_ne_nil hnone).at? x

/-- Renaming a file was carried out, or has failed and changed nothing. -/
theorem rename_cases {target : String} {answer : Except IoCause Unit}
    (h : d.Answers unsure (.rename p name target) answer d') :
    (answer = .ok () ∧ d.rename p name target = .ok d')
      ∨ ((∃ cause, answer = .error cause) ∧ d' = d) := by
  rcases h with htrue | ⟨_, _, hfail⟩
  · exact (apply_cases htrue).imp_right fun ⟨cause, hanswer, _, hd⟩ => ⟨⟨cause, hanswer⟩, hd⟩
  · obtain ⟨hanswer, hd⟩ := Prod.mk.inj hfail
    exact Or.inr ⟨⟨_, hanswer⟩, hd⟩

/-- Replacing a file comes to filling the temporary file, and then discarding or renaming it. -/
theorem replaceFile_cases {process name content : String} {path : Path}
    {r : Except IoError WriteStatus}
    (h : (replaceFile process path p name content).Leads unsure d r d') :
    ∃ answer d₁, (fillTemporary p (temporaryName name process) content).Leads unsure d answer d₁
      ∧ (((∃ e, r = .error e)
          ∧ (discardTemporary p (temporaryName name process)).Leads unsure d₁ () d')
        ∨ (r = .ok .written ∧ answer = .ok ()
          ∧ d₁.rename p (temporaryName name process) name = .ok d')) := by
  rw [replaceFile] at h
  obtain ⟨answer, d₁, hfill, h⟩ := leads_bind.mp h
  refine ⟨answer, d₁, hfill, ?_⟩
  have hdiscarded : ∀ e : IoError, (discardTemporary p (temporaryName name process) >>= fun _ =>
      pure (.error e)).Leads unsure d₁ r d' →
        (∃ e, r = .error e)
          ∧ (discardTemporary p (temporaryName name process)).Leads unsure d₁ () d' := by
    intro e h
    obtain ⟨_, d₂, hdiscard, h⟩ := leads_bind.mp h
    obtain ⟨hr, rfl⟩ := leads_pure.mp h
    exact ⟨⟨e, hr⟩, hdiscard⟩
  split at h
  · exact Or.inl (hdiscarded _ h)
  · obtain ⟨renamed, d₂, hask, hrest⟩ := leads_bind.mp h
    rcases rename_cases (leads_ask.mp hask) with ⟨rfl, hrename⟩ | ⟨⟨cause, rfl⟩, rfl⟩
    · obtain ⟨hr, rfl⟩ := leads_pure.mp hrest
      exact Or.inr ⟨hr, rfl, hrename⟩
    · exact Or.inl (hdiscarded _ hrest)

/--
**Replacing a file succeeds, or leaves nothing behind.**

When it succeeds, the names were not too long, there was no temporary file, and no directory in
the place of the file.
-/
theorem replaceFile_leads {process name content : String} {path : Path}
    {r : Except IoError WriteStatus} (hp : p.text ≠ "") (hopen : d.OpenTo p)
    (hfree : d.NoFileAt (d.placeIn p (temporaryName name process)))
    (hremoval : ∀ directory name, ¬unsure (.removeFile directory name))
    (h : (replaceFile process path p name content).Leads unsure d r d') :
    (d.Alike d' ∧ ∃ e, r = .error e)
      ∨ (r = .ok .written ∧ isTooLong (temporaryName name process) = false ∧ isTooLong name = false
        ∧ d.at? (d.placeIn p (temporaryName name process)) = none
        ∧ d.at? (d.placeIn p name) ≠ some .directory
        ∧ d.Filled (d.placeIn p name) (.text content) d') := by
  obtain ⟨answer, d₁, hfill, hrest⟩ := replaceFile_cases h
  rcases fillTemporary_leads hp hfree hfill with ⟨rfl, cause, hanswer⟩
    | ⟨htemp, hnone, filled, hfilled, hcontent⟩
  · -- no temporary file was made
    rcases hrest with ⟨hr, hdiscard⟩ | ⟨_, hok, _⟩
    · rw [discardTemporary_nothing hp hfree hremoval hdiscard]
      exact Or.inl ⟨.refl d₁, hr⟩
    · exact absurd (hanswer.symm.trans hok) (by simp)
  · have hplaceIn : ∀ n, d₁.placeIn p n = d.placeIn p n := fun n => by
      rw [placeIn, placeIn, hfilled.placeOf_eq]
    have hopen₁ : d₁.OpenTo p := hfilled.openTo (by rw [hnone]; simp) hopen
    have hthere : d₁.at? (d₁.placeIn p (temporaryName name process)) = some (.file filled) := by
      rw [hplaceIn]
      exact hfilled.at_place
    rcases hrest with ⟨hr, hdiscard⟩ | ⟨hr, hok, hrename⟩
    · rw [discardTemporary_file hp hopen₁ htemp hthere hremoval hdiscard, hplaceIn]
      exact Or.inl ⟨hfilled.clear placeIn_ne_nil hnone, hr⟩
    · obtain ⟨hname, hdirectory, hd⟩ := rename_eq_ok hp hopen₁ htemp hthere hrename
      rw [hplaceIn, hplaceIn] at hd
      rw [hplaceIn,
        hfilled.at_other fun heq => temporaryName_ne name process
          (placeIn_inj heq).symm] at hdirectory
      rw [hcontent hok] at hfilled hd
      refine Or.inr ⟨hr, htemp, hname, hnone, hdirectory, ?_⟩
      rw [hd]
      exact filled_renamed hfilled hnone

theorem filled_twice (d : Disk) (p : Path) (temporary content : String) :
    d.Filled (d.placeIn p temporary) (.text content)
      ((d.put (d.placeIn p temporary) (.file (.text ""))).put (d.placeIn p temporary)
        (.file (.text content))) :=
  (filled_put placeIn_ne_nil).trans (filled_put placeIn_ne_nil)

theorem fillTemporary_on (content : String) (hp : p.text ≠ "") (hopen : d.OpenTo p)
    (htemp : isTooLong temporary = false) (hnone : d.at? (d.placeIn p temporary) = none) :
    (fillTemporary p temporary content).on d
      = (.ok (), (d.put (d.placeIn p temporary) (.file (.text ""))).put (d.placeIn p temporary)
        (.file (.text content))) := by
  have hcreate := createFile_of_openTo hp hopen htemp (by rw [hnone]; simp)
  have hempty : d.Filled (d.placeIn p temporary) (.text "")
      (d.put (d.placeIn p temporary) (.file (.text ""))) :=
    filled_put placeIn_ne_nil
  generalize d.put (d.placeIn p temporary) (.file (.text "")) = d₁ at hcreate hempty ⊢
  have hplaceIn : d₁.placeIn p temporary = d.placeIn p temporary := by
    rw [placeIn, placeIn, hempty.placeOf_eq]
  have hfill := fill_of_openTo (.text content) hp (hempty.openTo (by rw [hnone]; simp) hopen) htemp
    (by rw [hplaceIn]; exact hempty.at_place)
  rw [hplaceIn] at hfill
  rw [fillTemporary, on_bind, on_ask,
    show d.answer (.createFile p temporary) = d.apply (d.createFile p temporary) from rfl,
    hcreate]
  dsimp only [apply]
  rw [on_ask, show d₁.answer (.fill p temporary content)
    = d₁.apply (d₁.fill p temporary (.text content)) from rfl, hfill]
  rfl

/-- **Where nothing is in the way, replacing a file succeeds** when nothing fails. -/
theorem replaceFile_on {process name : String} (content : String) (path : Path) (hp : p.text ≠ "")
    (hopen : d.OpenTo p) (htemp : isTooLong (temporaryName name process) = false)
    (hname : isTooLong name = false)
    (hnone : d.at? (d.placeIn p (temporaryName name process)) = none)
    (hdirectory : d.at? (d.placeIn p name) ≠ some .directory) :
    ∃ d', (replaceFile process path p name content).on d = (.ok .written, d')
      ∧ d.Filled (d.placeIn p name) (.text content) d' := by
  have hfill := fillTemporary_on content hp hopen htemp hnone
  have hfilled := filled_twice d p (temporaryName name process) content
  -- the disk with the filled temporary file, which is then renamed
  generalize hd₂ : (d.put (d.placeIn p (temporaryName name process)) (.file (.text ""))).put
    (d.placeIn p (temporaryName name process)) (.file (.text content)) = d₂ at hfill hfilled
  have hplaceIn : ∀ n, d₂.placeIn p n = d.placeIn p n := fun n => by
    rw [placeIn, placeIn, hfilled.placeOf_eq]
  have hrename := rename_of_openTo name hp
    (hfilled.openTo (by rw [hnone]; simp) hopen) htemp
      (by rw [hplaceIn]; exact hfilled.at_place) hname
    (by
      rw [hplaceIn,
        hfilled.at_other fun heq => temporaryName_ne name process (placeIn_inj heq).symm]
      exact hdirectory)
  rw [hplaceIn, hplaceIn] at hrename
  refine ⟨_, ?_, filled_renamed hfilled hnone⟩
  rw [replaceFile, on_bind, hfill]
  dsimp only
  rw [on_bind, on_ask, show d₂.answer (.rename p (temporaryName name process) name)
    = d₂.apply (d₂.rename p (temporaryName name process) name) from rfl, hrename]
  rfl

end Attempt

/-! ## Writing a file -/

/-- A file can be written: the way to its directory can be opened, and there the file has the
content already or there is room for the temporary file and for the file itself. -/
structure Writable (d : Disk) (process : String) (path : Path) (name content : String) : Prop where
  openable : d.OpenableTo path.directory
  short : isTooLong name = false
  room : ∀ d₁, d.OpenedTo path.directory d₁ →
    d₁.at? (d.placeIn path.directory name) = some (.file (.text content))
      ∨ (isTooLong (temporaryName name process) = false
        ∧ d₁.at? (d.placeIn path.directory (temporaryName name process)) = none
        ∧ d₁.at? (d.placeIn path.directory name) ≠ some .directory)

/-- A file is written: the way to its directory is open now, and the file has the content;
nothing else has changed. -/
def Written (d : Disk) (path : Path) (name content : String) (d' : Disk) : Prop :=
  ∃ d₁, d.OpenedTo path.directory d₁ ∧ d₁.Filled (d.placeIn path.directory name) (.text content) d'

theorem placeOf_of_workingDirectory {d d' : Disk}
    (h : d'.workingDirectory = d.workingDirectory) (p : Path) :
    d'.placeOf p = d.placeOf p := by
  rw [placeOf, placeOf, start, start, h]

theorem placeIn_of_workingDirectory {d d' : Disk}
    (h : d'.workingDirectory = d.workingDirectory) (p : Path) (name : String) :
    d'.placeIn p name = d.placeIn p name := by
  rw [placeIn, placeIn, placeOf_of_workingDirectory h]

/-- What is opened is determined at every place. -/
theorem OpenedAlong.alike {d d₁ d₂ : Disk} {place : Location} {names : List String}
    (h₁ : d.OpenedAlong place names d₁) (h₂ : d.OpenedAlong place names d₂) : d₁.Alike d₂ :=
  ⟨h₂.workingDirectory.trans h₁.workingDirectory.symm, fun x => by rw [h₁.at?, h₂.at?]⟩

theorem Filled.congr {d₁ d₂ d' : Disk} {place : Location} {content : Content}
    (h : d₁.Filled place content d') (halike : d₁.Alike d₂) : d₂.Filled place content d' := by
  refine ⟨h.workingDirectory.trans halike.workingDirectory.symm, fun x => ?_⟩
  rw [h.at?, halike.at?]

theorem Filled.alike {d d₁ d₂ : Disk} {place : Location} {content : Content}
    (h₁ : d.Filled place content d₁) (h₂ : d.Filled place content d₂) : d₁.Alike d₂ :=
  ⟨h₂.workingDirectory.trans h₁.workingDirectory.symm, fun x => by rw [h₁.at?, h₂.at?]⟩

/-- What is written is determined at every place. -/
theorem Written.alike {d d₁ d₂ : Disk} {path : Path} {name content : String}
    (h₁ : d.Written path name content d₁) (h₂ : d.Written path name content d₂) : d₁.Alike d₂ := by
  obtain ⟨e₁, hopened₁, hfilled₁⟩ := h₁
  obtain ⟨e₂, hopened₂, hfilled₂⟩ := h₂
  exact (hfilled₁.congr (hopened₁.alike hopened₂)).alike hfilled₂

variable {unsure : DiskCall → Prop} {process name content : String} {path : Path}

/-- Reading a file changes nothing, and what is read is there. -/
theorem readText_answers {d d' : Disk} {p : Path} {answer : Except IoCause String}
    (hp : p.text ≠ "") (h : d.Answers unsure (.readText p name) answer d') :
    d' = d ∧ ∀ text, answer = .ok text → isTooLong name = false
      ∧ d.at? (d.placeIn p name) = some (.file (.text text)) := by
  rcases h with h | ⟨fault, _, h⟩
  · obtain ⟨hanswer, hd⟩ := Prod.mk.inj h
    refine ⟨hd, fun text hok => ?_⟩
    cases hchild : d.child p name with
    | error cause =>
        rw [hchild, hok] at hanswer
        cases hanswer
    | ok x =>
        obtain ⟨_, hname, hx⟩ := (child_eq_ok hp).mp hchild
        refine ⟨hname, ?_⟩
        rw [← hx]
        rw [hchild, hok] at hanswer
        simp only [Bind.bind, Except.bind, contentAt] at hanswer
        cases hplace : d.at? x with
        | none => rw [hplace] at hanswer; cases hanswer
        | some entry =>
            cases entry with
            | directory => rw [hplace] at hanswer; cases hanswer
            | file stored =>
                rw [hplace] at hanswer
                cases stored with
                | text s => rw [Except.ok.inj hanswer]
                | binary bytes => cases hanswer
  · obtain ⟨hanswer, hd⟩ := Prod.mk.inj h
    exact ⟨hd, fun text hok => absurd (hanswer.symm.trans hok) (by simp)⟩

theorem readText_of_openTo {d : Disk} {p : Path} {text : String} (hp : p.text ≠ "")
    (hopen : d.OpenTo p) (hname : isTooLong name = false)
    (hplace : d.at? (d.placeIn p name) = some (.file (.text text))) :
    (d.answer (.readText p name)).1 = .ok text := by
  simp only [answer, child_of_openTo hp hopen hname, Bind.bind, Except.bind, contentAt,
    hplace, textOf]

/-- Writing a file comes to one of three things: its directory cannot be opened, or it is read and
has the content, or it is replaced. -/
theorem writeAtomic_cases {d d' : Disk} {r : Except IoError WriteStatus}
    (hname : path.fileName? = some name)
    (h : (writeAtomic process path content).Leads unsure d r d') :
    (Grown (d.CreatedFor path.directory) d d' ∧ ∃ e, r = .error e)
      ∨ ∃ d₁, Grown (d.CreatedFor path.directory) d d₁ ∧ d₁.OpenTo path.directory
        ∧ ((r = .ok .unchanged ∧ d' = d₁ ∧ isTooLong name = false
            ∧ d₁.at? (d₁.placeIn path.directory name) = some (.file (.text content)))
          ∨ (replaceFile process path path.directory name content).Leads unsure d₁ r d') := by
  rw [writeAtomic, hname] at h
  dsimp only at h
  obtain ⟨answer, d₁, hensure, h⟩ := leads_bind.mp h
  obtain ⟨hgrown, hopen⟩ := grown_ensureDirectory hensure
  split at h
  · obtain ⟨hr, hd'⟩ := leads_pure.mp h
    exact Or.inl ⟨hd' ▸ hgrown, _, hr⟩
  · obtain ⟨answer, d₂, hask, h⟩ := leads_bind.mp h
    obtain ⟨hd₂, hread⟩ := readText_answers path.text_directory_ne (leads_ask.mp hask)
    rw [hd₂] at h
    -- what was read decides whether the file stays; a failed read counts as other content
    refine Or.inr ⟨d₁, hgrown, hopen rfl, ?_⟩
    split at h
    · rename_i existing
      split at h
      · rename_i hsame
        obtain ⟨hr, hd'⟩ := leads_pure.mp h
        obtain ⟨hshort, hplace⟩ := hread existing rfl
        exact Or.inl ⟨hr, hd', hshort, hsame ▸ hplace⟩
      · exact Or.inr h
    · exact Or.inr h

/--
**Writing a file succeeds, or leaves nothing behind but directories around it.**

Any call may fail at any moment, except that the temporary file is removed.
-/
theorem writeAtomic_leads {d d' : Disk} {r : Except IoError WriteStatus}
    (hname : path.fileName? = some name)
    (hfree : d.NoFileAt (d.placeIn path.directory (temporaryName name process)))
    (hremoval : ∀ directory name, ¬unsure (.removeFile directory name))
    (h : (writeAtomic process path content).Leads unsure d r d') :
    (Grown (d.CreatedFor path.directory) d d' ∧ ∃ e, r = .error e)
      ∨ ((∃ status, r = .ok status) ∧ d.Writable process path name content
        ∧ d.Written path name content d') := by
  rcases writeAtomic_cases hname h with hfailed | ⟨d₁, hgrown, hopen, hrest⟩
  · exact Or.inl hfailed
  obtain ⟨hopenable, hopened⟩ := opened_of_grown hgrown hopen
  have hplaceIn : ∀ n, d₁.placeIn path.directory n = d.placeIn path.directory n :=
    fun n => placeIn_of_workingDirectory hgrown.workingDirectory _ n
  -- on every disk that is opened like this one the same is at every place
  have hroom : ∀ d₂, d.OpenedTo path.directory d₂ → ∀ x, d₂.at? x = d₁.at? x :=
    fun d₂ hopened₂ => (hopened.alike hopened₂).at?
  rcases hrest with ⟨hr, rfl, hshort, hplace⟩ | hreplace
  · rw [hplaceIn] at hplace
    refine Or.inr ⟨⟨_, hr⟩, ⟨hopenable, hshort, fun d₂ hopened₂ => Or.inl ?_⟩, d', hopened,
      filled_self hplace⟩
    rw [hroom d₂ hopened₂]
    exact hplace
  · have hfree₁ : d₁.NoFileAt (d₁.placeIn path.directory (temporaryName name process)) := by
      rw [hplaceIn]
      exact fun content hfile => hfree content (hgrown.file_iff.mp hfile)
    rcases replaceFile_leads path.text_directory_ne hopen hfree₁ hremoval hreplace with
      ⟨halike, hr⟩ | ⟨hr, htemp, hshort, hnone, hdirectory, hfilled⟩
    · exact Or.inl ⟨hgrown.trans halike.grown, hr⟩
    · rw [hplaceIn] at hnone hdirectory hfilled
      refine Or.inr ⟨⟨_, hr⟩, ⟨hopenable, hshort, fun d₂ hopened₂ => Or.inr ?_⟩, d₁,
        hopened, hfilled⟩
      rw [hroom d₂ hopened₂, hroom d₂ hopened₂]
      exact ⟨htemp, hnone, hdirectory⟩

/-- What can be written after a disk has grown for it could be written before, -/
theorem writable_of_grown {d d₁ : Disk} (hgrown : Grown (d.CreatedFor path.directory) d d₁)
    (h : d₁.Writable process path name content) : d.Writable process path name content := by
  refine ⟨openableTo_of_grown hgrown h.openable, h.short, fun d₂ hopened => ?_⟩
  have hroom := h.room d₂ ((openedTo_iff_of_grown hgrown).mpr hopened)
  rwa [placeIn_of_workingDirectory hgrown.workingDirectory,
    placeIn_of_workingDirectory hgrown.workingDirectory] at hroom

/-- and with the same result. -/
theorem written_of_grown {d d₁ d' : Disk} (hgrown : Grown (d.CreatedFor path.directory) d d₁)
    (h : d₁.Written path name content d') : d.Written path name content d' := by
  obtain ⟨d₂, hopened, hfilled⟩ := h
  rw [placeIn_of_workingDirectory hgrown.workingDirectory] at hfilled
  exact ⟨d₂, (openedTo_iff_of_grown hgrown).mp hopened, hfilled⟩

/-- When the directory is open, the file is read, and left as it is if it has the content, -/
theorem writeAtomic_on_same {d d₁ : Disk} (hname : path.fileName? = some name)
    (hensure : (ensureDirectory path.directory).on d = (.ok (), d₁))
    (hread : d₁.answer (.readText path.directory name) = (.ok content, d₁)) :
    (writeAtomic process path content).on d = (.ok .unchanged, d₁) := by
  rw [writeAtomic, hname]
  dsimp only
  rw [on_bind, hensure]
  dsimp only
  rw [on_bind, on_ask, hread]
  dsimp only
  rw [if_pos rfl]
  rfl

/-- and replaced otherwise. -/
theorem writeAtomic_on_other {d d₁ : Disk} {answer : Except IoCause String}
    (hname : path.fileName? = some name)
    (hensure : (ensureDirectory path.directory).on d = (.ok (), d₁))
    (hread : d₁.answer (.readText path.directory name) = (answer, d₁))
    (hother : answer ≠ .ok content) :
    (writeAtomic process path content).on d
      = (replaceFile process path path.directory name content).on d₁ := by
  rw [writeAtomic, hname]
  dsimp only
  rw [on_bind, hensure]
  dsimp only
  rw [on_bind, on_ask, hread]
  cases answer with
  | error cause => rfl
  | ok existing =>
      dsimp only
      rw [if_neg fun hsame => hother (congrArg Except.ok hsame)]

/-- **What can be written is written** when nothing fails. -/
theorem writeAtomic_on {d : Disk} (hname : path.fileName? = some name)
    (h : d.Writable process path name content) :
    ∃ status d', (writeAtomic process path content).on d = (.ok status, d')
      ∧ d.Written path name content d' := by
  have hp := path.text_directory_ne
  obtain ⟨d₁, hensure, hopened⟩ := ensureDirectory_on h.openable
  have hopen : d₁.OpenTo path.directory := by
    rw [OpenTo, Disk.start, hopened.workingDirectory]
    exact hopened.isOpen h.openable.short
  have hplaceIn : ∀ n, d₁.placeIn path.directory n = d.placeIn path.directory n :=
    fun n => placeIn_of_workingDirectory hopened.workingDirectory _ n
  have hread : d₁.answer (.readText path.directory name)
      = ((d₁.answer (.readText path.directory name)).1, d₁) := rfl
  -- on a disk without failures the file is left alone just when it has the content
  by_cases hsame : (d₁.answer (.readText path.directory name)).1 = .ok content
  · rw [hsame] at hread
    have htrue : d₁.Answers (fun _ => False) (.readText path.directory name) (.ok content) d₁ :=
      Or.inl hread.symm
    obtain ⟨_, hplace⟩ := (readText_answers hp htrue).2 content rfl
    rw [hplaceIn] at hplace
    exact ⟨_, d₁, writeAtomic_on_same hname hensure hread, d₁, hopened, filled_self hplace⟩
  · rcases h.room d₁ hopened with hplace | ⟨htemp, hnone, hdirectory⟩
    · exact absurd (readText_of_openTo hp hopen h.short (by rw [hplaceIn]; exact hplace)) hsame
    · rw [← hplaceIn] at hnone hdirectory
      obtain ⟨d', hreplace, hfilled⟩ :=
        replaceFile_on content path hp hopen htemp h.short hnone hdirectory
      rw [hplaceIn] at hfilled
      exact ⟨_, d', (writeAtomic_on_other hname hensure hread hsame).trans hreplace, d₁,
        hopened, hfilled⟩

/-! ## After a file is written -/

theorem Written.workingDirectory {d d' : Disk} (h : d.Written path name content d') :
    d'.workingDirectory = d.workingDirectory := by
  obtain ⟨d₁, hopened, hfilled⟩ := h
  exact hfilled.workingDirectory.trans hopened.workingDirectory

theorem Written.at_place {d d' : Disk} (h : d.Written path name content d') :
    d'.at? (d.placeIn path.directory name) = some (.file (.text content)) := by
  obtain ⟨d₁, _, hfilled⟩ := h
  exact hfilled.at_place

/-- The file is in no directory's place. -/
theorem Writable.place_ne {d d₁ : Disk} (h : d.Writable process path name content)
    (hopened : d.OpenedTo path.directory d₁) :
    d₁.at? (d.placeIn path.directory name) ≠ some .directory := by
  rcases h.room d₁ hopened with hplace | ⟨_, _, hdirectory⟩
  · rw [hplace]
    simp
  · exact hdirectory

/-- The way to the directory of a file that was written is open. -/
theorem Written.openTo {d d' : Disk} (hwritable : d.Writable process path name content)
    (h : d.Written path name content d') : d'.OpenTo path.directory := by
  obtain ⟨d₁, hopened, hfilled⟩ := h
  have hopen : d₁.OpenTo path.directory := by
    rw [OpenTo, Disk.start, hopened.workingDirectory]
    exact hopened.isOpen hwritable.openable.short
  exact hfilled.openTo (hwritable.place_ne hopened) hopen

/-- All other files are as they were. -/
theorem Written.file_iff {d d' : Disk} (hwritable : d.Writable process path name content)
    (h : d.Written path name content d') {x : Location} (hx : x ≠ d.placeIn path.directory name)
    {c : Content} :
    d'.at? x = some (.file c) ↔ d.at? x = some (.file c) := by
  obtain ⟨d₁, hopened, hfilled⟩ := h
  rw [hfilled.at_other hx, hopened.at?]
  split
  · rename_i hmem
    rcases hwritable.openable.places x hmem with hdirectory | ⟨hnone, _⟩
    · simp [hdirectory]
    · simp [hnone]
  · rfl

/-- Growing for a path to which the way is open changes nothing. -/
theorem Grown.alike_of_openTo {d d' : Disk} {p : Path} (h : Grown (d.CreatedFor p) d d')
    (hopen : d.OpenTo p) :
    d.Alike d' := by
  refine ⟨h.workingDirectory, fun x => (h.place x).resolve_right fun ⟨hnew, hnone, _⟩ => ?_⟩
  exact absurd (hnone.symm.trans (hopen.directories x hnew.mem_through)) (by simp)

/-- Writing a file again that is there changes nothing. -/
theorem Written.alike_self {d d' : Disk} (h : d.Written path name content d')
    (hopen : d.OpenTo path.directory)
    (hplace : d.at? (d.placeIn path.directory name) = some (.file (.text content))) : d.Alike d' :=
  Written.alike ⟨d, .refl hopen, filled_self hplace⟩ h

end Disk

end WrapperGen
