import WrapperGen.Proofs.Storing

/-!
# What a script may touch

Which calls a script can make shows in the script itself, whatever it is answered. A call changes
files at two places at most, and creates directories only where nothing is. So even if every call
may fail, a script that makes only calls about some places leaves the files at all others as they
were, and every directory where it was (`kept_of_leads`). Storing a generated file touches the
places of its source and of its record, and of the temporary files beside them (`asks_store`).
-/

namespace WrapperGen

/-- Of two steps that may fail both succeed, or none of it does. -/
theorem bind_eq_ok {ε α β : Type} {x : Except ε α} {f : α → Except ε β} {b : β} :
    (x >>= f) = .ok b ↔ ∃ a, x = .ok a ∧ f a = .ok b := by
  cases x with
  | error e => simp [Bind.bind, Except.bind]
  | ok a => simp [Bind.bind, Except.bind]

/-! ## The calls of a script -/

namespace Script

variable {α β : Type} {P : DiskCall → Prop}

/-- Whatever is answered, a script makes only calls with a property. -/
inductive Asks (P : DiskCall → Prop) : Script α → Prop where
  | done {a : α} : Asks P (done a)
  | note {event : Event} {next : Script α} : Asks P next → Asks P (note event next)
  | call {c : DiskCall} {next : c.Answer → Script α} :
      P c → (∀ answer, Asks P (next answer)) → Asks P (call c next)

theorem asks_pure (a : α) : (pure a : Script α).Asks P := .done

theorem asks_ask {c : DiskCall} (h : P c) : (ask c).Asks P := .call h fun _ => .done

theorem asks_logAll (events : List Event) : (logAll events).Asks P := by
  induction events with
  | nil => exact .done
  | cons event events ih => exact .note ih

theorem asks_log (event : Event) : (log event).Asks P := asks_logAll [event]

theorem asks_bind {x : Script α} {f : α → Script β} (hx : x.Asks P) (hf : ∀ a, (f a).Asks P) :
    (x >>= f).Asks P := by
  show (x.bind f).Asks P
  induction hx with
  | done => exact hf _
  | note _ ih => exact .note ih
  | call hc _ ih => exact .call hc ih

theorem Asks.mono {Q : DiskCall → Prop} {x : Script α} (h : x.Asks P) (hmore : ∀ c, P c → Q c) :
    x.Asks Q := by
  induction h with
  | done => exact .done
  | note _ ih => exact .note ih
  | call hc _ ih => exact .call (hmore _ hc) ih

/-- Failures meet only calls that a script makes. -/
theorem Asks.failsOnly {x : Script α} (h : x.Asks P) (m : Machine) : x.FailsOnly P m := by
  induction h generalizing m with
  | done => trivial
  | note _ ih => exact ih _
  | call hc _ ih => exact ⟨fun _ _ _ => hc, ih _ _⟩

/-- The calls that look for directories or create them. -/
def AboutDirectories : DiskCall → Prop
  | .openDirectory _ => True
  | .isDirectory _ => True
  | .makeDirectory _ => True
  | _ => False

/-- The calls that create, fill or remove one file. -/
def Handles (p : Path) (name : String) : DiskCall → Prop
  | .createFile q n => q = p ∧ n = name
  | .fill q n _ => q = p ∧ n = name
  | .removeFile q n => q = p ∧ n = name
  | _ => False

theorem asks_makeDirectories (paths : List Path) :
    (makeDirectories paths).Asks AboutDirectories := by
  have hcheck : ∀ path cause, (ask (.isDirectory path) >>= fun there =>
      if there = true then pure (.ok ())
      else pure (.error cause) : Script (Except IoCause Unit)).Asks
        AboutDirectories := by
    intro path cause
    refine asks_bind (asks_ask trivial) fun there => ?_
    split <;> exact asks_pure _
  induction paths with
  | nil => exact asks_pure _
  | cons path around ih =>
      rw [makeDirectories]
      refine asks_bind (asks_ask trivial) fun answer => ?_
      split
      · exact asks_pure _
      · refine asks_bind ih fun answer => ?_
        split
        · exact asks_pure _
        · refine asks_bind (asks_ask trivial) fun answer => ?_
          split
          · exact asks_pure _
          · exact hcheck _ _
      · exact hcheck _ _

theorem asks_ensureDirectory (path : Path) : (ensureDirectory path).Asks AboutDirectories := by
  rw [ensureDirectory]
  refine asks_bind (asks_ask trivial) fun answer => ?_
  split
  · exact asks_pure _
  · refine asks_bind (asks_makeDirectories _) fun answer => ?_
    split
    · exact asks_pure _
    · refine asks_bind (asks_ask trivial) fun answer => ?_
      split <;> exact asks_pure _
  · exact asks_pure _

theorem asks_discardTemporary (p : Path) (temporary : String) :
    (discardTemporary p temporary).Asks (Handles p temporary) := by
  refine asks_bind (asks_ask ⟨rfl, rfl⟩) fun answer => ?_
  split
  · exact asks_pure _
  · exact asks_log _

theorem asks_fillTemporary (p : Path) (temporary content : String) :
    (fillTemporary p temporary content).Asks (Handles p temporary) := by
  refine asks_bind (asks_ask ⟨rfl, rfl⟩) fun answer => ?_
  split
  · exact asks_pure _
  · exact asks_ask ⟨rfl, rfl⟩

end Script

namespace Disk

/-! ## What a call changes -/

/-- The places where a call may change a file. -/
def changes (d : Disk) : DiskCall → List Location
  | .createFile directory name => [d.placeIn directory name]
  | .fill directory name _ => [d.placeIn directory name]
  | .rename directory source target => [d.placeIn directory source, d.placeIn directory target]
  | .removeFile directory name => [d.placeIn directory name]
  | _ => []

/-- Directories are where they were, and so are files, but for some places. -/
structure Kept (touched : Location → Prop) (d d' : Disk) : Prop where
  workingDirectory : d'.workingDirectory = d.workingDirectory
  directory : ∀ x, d.at? x = some .directory → d'.at? x = some .directory
  file_iff : ∀ x, ¬touched x → ∀ content, d'.at? x = some (.file content)
    ↔ d.at? x = some (.file content)

namespace Kept

variable {touched : Location → Prop} {d d₁ d' : Disk}

theorem refl (d : Disk) : Kept touched d d := ⟨rfl, fun _ h => h, fun _ _ _ => Iff.rfl⟩

theorem trans (h : Kept touched d d₁) (h' : Kept touched d₁ d') : Kept touched d d' :=
  ⟨h'.workingDirectory.trans h.workingDirectory, fun x hx => h'.directory x (h.directory x hx),
    fun x hx content => (h'.file_iff x hx content).trans (h.file_iff x hx content)⟩

theorem mono {more : Location → Prop} (h : Kept touched d d') (hmore : ∀ x, touched x → more x) :
    Kept more d d' :=
  ⟨h.workingDirectory, h.directory, fun x hx => h.file_iff x fun htouched => hx (hmore x htouched)⟩

theorem start_eq (h : Kept touched d d') (p : Path) : d'.start p = d.start p := by
  rw [start, start, h.workingDirectory]

theorem placeOf_eq (h : Kept touched d d') (p : Path) : d'.placeOf p = d.placeOf p :=
  placeOf_of_workingDirectory h.workingDirectory p

theorem openTo (h : Kept touched d d') {p : Path} (hopen : d.OpenTo p) : d'.OpenTo p := by
  rw [OpenTo, h.start_eq]
  exact ⟨fun x hx => h.directory x (hopen.directories x hx), hopen.short⟩

end Kept

variable {d d' : Disk} {p : Path} {name : String}

theorem Grown.kept {new touched : Location → Prop} (h : Grown new d d') : Kept touched d d' :=
  ⟨h.workingDirectory, fun _ hx => h.directory hx, fun _ _ _ => h.file_iff⟩

/-- A file in no directory's place changes no other place. -/
theorem Filled.kept {touched : Location → Prop} {place : Location} {content : Content}
    (h : d.Filled place content d') (hplace : d.at? place ≠ some .directory)
    (htouched : touched place) :
    Kept touched d d' := by
  refine ⟨h.workingDirectory, fun x hx => ?_, fun x hx content => ?_⟩
  · rw [h.at_other fun heq => hplace (heq ▸ hx), hx]
  · rw [h.at_other fun heq => hx (by rwa [heq])]

theorem kept_clear {touched : Location → Prop} {place : Location} (hne : place ≠ [])
    (hplace : d.at? place ≠ some .directory) (htouched : touched place) :
    Kept touched d (d.clear place) := by
  refine ⟨rfl, fun x hx => ?_, fun x hx content => ?_⟩
  · rw [at?_clear hne, if_neg fun heq : x = place => hplace (heq ▸ hx), hx]
  · rw [at?_clear hne, if_neg fun heq : x = place => hx (by rwa [heq])]

/-! ### Calls that succeed -/

/-- The place of a name is looked up in a directory to which the way is open. -/
theorem openTo_of_child {x : Location} (h : d.child p name = .ok x) :
    p.text ≠ "" ∧ d.OpenTo p ∧ isTooLong name = false ∧ x = d.placeIn p name := by
  by_cases hp : p.text = ""
  · rw [child, locateDirectory, locate, if_pos hp] at h
    exact absurd h (by simp [Bind.bind, Except.bind])
  · exact ⟨hp, (child_eq_ok hp).mp h⟩

/-- Only a file has content. -/
theorem contentAt_eq_ok {x : Location} {content : Content} (h : d.contentAt x = .ok content) :
    d.at? x = some (.file content) := by
  rw [contentAt] at h
  split at h
  · exact absurd h (by simp)
  · exact absurd h (by simp)
  · rename_i hx
    rw [hx, Except.ok.inj h]

theorem fill_eq_ok {content : Content} (h : d.fill p name content = .ok d') :
    d.at? (d.placeIn p name) ≠ some .directory ∧ d' = d.put (d.placeIn p name) (.file content) := by
  obtain ⟨x, hchild, h⟩ := bind_eq_ok.mp h
  obtain ⟨old, hold, h⟩ := bind_eq_ok.mp h
  obtain ⟨_, _, _, rfl⟩ := openTo_of_child hchild
  exact ⟨by rw [contentAt_eq_ok hold]; simp, (Except.ok.inj h).symm⟩

theorem removeFile_eq_ok (h : d.removeFile p name = .ok d') :
    d.at? (d.placeIn p name) ≠ some .directory ∧ d' = d.clear (d.placeIn p name) := by
  obtain ⟨x, hchild, h⟩ := bind_eq_ok.mp h
  obtain ⟨old, hold, h⟩ := bind_eq_ok.mp h
  obtain ⟨_, _, _, rfl⟩ := openTo_of_child hchild
  exact ⟨by rw [contentAt_eq_ok hold]; simp, (Except.ok.inj h).symm⟩

/-- Only a file is renamed, and never to the name of a directory. -/
theorem moved_of_rename {target : String} (h : d.rename p name target = .ok d') :
    ∃ content, d.at? (d.placeIn p name) = some (.file content) ∧ isTooLong target = false
      ∧ d.at? (d.placeIn p target) ≠ some .directory
      ∧ d' = (d.clear (d.placeIn p name)).put (d.placeIn p target) (.file content) := by
  obtain ⟨x, hold, h'⟩ := bind_eq_ok.mp h
  obtain ⟨y, hnew, h'⟩ := bind_eq_ok.mp h'
  obtain ⟨content, hcontent, _⟩ := bind_eq_ok.mp h'
  obtain ⟨hp, hopen, hname, rfl⟩ := openTo_of_child hold
  have hfile := contentAt_eq_ok hcontent
  exact ⟨content, hfile, rename_eq_ok hp hopen hname hfile h⟩

/-! ### Any call -/

variable {unsure : DiskCall → Prop} {touched : Location → Prop}

theorem kept_apply {after : Except IoCause Disk} (h : ∀ e, after = .ok e → Kept touched d e) :
    Kept touched d (d.apply after).2 := by
  cases after with
  | error cause => exact .refl _
  | ok e => exact h e rfl

theorem kept_put {content : Content} (hplace : d.at? (d.placeIn p name) ≠ some .directory)
    (htouched : touched (d.placeIn p name)) :
    Kept touched d (d.put (d.placeIn p name) (.file content)) :=
  (filled_put placeIn_ne_nil).kept hplace htouched

theorem kept_fill {content : Content} (htouched : touched (d.placeIn p name)) :
    Kept touched d (d.apply (d.fill p name content)).2 := by
  refine kept_apply fun e he => ?_
  obtain ⟨hplace, rfl⟩ := fill_eq_ok he
  exact kept_put hplace htouched

/-- **A call changes files only at its places**, whatever it is answered. -/
theorem kept_of_answers {c : DiskCall} {answer : c.Answer} (hc : ∀ x ∈ d.changes c, touched x)
    (h : d.Answers unsure c answer d') : Kept touched d d' := by
  have hanswered : d' = (d.answer c).2 ∨ ∃ fault, d' = (d.answerFailing fault c).2 := by
    rcases h with h | ⟨fault, _, h⟩
    · exact Or.inl (congrArg Prod.snd h)
    · exact Or.inr ⟨fault, congrArg Prod.snd h⟩
  have hfirst : ∀ {x : Location} {xs : List Location}, d.changes c = x :: xs → touched x :=
    fun heq => hc _ (by rw [heq]; exact List.mem_cons_self)
  cases c with
  | makeDirectory q => exact (grown_of_answers h).kept
  | createFile q n =>
      rcases hanswered with rfl | ⟨_, rfl⟩
      · refine kept_apply fun e he => ?_
        obtain ⟨x, hchild, _⟩ := bind_eq_ok.mp he
        obtain ⟨_, _, hplace, rfl⟩ := createFile_eq_ok (openTo_of_child hchild).1 he
        exact kept_put hplace (hfirst rfl)
      · exact .refl _
  | fill q n text =>
      rcases hanswered with rfl | ⟨_, rfl⟩
      · exact kept_fill (hfirst rfl)
      · exact kept_fill (hfirst rfl)
  | rename q source target =>
      rcases hanswered with rfl | ⟨_, rfl⟩
      · refine kept_apply fun e he => ?_
        obtain ⟨content, hold, _, hplace, rfl⟩ := moved_of_rename he
        have hcleared : Kept touched d (d.clear (d.placeIn q source)) :=
          kept_clear placeIn_ne_nil (by rw [hold]; simp) (hfirst rfl)
        refine hcleared.trans ((filled_put placeIn_ne_nil).kept ?_ (hc _ (by simp [changes])))
        rw [at?_clear placeIn_ne_nil]
        split
        · simp
        · exact hplace
      · exact .refl _
  | removeFile q n =>
      rcases hanswered with rfl | ⟨_, rfl⟩
      · refine kept_apply fun e he => ?_
        obtain ⟨hplace, rfl⟩ := removeFile_eq_ok he
        exact kept_clear placeIn_ne_nil hplace (hfirst rfl)
      · exact .refl _
  -- the others only look
  | _ => rcases hanswered with rfl | ⟨_, rfl⟩ <;> exact .refl _

/-! ## What a script changes -/

open Script

variable {α : Type}

/-- The calls that change files at some places only. -/
def Within (d : Disk) (touched : Location → Prop) (c : DiskCall) : Prop :=
  ∀ x ∈ d.changes c, touched x

theorem changes_of_workingDirectory (h : d'.workingDirectory = d.workingDirectory) (c : DiskCall) :
    d'.changes c = d.changes c := by
  cases c <;> simp only [changes, placeIn_of_workingDirectory h]

/-- **A script that makes only calls about some places** changes files at no others. The places are
named from the working directory, which no call changes. -/
theorem kept_of_leads {x : Script α} {a : α} {base : Disk} (hx : x.Asks (base.Within touched))
    (hbase : d.workingDirectory = base.workingDirectory) (h : x.Leads unsure d a d') :
    Kept touched d d' := by
  induction h with
  | done => exact .refl _
  | note _ ih =>
      cases hx with
      | note hx => exact ih hx hbase
  | call hanswer _ ih =>
      cases hx with
      | call hc hx =>
          have hfirst : Kept touched _ _ :=
            kept_of_answers (fun y hy => hc y (by rwa [← changes_of_workingDirectory hbase]))
              hanswer
          exact hfirst.trans (ih (hx _) (hfirst.workingDirectory.trans hbase))

/-- Directories are opened without touching a file. -/
theorem within_of_aboutDirectories {c : DiskCall} (h : AboutDirectories c) :
    d.Within touched c := by
  intro x hx
  cases c <;> first | exact h.elim | simp [changes] at hx

theorem within_of_handles {c : DiskCall} (htouched : touched (d.placeIn p name))
    (h : Handles p name c) :
    d.Within touched c := by
  intro x hx
  cases c with
  | createFile q n | fill q n _ | removeFile q n =>
      obtain ⟨rfl, rfl⟩ := h
      rw [List.mem_singleton.mp hx]
      exact htouched
  | _ => exact h.elim

/-- Replacing a file touches its place and that of the temporary file. -/
theorem asks_replaceFile {process content : String} {path : Path}
    (hplace : touched (d.placeIn p name))
    (htemporary : touched (d.placeIn p (temporaryName name process))) :
    (replaceFile process path p name content).Asks (d.Within touched) := by
  have hhandles := fun c => within_of_handles (c := c) htemporary
  have hdiscard := (asks_discardTemporary p (temporaryName name process)).mono hhandles
  have hfill := (asks_fillTemporary p (temporaryName name process) content).mono hhandles
  rw [replaceFile]
  refine asks_bind hfill fun answer => ?_
  split
  · exact asks_bind hdiscard fun _ => asks_pure _
  · refine asks_bind (asks_ask (by simpa [Within, changes] using ⟨htemporary, hplace⟩))
      fun answer => ?_
    split
    · exact asks_bind hdiscard fun _ => asks_pure _
    · exact asks_pure _

/-- The places that are touched when a file is written: its own and that of the
temporary file beside it. -/
def WrittenAt (d : Disk) (process : String) (path : Path) (x : Location) : Prop :=
  ∃ name, path.fileName? = some name
    ∧ (x = d.placeOf path ∨ x = d.placeIn path.directory (temporaryName name process))

theorem asks_writeAtomic {process content : String} {path : Path}
    (h : ∀ x, d.WrittenAt process path x → touched x) :
    (writeAtomic process path content).Asks (d.Within touched) := by
  rw [writeAtomic]
  split
  · exact asks_pure _
  · rename_i name hname
    have hreplace : (replaceFile process path path.directory name content).Asks
        (d.Within touched) :=
      asks_replaceFile (h _ ⟨name, hname, Or.inl (placeIn_of_fileName? hname)⟩)
        (h _ ⟨name, hname, Or.inr rfl⟩)
    refine asks_bind ((asks_ensureDirectory _).mono fun _ => within_of_aboutDirectories)
      fun answer => ?_
    split
    · exact asks_pure _
    · refine asks_bind (asks_ask fun x hx => by simp [changes] at hx) fun answer => ?_
      split
      · split
        · exact asks_pure _
        · exact hreplace
      · exact hreplace

end Disk

/-! ## What storing a file touches -/

namespace OutputRoots

open Disk Script

/-- The places that are touched when a file is stored. -/
def Touches (roots : OutputRoots) (f : GeneratedFile) (d : Disk) (x : Location) : Prop :=
  d.WrittenAt roots.process (roots.sourcePath f) x
    ∨ d.WrittenAt roots.process (roots.recordPath f) x

variable {roots : OutputRoots} {f : GeneratedFile} {d d' : Disk} {x : Location}

theorem asks_store (roots : OutputRoots) (f : GeneratedFile) (d : Disk) :
    (roots.store f).Asks (d.Within (roots.Touches f d)) := by
  have hsource : (writeAtomic roots.process (roots.sourcePath f) f.content).Asks
      (d.Within (roots.Touches f d)) :=
    asks_writeAtomic fun _ => Or.inl
  have hrecord : (writeAtomic roots.process (roots.recordPath f) (roots.recordText f)).Asks
      (d.Within (roots.Touches f d)) := asks_writeAtomic fun _ => Or.inr
  rw [store]
  refine asks_bind hsource fun answer => ?_
  split
  · exact asks_pure _
  · refine asks_bind hrecord fun answer => ?_
    split
    · exact asks_pure _
    · exact asks_bind (asks_log _) fun _ => asks_pure _

theorem touches_of_workingDirectory (h : d'.workingDirectory = d.workingDirectory) :
    roots.Touches f d' x ↔ roots.Touches f d x := by
  simp only [Touches, WrittenAt, placeOf, start, placeIn, h]

/-- **Storing a file touches its own places only**, whatever fails. -/
theorem kept_store {unsure : DiskCall → Prop} {r : Except IoError WrittenFile}
    (h : (roots.store f).Leads unsure d r d') : Kept (roots.Touches f d) d d' :=
  kept_of_leads (roots.asks_store f d) rfl h

end OutputRoots

end WrapperGen
