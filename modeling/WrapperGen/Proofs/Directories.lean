import WrapperGen.Proofs.Places
import WrapperGen.Proofs.Playing

/-!
# Making sure of directories

Opening a directory creates those around it that are missing. Whatever fails meanwhile, a disk only
grows by directories that the way to the directory comes upon by their names
(`grown_ensureDirectory`). When nothing fails, all of the way is open afterwards, provided that it
can be opened at all (`ensureDirectory_on`).
-/

namespace WrapperGen

namespace Disk

/-! ## Growing -/

/-- Some of the places in `new` were missing and are directories now; nothing else has changed. -/
structure Grown (new : Location → Prop) (d d' : Disk) : Prop where
  workingDirectory : d'.workingDirectory = d.workingDirectory
  place : ∀ x, d'.at? x = d.at? x ∨ (new x ∧ d.at? x = none ∧ d'.at? x = some .directory)

namespace Grown

variable {new : Location → Prop} {d d₁ d' : Disk}

theorem refl (d : Disk) : Grown new d d := ⟨rfl, fun _ => Or.inl rfl⟩

theorem trans (h : Grown new d d₁) (h' : Grown new d₁ d') : Grown new d d' := by
  refine ⟨h'.workingDirectory.trans h.workingDirectory, fun x => ?_⟩
  rcases h.place x with heq | ⟨hnew, hnone, hdirectory⟩
  · rw [← heq]
    exact h'.place x
  · rcases h'.place x with heq | ⟨_, hnone', _⟩
    · exact Or.inr ⟨hnew, hnone, heq.trans hdirectory⟩
    · exact absurd (hnone'.symm.trans hdirectory) (by simp)

theorem mono {more : Location → Prop} (h : Grown new d d') (hmore : ∀ x, new x → more x) :
    Grown more d d' :=
  ⟨h.workingDirectory, fun x => (h.place x).imp_right fun ⟨hnew, hrest⟩ => ⟨hmore x hnew, hrest⟩⟩

theorem start_eq (h : Grown new d d') (p : Path) : d'.start p = d.start p := by
  rw [start, start, h.workingDirectory]

theorem directory (h : Grown new d d') {x : Location} (hx : d.at? x = some .directory) :
    d'.at? x = some .directory := by
  rcases h.place x with heq | ⟨_, _, hdirectory⟩
  · exact heq.trans hx
  · exact hdirectory

theorem file_iff (h : Grown new d d') {x : Location} {content : Content} :
    d'.at? x = some (.file content) ↔ d.at? x = some (.file content) := by
  rcases h.place x with heq | ⟨_, hnone, hdirectory⟩
  · rw [heq]
  · rw [hnone, hdirectory]
    simp

end Grown

/-- The places that can be created for a path. -/
def CreatedFor (d : Disk) (p : Path) : Location → Prop := FirstMet (d.start p) p.names

/-- All places on the way along names are directories now; nothing else has changed. -/
structure OpenedAlong (d : Disk) (place : Location) (names : List String) (d' : Disk) : Prop where
  workingDirectory : d'.workingDirectory = d.workingDirectory
  at? : ∀ x, d'.at? x = if x ∈ through place names then some .directory else d.at? x

namespace OpenedAlong

variable {d d₁ d' : Disk} {place : Location} {names : List String} {n : String}

theorem refl (h : d.Open place names) : d.OpenedAlong place names d := by
  refine ⟨rfl, fun x => ?_⟩
  split
  · exact h.directories x ‹_›
  · rfl

theorem isOpen (h : d.OpenedAlong place names d') (hshort : ∀ n ∈ names, isTooLong n = false) :
    d'.Open place names :=
  ⟨fun x hx => by rw [h.at?, if_pos hx], hshort⟩

/-- The rest of a way that can be opened still can when its beginning is open. -/
theorem openable (h : d.OpenedAlong place names d') (hopenable : d.Openable place (names ++ [n])) :
    d'.Openable place (names ++ [n]) := by
  refine ⟨fun x hx => ?_, hopenable.short⟩
  rw [h.at?]
  by_cases hmem : x ∈ through place names
  · rw [if_pos hmem]
    exact Or.inl rfl
  · rw [if_neg hmem]
    exact hopenable.places x hx

theorem trans (h : d.OpenedAlong place names d₁) (h' : d₁.OpenedAlong place (names ++ [n]) d') :
    d.OpenedAlong place (names ++ [n]) d' := by
  refine ⟨h'.workingDirectory.trans h.workingDirectory, fun x => ?_⟩
  rw [h'.at?]
  by_cases hmem : x ∈ through place (names ++ [n])
  · rw [if_pos hmem, if_pos hmem]
  · rw [if_neg hmem, if_neg hmem, h.at?, if_neg]
    rw [through_append, List.mem_append, not_or] at hmem
    exact hmem.1

end OpenedAlong

/-- The way that a path goes is open now; nothing else has changed. -/
def OpenedTo (d : Disk) (p : Path) (d' : Disk) : Prop := d.OpenedAlong (d.start p) p.names d'

/-- **A disk that has grown for a path, and on which its way is open**, could be opened before. -/
theorem opened_of_grown {d d' : Disk} {p : Path} (h : Grown (d.CreatedFor p) d d')
    (hopen : d'.OpenTo p) :
    d.OpenableTo p ∧ d.OpenedTo p d' := by
  rw [OpenTo, h.start_eq] at hopen
  refine ⟨⟨fun x hx => ?_, hopen.short⟩, h.workingDirectory, fun x => ?_⟩
  · have hdirectory := hopen.directories x hx
    rcases h.place x with heq | ⟨hnew, hnone, _⟩
    · exact Or.inl (heq.symm.trans hdirectory)
    · exact Or.inr ⟨hnone, hnew⟩
  · split
    · exact hopen.directories x ‹_›
    · rename_i hx
      exact (h.place x).resolve_right fun hnew => hx hnew.1.mem_through

/-- A way that is open stays open while a disk grows. -/
theorem Grown.openTo {new : Location → Prop} {d d' : Disk} {p : Path} (h : Grown new d d')
    (hopen : d.OpenTo p) :
    d'.OpenTo p := by
  rw [OpenTo, h.start_eq]
  exact ⟨fun x hx => h.directory (hopen.directories x hx), hopen.short⟩

/-- What can be opened after a disk has grown for it could be opened before, -/
theorem openableTo_of_grown {d d₁ : Disk} {p : Path} (hgrown : Grown (d.CreatedFor p) d d₁)
    (h : d₁.OpenableTo p) :
    d.OpenableTo p := by
  rw [OpenableTo, hgrown.start_eq] at h
  refine ⟨fun x hx => ?_, h.short⟩
  rcases hgrown.place x with heq | ⟨hnew, hnone, _⟩
  · rw [← heq]
    exact h.places x hx
  · exact Or.inr ⟨hnone, hnew⟩

/-- and with the same result. -/
theorem openedTo_iff_of_grown {d d₁ d' : Disk} {p : Path} (hgrown : Grown (d.CreatedFor p) d d₁) :
    d₁.OpenedTo p d' ↔ d.OpenedTo p d' := by
  have hat : ∀ x, x ∉ through (d.start p) p.names → d₁.at? x = d.at? x := fun x hx =>
    (hgrown.place x).resolve_right fun hnew => hx hnew.1.mem_through
  rw [OpenedTo, hgrown.start_eq]
  constructor
  · intro h
    refine ⟨h.workingDirectory.trans hgrown.workingDirectory, fun x => ?_⟩
    rw [h.at?]
    split
    · rfl
    · exact hat x ‹_›
  · intro h
    refine ⟨h.workingDirectory.trans hgrown.workingDirectory.symm, fun x => ?_⟩
    rw [h.at?]
    split
    · rfl
    · exact (hat x ‹_›).symm

/-! ## Single calls -/

theorem child_eq_ok {d : Disk} {p : Path} {name : String} {x : Location} (hp : p.text ≠ "") :
    d.child p name = .ok x ↔ d.OpenTo p ∧ isTooLong name = false ∧ x = d.placeIn p name := by
  rw [child]
  cases hlocate : d.locateDirectory p with
  | error cause =>
      refine iff_of_false (fun h => by cases h) fun h => ?_
      have hok := (locateDirectory_iff hp).mpr ⟨rfl, h.1⟩
      rw [hlocate] at hok
      exact absurd hok (by simp)
  | ok place =>
      obtain ⟨rfl, hopen⟩ := (locateDirectory_iff hp).mp hlocate
      rw [and_iff_right hopen]
      show (if isTooLong name = true then (throw .nameTooLong : Except IoCause Location)
        else pure (d.placeIn p name)) = .ok x ↔ _
      by_cases hlong : isTooLong name = true
      · rw [if_pos hlong]
        exact iff_of_false (by simp) fun h => by simp [hlong] at h
      · rw [if_neg hlong, and_iff_right (by simpa using hlong)]
        exact ⟨fun h => (Except.ok.inj h).symm, fun h => congrArg Except.ok h.symm⟩

theorem isDirectory_of_openTo {d : Disk} {p : Path} (hp : p.text ≠ "") (h : d.OpenTo p) :
    d.isDirectory p = true := by
  obtain ⟨hfollow, hplace⟩ := follow_iff.mpr ⟨rfl, h⟩
  rw [isDirectory, locate, if_neg hp, hfollow]
  exact isDirectoryAt_iff.mpr hplace

/-- Creating a directory makes one grow that the way to it comes upon last. -/
theorem grown_of_makeDirectory {d d' : Disk} {q : Path} (h : d.makeDirectory q = .ok d') :
    Grown (d.CreatedFor q) d d' := by
  unfold makeDirectory at h
  split at h
  · cases hlocate : d.locateDirectory q <;> rw [hlocate] at h <;> cases h
  · rename_i n hname
    obtain ⟨hdots, hnames, habs⟩ := Path.names_of_newName? hname
    cases hchild : d.child q.directory n with
    | error cause =>
        rw [hchild] at h
        cases h
    | ok x =>
        rw [hchild] at h
        obtain ⟨hopen, _, hx⟩ := (child_eq_ok q.text_directory_ne).mp hchild
        have hstart : d.start q.directory = d.start q := by rw [start, start, habs]
        by_cases hsome : (d.at? x).isSome = true
        · simp only [bind, Except.bind, if_pos hsome] at h
          exact absurd h (by simp)
        · simp only [bind, Except.bind, if_neg hsome] at h
          obtain rfl := Except.ok.inj h
          have hnone : d.at? x = none := by simpa using hsome
          -- all on the way was open, so the place is the first one missing
          have hmet : d.CreatedFor q x := by
            rw [CreatedFor, hnames, ← hstart]
            refine FirstMet.append_iff.mpr (Or.inr ⟨hdots, hx, fun hmem => ?_⟩)
            exact absurd (hnone.symm.trans (hopen.directories x hmem)) (by simp)
          refine ⟨rfl, fun y => ?_⟩
          rw [at?_put (by rw [hx]; exact placeIn_ne_nil)]
          by_cases hy : y = x
          · rw [hy]
            exact Or.inr ⟨hmet, hnone, if_pos rfl⟩
          · exact Or.inl (if_neg hy)

variable {unsure : DiskCall → Prop}

theorem grown_of_answers {d d' : Disk} {q : Path} {answer : Except IoCause Unit}
    (h : d.Answers unsure (.makeDirectory q) answer d') : Grown (d.CreatedFor q) d d' := by
  rcases h with h | ⟨fault, _, h⟩
  · rw [(Prod.mk.inj h).2]
    show Grown _ d (d.apply (d.makeDirectory q)).2
    cases hmake : d.makeDirectory q with
    | error cause => exact .refl d
    | ok made => exact grown_of_makeDirectory hmake
  · rw [(Prod.mk.inj h).2]
    exact .refl d

/-- Asking whether something is a directory changes nothing. -/
theorem eq_of_answers_isDirectory {d d' : Disk} {q : Path} {answer : Bool}
    (h : d.Answers unsure (.isDirectory q) answer d') : d' = d := by
  rcases h with h | ⟨fault, _, h⟩
  · exact (Prod.mk.inj h).2
  · exact (Prod.mk.inj h).2

/-- Opening a directory changes nothing, and succeeds only if the way to it is open. -/
theorem openTo_of_answers {d d' : Disk} {p : Path} {answer : Except IoCause Unit} (hp : p.text ≠ "")
    (h : d.Answers unsure (.openDirectory p) answer d') :
    d' = d ∧ (answer = .ok () → d.OpenTo p) := by
  rcases h with h | ⟨fault, _, h⟩
  · obtain ⟨hanswer, hsame⟩ := Prod.mk.inj h
    refine ⟨hsame, fun hok => ?_⟩
    cases hlocate : d.locateDirectory p with
    | error cause =>
        rw [hlocate, hok] at hanswer
        exact absurd hanswer (by simp)
    | ok place => exact ((locateDirectory_iff hp).mp hlocate).2
  · obtain ⟨hanswer, hsame⟩ := Prod.mk.inj h
    exact ⟨hsame, fun hok => absurd (hanswer.symm.trans hok) (by simp)⟩

/-! ## Whatever fails -/

open Script

/-- A directory that cannot be created may be there already; looking changes nothing. -/
theorem eq_of_leads_check {q : Path} {cause : IoCause} {d d' : Disk} {r : Except IoCause Unit}
    (h : (ask (.isDirectory q) >>= fun there =>
      if there = true then pure (.ok ())
      else pure (.error cause)).Leads unsure d r d') : d' = d := by
  obtain ⟨answer, d₁, hask, h⟩ := leads_bind.mp h
  rw [eq_of_answers_isDirectory (leads_ask.mp hask)] at h
  split at h
  · exact (leads_pure.mp h).2
  · exact (leads_pure.mp h).2

/-- While directories are created, a disk grows along the way to the innermost. -/
theorem grown_makeDirectories {place : Location} {names : List String}
    {paths : List Path} {d d' : Disk} {r : Except IoCause Unit}
    (hpaths : ∀ q ∈ paths, d.start q = place ∧ q.names <+: names)
    (h : (makeDirectories paths).Leads unsure d r d') : Grown (FirstMet place names) d d' := by
  induction paths generalizing d d' r with
  | nil =>
      rw [(leads_pure.mp h).2]
      exact .refl d
  | cons q around ih =>
      have hstart : d.start q = place := (hpaths q List.mem_cons_self).1
      have hbeginning : q.names <+: names := (hpaths q List.mem_cons_self).2
      -- what is created for a path outwards lies on the way to the innermost one
      have hmade : ∀ x, d.CreatedFor q x → FirstMet place names x := by
        intro x hx
        rw [CreatedFor, hstart] at hx
        exact hx.of_prefix hbeginning
      rw [makeDirectories] at h
      obtain ⟨answer, d₁, hask, h⟩ := leads_bind.mp h
      have h₁ : Grown (FirstMet place names) d d₁ :=
        (grown_of_answers (leads_ask.mp hask)).mono hmade
      split at h
      · rw [(leads_pure.mp h).2]
        exact h₁
      · obtain ⟨answer, d₂, hmake, h⟩ := leads_bind.mp h
        have hpaths₁ : ∀ q' ∈ around, d₁.start q' = place ∧ q'.names <+: names := fun q' hq' => by
          rw [h₁.start_eq]
          exact hpaths q' (List.mem_cons_of_mem _ hq')
        have h₂ := h₁.trans (ih hpaths₁ hmake)
        split at h
        · rw [(leads_pure.mp h).2]
          exact h₂
        · obtain ⟨answer, d₃, hask, h⟩ := leads_bind.mp h
          have h₃ : Grown (FirstMet place names) d d₃ :=
            h₂.trans ((grown_of_answers (leads_ask.mp hask)).mono fun x hx =>
              hmade x (by rwa [CreatedFor, h₂.start_eq] at hx))
          split at h
          · rw [(leads_pure.mp h).2]
            exact h₃
          · rw [eq_of_leads_check h]
            exact h₃
      · rw [eq_of_leads_check h]
        exact h₁

/-- Outwards from a path lie paths with the same start and fewer names. -/
theorem prefix_of_outward {absolute : Bool} {names : List String} {paths : List Path}
    (h : Path.Outward absolute names paths) :
    ∀ q ∈ paths, q.isAbsolute = absolute ∧ q.names <+: names := by
  induction h with
  | last hclean _ => exact List.forall_mem_singleton.mpr ⟨hclean.absolute, List.prefix_refl _⟩
  | step hclean hnames _ ih =>
      refine List.forall_mem_cons.mpr ⟨⟨hclean.absolute, hnames ▸ List.prefix_refl _⟩,
        fun q hq => ?_⟩
      exact ⟨(ih q hq).1, (ih q hq).2.trans (List.prefix_append _ _)⟩

/-- **Whatever fails while a directory is opened**, the disk only grows along the way to it. If it
is opened, the way is open. -/
theorem grown_ensureDirectory {p : Path} {d d' : Disk} {r : Except IoError Unit}
    (h : (ensureDirectory p.directory).Leads unsure d r d') :
    Grown (d.CreatedFor p.directory) d d' ∧ (r = .ok () → d'.OpenTo p.directory) := by
  have hpaths : ∀ q ∈ p.directory.outwards, d.start q = d.start p.directory
      ∧ q.names <+: p.directory.names := by
    intro q hq
    obtain ⟨habs, hbeginning⟩ := prefix_of_outward p.outward_directory q hq
    exact ⟨by rw [start, start, habs], hbeginning⟩
  rw [ensureDirectory] at h
  obtain ⟨answer, d₁, hask, h⟩ := leads_bind.mp h
  obtain ⟨hsame, hopen⟩ := openTo_of_answers p.text_directory_ne (leads_ask.mp hask)
  rw [hsame] at h
  split at h
  · rw [(leads_pure.mp h).2]
    exact ⟨.refl _, fun _ => hopen rfl⟩
  · obtain ⟨answer, d₂, hmake, h⟩ := leads_bind.mp h
    -- the directory is missing: it is made, and then looked at again
    have hgrown := grown_makeDirectories hpaths hmake
    split at h
    · obtain ⟨hr, hend⟩ := leads_pure.mp h
      rw [hend]
      exact ⟨hgrown, fun hok => absurd (hr.symm.trans hok) (by simp)⟩
    · obtain ⟨answer, d₃, hask, h⟩ := leads_bind.mp h
      obtain ⟨hsame, hopen⟩ := openTo_of_answers p.text_directory_ne (leads_ask.mp hask)
      rw [hsame] at h
      split at h
      · rw [(leads_pure.mp h).2]
        exact ⟨hgrown, fun _ => hopen rfl⟩
      · obtain ⟨hr, hend⟩ := leads_pure.mp h
        rw [hend]
        exact ⟨hgrown, fun hok => absurd (hr.symm.trans hok) (by simp)⟩
  · obtain ⟨hr, hend⟩ := leads_pure.mp h
    rw [hend]
    exact ⟨.refl _, fun hok => absurd (hr.symm.trans hok) (by simp)⟩

/-! ## When nothing fails -/

/-- What becomes of creating a directory at the end of a way: it is created, or the way is open
already, or the way to it is not open so far. -/
inductive Makes (d : Disk) (q : Path) (place : Location) (names : List String)
    (n : String) : Prop where
  | created {d' : Disk} :
      d.makeDirectory q = .ok d' → d.OpenedAlong place (names ++ [n]) d' → Makes d q place names n
  | there : d.makeDirectory q = .error .alreadyExists → d.Open place (names ++ [n]) →
      Makes d q place names n
  | missing : d.makeDirectory q = .error .notFound → ¬d.Open place names → Makes d q place names n

section Makes

variable {d : Disk} {absolute : Bool} {q : Path} {place : Location}
    {names : List String} {n : String}

/-- Nothing is created for two dots: they lead back to a place that was passed or has been there. -/
theorem makes_of_dots (hq : Path.Clean absolute q) (hstart : d.start q = place)
    (hnames : q.names = names ++ [n]) (h : d.Openable place (names ++ [n])) (hdots : n = "..") :
    d.Makes q place names n := by
  have hnone : newName? q = none := by
    rw [hq.newName, hnames, Path.lastName?, List.getLast?_concat]
    exact if_pos hdots
  have hto : d.OpenTo q ↔ d.Open place (names ++ [n]) := by rw [OpenTo, hstart, hnames]
  have hopenable : d.OpenableTo q := by rwa [OpenableTo, hstart, hnames]
  -- two dots make nothing: they lead to a directory that is there, or are not found
  rcases locateDirectory_of_openable hq.text_ne hopenable with hopen | hnotFound
  · refine .there ?_ (hto.mp hopen)
    rw [makeDirectory, hnone]
    dsimp only
    rw [(locateDirectory_iff hq.text_ne).mpr ⟨rfl, hopen⟩]
    rfl
  · refine .missing ?_ fun hopen => ?_
    · rw [makeDirectory, hnone]
      dsimp only
      rw [hnotFound]
      rfl
    · have hlast : onward (endOf place names) n ∈ through place (names ++ [n]) := by
        rw [through_append]; simp
      have hdirectory : d.at? (onward (endOf place names) n) = some .directory := by
        refine (h.places _ hlast).resolve_right ?_
        rintro ⟨hmissing, hmet⟩
        have hmet' := (FirstMet.append_iff.mp hmet).resolve_right fun hnew => hnew.1 hdots
        exact absurd (hmissing.symm.trans (hopen.directories _ hmet'.mem_through)) (by simp)
      have hopen' : d.OpenTo q := hto.mpr (open_append.mpr ⟨hopen, h.short n (by simp), hdirectory⟩)
      rw [(locateDirectory_iff hq.text_ne).mpr ⟨rfl, hopen'⟩] at hnotFound
      exact absurd hnotFound (by simp)

/-- A missing place that is put there opens the way to it. -/
theorem openedAlong_put (hopen : d.Open place names) (hdots : n ≠ "..") :
    d.OpenedAlong place (names ++ [n]) (d.put (onward (endOf place names) n) .directory) := by
  refine ⟨rfl, fun y => ?_⟩
  rw [at?_put (by rw [onward_of_name hdots]; simp), through_append]
  by_cases hy : y = onward (endOf place names) n
  · rw [if_pos hy, if_pos (by rw [hy]; simp)]
  · rw [if_neg hy]
    split
    · rename_i hmem
      rw [List.mem_append, List.mem_singleton] at hmem
      exact hopen.directories y (hmem.resolve_right hy)
    · rfl

theorem makes_of_name (hq : Path.Clean absolute q) (hstart : d.start q = place)
    (hnames : q.names = names ++ [n]) (h : d.Openable place (names ++ [n])) (hdots : n ≠ "..") :
    d.Makes q place names n := by
  have hn : isTooLong n = false := h.short n (by simp)
  have hname : newName? q = some n := by
    rw [hq.newName, hnames, Path.lastName?, List.getLast?_concat]
    exact if_neg hdots
  obtain ⟨_, hsplit, habs⟩ := Path.names_of_newName? hname
  have hstart' : d.start q.directory = place := by rw [← hstart, Disk.start, Disk.start, habs]
  have hnames' : q.directory.names = names := (List.append_inj' (hsplit.symm.trans hnames) rfl).1
  have hto : d.OpenTo q.directory ↔ d.Open place names := by rw [OpenTo, hstart', hnames']
  have hopenable : d.OpenableTo q.directory := by
    rw [OpenableTo, hstart', hnames']
    exact h.init
  have hmake : d.makeDirectory q = (d.child q.directory n >>= fun x =>
      if (d.at? x).isSome then throw .alreadyExists else pure (d.put x .directory)) := by
    rw [makeDirectory, hname]
  -- around it everything is open, or a directory is missing there as well
  rcases locateDirectory_of_openable q.text_directory_ne hopenable with hopen | hnotFound
  · have hx : d.placeIn q.directory n = onward (endOf place names) n := by
      rw [placeIn, placeOf, hstart', hnames', onward_of_name hdots]
    rw [(child_eq_ok q.text_directory_ne).mpr ⟨hopen, hn, rfl⟩, hx] at hmake
    rw [hto] at hopen
    have hlast : onward (endOf place names) n ∈ through place (names ++ [n]) := by
      rw [through_append]; simp
    rcases h.places _ hlast with hdirectory | ⟨hmissing, _⟩
    · refine .there ?_ (open_append.mpr ⟨hopen, hn, hdirectory⟩)
      rw [hmake]
      simp only [Bind.bind, Except.bind, hdirectory, Option.isSome_some, if_true]
      rfl
    · refine .created ?_ (openedAlong_put hopen hdots)
      rw [hmake]
      simp only [Bind.bind, Except.bind, hmissing, Option.isSome_none]
      rfl
  · refine .missing ?_ fun hopen => ?_
    · rw [hmake, child, hnotFound]
      rfl
    · rw [(locateDirectory_iff q.text_directory_ne).mpr ⟨rfl, hto.mpr hopen⟩] at hnotFound
      exact absurd hnotFound (by simp)

/-- **On a way that can be opened creating a directory does what it should.** -/
theorem makes_of_openable (hq : Path.Clean absolute q) (hstart : d.start q = place)
    (hnames : q.names = names ++ [n]) (h : d.Openable place (names ++ [n])) :
    d.Makes q place names n := by
  by_cases hdots : n = ".."
  · exact makes_of_dots hq hstart hnames h hdots
  · exact makes_of_name hq hstart hnames h hdots

end Makes

theorem answer_makeDirectory {d : Disk} {q : Path} :
    d.answer (.makeDirectory q) = d.apply (d.makeDirectory q) := rfl

theorem makeDirectories_on_ok {d d' : Disk} {q : Path} {around : List Path}
    (h : d.makeDirectory q = .ok d') :
    (makeDirectories (q :: around)).on d = (.ok (), d') := by
  rw [makeDirectories, on_bind, on_ask, answer_makeDirectory, h]
  rfl

theorem makeDirectories_on_exists {d : Disk} {q : Path} {around : List Path}
    (h : d.makeDirectory q = .error .alreadyExists) (hthere : d.isDirectory q = true) :
    (makeDirectories (q :: around)).on d = (.ok (), d) := by
  rw [makeDirectories, on_bind, on_ask, answer_makeDirectory, h]
  dsimp only [apply]
  rw [on_bind, on_ask]
  simp [answer, hthere]

/-- When the directories around are created, it is tried once more. -/
theorem makeDirectories_on_again {d d₁ d' : Disk} {q : Path} {around : List Path}
    (h : d.makeDirectory q = .error .notFound)
    (haround : (makeDirectories around).on d = (.ok (), d₁)) (hmake : d₁.makeDirectory q = .ok d') :
    (makeDirectories (q :: around)).on d = (.ok (), d') := by
  rw [makeDirectories, on_bind, on_ask, answer_makeDirectory, h]
  dsimp only [apply]
  rw [on_bind, haround]
  dsimp only
  rw [on_bind, on_ask, answer_makeDirectory, hmake]
  rfl

theorem makeDirectories_on_again_exists {d d₁ : Disk} {q : Path} {around : List Path}
    (h : d.makeDirectory q = .error .notFound)
    (haround : (makeDirectories around).on d = (.ok (), d₁))
    (hmake : d₁.makeDirectory q = .error .alreadyExists) (hthere : d₁.isDirectory q = true) :
    (makeDirectories (q :: around)).on d = (.ok (), d₁) := by
  rw [makeDirectories, on_bind, on_ask, answer_makeDirectory, h]
  dsimp only [apply]
  rw [on_bind, haround]
  dsimp only
  rw [on_bind, on_ask, answer_makeDirectory, hmake]
  dsimp only [apply]
  rw [on_bind, on_ask]
  simp [answer, hthere]

/-- **All directories on a way that can be opened are created** when nothing fails. -/
theorem makeDirectories_on {absolute : Bool} {names : List String} {paths : List Path} {d : Disk}
    {place : Location} (h : Path.Outward absolute names paths)
    (hstart : ∀ q ∈ paths, d.start q = place) (hopenable : d.Openable place names) :
    ∃ d', (makeDirectories paths).on d = (.ok (), d') ∧ d.OpenedAlong place names d' := by
  -- where the way is open after all, the path leads to a directory
  have hthere : ∀ {d : Disk} {q : Path}, q.text ≠ "" → d.start q = place → d.Open place q.names →
      d.isDirectory q = true := by
    intro d q htext hstart hopen
    exact isDirectory_of_openTo htext (by rwa [OpenTo, hstart])
  induction h generalizing d with
  | @last q hclean hlength =>
      have hq : d.start q = place := hstart q List.mem_cons_self
      rcases List.eq_nil_or_concat q.names with hnil | ⟨names, n, hnames⟩
      · have hopen : d.Open place q.names := by
          rw [hnil]
          exact open_nil.mpr hopenable.start
        have hnone : newName? q = none := by rw [hclean.newName, hnil]; rfl
        refine ⟨d, makeDirectories_on_exists ?_ (hthere hclean.text_ne hq hopen), .refl hopen⟩
        rw [makeDirectory, hnone]
        dsimp only
        rw [(locateDirectory_iff hclean.text_ne).mpr ⟨rfl, by rwa [OpenTo, hq]⟩]
        rfl
      · rw [List.concat_eq_append] at hnames
        have hempty : names = [] := by
          rw [hnames, List.length_append, List.length_singleton] at hlength
          exact List.length_eq_zero_iff.mp (by omega)
        rw [hnames] at hopenable ⊢
        cases makes_of_openable hclean hq hnames hopenable with
        | created hmake hopened => exact ⟨_, makeDirectories_on_ok hmake, hopened⟩
        | there hmake hopen =>
            exact ⟨d, makeDirectories_on_exists hmake (hthere hclean.text_ne hq (hnames ▸ hopen)),
              .refl hopen⟩
        | missing _ hnot =>
            rw [hempty, open_nil] at hnot
            exact absurd hopenable.start hnot
  | @step q names n around hclean hnames _ ih =>
      have hq : d.start q = place := hstart q List.mem_cons_self
      cases makes_of_openable hclean hq hnames hopenable with
      | created hmake hopened => exact ⟨_, makeDirectories_on_ok hmake, hopened⟩
      | there hmake hopen =>
          exact ⟨d, makeDirectories_on_exists hmake (hthere hclean.text_ne hq (hnames ▸ hopen)),
            .refl hopen⟩
      | missing hmake _ =>
          obtain ⟨d₁, haround, hopened₁⟩ :=
            ih (fun q' hq' => hstart q' (List.mem_cons_of_mem _ hq')) hopenable.init
          have hq₁ : d₁.start q = place := by
            rw [Disk.start, hopened₁.workingDirectory, ← Disk.start, hq]
          -- with the way so far open, the second attempt cannot find anything missing
          cases makes_of_openable hclean hq₁ hnames (hopened₁.openable hopenable) with
          | created hmake₁ hopened =>
              exact ⟨_, makeDirectories_on_again hmake haround hmake₁, hopened₁.trans hopened⟩
          | there hmake₁ hopen =>
              exact ⟨d₁, makeDirectories_on_again_exists hmake haround hmake₁
                (hthere hclean.text_ne hq₁ (hnames ▸ hopen)), hopened₁.trans (.refl hopen)⟩
          | missing _ hnot => exact absurd (hopened₁.isOpen hopenable.init.short) hnot

/-- **A directory to which the way can be opened is opened** when nothing fails. -/
theorem ensureDirectory_on {d : Disk} {p : Path} (h : d.OpenableTo p.directory) :
    ∃ d', (ensureDirectory p.directory).on d = (.ok (), d') ∧ d.OpenedTo p.directory d' := by
  have hopened : ∀ d' : Disk, d'.OpenTo p.directory →
      d'.answer (.openDirectory p.directory) = (.ok (), d') := by
    intro d' hopen
    simp only [answer, (locateDirectory_iff p.text_directory_ne).mpr ⟨rfl, hopen⟩]
    rfl
  -- either it is open already, or making it is what opens it
  rcases locateDirectory_of_openable p.text_directory_ne h with hopen | hnotFound
  · refine ⟨d, ?_, .refl hopen⟩
    rw [ensureDirectory, on_bind, on_ask, hopened d hopen]
    rfl
  · have hstart : ∀ q ∈ p.directory.outwards, d.start q = d.start p.directory := by
      intro q hq
      rw [Disk.start, Disk.start, (prefix_of_outward p.outward_directory q hq).1]
    obtain ⟨d', hmake, halong⟩ := makeDirectories_on p.outward_directory hstart h
    have hopen : d'.OpenTo p.directory := by
      rw [OpenTo, Disk.start, halong.workingDirectory]
      exact halong.isOpen h.short
    refine ⟨d', ?_, halong⟩
    have hanswer : d.answer (.openDirectory p.directory) = (.error .notFound, d) := by
      simp only [answer, hnotFound]
      rfl
    rw [ensureDirectory, on_bind, on_ask, hanswer]
    dsimp only
    rw [on_bind, hmake]
    dsimp only
    rw [on_bind, on_ask, hopened d' hopen]
    rfl

end Disk

end WrapperGen
