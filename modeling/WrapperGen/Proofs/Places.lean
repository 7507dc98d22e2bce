import WrapperGen.Proofs.PathNames

/-!
# Places on a disk

Without links the names in a path alone tell which places it passes, and following it succeeds just
where all of them are directories. A directory that is missing can only be created where the path
comes upon it by its name (`FirstMet`); two dots lead to no new place.
-/

namespace WrapperGen

namespace Disk

/-! ## The places that names lead to -/

/-- The place that a name leads to from another. -/
def onward (place : Location) (name : String) : Location :=
  if name = ".." then place.dropLast else place ++ [name]

/-- The places passed on the way along names, the first and the last included. -/
def through : Location → List String → List Location
  | place, [] => [place]
  | place, n :: names => place :: through (onward place n) names

/-- The place at the end of the way. -/
def endOf (place : Location) (names : List String) : Location := names.foldl onward place

/-- On the way along names a place is come upon by its name, and has not been passed before. -/
inductive FirstMet : Location → List String → Location → Prop where
  | here {place : Location} {n : String} {names : List String} :
      n ≠ ".." → FirstMet place (n :: names) (place ++ [n])
  | later {place x : Location} {n : String} {names : List String} :
      x ≠ place → FirstMet (onward place n) names x →
      FirstMet place (n :: names) x

theorem onward_of_name {place : Location} {n : String} (h : n ≠ "..") :
    onward place n = place ++ [n] :=
  if_neg h

theorem through_append (place : Location) (names : List String) (n : String) :
    through place (names ++ [n]) = through place names ++ [onward (endOf place names) n] := by
  induction names generalizing place with
  | nil => rfl
  | cons m names ih => exact congrArg (place :: ·) (ih (onward place m))

theorem start_mem_through (place : Location) (names : List String) :
    place ∈ through place names := by
  cases names <;> exact List.mem_cons_self

namespace FirstMet

variable {place x : Location} {names : List String}

theorem ne (h : FirstMet place names x) : x ≠ place := by
  cases h with
  | here _ => simp
  | later hne _ => exact hne

/-- A place that is come upon right away is come upon by its name. -/
theorem name_of_next {n : String} (h : FirstMet place (n :: names) x) (hx : x = onward place n) :
    n ≠ ".." := by
  cases h with
  | here hn => exact hn
  | later _ hmet => exact absurd hx hmet.ne

theorem mem_through (h : FirstMet place names x) : x ∈ through place names := by
  induction h with
  | here hn =>
      rw [through, onward_of_name hn]
      exact List.mem_cons_of_mem _ (start_mem_through _ _)
  | later _ _ ih => exact List.mem_cons_of_mem _ ih

/-- A longer way comes upon the same places, and the last may be another. -/
theorem append_iff {n : String} : FirstMet place (names ++ [n]) x
    ↔ FirstMet place names x
      ∨ (n ≠ ".." ∧ x = endOf place names ++ [n] ∧ x ∉ through place names) := by
  -- the last place counts if no name before it leads there
  induction names generalizing place with
  | nil =>
      constructor
      · intro h
        cases h with
        | here hn => exact Or.inr ⟨hn, rfl, by simp [through]⟩
        | later _ h => cases h
      · rintro (h | ⟨hn, rfl, _⟩)
        · cases h
        · exact .here hn
  | cons m names ih =>
      constructor
      · intro h
        cases h with
        | here hm => exact Or.inl (.here hm)
        | later hne h =>
            rcases ih.mp h with h | ⟨hn, hx, hnew⟩
            · exact Or.inl (.later hne h)
            · exact Or.inr ⟨hn, hx, by simp [through, hne, hnew]⟩
      · rintro (h | ⟨hn, hx, hnew⟩)
        · cases h with
          | here hm => exact .here hm
          | later hne h => exact .later hne (ih.mpr (Or.inl h))
        · rw [through, List.mem_cons, not_or] at hnew
          exact .later hnew.1 (ih.mpr (Or.inr ⟨hn, hx, hnew.2⟩))

theorem of_prefix {longer : List String} (h : FirstMet place names x)
    (hbeginning : names <+: longer) :
    FirstMet place longer x := by
  obtain ⟨more, rfl⟩ := hbeginning
  induction more using List.reverseRecOn with
  | nil => rwa [List.append_nil]
  | append_singleton more n ih =>
      rw [← List.append_assoc]
      exact append_iff.mpr (Or.inl ih)

/-- Every place on the way is first met by its name, but for those above the start. -/
theorem of_mem_through (hx : x ∈ through place names) (hnew : ¬x <+: place) :
    FirstMet place names x := by
  induction names generalizing place with
  | nil => exact absurd (List.mem_singleton.mp hx ▸ List.prefix_refl _) hnew
  | cons n names ih =>
      rcases List.mem_cons.mp hx with heq | hlater
      · exact absurd (heq ▸ List.prefix_refl _) hnew
      by_cases hn : n = ".."
      · have hback : onward place n <+: place := by
          rw [onward, if_pos hn]
          exact List.dropLast_prefix place
        exact .later (fun heq => hnew (heq ▸ List.prefix_refl _))
          (ih hlater fun hx => hnew (hx.trans hback))
      · rw [onward_of_name hn] at hlater
        by_cases hnext : x = place ++ [n]
        · rw [hnext]
          exact .here hn
        · refine .later (fun heq => hnew (heq ▸ List.prefix_refl _)) ?_
          rw [onward_of_name hn]
          refine ih hlater fun hx => ?_
          exact (List.prefix_concat_iff.mp hx).elim hnext hnew

end FirstMet

/-- A place on the way is above the start, or is that of a name. -/
theorem mem_through_cases {place x : Location} {names : List String} (h : x ∈ through place names) :
    x <+: place ∨ ∃ y, ∃ n ∈ names, x = y ++ [n] := by
  induction names generalizing place with
  | nil => exact Or.inl (List.mem_singleton.mp h ▸ List.prefix_refl _)
  | cons m names ih =>
      rcases List.mem_cons.mp h with heq | hlater
      · exact Or.inl (heq ▸ List.prefix_refl _)
      · rcases ih hlater with habove | ⟨y, n, hn, heq⟩
        · rw [onward] at habove
          split at habove
          · exact Or.inl (habove.trans (List.dropLast_prefix place))
          · refine (List.prefix_concat_iff.mp habove).symm.imp_right fun heq => ?_
            exact ⟨place, m, List.mem_cons_self, heq⟩
        · exact Or.inr ⟨y, n, List.mem_cons_of_mem _ hn, heq⟩

/-! ## What is at a place -/

theorem isDirectoryAt_iff {d : Disk} {place : Location} :
    d.isDirectoryAt place = true ↔ d.at? place = some .directory := by
  rw [isDirectoryAt, beq_iff_eq]

@[simp] theorem put_workingDirectory (d : Disk) (place : Location) (entry : Entry) :
    (d.put place entry).workingDirectory = d.workingDirectory := rfl

@[simp] theorem clear_workingDirectory (d : Disk) (place : Location) :
    (d.clear place).workingDirectory = d.workingDirectory := rfl

theorem lookup_filter (entries : List (Location × Entry)) (place y : Location) :
    (entries.filter fun e => e.1 ≠ place).lookup y = if y = place then none
      else entries.lookup y := by
  induction entries with
  | nil => simp
  | cons e entries ih =>
      obtain ⟨x, entry⟩ := e
      rw [List.filter_cons, List.lookup_cons]
      by_cases hx : x = place
      · subst hx
        by_cases hy : y = x
        · simp [hy] at ih ⊢
          exact ih
        · rw [if_neg (by simp), ih, if_neg hy, if_neg hy, beq_eq_false_iff_ne.mpr hy]
      · rw [if_pos (by simpa using hx), List.lookup_cons]
        by_cases hy : y = x
        · rw [hy, beq_self_eq_true, if_neg hx]
        · rw [beq_eq_false_iff_ne.mpr hy]
          exact ih

/-- **Clearing a place** leaves nothing there, and all else as it was. -/
theorem at?_clear {d : Disk} {place : Location} (hplace : place ≠ []) (y : Location) :
    (d.clear place).at? y = if y = place then none else d.at? y := by
  by_cases hy : y = []
  · subst hy
    rw [if_neg (Ne.symm hplace)]
    rfl
  · rw [at?, at?, if_neg hy, if_neg hy, clear, lookup_filter]

/-- **Putting something at a place** leaves all else as it was. -/
theorem at?_put {d : Disk} {place : Location} (hplace : place ≠ []) (entry : Entry) (y : Location) :
    (d.put place entry).at? y = if y = place then some entry else d.at? y := by
  by_cases hy : y = []
  · subst hy
    rw [if_neg (Ne.symm hplace)]
    rfl
  · rw [at?, at?, if_neg hy, if_neg hy, put, List.lookup_append, lookup_filter]
    by_cases hsame : y = place
    · simp [hsame]
    · simp [hsame, List.lookup_cons, beq_eq_false_iff_ne.mpr hsame]

/-! ## Following a path -/

/-- The way along names leads through directories, and no name is too long. -/
structure Open (d : Disk) (place : Location) (names : List String) : Prop where
  directories : ∀ x ∈ through place names, d.at? x = some .directory
  short : ∀ n ∈ names, isTooLong n = false

theorem open_nil {d : Disk} {place : Location} : d.Open place [] ↔ d.at? place = some .directory :=
  ⟨fun h => h.directories place List.mem_cons_self, fun h =>
    ⟨fun x hx => by rwa [List.mem_singleton.mp hx], fun _ hn => absurd hn List.not_mem_nil⟩⟩

theorem open_cons {d : Disk} {place : Location} {n : String} {names : List String} :
    d.Open place (n :: names)
      ↔ d.at? place = some .directory ∧ isTooLong n = false ∧ d.Open (onward place n) names := by
  constructor
  · intro h
    obtain ⟨hfirst, hrest⟩ := List.forall_mem_cons.mp h.directories
    obtain ⟨hn, hnames⟩ := List.forall_mem_cons.mp h.short
    exact ⟨hfirst, hn, hrest, hnames⟩
  · rintro ⟨hfirst, hn, hrest, hnames⟩
    exact ⟨List.forall_mem_cons.mpr ⟨hfirst, hrest⟩, List.forall_mem_cons.mpr ⟨hn, hnames⟩⟩

theorem open_append {d : Disk} {place : Location} {names : List String} {n : String} :
    d.Open place (names ++ [n])
      ↔ d.Open place names ∧ isTooLong n = false
        ∧ d.at? (onward (endOf place names) n) = some .directory := by
  induction names generalizing place with
  | nil => rw [List.nil_append, open_cons, open_nil, open_nil]; rfl
  | cons m names ih =>
      rw [List.cons_append, open_cons, open_cons, ih, and_assoc, and_assoc]
      rfl

theorem isTooLong_dots : isTooLong ".." = false := by decide

theorem namesIn_cons_of_void {n : String} {names : List String} (h : Path.IsVoid n) :
    Path.namesIn (n :: names) = Path.namesIn names := by
  rw [← List.singleton_append, Path.namesIn_append, Path.namesIn_eq_nil, List.nil_append]
  exact fun s hs => List.mem_singleton.mp hs ▸ h

theorem namesIn_cons_of_name {n : String} {names : List String} (h : ¬Path.IsVoid n) :
    Path.namesIn (n :: names) = n :: Path.namesIn names := by
  rw [← List.singleton_append, Path.namesIn_append, Path.namesIn_singleton h, List.singleton_append]

/-! One step of following, by what the segment says. -/

theorem follow_void {d : Disk} {place : Location} {n : String} {segments : List String}
    (hplace : d.at? place = some .directory) (h : Path.IsVoid n) :
    d.follow place (n :: segments) = d.follow place segments := by
  rw [follow, isDirectoryAt_iff.mpr hplace]
  exact if_pos h

theorem follow_dots {d : Disk} {place : Location} {segments : List String}
    (hplace : d.at? place = some .directory) :
    d.follow place (".." :: segments) = d.follow place.dropLast segments := by
  rw [follow, isDirectoryAt_iff.mpr hplace, if_neg (by simp), if_neg (by decide), if_pos rfl]

theorem follow_name {d : Disk} {place : Location} {n : String} {segments : List String}
    (hplace : d.at? place = some .directory) (hvoid : ¬Path.IsVoid n) (hdots : n ≠ "..") :
    d.follow place (n :: segments) = if isTooLong n then .error .nameTooLong
      else if (d.at? (place ++ [n])).isNone then .error .notFound
        else d.follow (place ++ [n]) segments := by
  rw [follow, isDirectoryAt_iff.mpr hplace, if_neg (by simp), if_neg hdots]
  exact if_neg hvoid

/-- **Segments lead to a directory just where the way along their names is open.** -/
theorem follow_iff {d : Disk} {place q : Location} {segments : List String} :
    (d.follow place segments = .ok q ∧ d.at? q = some .directory)
      ↔ q = endOf place (Path.namesIn segments) ∧ d.Open place (Path.namesIn segments) := by
  induction segments generalizing place with
  | nil =>
      rw [follow, Except.ok.injEq, show Path.namesIn [] = [] from rfl, open_nil]
      constructor
      · rintro ⟨rfl, h⟩
        exact ⟨rfl, h⟩
      · rintro ⟨rfl, h⟩
        exact ⟨rfl, h⟩
  | cons n segments ih =>
      by_cases hplace : d.at? place = some .directory
      · -- void segments are passed over, two dots lead outwards, and all others are names
        by_cases hvoid : Path.IsVoid n
        · rw [follow_void hplace hvoid, ih, namesIn_cons_of_void hvoid]
        · rw [namesIn_cons_of_name hvoid, open_cons, and_iff_right hplace]
          by_cases hdots : n = ".."
          · subst hdots
            rw [follow_dots hplace, ih, and_iff_right isTooLong_dots]
            rfl
          · rw [follow_name hplace hvoid hdots]
            by_cases hlong : isTooLong n = true
            · rw [if_pos hlong]
              simp [hlong]
            · have hshort : isTooLong n = false := by simpa using hlong
              rw [if_neg hlong, hshort, and_iff_right (rfl : false = false), onward_of_name hdots]
              by_cases hnone : (d.at? (place ++ [n])).isNone = true
              · rw [if_pos hnone]
                refine iff_of_false (by simp) fun h => ?_
                have hthere := h.2.directories _ (start_mem_through _ _)
                rw [hthere] at hnone
                exact absurd hnone (by simp)
              · rw [if_neg hnone, ih, endOf, endOf, List.foldl_cons, onward_of_name hdots]
      · -- no segment is followed from a place that is no directory
        refine iff_of_false (fun h => ?_) fun h =>
          hplace (h.2.directories _ (start_mem_through _ _))
        have hnot : d.isDirectoryAt place = false := by
          rw [Bool.eq_false_iff, Ne, isDirectoryAt_iff]
          exact hplace
        rw [follow, hnot] at h
        exact absurd h.1 (by simp)

/-- The place that a path names, whether or not anything is there. -/
def placeOf (d : Disk) (p : Path) : Location := endOf (d.start p) p.names

/-- The place of a name in the directory that a path names. -/
def placeIn (d : Disk) (p : Path) (name : String) : Location := d.placeOf p ++ [name]

theorem placeIn_ne_nil {d : Disk} {p : Path} {name : String} : d.placeIn p name ≠ [] := by
  simp [placeIn]

/-- A path that leads to a file leads to the place of its name in its directory. -/
theorem placeIn_of_fileName? {d : Disk} {p : Path} {name : String} (h : p.fileName? = some name) :
    d.placeIn p.directory name = d.placeOf p := by
  obtain ⟨hdots, hnames, habs⟩ := Path.names_of_fileName? h
  rw [placeIn, placeOf, placeOf, hnames, endOf, endOf, List.foldl_append, List.foldl_cons,
    List.foldl_nil, onward_of_name hdots, start, start, habs]

/-- The way that a path goes is open. -/
def OpenTo (d : Disk) (p : Path) : Prop := d.Open (d.start p) p.names

theorem locateDirectory_iff {d : Disk} {p : Path} {q : Location} (hp : p.text ≠ "") :
    d.locateDirectory p = .ok q ↔ q = d.placeOf p ∧ d.OpenTo p := by
  rw [placeOf, OpenTo, Path.names, ← follow_iff, locateDirectory, locate, if_neg hp]
  cases hfollow : d.follow (d.start p) p.segments with
  | error e => exact iff_of_false (by simp [Bind.bind, Except.bind]) (by simp)
  | ok place =>
      show (if d.isDirectoryAt place = true then (pure place : Except IoCause Location)
          else throw .notADirectory)
        = .ok q ↔ _
      by_cases hplace : d.at? place = some .directory
      · rw [if_pos (isDirectoryAt_iff.mpr hplace)]
        constructor
        · intro h
          obtain rfl := Except.ok.inj h
          exact ⟨rfl, hplace⟩
        · exact fun h => h.1
      · rw [if_neg (fun h => hplace (isDirectoryAt_iff.mp h))]
        refine iff_of_false (by simp) fun h => hplace ?_
        obtain rfl := Except.ok.inj h.1
        exact h.2

/-! ## Ways that can be opened -/

/-- Every place on the way along names is a directory, or is missing and come upon by its name. -/
structure Openable (d : Disk) (place : Location) (names : List String) : Prop where
  places : ∀ x ∈ through place names, d.at? x = some .directory
    ∨ (d.at? x = none ∧ FirstMet place names x)
  short : ∀ n ∈ names, isTooLong n = false

namespace Openable

variable {d : Disk} {place : Location} {names : List String}

theorem start (h : d.Openable place names) : d.at? place = some .directory :=
  (h.places place (start_mem_through _ _)).resolve_right fun hmissing => hmissing.2.ne rfl

/-- The shorter way can be opened too. -/
theorem init {n : String} (h : d.Openable place (names ++ [n])) : d.Openable place names := by
  refine ⟨fun x hx => ?_, fun m hm => h.short m (List.mem_append_left _ hm)⟩
  refine (h.places x ?_).imp_right fun ⟨hnone, hmet⟩ => ⟨hnone, ?_⟩
  · rw [through_append]
    exact List.mem_append_left _ hx
  · exact (FirstMet.append_iff.mp hmet).resolve_right fun hlast => hlast.2.2 hx

/-- The rest of the way can be opened where its first place is a directory. -/
theorem tail {n : String} (h : d.Openable place (n :: names))
    (hnext : d.at? (onward place n) ≠ none) :
    d.Openable (onward place n) names := by
  refine ⟨fun x hx => ?_, fun m hm => h.short m (List.mem_cons_of_mem _ hm)⟩
  refine (h.places x (List.mem_cons_of_mem _ hx)).imp_right fun ⟨hnone, hmet⟩ => ⟨hnone, ?_⟩
  cases hmet with
  | here hn => exact absurd (onward_of_name hn ▸ hnone) hnext
  | later _ hmet => exact hmet

end Openable

/-- A way that can be opened is open, or ends at a name that is not found. -/
theorem follow_of_openable {d : Disk} {place : Location} {segments : List String}
    (h : d.Openable place (Path.namesIn segments)) :
    d.Open place (Path.namesIn segments) ∨ d.follow place segments = .error .notFound := by
  induction segments generalizing place with
  | nil => exact Or.inl (open_nil.mpr h.start)
  | cons n segments ih =>
      by_cases hvoid : Path.IsVoid n
      · rw [namesIn_cons_of_void hvoid] at h ⊢
        rw [follow_void h.start hvoid]
        exact ih h
      · rw [namesIn_cons_of_name hvoid] at h ⊢
        rw [open_cons, and_iff_right h.start, and_iff_right (h.short n List.mem_cons_self)]
        have hnext := h.places (onward place n) (List.mem_cons_of_mem _ (start_mem_through _ _))
        by_cases hdots : n = ".."
        · -- two dots lead to no place that could be missing
          subst hdots
          rw [follow_dots h.start]
          refine ih (h.tail ?_)
          rcases hnext with hdirectory | ⟨_, hmet⟩
          · simp [hdirectory]
          · exact absurd rfl (hmet.name_of_next rfl)
        · rw [follow_name h.start hvoid hdots, if_neg (by simp [h.short n List.mem_cons_self])]
          rcases hnext with hdirectory | ⟨hnone, _⟩
          · have htail := h.tail (by rw [hdirectory]; simp)
            rw [onward_of_name hdots] at hdirectory htail ⊢
            rw [hdirectory, if_neg (by simp)]
            exact ih htail
          · rw [onward_of_name hdots] at hnone
            rw [hnone]
            exact Or.inr rfl

/-- The way that a path goes can be opened. -/
def OpenableTo (d : Disk) (p : Path) : Prop := d.Openable (d.start p) p.names

theorem locateDirectory_of_openable {d : Disk} {p : Path} (hp : p.text ≠ "") (h : d.OpenableTo p) :
    d.OpenTo p ∨ d.locateDirectory p = .error .notFound := by
  refine (follow_of_openable h).imp_right fun hfollow => ?_
  rw [locateDirectory, locate, if_neg hp, hfollow]
  rfl

end Disk

end WrapperGen
