import Mathlib.Data.List.Induction
import Mathlib.Data.List.TakeWhile
import WrapperGen.Disk.Basic
import WrapperGen.Proofs.JoinedTexts

/-!
# The names in a path

Of the segments of a path only some are names that lead anywhere. The directory of a path has all of
its names but the last, and going outwards from a directory takes away one name after the other.
-/

namespace WrapperGen

namespace Text

variable {α : Type} [DecidableEq α]

/-- No part holds the separator. -/
theorem not_mem_of_mem_splitAt {a : α} {s part : List α} (h : part ∈ splitAt a s) : a ∉ part := by
  induction s generalizing part with
  | nil =>
      rw [List.mem_singleton.mp h]
      exact List.not_mem_nil
  | cons b s ih =>
      rw [splitAt] at h
      split at h
      · rcases List.mem_cons.mp h with rfl | h
        · exact List.not_mem_nil
        · exact ih h
      · rename_i hb
        cases hs : splitAt a s with
        | nil => exact absurd hs (splitAt_ne_nil s)
        | cons first others =>
            rw [hs] at h ih
            rcases List.mem_cons.mp h with rfl | h
            · rw [List.mem_cons, not_or]
              exact ⟨Ne.symm hb, ih List.mem_cons_self⟩
            · exact ih (List.mem_cons_of_mem _ h)

end Text

namespace Path

/-! ## Segments -/

/-- Texts that can be the segments of a path. -/
structure Segmented (segments : List String) : Prop where
  ne_nil : segments ≠ []
  noSlash : ∀ s ∈ segments, '/' ∉ s.toList

/-- A segment that says nothing. -/
def IsVoid (segment : String) : Prop := segment = "" ∨ segment = "."

instance (segment : String) : Decidable (IsVoid segment) := inferInstanceAs (Decidable (_ ∨ _))

/-- The names among segments. -/
def namesIn (segments : List String) : List String := segments.filter fun s => s != "" && s != "."

/-- The names in a path. -/
def names (p : Path) : List String := namesIn p.segments

theorem segmented_segments (p : Path) : Segmented p.segments := by
  refine ⟨?_, fun s hs => ?_⟩
  · exact Text.parts_ne_nil p.text
  · obtain ⟨part, hpart, rfl⟩ := List.mem_map.mp hs
    rw [String.toList_ofList]
    exact Text.not_mem_of_mem_splitAt hpart

theorem Segmented.sublist {segments others : List String} (h : Segmented segments)
    (hsub : others.Sublist segments) (hne : others ≠ []) : Segmented others :=
  ⟨hne, fun s hs => h.noSlash s (hsub.subset hs)⟩

theorem namesIn_append (xs ys : List String) : namesIn (xs ++ ys) = namesIn xs ++ namesIn ys :=
  List.filter_append ..

theorem mem_namesIn {segments : List String} {n : String} :
    n ∈ namesIn segments ↔ n ∈ segments ∧ ¬IsVoid n := by
  simp [namesIn, IsVoid]

theorem namesIn_eq_nil {segments : List String} (h : ∀ s ∈ segments, IsVoid s) :
    namesIn segments = [] :=
  List.eq_nil_iff_forall_not_mem.mpr fun n hn => (mem_namesIn.mp hn).2 (h n (mem_namesIn.mp hn).1)

theorem namesIn_singleton {n : String} (h : ¬IsVoid n) : namesIn [n] = [n] := by
  rw [namesIn, List.filter_eq_self]
  intro s hs
  rw [List.mem_singleton.mp hs]
  simpa [IsVoid] using h

theorem namesIn_eq_self {segments : List String} (h : ∀ s ∈ segments, ¬IsVoid s) :
    namesIn segments = segments := by
  rw [namesIn, List.filter_eq_self]
  intro s hs
  simpa [IsVoid] using h s hs

/-! ## Trimmed segments -/

/-- Segments behind a first one are trimmed at the end only. -/
theorem trimmed_eq (first : String) (rest : List String) :
    ∃ kept voids, rest = kept ++ voids ∧ (∀ s ∈ voids, IsVoid s)
      ∧ (∀ s, kept.getLast? = some s → ¬IsVoid s) ∧ trimmed (first :: rest) = first :: kept := by
  refine ⟨(rest.reverse.dropWhile fun s => s == "" || s == ".").reverse,
    (rest.reverse.takeWhile fun s => s == "" || s == ".").reverse, ?_, fun s hs => ?_,
    fun s hs => ?_, rfl⟩
  · rw [← List.reverse_append, List.takeWhile_append_dropWhile, List.reverse_reverse]
  · have := List.mem_takeWhile_imp (List.mem_reverse.mp hs)
    simpa [IsVoid] using this
  · rw [List.getLast?_reverse] at hs
    have := List.head?_dropWhile_not (fun s => s == "" || s == ".") rest.reverse
    rw [hs] at this
    simpa [IsVoid] using this

theorem namesIn_trimmed (segments : List String) :
    namesIn (trimmed segments) = namesIn segments := by
  cases segments with
  | nil => rfl
  | cons first rest =>
      obtain ⟨kept, voids, rfl, hvoids, _, htrimmed⟩ := trimmed_eq first rest
      rw [htrimmed, ← List.cons_append, namesIn_append, namesIn_eq_nil hvoids, List.append_nil]

/-- Segments of which the last says something, or of which there is only one. -/
def Trim (segments : List String) : Prop := trimmed segments = segments

theorem trim_iff {first : String} {rest : List String} :
    Trim (first :: rest) ↔ ∀ s, rest.getLast? = some s → ¬IsVoid s := by
  obtain ⟨kept, voids, rfl, hvoids, hlast, htrimmed⟩ := trimmed_eq first rest
  rw [Trim, htrimmed, List.cons.injEq, and_iff_right rfl, List.self_eq_append_right]
  constructor
  · rintro rfl
    rwa [List.append_nil]
  · intro h
    by_contra hne
    refine h (voids.getLast hne) ?_ (hvoids _ (List.getLast_mem hne))
    rw [List.getLast?_append, List.getLast?_eq_some_getLast hne, Option.some_or]

theorem trim_trimmed {segments : List String} (h : segments ≠ []) : Trim (trimmed segments) := by
  obtain ⟨first, rest, rfl⟩ := List.exists_cons_of_ne_nil h
  obtain ⟨kept, voids, _, _, hlast, htrimmed⟩ := trimmed_eq first rest
  rw [htrimmed]
  exact trim_iff.mpr hlast

theorem trimmed_ne_nil {segments : List String} (h : segments ≠ []) : trimmed segments ≠ [] := by
  obtain ⟨first, rest, rfl⟩ := List.exists_cons_of_ne_nil h
  exact List.cons_ne_nil _ _

theorem head?_trimmed (segments : List String) : (trimmed segments).head? = segments.head? := by
  cases segments <;> rfl

theorem trimmed_sublist (segments : List String) : (trimmed segments).Sublist segments := by
  cases segments with
  | nil => exact List.Sublist.refl _
  | cons first rest =>
      obtain ⟨kept, voids, rfl, _, _, htrimmed⟩ := trimmed_eq first rest
      rw [htrimmed]
      exact (List.sublist_append_left kept voids).cons_cons first

/-- Behind a segment that says something only what says nothing is cut off. -/
theorem trimmed_append {segments voids : List String} {n : String} (hne : segments ≠ [])
    (hn : ¬IsVoid n) (hvoids : ∀ s ∈ voids, IsVoid s) :
    trimmed (segments ++ n :: voids) = segments ++ [n] := by
  obtain ⟨first, rest, rfl⟩ := List.exists_cons_of_ne_nil hne
  rw [List.cons_append, List.cons_append, trimmed]
  have hdrop : (voids.reverse ++ [n] ++ rest.reverse).dropWhile (fun s => s == "" || s == ".")
      = n :: rest.reverse := by
    rw [List.append_assoc, List.dropWhile_append_of_pos]
    · rw [List.singleton_append, List.dropWhile_cons_of_neg]
      simpa [IsVoid] using hn
    · intro s hs
      simpa [IsVoid] using hvoids s (List.mem_reverse.mp hs)
  rw [List.reverse_append, List.reverse_cons, hdrop]
  simp

/-! ## Paths made of segments -/

theorem ofSegments_eq {segments : List String} (h : segments ≠ [""]) :
    ofSegments segments = ⟨Text.joined "/" segments⟩ := by
  unfold ofSegments
  split
  · exact absurd rfl h
  · rfl

theorem segments_ofSegments {segments : List String} (h : Segmented segments)
    (hroot : segments ≠ [""]) :
    (ofSegments segments).segments = segments := by
  rw [ofSegments_eq hroot]
  exact Text.parts_joined rfl h.ne_nil h.noSlash

theorem segments_root : (ofSegments [""]).segments = ["", ""] := rfl

theorem names_ofSegments {segments : List String} (h : Segmented segments) :
    (ofSegments segments).names = namesIn segments := by
  by_cases hroot : segments = [""]
  · rw [hroot]
    rfl
  · rw [names, segments_ofSegments h hroot]

theorem text_joined_ne {first : String} {rest : List String} (h : first ≠ "" ∨ rest ≠ []) :
    Text.joined "/" (first :: rest) ≠ "" := by
  intro hempty
  have hlist := congrArg String.toList hempty
  cases rest with
  | nil => exact h.elim (fun h => h hempty) (fun h => h rfl)
  | cons second rest =>
      rw [Text.joined_cons_cons, String.toList_append, String.toList_append] at hlist
      simp at hlist

theorem text_ofSegments_ne {segments : List String} (h : segments ≠ []) :
    (ofSegments segments).text ≠ "" := by
  by_cases hroot : segments = [""]
  · rw [hroot]
    decide
  · obtain ⟨first, rest, rfl⟩ := List.exists_cons_of_ne_nil h
    rw [ofSegments_eq hroot]
    refine text_joined_ne ?_
    by_cases hfirst : first = ""
    · exact Or.inr fun hrest => hroot (by rw [hfirst, hrest])
    · exact Or.inl hfirst

/-- A text starts with a slash if its first segment is empty and not the only one. -/
theorem isAbsolute_joined {first : String} {rest : List String} (h : Segmented (first :: rest)) :
    (⟨Text.joined "/" (first :: rest)⟩ : Path).isAbsolute = true ↔ first = "" ∧ rest ≠ [] := by
  have hslash : '/' ∉ first.toList := h.noSlash first List.mem_cons_self
  cases rest with
  | nil =>
      refine iff_of_false (fun habs => hslash ?_) (fun h => h.2 rfl)
      obtain ⟨others, hothers⟩ := List.isPrefixOf_iff_prefix.mp habs
      rw [show first.toList = '/' :: others from hothers.symm]
      exact List.mem_cons_self
  | cons second rest =>
      rw [isAbsolute, Text.joined_cons_cons, String.toList_append, String.toList_append]
      cases hfirst : first.toList with
      | nil => simp [String.toList_eq_nil_iff.mp hfirst]
      | cons c cs =>
          have hc : c ≠ '/' := fun heq => hslash (by rw [hfirst, heq]; exact List.mem_cons_self)
          refine iff_of_false ?_ fun h => ?_
          · simp [Ne.symm hc]
          · rw [h.1] at hfirst
            exact absurd hfirst (by simp)

theorem joined_segments (p : Path) : (⟨Text.joined "/" p.segments⟩ : Path) = p :=
  congrArg Path.mk (Text.joined_parts rfl p.text)

/-- What a path starts with decides whether it is absolute. -/
theorem isAbsolute_ofSegments {segments : List String} (h : Segmented segments) :
    (ofSegments segments).isAbsolute = (segments.head? == some "") := by
  by_cases hroot : segments = [""]
  · rw [hroot]
    rfl
  · obtain ⟨first, rest, rfl⟩ := List.exists_cons_of_ne_nil h.ne_nil
    rw [ofSegments_eq hroot, Bool.eq_iff_iff, isAbsolute_joined h, List.head?_cons, beq_iff_eq,
      Option.some.injEq]
    constructor
    · exact fun h => h.1
    · rintro rfl
      exact ⟨rfl, fun hrest => hroot (by rw [hrest])⟩

theorem isAbsolute_eq {p : Path} (h : p.text ≠ "") :
    p.isAbsolute = (p.segments.head? == some "") := by
  have hseg := p.segmented_segments
  have hjoined := p.joined_segments
  obtain ⟨first, rest, hsegments⟩ := List.exists_cons_of_ne_nil hseg.ne_nil
  rw [hsegments] at hseg hjoined ⊢
  rw [← hjoined, Bool.eq_iff_iff, isAbsolute_joined hseg, List.head?_cons, beq_iff_eq,
    Option.some.injEq]
  constructor
  · exact fun h => h.1
  · rintro rfl
    refine ⟨rfl, ?_⟩
    rintro rfl
    exact h (congrArg Path.text hjoined).symm

/-! ## The last name -/

/-- The last segment that is not empty. -/
theorem lastSegment?_eq_some {p : Path} {n : String} (h : p.lastSegment? = some n) :
    n ≠ "" ∧ ∃ init blanks, p.segments = init ++ n :: blanks ∧ ∀ s ∈ blanks, s = "" := by
  rw [lastSegment?] at h
  obtain ⟨others, hothers⟩ := List.head?_eq_some_iff.mp h
  have hn := List.head?_dropWhile_not (fun s => s == "") p.segments.reverse
  rw [h] at hn
  refine ⟨by simpa using hn, others.reverse, (p.segments.reverse.takeWhile (· == "")).reverse, ?_,
    fun s hs => ?_⟩
  · have hsplit := List.takeWhile_append_dropWhile (p := fun s => s == "") (l := p.segments.reverse)
    rw [hothers] at hsplit
    have hsegments := congrArg List.reverse hsplit
    rw [List.reverse_reverse, List.reverse_append, List.reverse_cons,
      List.append_assoc] at hsegments
    exact hsegments.symm
  · simpa using List.mem_takeWhile_imp (List.mem_reverse.mp hs)

theorem lastSegment?_of_segments {p : Path} {init : List String} {n : String}
    (h : p.segments = init ++ [n]) (hn : n ≠ "") : p.lastSegment? = some n := by
  rw [lastSegment?, h, List.reverse_append, List.reverse_singleton, List.singleton_append,
    List.dropWhile_cons_of_neg (by simpa using hn), List.head?_cons]

/-! ## Directories -/

/-- Behind a single segment nothing is said. -/
theorem trimmed_single {n : String} {voids : List String} (h : ∀ s ∈ voids, IsVoid s) :
    trimmed (n :: voids) = [n] := by
  obtain ⟨kept, others, rfl, _, hlast, htrimmed⟩ := trimmed_eq n voids
  rw [htrimmed, List.cons.injEq, and_iff_right rfl]
  by_contra hne
  exact hlast _ (List.getLast?_eq_some_getLast hne)
    (h _ (List.mem_append_left _ (List.getLast_mem hne)))

/-- A path of one segment leads into the directory where relative paths start. -/
theorem directory_of_single {p : Path} {n : String} (h : trimmed p.segments = [n]) :
    p.directory = ⟨"."⟩ := by
  rw [directory, above?, h]
  by_cases hn : n = ""
  · simp [hn]
  · simp [hn]

theorem above?_of_append {p : Path} {init : List String} {n : String} (hinit : init ≠ [])
    (h : trimmed p.segments = init ++ [n]) : p.above? = some (ofSegments (trimmed init)) := by
  obtain ⟨first, rest, rfl⟩ := List.exists_cons_of_ne_nil hinit
  rw [above?, h]
  split
  · exact absurd ‹_› (by simp)
  · exact absurd ‹_› (by simp)
  · rw [List.dropLast_concat]

theorem directory_of_append {p : Path} {init : List String} {n : String} (hinit : init ≠ [])
    (h : trimmed p.segments = init ++ [n]) : p.directory = ofSegments (trimmed init) := by
  rw [directory, above?_of_append hinit h]
  exact if_neg (text_ofSegments_ne (trimmed_ne_nil hinit))

/-- The segments of a path are trimmed to one, or to one that says something behind others. -/
theorem trimmed_cases {segments : List String} (hne : segments ≠ []) :
    (∃ n, trimmed segments = [n]) ∨ ∃ init n, init ≠ [] ∧ ¬IsVoid n
      ∧ trimmed segments = init ++ [n] := by
  obtain ⟨first, rest, rfl⟩ := List.exists_cons_of_ne_nil hne
  obtain ⟨kept, voids, rfl, _, hlast, htrimmed⟩ := trimmed_eq first rest
  rw [htrimmed]
  rcases List.eq_nil_or_concat kept with rfl | ⟨init, n, rfl⟩
  · exact Or.inl ⟨first, rfl⟩
  · exact Or.inr ⟨first :: init, n, List.cons_ne_nil _ _, hlast n (by simp), by simp⟩

/-- **A directory is written without segments that say nothing at its end.** -/
theorem exists_segments_directory (p : Path) :
    ∃ l, Segmented l ∧ Trim l ∧ p.directory = ofSegments l := by
  rcases trimmed_cases p.segmented_segments.ne_nil with ⟨n, h⟩ | ⟨init, n, hinit, _, h⟩
  · exact ⟨["."], ⟨by simp, by simp⟩, rfl, directory_of_single h⟩
  · have hsub : (trimmed init).Sublist p.segments :=
      (trimmed_sublist init).trans
        ((h ▸ List.sublist_append_left init [n]).trans (trimmed_sublist _))
    exact ⟨trimmed init, p.segmented_segments.sublist hsub (trimmed_ne_nil hinit),
      trim_trimmed hinit, directory_of_append hinit h⟩

theorem text_directory_ne (p : Path) : p.directory.text ≠ "" := by
  obtain ⟨l, hl, _, heq⟩ := p.exists_segments_directory
  rw [heq]
  exact text_ofSegments_ne hl.ne_nil

theorem text_ne_of_mem_segments {p : Path} {n : String} (h : n ∈ p.segments) (hn : n ≠ "") :
    p.text ≠ "" := by
  intro htext
  rw [segments, htext] at h
  exact hn (List.mem_singleton.mp h)

/-- A path whose last segment that counts is a name has the names of its directory and that one. -/
theorem names_of_trimmed {p : Path} {init : List String} {n : String} (hn : ¬IsVoid n)
    (h : trimmed p.segments = init ++ [n]) :
    p.names = p.directory.names ++ [n] ∧ p.directory.isAbsolute = p.isAbsolute := by
  have hnames : p.names = namesIn init ++ [n] := by
    rw [names, ← namesIn_trimmed, h, namesIn_append, namesIn_singleton hn]
  have hmem : n ∈ p.segments := (trimmed_sublist _).subset (by rw [h]; simp)
  have htext : p.text ≠ "" := text_ne_of_mem_segments hmem fun hempty => hn (Or.inl hempty)
  rw [isAbsolute_eq htext, ← head?_trimmed, h, hnames]
  by_cases hinit : init = []
  · subst hinit
    rw [directory_of_single h, List.nil_append, List.head?_cons]
    exact ⟨rfl, (beq_eq_false_iff_ne.mpr fun heq => hn (Or.inl (Option.some.inj heq))).symm⟩
  · have hinitseg : Segmented (trimmed init) :=
      p.segmented_segments.sublist
        ((trimmed_sublist init).trans
          ((h ▸ List.sublist_append_left init [n]).trans (trimmed_sublist _)))
        (trimmed_ne_nil hinit)
    rw [directory_of_append hinit h, names_ofSegments hinitseg, namesIn_trimmed,
      isAbsolute_ofSegments hinitseg, head?_trimmed]
    obtain ⟨first, rest, rfl⟩ := List.exists_cons_of_ne_nil hinit
    exact ⟨rfl, rfl⟩

/-- **A path that gives a name to something new** ends in that name, and its
directory has the names before. -/
theorem names_of_newName? {p : Path} {n : String} (h : Disk.newName? p = some n) :
    n ≠ ".." ∧ p.names = p.directory.names ++ [n] ∧ p.directory.isAbsolute = p.isAbsolute := by
  unfold Disk.newName? at h
  split at h
  · exact absurd h (by simp)
  · rename_i m hlast
    split at h
    · exact absurd h (by simp)
    · rename_i hdots
      obtain rfl := Option.some.inj h
      rw [not_or] at hdots
      obtain ⟨hm, init, blanks, hsegments, hblanks⟩ := lastSegment?_eq_some hlast
      have hvoid : ¬IsVoid m := fun h => h.elim hm hdots.1
      have hvoids : ∀ s ∈ blanks, IsVoid s := fun s hs => Or.inl (hblanks s hs)
      have htrimmed : trimmed p.segments = init ++ [m] := by
        by_cases hinit : init = []
        · rw [hsegments, hinit, List.nil_append, trimmed_single hvoids]
          rfl
        · rw [hsegments, trimmed_append hinit hvoid hvoids]
      exact ⟨hdots.2, names_of_trimmed hvoid htrimmed⟩

/-- **The name of the file that a path leads to** comes behind the names of its directory. -/
theorem names_of_fileName? {p : Path} {n : String} (h : p.fileName? = some n) :
    n ≠ ".." ∧ p.names = p.directory.names ++ [n] ∧ p.directory.isAbsolute = p.isAbsolute := by
  rw [fileName?] at h
  split at h
  · exact absurd h (by simp)
  · rename_i m hlast
    split at h
    · exact absurd h (by simp)
    · rename_i hm
      obtain rfl := Option.some.inj h
      rw [Bool.or_eq_true, Bool.or_eq_true, beq_iff_eq, beq_iff_eq, beq_iff_eq, not_or] at hm
      obtain ⟨init, hinit⟩ := List.getLast?_eq_some_iff.mp hlast
      exact ⟨hm.2, names_of_trimmed hm.1 hinit⟩

/-! ## Outwards -/

/-- The name that names give to something new: the last, unless it leads back. -/
def lastName? (names : List String) : Option String :=
  match names.getLast? with
  | none => none
  | some n => if n = ".." then none else some n

/-- A path that is written so that its last segment says something. -/
structure Clean (absolute : Bool) (p : Path) : Prop where
  text_ne : p.text ≠ ""
  absolute : p.isAbsolute = absolute
  newName : Disk.newName? p = lastName? p.names

theorem clean_ofSegments {l : List String} (h : Segmented l) (htrim : Trim l) :
    Clean (l.head? == some "") (ofSegments l) := by
  refine ⟨text_ofSegments_ne h.ne_nil, isAbsolute_ofSegments h, ?_⟩
  rw [names_ofSegments h]
  by_cases hroot : l = [""]
  · rw [hroot]
    rfl
  · have hsegments := segments_ofSegments h hroot
    rcases trimmed_cases h.ne_nil with ⟨n, hl⟩ | ⟨init, n, hinit, hn, hl⟩
    · rw [htrim] at hl
      subst hl
      have hn : n ≠ "" := fun hn => hroot (by rw [hn])
      rw [Disk.newName?, lastSegment?_of_segments (List.nil_append [n] ▸ hsegments) hn]
      by_cases hdot : n = "."
      · rw [hdot]
        rfl
      · rw [namesIn_singleton (fun h => h.elim hn hdot), lastName?, List.getLast?_singleton]
        simp [hdot]
    · rw [htrim] at hl
      subst hl
      have hne : n ≠ "" := fun h => hn (Or.inl h)
      have hdot : n ≠ "." := fun h => hn (Or.inr h)
      rw [Disk.newName?, lastSegment?_of_segments hsegments hne, namesIn_append,
        namesIn_singleton hn, lastName?, List.getLast?_concat]
      simp [hdot]

/-- Paths from the inside outwards, each with one name less than the one
before, down to the start. -/
inductive Outward (absolute : Bool) : List String → List Path → Prop where
  | last {p : Path} : Clean absolute p → p.names.length ≤ 1 → Outward absolute p.names [p]
  | step {p : Path} {names : List String} {n : String} {around : List Path} :
      Clean absolute p → p.names = names ++ [n] → Outward absolute names around →
      Outward absolute (names ++ [n]) (p :: around)

theorem trim_of_names {first : String} {names : List String} (h : ∀ n ∈ names, ¬IsVoid n) :
    Trim (first :: names) :=
  trim_iff.mpr fun n hn => h n (List.mem_of_getLast? hn)

/-- The paths that are left when names are taken away one by one behind a first segment. -/
theorem outward_take {first : String} (names : List String) (h : Segmented (first :: names))
    (hnames : ∀ n ∈ names, ¬IsVoid n) :
    Outward (first == "") (namesIn (first :: names))
      ((List.range (first :: names).length).map fun i =>
      ofSegments ((first :: names).take ((first :: names).length - i))) := by
  induction names using List.reverseRecOn with
  | nil =>
      have hclean := clean_ofSegments h rfl
      have hlast := Outward.last hclean (by
        rw [names_ofSegments h]
        exact List.length_filter_le ..)
      rw [names_ofSegments h] at hlast
      simpa using hlast
  | append_singleton names n ih =>
      have hsub : (first :: names).Sublist (first :: (names ++ [n])) :=
        (List.sublist_append_left names [n]).cons_cons _
      have hrest := ih (h.sublist hsub (List.cons_ne_nil _ _)) fun m hm =>
        hnames m (List.mem_append_left _ hm)
      have hn : ¬IsVoid n := hnames n (by simp)
      have hnamesIn : namesIn (first :: (names ++ [n])) = namesIn (first :: names) ++ [n] := by
        rw [← List.cons_append, namesIn_append, namesIn_singleton hn]
      -- the longest path comes first, and the others are those without the last name
      have hlist : ((List.range (first :: (names ++ [n])).length).map fun i =>
            ofSegments ((first :: (names ++ [n])).take ((first :: (names ++ [n])).length - i)))
          = ofSegments (first :: (names ++ [n]))
            :: (List.range (first :: names).length).map fun i =>
            ofSegments ((first :: names).take ((first :: names).length - i)) := by
        rw [show (first :: (names ++ [n])).length = (first :: names).length + 1 by simp,
          List.range_succ_eq_map, List.map_cons, List.map_map]
        refine congrArg₂ List.cons ?_ (List.map_congr_left fun i _ => ?_)
        · rw [List.take_of_length_le (by simp)]
        · rw [Function.comp_apply, ← List.cons_append, Nat.succ_eq_add_one, Nat.add_sub_add_right,
            List.take_append_of_le_length (Nat.sub_le _ _)]
      rw [hlist, hnamesIn]
      refine .step (clean_ofSegments h (trim_of_names hnames)) ?_ hrest
      rw [names_ofSegments h, hnamesIn]

/-- The directories around a path are what is left of it, name by name. -/
theorem outward_ancestors {l : List String} (h : Segmented l) :
    Outward (l.head? == some "") (namesIn l) (ofSegments l).ancestors := by
  have hancestors : ∀ (first : String) (rest : List String), Segmented (first :: rest) →
      (ofSegments l).segments = first :: rest →
      Outward (first == "") (namesIn (first :: rest)) (ofSegments l).ancestors := by
    intro first rest hseg hsegments
    have hkept : namesIn (first :: namesIn rest) = namesIn (first :: rest) := by
      rw [← List.singleton_append, namesIn_append, ← List.singleton_append (l := rest),
        namesIn_append, namesIn_eq_self fun s (hs : s ∈ namesIn rest) => (mem_namesIn.mp hs).2]
    rw [ancestors, hsegments, ← hkept]
    exact outward_take (namesIn rest)
      (hseg.sublist (List.filter_sublist.cons_cons first) (List.cons_ne_nil _ _))
      fun n hn => (mem_namesIn.mp hn).2
  by_cases hroot : l = [""]
  · subst hroot
    exact hancestors "" [""] ⟨by simp, by simp⟩ segments_root
  · obtain ⟨first, rest, rfl⟩ := List.exists_cons_of_ne_nil h.ne_nil
    rw [List.head?_cons]
    exact hancestors first rest h (segments_ofSegments h hroot)

/-- **Outwards from a directory** every path has one name less than the one before. -/
theorem outward_directory (p : Path) :
    Outward p.directory.isAbsolute p.directory.names p.directory.outwards := by
  obtain ⟨l, hl, htrim, heq⟩ := p.exists_segments_directory
  have hclean := clean_ofSegments hl htrim
  rw [heq, outwards, if_neg hclean.text_ne, hclean.absolute]
  by_cases hroot : l = [""]
  · subst hroot
    exact .last hclean (by decide)
  · have hsegments := segments_ofSegments hl hroot
    -- around one segment nothing is left but the empty path, around more those before the last
    rcases trimmed_cases hl.ne_nil with ⟨n, hsingle⟩ | ⟨init, n, hinit, hn, hsplit⟩
    · rw [htrim] at hsingle
      subst hsingle
      have hn : n ≠ "" := fun hn => hroot (by rw [hn])
      have habove : (ofSegments [n]).above? = some ⟨""⟩ := by
        rw [above?, hsegments, htrim]
        simp [hn]
      rw [habove]
      exact .last hclean (by rw [names_ofSegments hl]; exact List.length_filter_le ..)
    · have htrimmed : trimmed (ofSegments l).segments = init ++ [n] := by rw [hsegments, hsplit]
      rw [htrim] at hsplit
      subst hsplit
      have hinitseg : Segmented (trimmed init) :=
        hl.sublist ((trimmed_sublist init).trans (List.sublist_append_left _ _))
          (trimmed_ne_nil hinit)
      have hnames : namesIn (init ++ [n]) = namesIn (trimmed init) ++ [n] := by
        rw [namesIn_append, namesIn_singleton hn, namesIn_trimmed]
      have hhead : (trimmed init).head? = (init ++ [n]).head? := by
        obtain ⟨first, rest, rfl⟩ := List.exists_cons_of_ne_nil hinit
        rfl
      rw [above?_of_append hinit htrimmed]
      dsimp only
      rw [if_neg (text_ofSegments_ne hinitseg.ne_nil), names_ofSegments hl, hnames]
      refine .step hclean ?_ (hhead ▸ outward_ancestors hinitseg)
      rw [names_ofSegments hl, hnames]

end Path

end WrapperGen
