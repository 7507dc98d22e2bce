import WrapperGen.Name.Reader
import WrapperGen.Proofs.Rows

/-!
# The grammar of names

A name is a row of identifiers with dots between them, and behind a slash a second one.
`NameAt` says so of the characters at hand, and of the package what the letters say of it:
without a slash it ends before the first segment with a capital, or before the last segment
where there is none (`Boundary`).

The reader takes what the grammar allows, and all of it: where no character follows that could
belong to a name, what it finds is the one name that ends there.
-/

namespace WrapperGen

open Text Unicode

/-- An identifier stands at the front of the characters. -/
structure IdentifierAt (s : List Char) (word : String) (rest : List Char) : Prop where
  identifier : isIdentifier word = true
  text : s = word.toList ++ rest

/-- Where the package ends by the case of the letters: before the first segment that starts with a
capital, or before the last one if there is none. -/
inductive Boundary : List String → List String → Prop where
  | capital {front back : List String} {x : String} :
      (∀ y ∈ front, startsWithCapital y = false) → startsWithCapital x = true →
      Boundary front (x :: back)
  | last {front : List String} {x : String} :
      (∀ y ∈ front, startsWithCapital y = false) → startsWithCapital x = false → Boundary front [x]

/-- A class name stands at the front of the characters. -/
inductive NameAt : List Char → ClassName → List Char → Prop where
  | guessed {s rest : List Char} {front back : List String} :
      Row '.' IdentifierAt s (front ++ back) rest → Boundary front back →
      NameAt s ⟨joined "." front, back⟩ rest
  | pinned {s s₁ rest : List Char} {segments names : List String} :
      Row '.' IdentifierAt s segments ('/' :: s₁) → Row '.' IdentifierAt s₁ names rest →
      NameAt s ⟨joined "." segments, names⟩ rest

/-! ## The boundary of the package -/

theorem Boundary.ne_nil {front back : List String} (h : Boundary front back) : back ≠ [] := by
  cases h <;> simp

/-- Every chain of segments has a boundary. -/
theorem exists_boundary {segments : List String} (h : segments ≠ []) :
    ∃ front back, segments = front ++ back ∧ Boundary front back := by
  induction segments with
  | nil => exact absurd rfl h
  | cons x segments ih =>
      cases hx : startsWithCapital x with
      | true => exact ⟨[], x :: segments, rfl, .capital (by simp) hx⟩
      | false =>
          by_cases hnil : segments = []
          · subst hnil
            exact ⟨[], [x], rfl, .last (by simp) hx⟩
          · obtain ⟨front, back, rfl, hboundary⟩ := ih hnil
            refine ⟨x :: front, back, rfl, ?_⟩
            cases hboundary with
            | capital hfront hy => exact .capital (by simpa [hx] using hfront) hy
            | last hfront hy => exact .last (by simpa [hx] using hfront) hy

/-- The package is as long as the segments before the boundary. -/
theorem packageLength_append {front back : List String} (h : Boundary front back) :
    packageLength (front ++ back) = front.length := by
  have hfront : (∀ y ∈ front, startsWithCapital y = false) →
      front.findIdx? startsWithCapital = none :=
    fun hf => List.findIdx?_eq_none_iff.mpr hf
  cases h with
  | capital hf hx => simp [packageLength, List.findIdx?_append, hfront hf, List.findIdx?_cons, hx]
  | last hf hx => simp [packageLength, List.findIdx?_append, hfront hf, List.findIdx?_cons, hx]

theorem ofSegments_append {front back : List String} (h : Boundary front back) :
    ClassName.ofSegments (front ++ back) = ⟨joined "." front, back⟩ := by
  rw [ClassName.ofSegments, packageLength_append h, List.take_left, List.drop_left]

/-! ## Identifiers -/

theorem isIdentifier_iff {word : String} :
    isIdentifier word = true
      ↔ ∃ c rest, word.toList = c :: rest ∧ isIdentifierStart c = true
        ∧ rest.all isIdentifierPart = true := by
  unfold isIdentifier
  cases word.toList with
  | nil => simp
  | cons c rest =>
      rw [Bool.and_eq_true]
      constructor
      · exact fun h => ⟨c, rest, rfl, h⟩
      · rintro ⟨_, _, heq, h⟩
        obtain ⟨rfl, rfl⟩ := List.cons.inj heq
        exact h

theorem IdentifierAt.head {s rest : List Char} {word : String} (h : IdentifierAt s word rest) :
    ∃ c more, s = c :: more ∧ isIdentifierStart c = true := by
  obtain ⟨c, more, hword, hc, _⟩ := isIdentifier_iff.mp h.identifier
  exact ⟨c, more ++ rest, by rw [h.text, hword, List.cons_append], hc⟩

theorem IdentifierAt.length_lt {s rest : List Char} {word : String} (h : IdentifierAt s word rest) :
    rest.length < s.length := by
  obtain ⟨c, more, hword, _⟩ := isIdentifier_iff.mp h.identifier
  rw [h.text, hword, List.length_append, List.length_cons]
  omega

theorem identifierAt_of_readIdentifier {s rest : List Char} {word : String}
    (h : readIdentifier s = some (word, rest)) : IdentifierAt s word rest := by
  cases s with
  | nil => exact absurd h (by simp [readIdentifier])
  | cons c s =>
      rw [readIdentifier] at h
      split at h
      · rename_i hc
        obtain ⟨rfl, rfl⟩ := Prod.mk.inj (Option.some.inj h)
        refine ⟨isIdentifier_iff.mpr ⟨c, s.takeWhile isIdentifierPart, String.toList_ofList, hc,
          List.all_takeWhile⟩, ?_⟩
        rw [String.toList_ofList, List.cons_append, List.takeWhile_append_dropWhile]
      · exact absurd h (by simp)

/-- An identifier is read to its end, where no character follows that it could go on with. -/
theorem readIdentifier_of_identifierAt {s rest : List Char} {word : String}
    (h : IdentifierAt s word rest)
    (hend : ∀ c more, rest = c :: more → isIdentifierPart c = false) :
    readIdentifier s = some (word, rest) := by
  obtain ⟨c, more, hword, hc, hmore⟩ := isIdentifier_iff.mp h.identifier
  have hall : ∀ d ∈ more, isIdentifierPart d = true := List.all_eq_true.mp hmore
  have hrest : rest.takeWhile isIdentifierPart = [] ∧ rest.dropWhile isIdentifierPart = rest := by
    cases rest with
    | nil => exact ⟨rfl, rfl⟩
    | cons d rest => simp [hend d rest rfl]
  rw [h.text, hword, List.cons_append, readIdentifier, if_pos hc, List.takeWhile_append_of_pos hall,
    List.dropWhile_append_of_pos hall, hrest.1, hrest.2, List.append_nil, ← hword,
    String.ofList_toList]

theorem readIdentifier_eq_none {c : Char} {s : List Char} (h : isIdentifierStart c = false) :
    readIdentifier (c :: s) = none := by
  rw [readIdentifier, if_neg (by simp [h])]

/-! ## Rows of identifiers -/

theorem Row.identifiers {s rest : List Char} {segments : List String}
    (h : Row '.' IdentifierAt s segments rest) :
    ∀ x ∈ segments, isIdentifier x = true := by
  induction h with
  | last hx => simpa using hx.identifier
  | more hx _ ih => exact List.forall_mem_cons.mpr ⟨hx.identifier, ih⟩

theorem Row.head {s rest : List Char} {segments : List String}
    (h : Row '.' IdentifierAt s segments rest) :
    ∃ c more, s = c :: more ∧ isIdentifierStart c = true := by
  cases h with
  | last hx => exact hx.head
  | more hx _ => exact hx.head

theorem Row.length_lt {s rest : List Char} {segments : List String}
    (h : Row '.' IdentifierAt s segments rest) :
    rest.length < s.length := by
  induction h with
  | last hx => exact hx.length_lt
  | more hx _ ih =>
      have hlength := hx.length_lt
      rw [List.length_cons] at hlength
      omega

/-- Segments joined by dots are a row. -/
theorem row_joined {segments : List String} (hne : segments ≠ [])
    (h : ∀ x ∈ segments, isIdentifier x = true) (rest : List Char) :
    Row '.' IdentifierAt ((joined "." segments).toList ++ rest) segments rest := by
  have hitem : ∀ x ∈ segments, ∀ rest, IdentifierAt (x.toList ++ rest) x rest :=
    fun x hx _ => ⟨h x hx, rfl⟩
  have hrow : Row '.' IdentifierAt ((joined "." (segments.map id)).toList ++ rest)
      (segments.map id) rest :=
    row_of_joined id id rfl hne hitem hitem rest
  rwa [List.map_id] at hrow

theorem row_of_readDotted {s rest : List Char} {segments : List String}
    (h : readDotted s = some (segments, rest)) : Row '.' IdentifierAt s segments rest :=
  row_of_separatedBy (fun _ _ _ => identifierAt_of_readIdentifier) h

theorem readDotted_of_row {s rest : List Char} {segments : List String}
    (h : Row '.' IdentifierAt s segments rest)
    (hend : ∀ c more, rest = c :: more → isIdentifierPart c = false ∧ c ≠ '.') :
    readDotted s = some (segments, rest) := by
  refine separatedBy_of_row h (fun _ _ _ hx => hx.length_lt) ?_ ?_ (Nat.le_refl _) ?_
  · intro t y t₁ _ hy
    refine readIdentifier_of_identifierAt hy fun c more hc => ?_
    rw [← (List.cons.inj hc).1]
    decide
  · exact fun t y _ hy => readIdentifier_of_identifierAt hy fun c more hc => (hend c more hc).1
  · exact fun more hstop => (hend '.' more hstop).2 rfl

/-! ## Class names -/

theorem NameAt.head {s rest : List Char} {name : ClassName} (h : NameAt s name rest) :
    ∃ c more, s = c :: more ∧ isIdentifierStart c = true := by
  cases h with
  | guessed hrow _ => exact hrow.head
  | pinned hrow _ => exact hrow.head

theorem NameAt.length_lt {s rest : List Char} {name : ClassName} (h : NameAt s name rest) :
    rest.length < s.length := by
  cases h with
  | guessed hrow _ => exact hrow.length_lt
  | pinned hrow hnames =>
      have hsegments := hrow.length_lt
      have hlength := hnames.length_lt
      rw [List.length_cons] at hsegments
      omega

/-- **What is read as a name is one.** -/
theorem nameAt_of_readClassName {s rest : List Char} {name : ClassName}
    (h : readClassName s = some (name, rest)) : NameAt s name rest := by
  -- the segments up to the slash, or all of them, are guessed if no names follow it
  have hguessed : ∀ {segments : List String} {rest : List Char}, readDotted s
      = some (segments, rest) →
      NameAt s (ClassName.ofSegments segments) rest := by
    intro segments rest hread
    have hrow := row_of_readDotted hread
    obtain ⟨front, back, rfl, hboundary⟩ := exists_boundary hrow.ne_nil
    rw [ofSegments_append hboundary]
    exact .guessed hrow hboundary
  rw [readClassName] at h
  split at h
  · exact absurd h (by simp)
  · rename_i segments s₁ hread
    split at h
    · rename_i afterSlash
      split at h
      · rename_i names s₂ hnames
        obtain ⟨rfl, rfl⟩ := Prod.mk.inj (Option.some.inj h)
        exact .pinned (row_of_readDotted hread) (row_of_readDotted hnames)
      · obtain ⟨rfl, rfl⟩ := Prod.mk.inj (Option.some.inj h)
        exact hguessed hread
    · obtain ⟨rfl, rfl⟩ := Prod.mk.inj (Option.some.inj h)
      exact hguessed hread

/-- What comes next cannot belong to a name. -/
def EndsName (s : List Char) : Prop :=
  ∀ c more, s = c :: more → isIdentifierPart c = false ∧ c ≠ '.' ∧ c ≠ '/'

/-- **A name is read to its end**, where no character follows that could belong to it. -/
theorem readClassName_of_nameAt {s rest : List Char} {name : ClassName} (h : NameAt s name rest)
    (hend : EndsName rest) : readClassName s = some (name, rest) := by
  have hdot : ∀ c more, rest = c :: more → isIdentifierPart c = false ∧ c ≠ '.' :=
    fun c more hc => ⟨(hend c more hc).1, (hend c more hc).2.1⟩
  have hslash : ∀ (t : List Char) (c : Char) (more : List Char), '/' :: t = c :: more →
      isIdentifierPart c = false ∧ c ≠ '.' := by
    intro t c more hc
    rw [← (List.cons.inj hc).1]
    decide
  cases h with
  | guessed hrow hboundary =>
      rw [readClassName, readDotted_of_row hrow hdot]
      dsimp only
      split
      · exact absurd rfl (hend '/' _ rfl).2.2
      · rw [ofSegments_append hboundary]
  | pinned hrow hnames =>
      simp only [readClassName, readDotted_of_row hrow (hslash _), readDotted_of_row hnames hdot]

/-- Nothing that begins with another character is a name. -/
theorem readClassName_eq_none {s : List Char}
    (h : ∀ c more, s = c :: more → isIdentifierStart c = false) :
    readClassName s = none := by
  have hnone : readIdentifier s = none := by
    cases s with
    | nil => rfl
    | cons c more => exact readIdentifier_eq_none (h c more rfl)
  rw [readClassName, readDotted, separatedBy, hnone]

/-! ## Whole texts -/

/-- A text that is read as a class name writes it, with blanks around. -/
theorem nameAt_of_read {text : String} {n : ClassName} (h : ClassName.read text = .ok n) :
    ∃ rest, NameAt (skipBlanks text.toList) n rest ∧ skipBlanks rest = [] := by
  rw [ClassName.read, Reader.readAll] at h
  split at h
  · exact absurd h (by simp)
  · rename_i rest hread
    split at h
    · rename_i hrest
      obtain rfl := Except.ok.inj h
      exact ⟨rest, nameAt_of_readClassName hread, hrest⟩
    · exact absurd h (by simp)

/-- A text that writes a class name, and nothing else, is read as that name. -/
theorem read_of_nameAt {text : String} {n : ClassName} (h : NameAt text.toList n []) :
    ClassName.read text = .ok n := by
  obtain ⟨c, more, htext, hc⟩ := h.head
  have hblank : isBlank c = false := by
    cases hb : isBlank c with
    | false => rfl
    | true =>
        rcases isBlank_cases hb with rfl | rfl | rfl | rfl
        all_goals exact absurd hc (by decide)
  have hskip : skipBlanks text.toList = text.toList := by
    rw [htext, skipBlanks_cons_of_not_blank more hblank]
  have hread : readClassName text.toList = some (n, []) :=
    readClassName_of_nameAt h fun _ _ hnil => absurd hnil (by simp)
  rw [ClassName.read, Reader.readAll, hskip, hread]
  rfl

end WrapperGen
