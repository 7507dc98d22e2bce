import WrapperGen.Proofs.JoinedTexts
import WrapperGen.Proofs.NameReading

/-!
# What a qualified name is read as

The qualified name of a class is its segments joined by dots, those of the package and the simple
names alike. Read again, the same segments are divided by the case of their letters (`guessed`). The
boundary is found where it was if the name keeps to the convention that the guess relies on.
-/

namespace WrapperGen

open Text

/-! ## Identifiers as segments -/

theorem ne_empty_of_isIdentifier {x : String} (h : isIdentifier x = true) : x ≠ "" := by
  rintro rfl
  exact absurd h (by decide)

theorem isIdentifierPart_of_isIdentifier {x : String} (h : isIdentifier x = true) {c : Char}
    (hc : c ∈ x.toList) : isIdentifierPart c = true := by
  obtain ⟨d, rest, hx, hd, hrest⟩ := isIdentifier_iff.mp h
  rw [hx] at hc
  rcases List.mem_cons.mp hc with rfl | hc
  · rw [isIdentifierStart, Bool.or_eq_true] at hd
    rw [isIdentifierPart, Bool.or_eq_true, Bool.or_eq_true]
    exact hd.imp_left Or.inl
  · exact List.all_eq_true.mp hrest c hc

theorem notMem_of_isIdentifier {x : String} (h : isIdentifier x = true) {c : Char}
    (hc : isIdentifierPart c = false) : c ∉ x.toList :=
  fun hmem => absurd ((isIdentifierPart_of_isIdentifier h hmem).symm.trans hc) (by decide)

theorem dot_notMem_of_isIdentifier {x : String} (h : isIdentifier x = true) : '.' ∉ x.toList :=
  notMem_of_isIdentifier h (by decide)

namespace ClassName

/-- The segments of the package; the root package has none. -/
def packageSegments (n : ClassName) : List String :=
  if n.package = "" then [] else parts '.' n.package

/-- The segments of the qualified name. -/
def segments (n : ClassName) : List String := n.packageSegments ++ n.simpleNames

/-- A name made of identifiers, one simple name at least. -/
structure Spelled (n : ClassName) : Prop where
  simpleNames_ne_nil : n.simpleNames ≠ []
  identifiers : ∀ x ∈ n.segments, isIdentifier x = true

/-- The name that the qualified name of a class means by the case of its letters. -/
def guessed (n : ClassName) : ClassName := ofSegments n.segments

/-- A name written as the guess expects: no segment of the package starts with a capital, and the
first simple name does, unless it is the only one. -/
structure Conventional (n : ClassName) : Prop extends n.Spelled where
  package_small : ∀ x ∈ n.packageSegments, startsWithCapital x = false
  first_capital : (∃ x ∈ n.simpleNames.head?, startsWithCapital x = true) ∨ n.simpleNames.length = 1

/-! ## The segments of a name -/

/-- A package joined of identifiers has these for its segments. -/
theorem packageSegments_joined {front : List String} (h : ∀ x ∈ front, isIdentifier x = true)
    (names : List String) : packageSegments ⟨joined "." front, names⟩ = front := by
  rw [packageSegments]
  have hempty : joined "." front = "" ↔ front = [] :=
    joined_eq_empty_iff fun x hx => ne_empty_of_isIdentifier (h x hx)
  by_cases hnil : front = []
  · rw [if_pos (hempty.mpr hnil), hnil]
  · rw [if_neg fun he => hnil (hempty.mp he)]
    exact parts_joined rfl hnil fun x hx => dot_notMem_of_isIdentifier (h x hx)

theorem package_eq (n : ClassName) : n.package = joined "." n.packageSegments := by
  rw [packageSegments]
  split
  · assumption
  · exact (joined_parts rfl n.package).symm

theorem packageSegments_eq_nil_iff (n : ClassName) : n.packageSegments = [] ↔ n.package = "" := by
  rw [packageSegments]
  split
  · simpa
  · rename_i hempty
    simp [parts_ne_nil, hempty]

/-- The qualified name is the segments joined by dots. -/
theorem canonical_eq {n : ClassName} (h : n.simpleNames ≠ []) :
    n.canonical = joined "." n.segments := by
  rw [canonical, segments]
  split
  · rename_i hempty
    rw [(packageSegments_eq_nil_iff n).mpr hempty, List.nil_append, nested]
  · rename_i hempty
    rw [joined_append (fun hnil => hempty ((packageSegments_eq_nil_iff n).mp hnil)) h,
      ← package_eq, nested]

theorem Spelled.segments_ne_nil {n : ClassName} (h : n.Spelled) : n.segments ≠ [] :=
  List.append_ne_nil_of_right_ne_nil _ h.simpleNames_ne_nil

/-! ## Names that are read -/

theorem segments_mk {front : List String} (h : ∀ x ∈ front, isIdentifier x = true)
    (back : List String) :
    segments ⟨joined "." front, back⟩ = front ++ back := by
  rw [segments, packageSegments_joined h]

theorem spelled_mk {front back : List String} (hne : back ≠ [])
    (hfront : ∀ x ∈ front, isIdentifier x = true) (hback : ∀ x ∈ back, isIdentifier x = true) :
    Spelled ⟨joined "." front, back⟩ := by
  refine ⟨hne, fun x hx => ?_⟩
  rw [segments_mk hfront, List.mem_append] at hx
  exact hx.elim (hfront x) (hback x)

/-- A name that stands in a text is made of identifiers. -/
theorem spelled_of_nameAt {s rest : List Char} {n : ClassName} (h : NameAt s n rest) :
    n.Spelled := by
  cases h with
  | guessed hrow hboundary =>
      have hall := hrow.identifiers
      exact spelled_mk hboundary.ne_nil (fun x hx => hall x (List.mem_append_left _ hx))
        (fun x hx => hall x (List.mem_append_right _ hx))
  | pinned hrow hnames => exact spelled_mk hnames.ne_nil hrow.identifiers hnames.identifiers

/-! ## What the qualified name is read as -/

/-- The guess divides the segments at their boundary. -/
theorem exists_guessed {n : ClassName} (h : n.Spelled) :
    ∃ front back, n.segments = front ++ back ∧ Boundary front back
      ∧ n.guessed = ⟨joined "." front, back⟩ := by
  obtain ⟨front, back, hsegments, hboundary⟩ := exists_boundary h.segments_ne_nil
  exact ⟨front, back, hsegments, hboundary, by rw [guessed, hsegments, ofSegments_append hboundary]⟩

/-- **A qualified name stands for the guess.** -/
theorem nameAt_canonical {n : ClassName} (h : n.Spelled) (rest : List Char) :
    NameAt (n.canonical.toList ++ rest) n.guessed rest := by
  obtain ⟨front, back, hsegments, hboundary, hguessed⟩ := exists_guessed h
  have hrow := row_joined h.segments_ne_nil h.identifiers rest
  rw [← canonical_eq h.simpleNames_ne_nil, hsegments] at hrow
  rw [hguessed]
  exact .guessed hrow hboundary

/-- The guess is written as the name was. -/
theorem canonical_guessed {n : ClassName} (h : n.Spelled) : n.guessed.canonical = n.canonical := by
  obtain ⟨front, back, hsegments, hboundary, hguessed⟩ := exists_guessed h
  have hfront : ∀ x ∈ front, isIdentifier x = true := fun x hx =>
    h.identifiers x (hsegments ▸ List.mem_append_left _ hx)
  rw [hguessed, canonical_eq h.simpleNames_ne_nil, canonical_eq hboundary.ne_nil,
    segments_mk hfront, hsegments]

/-- **The guess is right about a name that keeps to the convention.** -/
theorem guessed_eq {n : ClassName} (h : n.Conventional) : n.guessed = n := by
  obtain ⟨x, back, hnames⟩ := List.exists_cons_of_ne_nil h.simpleNames_ne_nil
  have hcapital := h.first_capital
  rw [hnames] at hcapital
  have hboundary : Boundary n.packageSegments n.simpleNames := by
    rw [hnames]
    cases hx : startsWithCapital x with
    | true => exact .capital h.package_small hx
    | false =>
        obtain rfl : back = [] := by simpa [hx] using hcapital
        exact .last h.package_small hx
  rw [guessed, segments, ofSegments_append hboundary, ← package_eq]

end ClassName

end WrapperGen
