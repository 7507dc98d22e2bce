import Mathlib.Data.List.Basic
import WrapperGen.Proofs.QuestionMarks
import WrapperGen.TypeRef.Simplified

/-!
# Shortening once and again

The short text of a type is the full text of the type without the packages that are covered
(`erase`). Read again, it means the same type with its names guessed, since a short text is written
without the slash that pins a package. Whether a second shortening leaves the text alone is
therefore decided at each name by itself: it does unless the guess finds a package that is covered.

A name that keeps to the convention is guessed right, and nothing is left to take off. A class that
starts small may be taken for a part of its package. The parentheses of a nullable type that was
made nullable again are lost as well; its text has two marks in a row, and no type is read from it
that has them too (`marksTwice_eq_false_of_again`).
-/

namespace WrapperGen.Simplifier

open Text

/-! ## Erasing packages -/

/-- A class name without its package, if that is covered. -/
def eraseName (s : Simplifier) (n : ClassName) : ClassName :=
  if s.covers n.package then ⟨"", n.simpleNames⟩ else n

mutual

/-- A type without the covered packages, in the places where shortening looks for them. -/
def erase (s : Simplifier) : TypeRef → TypeRef
  | .named n => .named (s.eraseName n)
  | .applied n arguments => .applied (s.eraseName n) (s.eraseAll arguments)
  | .nullable inner => if looksInside inner then .nullable (s.erase inner) else .nullable inner
  | t => t

/-- Several types without the covered packages. -/
def eraseAll (s : Simplifier) : List TypeRef → List TypeRef
  | [] => []
  | t :: ts => s.erase t :: s.eraseAll ts

end

mutual

/-- The class names where shortening looks for a covered package. -/
def lookedAt : TypeRef → List ClassName
  | .named n => [n]
  | .applied n arguments => n :: lookedAtAll arguments
  | .nullable inner => if looksInside inner then lookedAt inner else []
  | _ => []

/-- The class names where shortening looks for a covered package in several types. -/
def lookedAtAll : List TypeRef → List ClassName
  | [] => []
  | t :: ts => lookedAt t ++ lookedAtAll ts

end

/-- The short text of a class name is its qualified name: there is no package to take
off, or it is not covered. -/
def Stays (s : Simplifier) (n : ClassName) : Prop := n.package = "" ∨ s.covers n.package = false

instance (s : Simplifier) (n : ClassName) : Decidable (s.Stays n) :=
  inferInstanceAs (Decidable (_ ∨ _))

variable {s : Simplifier}

theorem texts_eq_map (ts : List TypeRef) : s.texts ts = ts.map s.text := by
  induction ts with
  | nil => rfl
  | cons t ts ih => rw [texts, ih, List.map_cons]

theorem eraseAll_eq_map (ts : List TypeRef) : s.eraseAll ts = ts.map s.erase := by
  induction ts with
  | nil => rfl
  | cons t ts ih => rw [eraseAll, ih, List.map_cons]

theorem lookedAtAll_eq_flatMap (ts : List TypeRef) : lookedAtAll ts = ts.flatMap lookedAt := by
  induction ts with
  | nil => rfl
  | cons t ts ih => rw [lookedAtAll, ih, List.flatMap_cons]

/-! ## Names -/

theorem canonical_eraseName (n : ClassName) : (s.eraseName n).canonical = s.nameText n := by
  rw [eraseName, nameText]
  split
  · rfl
  · rfl

theorem spelled_eraseName {n : ClassName} (h : n.Spelled) : (s.eraseName n).Spelled := by
  rw [eraseName]
  split
  · exact ⟨h.simpleNames_ne_nil, fun x hx => h.identifiers x (List.mem_append_right _ hx)⟩
  · exact h

theorem eraseName_eq_self {n : ClassName} (h : s.Stays n) : s.eraseName n = n := by
  rw [eraseName]
  split
  · rename_i hcovers
    rcases h with hempty | hnot
    · exact congrArg (ClassName.mk · n.simpleNames) hempty.symm
    · exact absurd hcovers (by simp [hnot])
  · rfl

theorem nameText_of_stays {n : ClassName} (h : s.Stays n) : s.nameText n = n.canonical := by
  rw [← canonical_eraseName, eraseName_eq_self h]

/-- A package that is taken off makes the name shorter. -/
theorem length_nameText_lt {n : ClassName} (h : ¬ s.Stays n) :
    (s.nameText n).length < n.canonical.length := by
  rw [Stays, not_or, Bool.not_eq_false] at h
  rw [nameText, if_pos h.2, ClassName.canonical, if_neg h.1]
  simp only [String.length_append]
  have hdot : ".".length = 1 := rfl
  omega

theorem length_nameText_le (n : ClassName) : (s.nameText n).length ≤ n.canonical.length := by
  by_cases hn : s.Stays n
  · exact Nat.le_of_eq (congrArg String.length (nameText_of_stays hn))
  · exact Nat.le_of_lt (length_nameText_lt hn)

theorem nameText_eq_iff (n : ClassName) : s.nameText n = n.canonical ↔ s.Stays n := by
  refine ⟨fun heq => ?_, nameText_of_stays⟩
  by_contra hn
  have hless := length_nameText_lt hn
  rw [heq] at hless
  exact Nat.lt_irrefl _ hless

/-! ## The short text is the full text of what is left -/

theorem isNullable_of_looksInside {t : TypeRef} (h : looksInside t = true) :
    t.isNullable = false := by
  cases t with
  | nullable _ => exact absurd h (by simp [looksInside])
  | _ => rfl

theorem nullableText_of_looksInside {inner : TypeRef} (h : looksInside inner = true)
    (text : String) :
    TypeRef.nullableText inner text = text ++ "?" := by
  cases inner with
  | named _ => rfl
  | applied _ _ => rfl
  | _ => exact absurd h (by simp [looksInside])

theorem looksInside_erase (t : TypeRef) : looksInside (s.erase t) = looksInside t := by
  cases t with
  | nullable inner =>
      rw [erase]
      split
      · rfl
      · rfl
  | _ => rfl

theorem text_erase (t : TypeRef) : (s.erase t).text = s.text t := by
  induction t using TypeRef.forms with
  | named n => exact canonical_eraseName n
  | applied n arguments ih =>
      have harguments : TypeRef.texts (s.eraseAll arguments) = s.texts arguments := by
        rw [eraseAll_eq_map, TypeRef.texts_eq_map, texts_eq_map, List.map_map]
        exact List.map_congr_left ih
      rw [erase, text, TypeRef.text, harguments, canonical_eraseName]
  | nullable inner ih =>
      rw [erase, text]
      split
      · rename_i hlooks
        rw [TypeRef.text, nullableText_of_looksInside ((looksInside_erase inner).trans hlooks), ih]
      · rfl
  | _ => rfl

theorem isNullable_erase (t : TypeRef) : (s.erase t).isNullable = t.isNullable := by
  cases t with
  | nullable inner =>
      rw [erase]
      split
      · rfl
      · rfl
  | _ => rfl

theorem marks_erase (t : TypeRef) : (s.erase t).marks = t.marks := by
  induction t using TypeRef.forms with
  | applied n arguments ih =>
      rw [erase, TypeRef.marks, TypeRef.marks, TypeRef.allMarks_eq_flatMap,
        TypeRef.allMarks_eq_flatMap, eraseAll_eq_map, List.flatMap_map, List.flatMap_congr ih]
  | nullable inner ih =>
      rw [erase]
      split
      · rw [TypeRef.marks, TypeRef.marks, ih, isNullable_erase]
      · rfl
  | _ => rfl

theorem readable_erase {place : TypeRef.Place} {t : TypeRef}
    (h : TypeRef.Readable ClassName.Spelled place t) :
    TypeRef.Readable ClassName.Spelled place (s.erase t) := by
  induction h with
  | named hn => exact .named (spelled_eraseName hn)
  | applied hn hne _ ih =>
      rw [erase, eraseAll_eq_map]
      refine .applied (spelled_eraseName hn) (by simpa using hne) fun t ht => ?_
      obtain ⟨u, hu, rfl⟩ := List.mem_map.mp ht
      exact ih u hu
  | nullable h ih =>
      rw [erase]
      split
      · exact .nullable ih
      · exact .nullable h
  | function hparameters hresult _ _ => exact .function hparameters hresult
  | star => exact .star
  | projected h _ => exact .projected h
  | argument _ ih => exact .argument ih

theorem wellFormed_erase {t : TypeRef} (h : TypeRef.Readable ClassName.Spelled .alone t)
    (hmarks : t.marksTwice = false) : TypeRef.WellFormed ClassName.Spelled .alone (s.erase t) := by
  refine (readable_erase h).wellFormed ?_
  rw [TypeRef.marksTwice_eq_any, marks_erase, ← TypeRef.marksTwice_eq_any]
  exact hmarks

/-- The marks of a short text are those of the type. -/
theorem doubledMarks_short {t : TypeRef} (h : TypeRef.Readable ClassName.Spelled .alone t)
    (after : Bool) :
    doubledMarks after (s.text t).toList = t.marks := by
  rw [← text_erase, TypeRef.doubledMarks_text (readable_erase h), marks_erase]

/-! ## Where packages are looked for -/

theorem lookedAt_erase (t : TypeRef) : lookedAt (s.erase t) = (lookedAt t).map s.eraseName := by
  induction t using TypeRef.forms with
  | named n => rfl
  | applied n arguments ih =>
      rw [erase, lookedAt, lookedAt, eraseAll_eq_map, lookedAtAll_eq_flatMap,
        lookedAtAll_eq_flatMap, List.map_cons, List.map_flatMap, List.flatMap_map,
        List.flatMap_congr ih]
  | nullable inner ih =>
      rw [erase, lookedAt]
      split
      · rename_i hlooks
        rw [lookedAt, if_pos ((looksInside_erase inner).trans hlooks), ih]
      · rename_i hlooks
        rw [lookedAt, if_neg hlooks, List.map_nil]
  | _ => rfl

theorem lookedAt_mapNames (f : ClassName → ClassName) (t : TypeRef) :
    lookedAt (t.mapNames f) = (lookedAt t).map f := by
  induction t using TypeRef.forms with
  | named n => rfl
  | applied n arguments ih =>
      rw [TypeRef.mapNames, lookedAt, lookedAt, TypeRef.mapAllNames_eq_map, lookedAtAll_eq_flatMap,
        lookedAtAll_eq_flatMap, List.map_cons, List.map_flatMap, List.flatMap_map,
        List.flatMap_congr ih]
  | nullable inner ih =>
      have hlooks : looksInside (inner.mapNames f) = looksInside inner := by cases inner <;> rfl
      rw [TypeRef.mapNames, lookedAt, lookedAt, hlooks]
      split
      · exact ih
      · rfl
  | _ => rfl

/-! ## When nothing is taken off -/

section Bracketed

variable {a b x y : String}

theorem length_bracketed_le (ha : a.length ≤ x.length) (hb : b.length ≤ y.length) :
    (a ++ "<" ++ b ++ ">").length ≤ (x ++ "<" ++ y ++ ">").length := by
  simp only [String.length_append]
  omega

theorem bracketed_inj (ha : a.length ≤ x.length) (hb : b.length ≤ y.length)
    (h : a ++ "<" ++ b ++ ">" = x ++ "<" ++ y ++ ">") : a = x ∧ b = y := by
  have hopen : (a ++ "<").length ≤ (x ++ "<").length := by
    rw [String.length_append, String.length_append]
    exact Nat.add_le_add_right ha _
  have hinside : (a ++ "<" ++ b).length ≤ (x ++ "<" ++ y).length := by
    rw [String.length_append, String.length_append (x ++ "<")]
    exact Nat.add_le_add hopen hb
  obtain ⟨hall, _⟩ := append_inj_of_length_le h hinside (Nat.le_refl _)
  obtain ⟨hfront, hargument⟩ := append_inj_of_length_le hall hopen hb
  exact ⟨(append_inj_of_length_le hfront ha (Nat.le_refl _)).1, hargument⟩

end Bracketed

theorem length_text_le (t : TypeRef) : (s.text t).length ≤ t.text.length := by
  induction t using TypeRef.forms with
  | named n => exact length_nameText_le n
  | applied n arguments ih =>
      rw [text, TypeRef.text, texts_eq_map, TypeRef.texts_eq_map]
      exact length_bracketed_le (length_nameText_le n) (length_joined_le ih)
  | nullable inner ih =>
      rw [text]
      split
      · rename_i hlooks
        rw [TypeRef.text, nullableText_of_looksInside hlooks, String.length_append,
          String.length_append]
        exact Nat.add_le_add_right ih _
      · exact Nat.le_refl _
  | _ => exact Nat.le_refl _

/-- **Nothing is taken off exactly if every name stays.** -/
theorem text_eq_iff (t : TypeRef) : s.text t = t.text ↔ ∀ n ∈ lookedAt t, s.Stays n := by
  induction t using TypeRef.forms with
  | named n => simpa [text, TypeRef.text, lookedAt] using nameText_eq_iff n
  | applied n arguments ih =>
      rw [text, TypeRef.text, texts_eq_map, TypeRef.texts_eq_map, lookedAt, List.forall_mem_cons,
        lookedAtAll_eq_flatMap, ← nameText_eq_iff]
      -- no text gets longer, so texts in a row stay the same only one by one
      have hshorter : ∀ t ∈ arguments, (s.text t).length ≤ t.text.length :=
        fun t _ => length_text_le t
      constructor
      · intro heq
        obtain ⟨hn, harguments⟩ :=
          bracketed_inj (length_nameText_le n) (length_joined_le hshorter) heq
        refine ⟨hn, fun m hm => ?_⟩
        obtain ⟨t, ht, hm⟩ := List.mem_flatMap.mp hm
        exact (ih t ht).mp (eq_of_joined_eq hshorter harguments t ht) m hm
      · rintro ⟨hn, harguments⟩
        have hsame : arguments.map s.text = arguments.map TypeRef.text :=
          List.map_congr_left fun t ht => (ih t ht).mpr fun m hm => harguments m
            (List.mem_flatMap.mpr ⟨t, ht, hm⟩)
        rw [hn, hsame]
  | nullable inner ih =>
      rw [text, lookedAt]
      split
      · rename_i hlooks
        rw [TypeRef.text, nullableText_of_looksInside hlooks]
        refine Iff.trans ?_ ih
        exact ⟨fun h => (append_inj_of_length_le h (length_text_le inner) (Nat.le_refl _)).1,
          fun h => by rw [h]⟩
      · simp
  | _ => exact iff_of_true rfl (List.forall_mem_nil _)

/-! ## Shortening again -/

section Again

variable {t : TypeRef}

/-- What a short text is read as: the type without its covered packages, with the names guessed. -/
theorem read_short (h : TypeRef.Readable ClassName.Spelled .alone t)
    (hmarks : t.marksTwice = false) :
    TypeRef.read (s.text t) = .ok ((s.erase t).mapNames ClassName.guessed) := by
  rw [← text_erase]
  exact TypeRef.read_text (wellFormed_erase h hmarks)

/-- Shortening what a short text is read as leaves the text alone exactly if every name stays that
is guessed where a package was looked for. -/
theorem text_again_iff (h : TypeRef.Readable ClassName.Spelled .alone t)
    (hmarks : t.marksTwice = false) :
    s.text ((s.erase t).mapNames ClassName.guessed) = s.text t
      ↔ ∀ n ∈ lookedAt t, s.Stays (s.eraseName n).guessed := by
  -- guessing the names leaves the text as it is, so the second text is compared with the full one
  have htext := TypeRef.text_mapNames (wellFormed_erase (s := s) h hmarks) fun _ =>
    ClassName.canonical_guessed
  rw [text_erase] at htext
  have hiff := s.text_eq_iff ((s.erase t).mapNames ClassName.guessed)
  rw [htext, lookedAt_mapNames, lookedAt_erase] at hiff
  simpa only [List.forall_mem_map] using hiff

/-- A short text that is read again and shortened to itself makes no nullable type nullable again:
its marks are those of both types. -/
theorem marksTwice_eq_false_of_again {again : TypeRef}
    (h : TypeRef.Readable ClassName.Spelled .alone t) (hread : TypeRef.read (s.text t) = .ok again)
    (hsame : s.text again = s.text t) :
    t.marksTwice = false := by
  have hwrites := TypeRef.writes_of_read hread
  have hagain : doubledMarks false (s.text t).toList = again.marks := by
    rw [← hsame]
    exact doubledMarks_short hwrites.readable false
  have htwice := TypeRef.marksTwice_eq_false_of_writes hwrites hagain
  rwa [TypeRef.marksTwice_eq_any, ← hagain, doubledMarks_short h,
    ← TypeRef.marksTwice_eq_any] at htwice

end Again

/--
**How far shortening is idempotent.** A short text is read again and shortened to itself exactly if
no nullable type was made nullable again, and every name stays in the places where shortening looks
for a package, once its short text is read by the case of its letters.

The first alone decides that the text is read again. A nullable type made nullable again is
printed with two marks in a row, which no type is read from, unless a function stands before them
that takes the second.
-/
theorem shortened_again_iff {text : String} {t : TypeRef} (s : Simplifier)
    (hread : TypeRef.read text = .ok t) :
    (t.marksTwice = false → ∃ again, TypeRef.read (s.text t) = .ok again)
      ∧ ((∃ again, TypeRef.read (s.text t) = .ok again ∧ s.text again = s.text t)
        ↔ t.marksTwice = false ∧ ∀ n ∈ lookedAt t, s.Stays (s.eraseName n).guessed) := by
  have hreadable : TypeRef.Readable ClassName.Spelled .alone t :=
    (TypeRef.writes_of_read hread).readable
  refine ⟨fun hmarks => ⟨_, read_short hreadable hmarks⟩, ?_⟩
  constructor
  · rintro ⟨again, hagain, hsame⟩
    have hmarks := marksTwice_eq_false_of_again hreadable hagain hsame
    obtain rfl := Except.ok.inj (hagain.symm.trans (read_short hreadable hmarks))
    exact ⟨hmarks, (text_again_iff hreadable hmarks).mp hsame⟩
  · rintro ⟨hmarks, hstays⟩
    exact ⟨_, read_short hreadable hmarks, (text_again_iff hreadable hmarks).mpr hstays⟩

/-- Shortened inside `dev.example`, with the namespaces of the standard library. -/
def insideExample : Simplifier := ⟨"dev.example", defaultNamespaces⟩

/-- A map to a class of a sub-package, which keeps its package. -/
def mapToMode : TypeRef :=
  .applied ⟨"kotlin.collections", ["Map"]⟩
    [.nullable (.named ⟨"kotlin", ["String"]⟩), .named ⟨"dev.example.sub", ["mode"]⟩]

/-- A function to a nullable type made nullable again. Its text `(A) -> B??` is that of no function:
the second mark is taken for one of the function itself. -/
def functionToTwice : TypeRef :=
  .function [.named ⟨"", ["A"]⟩] (.nullable (.nullable (.named ⟨"", ["B"]⟩)))

theorem shortened_again_iff_mapToMode :
    (TypeRef.read "kotlin.collections.Map<kotlin.String?, dev.example.sub/mode>" = .ok mapToMode
      ∧ insideExample.text mapToMode = "Map<String?, dev.example.sub.mode>"
      ∧ ∃ again, TypeRef.read (insideExample.text mapToMode) = .ok again
          ∧ insideExample.text again = insideExample.text mapToMode)
    ∧ TypeRef.read "(A) -> (B?)?" = .ok functionToTwice
      ∧ insideExample.text functionToTwice = "(A) -> B??"
      ∧ (∃ again, TypeRef.read (insideExample.text functionToTwice) = .ok again)
      ∧ ¬ ∃ again, TypeRef.read (insideExample.text functionToTwice) = .ok again
          ∧ insideExample.text again = insideExample.text functionToTwice := by
  have hmap : TypeRef.read "kotlin.collections.Map<kotlin.String?, dev.example.sub/mode>"
      = .ok mapToMode := by rfl
  have hstays : ∀ n ∈ lookedAt mapToMode,
      insideExample.Stays (insideExample.eraseName n).guessed := by
    decide
  have hfunction : TypeRef.read "(A) -> (B?)?" = .ok functionToTwice := by rfl
  have hagain : TypeRef.read (insideExample.text functionToTwice)
      = .ok (.nullable (.function [.named ⟨"", ["A"]⟩] (.nullable (.named ⟨"", ["B"]⟩)))) := by rfl
  refine ⟨⟨hmap, by decide, (shortened_again_iff insideExample hmap).2.mpr ⟨rfl, hstays⟩⟩,
    hfunction, by decide, ⟨_, hagain⟩, fun h => ?_⟩
  exact absurd ((shortened_again_iff insideExample hfunction).2.mp h).1 (by decide)

/-- A nested class of a class that starts small. -/
def smallClass : TypeRef := .named ⟨"dev", ["example", "Mode"]⟩

/-- The short text `dev.example.Mode` is read as a class of the package
`dev.example`, which is covered. -/
theorem smallClass_not_shortened_again :
    TypeRef.read "dev/example.Mode" = .ok smallClass
      ∧ ¬ ∃ again, TypeRef.read (insideExample.text smallClass) = .ok again
          ∧ insideExample.text again = insideExample.text smallClass := by
  have hread : TypeRef.read (insideExample.text smallClass)
      = .ok (.named ⟨"dev.example", ["Mode"]⟩) := by rfl
  refine ⟨by rfl, ?_⟩
  rintro ⟨again, hagain, hsame⟩
  obtain rfl := Except.ok.inj (hread.symm.trans hagain)
  exact absurd hsame (by decide)

/-- A nullable class made nullable again. -/
def nullableTwice : TypeRef := .nullable (.nullable (.named ⟨"", ["A"]⟩))

/-- The short text `A??` is no type. -/
theorem nullableTwice_not_read_again :
    TypeRef.read "(A?)?" = .ok nullableTwice
      ∧ ¬ ∃ again, TypeRef.read (insideExample.text nullableTwice) = .ok again := by
  have hread : TypeRef.read (insideExample.text nullableTwice) = .error ⟨"A??", "?"⟩ := by rfl
  refine ⟨by rfl, ?_⟩
  rintro ⟨again, hagain⟩
  exact absurd (hread.symm.trans hagain) (by simp)

/-- **Shortening is not idempotent**: it loses what the slash and the parentheses said. -/
theorem not_shortened_again :
    (∃ t, TypeRef.read "dev/example.Mode" = .ok t
      ∧ ¬ ∃ again, TypeRef.read (insideExample.text t) = .ok again
          ∧ insideExample.text again = insideExample.text t)
    ∧ ∃ t, TypeRef.read "(A?)?" = .ok t
      ∧ ¬ ∃ again, TypeRef.read (insideExample.text t) = .ok again :=
  ⟨⟨smallClass, smallClass_not_shortened_again⟩, nullableTwice, nullableTwice_not_read_again⟩

end WrapperGen.Simplifier
