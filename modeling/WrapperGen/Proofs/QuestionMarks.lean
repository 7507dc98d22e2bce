import Mathlib.Data.List.Forall2
import WrapperGen.Proofs.TypePrinting

/-!
# Question marks

Each nullable type has a question mark of its own in the text that it is read from, and one in the
text that it is printed as, both times in the same order: behind everything inside the type,
before everything that comes after it. So the marks of a text and the nullable types of its type
can be compared one by one.

A nullable type made nullable again is printed with two marks in a row. It is never read from two
marks in a row, since parentheses must have closed between them. So a text that is read as a type
which is printed as that very text cannot hold such a type.
-/

namespace WrapperGen

open Text

/-! ## The marks of a text -/

namespace Text

/-- For each question mark in a text, whether another one stands directly before it. What stands
before the text is one if `after`. -/
def doubledMarks (after : Bool) : List Char → List Bool
  | [] => []
  | c :: s => if c = '?' then after :: doubledMarks true s else doubledMarks false s

/-- Whether what has been read ends with a question mark, when a text stands behind `after`. -/
def endsMarked (after : Bool) : List Char → Bool
  | [] => after
  | c :: s => endsMarked (c == '?') s

variable {after : Bool} {s : List Char}

theorem doubledMarks_append (rest : List Char) :
    doubledMarks after (s ++ rest)
      = doubledMarks after s ++ doubledMarks (endsMarked after s) rest := by
  induction s generalizing after with
  | nil => rfl
  | cons c s ih =>
      by_cases hc : c = '?'
      · subst hc
        rw [List.cons_append, doubledMarks, doubledMarks, if_pos rfl, if_pos rfl, ih]
        rfl
      · have hmark : (c == '?') = false := by simpa using hc
        rw [List.cons_append, doubledMarks, doubledMarks, if_neg hc, if_neg hc, ih,
          endsMarked, hmark]

theorem doubledMarks_of_notMem (h : '?' ∉ s) : doubledMarks after s = [] := by
  induction s generalizing after with
  | nil => rfl
  | cons c s ih =>
      rw [List.mem_cons, not_or] at h
      rw [doubledMarks, if_neg (Ne.symm h.1), ih h.2]

theorem endsMarked_append (rest : List Char) :
    endsMarked after (s ++ rest) = endsMarked (endsMarked after s) rest := by
  induction s generalizing after with
  | nil => rfl
  | cons c s ih => exact ih

theorem endsMarked_concat (s : List Char) (c : Char) :
    endsMarked after (s ++ [c]) = (c == '?') :=
  endsMarked_append [c]

/-- A text without a mark does not end with one. If it is empty, what stands before it counts. -/
theorem endsMarked_of_notMem (h : '?' ∉ s) (hempty : s = [] → after = false) :
    endsMarked after s = false := by
  induction s generalizing after with
  | nil => exact hempty rfl
  | cons c s ih =>
      rw [List.mem_cons, not_or] at h
      have hc : (c == '?') = false := by simpa using Ne.symm h.1
      rw [endsMarked, hc]
      exact ih h.2 fun _ => rfl

end Text

namespace TypeRef

/-! ## The marks of a type -/

mutual

/-- For each nullable type in a type, in the order of their marks, whether it is a nullable
type made nullable again. -/
def marks : TypeRef → List Bool
  | nullable inner => inner.marks ++ [inner.isNullable]
  | applied _ arguments => allMarks arguments
  | projected _ inner => inner.marks
  | function parameters result => allMarks parameters ++ result.marks
  | named _ | typeVariable _ | star | unresolved _ | verbatim _ => []

/-- The marks of several types, one after the other. -/
def allMarks : List TypeRef → List Bool
  | [] => []
  | t :: ts => t.marks ++ allMarks ts

end

theorem allMarks_eq_flatMap (ts : List TypeRef) : allMarks ts = ts.flatMap marks := by
  induction ts with
  | nil => rfl
  | cons t ts ih => rw [allMarks, ih, List.flatMap_cons]

/-- A nullable type is made nullable again somewhere if one of the marks says so. -/
theorem marksTwice_eq_any (t : TypeRef) : t.marksTwice = t.marks.any id := by
  have hall : ∀ ts : List TypeRef, (∀ t ∈ ts, t.marksTwice = t.marks.any id) →
      anyMarksTwice ts = (allMarks ts).any id := by
    intro ts h
    induction ts with
    | nil => rfl
    | cons t ts ih =>
        rw [List.forall_mem_cons] at h
        rw [anyMarksTwice, allMarks, List.any_append, h.1, ih h.2]
  induction t using TypeRef.forms with
  | applied n arguments ih => exact hall arguments ih
  | nullable inner ih =>
      rw [marksTwice, marks, ih, List.any_append, List.any_cons, List.any_nil, Bool.or_false, id,
        Bool.or_comm]
  | projected _ inner ih => exact ih
  | function parameters result ihparameters ihresult =>
      rw [marksTwice, marks, hall parameters ihparameters, ihresult, List.any_append]
  | _ => rfl

/-! ## The marks of a printed text -/

theorem mark_notMem_canonical {n : ClassName} (h : n.Spelled) : '?' ∉ n.canonical.toList := by
  rw [ClassName.canonical_eq h.simpleNames_ne_nil]
  exact notMem_joined (by decide) fun x hx =>
    notMem_of_isIdentifier (h.identifiers x hx) (by decide)

theorem canonical_ne_nil {n : ClassName} (h : n.Spelled) : n.canonical.toList ≠ [] := by
  have hlength := (ClassName.nameAt_canonical h []).length_lt
  intro hnil
  exact absurd hlength (by simp [hnil])

theorem mark_notMem_keyword (variance : Variance) : '?' ∉ variance.keyword.toList := by
  cases variance with
  | input => decide
  | output => decide

section Printed

variable {after : Bool} {place : Place} {t : TypeRef}

/-- A type that is no function ends with a mark exactly if it is nullable. -/
theorem endsMarked_text (h : Readable ClassName.Spelled .alone t)
    (hfunction : t.isFunction = false) :
    endsMarked after t.text.toList = t.isNullable := by
  cases h with
  | named hn =>
      exact endsMarked_of_notMem (mark_notMem_canonical hn) fun hnil =>
        absurd hnil (canonical_ne_nil hn)
  | applied _ _ _ =>
      rw [text, String.toList_append]
      exact endsMarked_concat _ '>'
  | nullable _ =>
      rw [text, nullableText]
      split
      · rw [String.toList_append]
        exact (congrArg (endsMarked after) (List.append_assoc _ [')'] ['?']).symm).trans
          (endsMarked_concat _ '?')
      · rw [String.toList_append]
        exact endsMarked_concat _ '?'
  | function _ _ => exact absurd hfunction (by simp [isFunction])

theorem doubledMarks_texts {ts : List TypeRef}
    (h : ∀ t ∈ ts, ∀ after, doubledMarks after t.text.toList = t.marks) (after : Bool) :
    doubledMarks after (joined ", " (texts ts)).toList = allMarks ts := by
  induction ts generalizing after with
  | nil => rfl
  | cons t ts ih =>
      rw [List.forall_mem_cons] at h
      cases ts with
      | nil =>
          rw [allMarks, allMarks, List.append_nil]
          exact h.1 after
      | cons u ts =>
          have hcomma : ∀ after, doubledMarks after ", ".toList = [] := fun _ => rfl
          rw [allMarks, ← ih h.2, texts, texts, joined_cons_cons, String.toList_append,
            String.toList_append, doubledMarks_append, doubledMarks_append, h.1, hcomma,
            List.append_nil]

/-- **The marks of a printed text are those of the type**: a mark stands directly behind another
exactly if it makes a nullable type nullable again. -/
theorem doubledMarks_text (h : Readable ClassName.Spelled place t) (after : Bool) :
    doubledMarks after t.text.toList = t.marks := by
  induction h generalizing after with
  | named hn => exact doubledMarks_of_notMem (mark_notMem_canonical hn)
  | @applied n arguments hn _ _ ih =>
      -- brackets are no marks, so whatever ends before one does not matter behind it
      have hopen : ∀ after, doubledMarks after "<".toList = [] := fun _ => rfl
      have hclose : ∀ after, doubledMarks after ">".toList = [] := fun _ => rfl
      rw [text, marks]
      simp only [String.toList_append, doubledMarks_append, hopen, hclose, doubledMarks_texts ih,
        doubledMarks_of_notMem (mark_notMem_canonical hn), List.nil_append, List.append_nil]
  | @nullable t h ih =>
      rw [text, nullableText, marks]
      split
      · -- the parenthesis stands between the marks
        rename_i hfunction
        have hnullable : t.isNullable = false := by
          cases t with
          | nullable _ => exact absurd hfunction (by simp [isFunction])
          | _ => rfl
        have hopen : ∀ after, doubledMarks after "(".toList = [] := fun _ => rfl
        have hclose : ∀ after, doubledMarks after ")?".toList = [false] := fun _ => rfl
        simp only [String.toList_append, doubledMarks_append, hopen, hclose, ih, hnullable,
          List.nil_append]
      · rename_i hfunction
        have hmark : ∀ after, doubledMarks after "?".toList = [after] := fun _ => rfl
        rw [String.toList_append, doubledMarks_append, ih, hmark,
          endsMarked_text h (Bool.eq_false_iff.mpr hfunction)]
  | @function parameters result _ _ ihparameters ihresult =>
      have hopen : ∀ after, doubledMarks after "(".toList = [] := fun _ => rfl
      have harrow : ∀ after, doubledMarks after ") -> ".toList = [] := fun _ => rfl
      rw [text, marks]
      simp only [String.toList_append, doubledMarks_append, hopen, harrow, ihresult,
        doubledMarks_texts ihparameters, List.nil_append, List.append_nil]
  | star => rfl
  | @projected variance t _ ih =>
      have hblank : ∀ after, doubledMarks after " ".toList = [] := fun _ => rfl
      rw [text, marks]
      simp only [String.toList_append, doubledMarks_append, hblank, ih,
        doubledMarks_of_notMem (mark_notMem_keyword variance), List.nil_append]
  | argument _ ih => exact ih after

end Printed

end TypeRef

/-! ## The marks of a text that is read -/

/-- From `s` to `rest` there is no question mark. -/
def Markless (s rest : List Char) : Prop := ∃ front, '?' ∉ front ∧ s = front ++ rest

namespace Markless

variable {s s₁ rest : List Char}

theorem trans (h : Markless s s₁) (hrest : Markless s₁ rest) : Markless s rest := by
  obtain ⟨front, hfront, rfl⟩ := h
  obtain ⟨more, hmore, rfl⟩ := hrest
  refine ⟨front ++ more, ?_, (List.append_assoc _ _ _).symm⟩
  rw [List.mem_append, not_or]
  exact ⟨hfront, hmore⟩

theorem one {c : Char} (h : c ≠ '?') (rest : List Char) : Markless (c :: rest) rest :=
  ⟨[c], by simpa using Ne.symm h, rfl⟩

end Markless

theorem Blanks.markless {s rest : List Char} (h : Blanks s rest) : Markless s rest := by
  obtain ⟨blanks, hblanks, rfl⟩ := h
  exact ⟨blanks, fun hmem => absurd (hblanks '?' hmem) (by decide), rfl⟩

theorem Row.markless {s rest : List Char} {segments : List String}
    (h : Row '.' IdentifierAt s segments rest) :
    Markless s rest := by
  have hword : ∀ {s x rest}, IdentifierAt s x rest → Markless s rest :=
    fun hx => ⟨_, notMem_of_isIdentifier hx.identifier (by decide), hx.text⟩
  induction h with
  | last hx => exact hword hx
  | more hx _ ih => exact ((hword hx).trans (Markless.one (by decide) _)).trans ih

theorem NameAt.markless {s rest : List Char} {name : ClassName} (h : NameAt s name rest) :
    Markless s rest := by
  cases h with
  | guessed hrow _ => exact hrow.markless
  | pinned hrow hnames =>
      exact (hrow.markless.trans (Markless.one (by decide) _)).trans hnames.markless

namespace TypeRef

theorem Arrow.markless {s rest : List Char} (h : Arrow s rest) : Markless s rest := by
  obtain ⟨s₁, s₂, hclose, harrow, hblanks⟩ := h
  have hparameters : Markless s s₁ := hclose.markless.trans (Markless.one (by decide) _)
  have hpoint : Markless s₁ s₂ :=
    (harrow.markless.trans (Markless.one (by decide) _)).trans (Markless.one (by decide) _)
  exact (hparameters.trans hpoint).trans hblanks.markless

/-- From `s` to `rest` there is one question mark for each of `marks`, in this order, and none of
those that stand directly behind another makes a nullable type nullable again. -/
def MarksApart (s : List Char) (marks : List Bool) (rest : List Char) : Prop :=
  ∃ front, s = front ++ rest
    ∧ ∀ after, List.Forall₂ (fun doubled again => (doubled && again) = false)
        (doubledMarks after front) marks

section Apart

variable {s s₁ rest : List Char} {marks more : List Bool}

theorem MarksApart.append (h : MarksApart s marks s₁) (hmore : MarksApart s₁ more rest) :
    MarksApart s (marks ++ more) rest := by
  obtain ⟨front, rfl, hfront⟩ := h
  obtain ⟨back, rfl, hback⟩ := hmore
  refine ⟨front ++ back, (List.append_assoc _ _ _).symm, fun after => ?_⟩
  rw [doubledMarks_append]
  exact List.rel_append (hfront after) (hback _)

theorem marksApart_of_markless (h : Markless s rest) : MarksApart s [] rest := by
  obtain ⟨front, hfront, rfl⟩ := h
  refine ⟨front, rfl, fun after => ?_⟩
  rw [doubledMarks_of_notMem hfront]
  exact .nil

theorem MarksApart.behind (h : MarksApart s₁ marks rest) (hs : Markless s s₁) :
    MarksApart s marks rest :=
  (marksApart_of_markless hs).append h

theorem MarksApart.before (h : MarksApart s marks s₁) (hrest : Markless s₁ rest) :
    MarksApart s marks rest := by
  have happend := h.append (marksApart_of_markless hrest)
  rwa [List.append_nil] at happend

/-- A mark that makes a nullable type nullable again stands behind the parenthesis
that closes around it. -/
theorem MarksApart.mark {again : Bool} (h : MarksApart s marks s₁) (hmark : Blanks s₁ ('?' :: rest))
    (hclosed : again = true → ∃ front, s = front ++ ')' :: s₁) :
    MarksApart s (marks ++ [again]) rest := by
  obtain ⟨front, rfl, hfront⟩ := h
  obtain ⟨blanks, hblanks, rfl⟩ := hmark
  have hnone : '?' ∉ blanks := fun hmem => absurd (hblanks '?' hmem) (by decide)
  refine ⟨front ++ (blanks ++ ['?']), by simp, fun after => ?_⟩
  rw [doubledMarks_append, doubledMarks_append, doubledMarks_of_notMem hnone, List.nil_append]
  refine List.rel_append (hfront after) (.cons ?_ .nil)
  cases again with
  | false => exact Bool.and_false _
  | true =>
      obtain ⟨inside, hinside⟩ := hclosed rfl
      obtain rfl : front = inside ++ [')'] := by
        rw [List.append_cons inside] at hinside
        exact List.append_cancel_right hinside
      have hparenthesis : endsMarked after (inside ++ [')']) = false := endsMarked_concat inside ')'
      rw [hparenthesis, endsMarked_of_notMem hnone fun _ => rfl]
      rfl

end Apart

/-- What is read as a part keeps the marks apart. A nullable type to which a mark may still come
ends with a parenthesis. -/
def Part.KeepsApart : Part → List Char → TypeRef → List Char → Prop
  | .core _, s, t, rest =>
      MarksApart s t.marks rest ∧ (t.isNullable = true → ∃ front, s = front ++ ')' :: rest)
  | .type _, s, t, rest | .padded, s, t, rest | .argument, s, t, rest => MarksApart s t.marks rest

mutual

/-- **No mark that is read directly behind another makes a nullable type nullable again.** -/
theorem Written.keepsApart {part : Part} {s rest : List Char} {t : TypeRef} :
    Written part s t rest → part.KeepsApart s t rest
  | .unmarked h => h.keepsApart.1
  | .marked h hmark => h.keepsApart.1.mark hmark h.keepsApart.2
  | .nullary harrow h =>
      ⟨MarksApart.behind h.keepsApart ((Markless.one (by decide) _).trans harrow.markless),
        (absurd · Bool.false_ne_true)⟩
  | .function hrow harrow h =>
      ⟨((paddedRow_marksApart hrow).behind (Markless.one (by decide) _)).append
        (MarksApart.behind h.keepsApart harrow.markless), (absurd · Bool.false_ne_true)⟩
  | .grouped h => by
      -- only parentheses leave a nullable type without its mark at the end
      have hinside : MarksApart _ _ _ := h.keepsApart
      refine ⟨(hinside.behind (Markless.one (by decide) _)).before (Markless.one (by decide) _),
        fun _ => ?_⟩
      obtain ⟨front, rfl, _⟩ := hinside
      exact ⟨'(' :: front, rfl⟩
  | .named hname => ⟨marksApart_of_markless hname.markless, (absurd · Bool.false_ne_true)⟩
  | .applied hname hopen hrow =>
      ⟨((argumentRow_marksApart hrow).before (Markless.one (by decide) _)).behind
        ((hname.markless.trans hopen.markless).trans (Markless.one (by decide) _)),
        (absurd · Bool.false_ne_true)⟩
  | .padded hbefore h hbehind =>
      (MarksApart.behind h.keepsApart hbefore.markless).before hbehind.markless
  | .star hbefore hbehind =>
      marksApart_of_markless
        ((hbefore.markless.trans (Markless.one (by decide) _)).trans hbehind.markless)
  | .projected hbefore hblank hblanks h hbehind => by
      have hkeyword := hbefore.markless.trans ⟨_, mark_notMem_keyword _, rfl⟩
      have hbetween := (Blanks.one hblank).markless.trans hblanks.markless
      exact (MarksApart.behind h.keepsApart (hkeyword.trans hbetween)).before hbehind.markless
  | .argument h => h.keepsApart

theorem paddedRow_marksApart {s rest : List Char} {ts : List TypeRef} :
    Row ',' (Written .padded) s ts rest → MarksApart s (allMarks ts) rest
  | .last h => by
      rw [allMarks, allMarks, List.append_nil]
      exact h.keepsApart
  | .more h hrow =>
      MarksApart.append h.keepsApart
        ((paddedRow_marksApart hrow).behind (Markless.one (by decide) _))

theorem argumentRow_marksApart {s rest : List Char} {ts : List TypeRef} :
    Row ',' (Written .argument) s ts rest → MarksApart s (allMarks ts) rest
  | .last h => by
      rw [allMarks, allMarks, List.append_nil]
      exact h.keepsApart
  | .more h hrow =>
      MarksApart.append h.keepsApart
        ((argumentRow_marksApart hrow).behind (Markless.one (by decide) _))

end

/-- **A text with the marks of the type it writes** makes no nullable type nullable again: of such a
type it would have the marks in a row. -/
theorem marksTwice_eq_false_of_writes {text : String} {t : TypeRef} (h : Writes text t)
    (hmarks : doubledMarks false text.toList = t.marks) : t.marksTwice = false := by
  obtain ⟨front, hfront, hapart⟩ := Written.keepsApart h
  rw [List.append_nil] at hfront
  have hsame := hapart false
  rw [← hfront, hmarks, List.forall₂_same] at hsame
  rw [marksTwice_eq_any, List.any_eq_false]
  intro again hmem hagain
  have hfalse := hsame again hmem
  rw [Bool.and_self] at hfalse
  exact absurd hagain (by simp [hfalse])

end TypeRef

end WrapperGen
