import WrapperGen.TypeRef.Reader
import WrapperGen.Proofs.NameReading

/-!
# The grammar of types

    Top  = ws Type ws
    Type = Core | Core ws "?"
    Core = "(" [ws Type ws {"," ws Type ws}] ws ")" ws "->" ws Type
         | "(" ws Type ws ")"
         | Name [ws "<" ws Arg ws {"," ws Arg ws} ">"]
    Arg  = "*" | ("in" | "out") ws+ Type | Type

One rule is not in the productions. Behind a function that stands in no parentheses a question mark
belongs to the result, and to the function only if the result has a mark of its own already. So a
type is told apart by whether it ends with its own mark, and what comes before the mark by whether
it leaves one to its result.
-/

namespace WrapperGen.TypeRef

open Text

/-- The parts of the text of a type. -/
inductive Part where
  /-- A type; when it is `marked`, a question mark of its own ends it. -/
  | type (marked : Bool)
  /-- A type without such a mark; when it `yields`, a mark behind it is that
  of a function's result. -/
  | core (yields : Bool)
  /-- A type with the blanks around it. -/
  | padded
  /-- A type argument with the blanks around it. -/
  | argument
deriving DecidableEq, Repr

/-- From `s` to `rest` the parameters of a function are closed and an arrow points to the result. -/
def Arrow (s rest : List Char) : Prop :=
  ∃ s₁ s₂, Blanks s (')' :: s₁) ∧ Blanks s₁ ('-' :: '>' :: s₂) ∧ Blanks s₂ rest

/-- A part that writes the type `t` stands at the front of the characters `s`,
with `rest` behind it. -/
inductive Written : Part → List Char → TypeRef → List Char → Prop where
  | unmarked {yields : Bool} {s rest : List Char} {t : TypeRef} :
      Written (.core yields) s t rest → Written (.type false) s t rest
  | marked {s s₁ rest : List Char} {t : TypeRef} :
      Written (.core false) s t s₁ → Blanks s₁ ('?' :: rest) →
      Written (.type true) s (.nullable t) rest
  /-- A function without parameters. -/
  | nullary {marked : Bool} {s s₁ rest : List Char} {result : TypeRef} :
      Arrow s s₁ → Written (.type marked) s₁ result rest →
      Written (.core (!marked)) ('(' :: s) (.function [] result) rest
  | function {marked : Bool} {s s₁ s₂ rest : List Char} {parameters : List TypeRef}
      {result : TypeRef} :
      Row ',' (Written .padded) s parameters s₁ → Arrow s₁ s₂ →
      Written (.type marked) s₂ result rest →
      Written (.core (!marked)) ('(' :: s) (.function parameters result) rest
  | grouped {s rest : List Char} {t : TypeRef} :
      Written .padded s t (')' :: rest) → Written (.core false) ('(' :: s) t rest
  | named {s rest : List Char} {name : ClassName} :
      NameAt s name rest → Written (.core false) s (.named name) rest
  | applied {s s₁ s₂ rest : List Char} {name : ClassName} {arguments : List TypeRef} :
      NameAt s name s₁ → Blanks s₁ ('<' :: s₂) →
      Row ',' (Written .argument) s₂ arguments ('>' :: rest) →
      Written (.core false) s (.applied name arguments) rest
  | padded {marked : Bool} {s s₁ s₂ rest : List Char} {t : TypeRef} :
      Blanks s s₁ → Written (.type marked) s₁ t s₂ → Blanks s₂ rest → Written .padded s t rest
  | star {s s₁ rest : List Char} :
      Blanks s ('*' :: s₁) → Blanks s₁ rest → Written .argument s .star rest
  | projected {marked : Bool} {s s₁ s₂ s₃ rest : List Char} {variance : Variance} {c : Char}
      {t : TypeRef} :
      Blanks s (variance.keyword.toList ++ c :: s₁) → isBlank c = true → Blanks s₁ s₂ →
      Written (.type marked) s₂ t s₃ → Blanks s₃ rest →
      Written .argument s (.projected variance t) rest
  | argument {s rest : List Char} {t : TypeRef} :
      Written .padded s t rest → Written .argument s t rest

/-- A whole text writes a type. -/
def Writes (text : String) (t : TypeRef) : Prop := Written .padded text.toList t []

/-! ## Every part takes characters -/

theorem Arrow.length_lt {s rest : List Char} (h : Arrow s rest) : rest.length < s.length := by
  obtain ⟨s₁, s₂, hclose, harrow, hblanks⟩ := h
  have h₁ := hclose.length_le
  have h₂ := harrow.length_le
  have h₃ := hblanks.length_le
  simp only [List.length_cons] at h₁ h₂
  omega

-- by recursion on the derivation, which holds those of the items in its rows

mutual

theorem Written.length_lt {part : Part} {s rest : List Char} {t : TypeRef} :
    Written part s t rest → rest.length < s.length
  | .unmarked h => h.length_lt
  -- blanks may be none, so in each case it is a mark, a bracket or a name that shortens the text
  | .marked h hmark => by
      have h₁ := h.length_lt
      have h₂ := hmark.length_le
      rw [List.length_cons] at h₂
      omega
  | .nullary harrow hresult => by
      have h₁ := harrow.length_lt
      have h₂ := hresult.length_lt
      rw [List.length_cons]
      omega
  | .function hrow harrow hresult => by
      have h₁ := paddedRow_length_lt hrow
      have h₂ := harrow.length_lt
      have h₃ := hresult.length_lt
      rw [List.length_cons]
      omega
  | .grouped h => by
      have h₁ := h.length_lt
      simp only [List.length_cons] at h₁ ⊢
      omega
  | .named h => h.length_lt
  | .applied hname hopen hrow => by
      have h₁ := hname.length_lt
      have h₂ := hopen.length_le
      have h₃ := argumentRow_length_lt hrow
      simp only [List.length_cons] at h₂ h₃
      omega
  | .padded hbefore h hbehind => by
      have h₁ := hbefore.length_le
      have h₂ := h.length_lt
      have h₃ := hbehind.length_le
      omega
  | .star hbefore hbehind => by
      have h₁ := hbefore.length_le
      have h₂ := hbehind.length_le
      rw [List.length_cons] at h₁
      omega
  | .projected hbefore _ hblanks h hbehind => by
      have h₁ := hbefore.length_le
      have h₂ := hblanks.length_le
      have h₃ := h.length_lt
      have h₄ := hbehind.length_le
      rw [List.length_append, List.length_cons] at h₁
      omega
  | .argument h => h.length_lt

theorem paddedRow_length_lt {s rest : List Char} {ts : List TypeRef} :
    Row ',' (Written .padded) s ts rest → rest.length < s.length
  | .last h => h.length_lt
  | .more h hrow => by
      have h₁ := h.length_lt
      have h₂ := paddedRow_length_lt hrow
      rw [List.length_cons] at h₁
      omega

theorem argumentRow_length_lt {s rest : List Char} {ts : List TypeRef} :
    Row ',' (Written .argument) s ts rest → rest.length < s.length
  | .last h => h.length_lt
  | .more h hrow => by
      have h₁ := h.length_lt
      have h₂ := argumentRow_length_lt hrow
      rw [List.length_cons] at h₁
      omega

end

/-! ## How a type begins -/

/-- A character that a type may begin with. -/
def startsType (c : Char) : Bool := c == '(' || isIdentifierStart c

theorem isBlank_of_startsType {c : Char} (h : startsType c = true) : isBlank c = false := by
  cases hc : isBlank c with
  | false => rfl
  | true =>
      rcases isBlank_cases hc with rfl | rfl | rfl | rfl
      all_goals exact absurd h (by decide)

theorem Written.head_core {yields : Bool} {s rest : List Char} {t : TypeRef}
    (h : Written (.core yields) s t rest) : ∃ c more, s = c :: more ∧ startsType c = true := by
  have hname : ∀ {rest : List Char} {name : ClassName}, NameAt s name rest →
      ∃ c more, s = c :: more ∧ startsType c = true := by
    intro rest name hn
    obtain ⟨c, more, hs, hc⟩ := hn.head
    exact ⟨c, more, hs, by rw [startsType, hc, Bool.or_true]⟩
  cases h with
  | nullary _ _ => exact ⟨_, _, rfl, rfl⟩
  | function _ _ _ => exact ⟨_, _, rfl, rfl⟩
  | grouped _ => exact ⟨_, _, rfl, rfl⟩
  | named hn => exact hname hn
  | applied hn _ _ => exact hname hn

theorem Written.head {marked : Bool} {s rest : List Char} {t : TypeRef}
    (h : Written (.type marked) s t rest) : ∃ c more, s = c :: more ∧ startsType c = true := by
  cases h with
  | unmarked hcore => exact hcore.head_core
  | marked hcore _ => exact hcore.head_core

/-- Skipping blanks stops where a type begins. -/
theorem Written.skip {marked : Bool} {s s₁ rest : List Char} {t : TypeRef}
    (h : Written (.type marked) s₁ t rest) (hblanks : Blanks s s₁) : skipBlanks s = s₁ := by
  obtain ⟨c, more, rfl, hc⟩ := h.head
  exact hblanks.skip_cons (isBlank_of_startsType hc)

end WrapperGen.TypeRef
