import WrapperGen.Proofs.NameSpelling
import WrapperGen.Proofs.TypeReading
import WrapperGen.Proofs.TypeTrees

/-!
# Reading undoes printing

The full text of a type is written in the grammar, whatever comes behind it: each form is printed
as one production, and the types inside stand where the production has them. What it writes is the
same type with each class name as its qualified name is guessed, so the type itself if its names
keep to the convention.

Two things must not be mixed up behind a type, the question mark of a nullable function and that of
its result. A function is printed in parentheses when it is nullable, and a function whose result is
nullable ends with the mark of the result.
-/

namespace WrapperGen.TypeRef

open Text

/-! ## The types there are texts for -/

/-- Where a type stands: by itself, or as a type argument. -/
inductive Place where
  | alone
  | argument
deriving DecidableEq, Repr

/-- The types that are printed as the grammar has them, with class names of a certain kind:
nothing outside the grammar, the star and projections only as type arguments, and no nullable
type made nullable again. -/
inductive WellFormed (names : ClassName → Prop) : Place → TypeRef → Prop where
  | named {n : ClassName} : names n → WellFormed names .alone (.named n)
  | applied {n : ClassName} {arguments : List TypeRef} :
      names n → arguments ≠ [] → (∀ t ∈ arguments, WellFormed names .argument t) →
      WellFormed names .alone (.applied n arguments)
  | nullable {t : TypeRef} :
      WellFormed names .alone t → t.isNullable = false → WellFormed names .alone (.nullable t)
  | function {parameters : List TypeRef} {result : TypeRef} :
      (∀ t ∈ parameters, WellFormed names .alone t) → WellFormed names .alone result →
      WellFormed names .alone (.function parameters result)
  | star : WellFormed names .argument .star
  | projected {variance : Variance} {t : TypeRef} :
      WellFormed names .alone t → WellFormed names .argument (.projected variance t)
  | argument {t : TypeRef} : WellFormed names .alone t → WellFormed names .argument t

theorem WellFormed.mono {names more : ClassName → Prop} {place : Place} {t : TypeRef}
    (h : WellFormed names place t) (hsub : ∀ n, names n → more n) : WellFormed more place t := by
  induction h with
  | named hn => exact .named (hsub _ hn)
  | applied hn hne _ ih => exact .applied (hsub _ hn) hne ih
  | nullable _ ht ih => exact .nullable ih ht
  | function _ _ ihparameters ihresult => exact .function ihparameters ihresult
  | star => exact .star
  | projected _ ih => exact .projected ih
  | argument _ ih => exact .argument ih

/-! ## Renaming the classes of a type -/

section Renaming

variable {names : ClassName → Prop} {f : ClassName → ClassName} {place : Place} {t : TypeRef}

/-- Names that stay as they are leave the type as it is. -/
theorem mapNames_eq_self (h : WellFormed names place t) (hf : ∀ n, names n → f n = n) :
    t.mapNames f = t := by
  have hall : ∀ ts : List TypeRef, (∀ u ∈ ts, u.mapNames f = u) → mapAllNames f ts = ts := by
    intro ts hts
    rw [mapAllNames_eq_map]
    exact (List.map_congr_left hts).trans ts.map_id'
  induction h with
  | named hn => rw [mapNames, hf _ hn]
  | applied hn _ _ ih => rw [mapNames, hf _ hn, hall _ ih]
  | nullable _ _ ih => rw [mapNames, ih]
  | function _ _ ihparameters ihresult => rw [mapNames, hall _ ihparameters, ihresult]
  | star => rfl
  | projected _ ih => rw [mapNames, ih]
  | argument _ ih => exact ih

/-- Names that are written alike leave the text as it is. -/
theorem text_mapNames (h : WellFormed names place t)
    (hf : ∀ n, names n → (f n).canonical = n.canonical) :
    (t.mapNames f).text = t.text := by
  have hall : ∀ ts : List TypeRef, (∀ u ∈ ts, (u.mapNames f).text = u.text) →
      texts (mapAllNames f ts) = texts ts := by
    intro ts hts
    rw [mapAllNames_eq_map, texts_eq_map, texts_eq_map, List.map_map]
    exact List.map_congr_left hts
  induction h with
  | named hn => rw [mapNames, text, text, hf _ hn]
  | applied hn _ _ ih => rw [mapNames, text, text, hf _ hn, hall _ ih]
  | @nullable u _ _ ih =>
      have hfunction : (u.mapNames f).isFunction = u.isFunction := by cases u <;> rfl
      rw [mapNames, text, text, nullableText, nullableText, ih, hfunction]
  | function _ _ ihparameters ihresult => rw [mapNames, text, text, hall _ ihparameters, ihresult]
  | star => rfl
  | projected _ ih => rw [mapNames, text, text, ih]
  | argument _ ih => exact ih

end Renaming

/-! ## Texts are written in the grammar -/

/-- The part of the grammar that the text of a type is. -/
def Place.part : Place → TypeRef → Part
  | .argument, _ => .argument
  | .alone, .nullable _ => .type true
  | .alone, .function _ result => .core (!result.isNullable)
  | .alone, _ => .core false

theorem Written.of_part {s rest : List Char} {t u : TypeRef}
    (h : Written (Place.alone.part t) s u rest) :
    Written (.type t.isNullable) s u rest := by
  cases t with
  | nullable _ => exact h
  | _ => exact .unmarked h

theorem Written.around {marked : Bool} {s rest : List Char} {t : TypeRef}
    (h : Written (.type marked) s t rest) :
    Written .padded s t rest := .padded (Blanks.refl s) h (Blanks.refl rest)

/-- More blanks may stand before a type argument. -/
theorem Written.argument_of_blanks {s s₁ rest : List Char} {t : TypeRef}
    (h : Written .argument s₁ t rest) (hblanks : Blanks s s₁) : Written .argument s t rest := by
  cases h with
  | star hstar hbehind => exact .star (hblanks.trans hstar) hbehind
  | projected hkeyword hc hbefore ht hbehind =>
      exact .projected (hblanks.trans hkeyword) hc hbefore ht hbehind
  | argument ht =>
      cases ht with
      | padded hbefore ht hbehind => exact .argument (.padded (hblanks.trans hbefore) ht hbehind)

theorem arrow_text (s : List Char) : Arrow (") -> ".toList ++ s) s :=
  ⟨_, _, Blanks.refl _, Blanks.one rfl, Blanks.one rfl⟩

section Texts

variable {place : Place} {t : TypeRef}

/-- That the text of a type writes the type in the place it stands in, with its names guessed. -/
def Prints (place : Place) (t : TypeRef) : Prop :=
  ∀ rest, Written (place.part t) (t.text.toList ++ rest) (t.mapNames ClassName.guessed) rest

theorem Prints.alone (h : Prints .alone t) (rest : List Char) :
    Written (.type t.isNullable) (t.text.toList ++ rest) (t.mapNames ClassName.guessed) rest :=
  (h rest).of_part

theorem prints_nullable (h : Prints .alone t) (ht : t.isNullable = false) :
    Prints .alone (.nullable t) := by
  intro rest
  rw [mapNames, text, nullableText]
  have hmark : Blanks ('?' :: rest) ('?' :: rest) := Blanks.refl _
  split
  · -- in parentheses, so that the mark is not taken for that of the result
    rw [String.toList_append, String.toList_append, List.append_assoc, List.append_assoc]
    exact .marked (.grouped (h.alone _).around) hmark
  · rename_i hfunction
    have hpart : Place.alone.part t = .core false := by
      cases t with
      | nullable _ => exact absurd ht (by simp [isNullable])
      | function _ _ => exact absurd rfl hfunction
      | _ => rfl
    rw [String.toList_append, List.append_assoc]
    exact .marked (hpart ▸ h _) hmark

/-- Types printed in a row with commas between them. -/
theorem row_texts {part : Part} {ts : List TypeRef} (hne : ts ≠ [])
    (h : ∀ t ∈ ts, ∀ s rest, Blanks s (t.text.toList ++ rest) →
      Written part s (t.mapNames ClassName.guessed) rest) (rest : List Char) :
    Row ',' (Written part) ((joined ", " (texts ts)).toList ++ rest)
      (mapAllNames ClassName.guessed ts) rest := by
  rw [texts_eq_map, mapAllNames_eq_map]
  exact row_of_joined text (mapNames ClassName.guessed) rfl hne
    (fun t ht rest => h t ht _ rest (Blanks.refl _))
      (fun t ht rest => h t ht _ rest (Blanks.one rfl)) rest

theorem prints_function {parameters : List TypeRef} {result : TypeRef}
    (hparameters : ∀ t ∈ parameters, Prints .alone t) (hresult : Prints .alone result) :
    Prints .alone (.function parameters result) := by
  intro rest
  rw [mapNames, text]
  simp only [String.toList_append, List.append_assoc]
  -- the grammar has a production of its own for no parameters
  by_cases hnil : parameters = []
  · subst hnil
    exact .nullary (arrow_text _) (hresult.alone rest)
  · refine .function (row_texts hnil ?_ _) (arrow_text _) (hresult.alone rest)
    exact fun t ht s rest hs => .padded hs ((hparameters t ht).alone rest) (Blanks.refl rest)

theorem prints_applied {n : ClassName} {arguments : List TypeRef} (hn : n.Spelled)
    (hne : arguments ≠ []) (h : ∀ t ∈ arguments, Prints .argument t) :
    Prints .alone (.applied n arguments) := by
  intro rest
  rw [mapNames, text]
  simp only [String.toList_append, List.append_assoc]
  refine .applied (ClassName.nameAt_canonical hn _) (Blanks.refl _) (row_texts hne ?_ _)
  exact fun t ht s rest hs => (h t ht rest).argument_of_blanks hs

/-- **The text of a type is written in the grammar**, and means the type with its names guessed. -/
theorem prints (h : WellFormed ClassName.Spelled place t) : Prints place t := by
  induction h with
  | named hn => exact fun rest => .named (ClassName.nameAt_canonical hn rest)
  | applied hn hne _ ih => exact prints_applied hn hne ih
  | nullable _ ht ih => exact prints_nullable ih ht
  | function _ _ ihparameters ihresult => exact prints_function ihparameters ihresult
  | star => exact fun rest => .star (Blanks.refl _) (Blanks.refl rest)
  | @projected variance t _ ih =>
      intro rest
      rw [mapNames, text]
      simp only [String.toList_append, List.append_assoc]
      exact .projected (Blanks.refl _) rfl (Blanks.refl _) (ih.alone rest) (Blanks.refl rest)
  | argument _ ih => exact fun rest => .argument (ih.alone rest).around

/-- A type reads back from its text with its names guessed. -/
theorem read_text (h : WellFormed ClassName.Spelled .alone t) :
    read t.text = .ok (t.mapNames ClassName.guessed) := by
  have hwritten := (prints h).alone []
  rw [List.append_nil] at hwritten
  exact read_of_writes hwritten.around

/-- **Reading undoes printing** for every type whose names keep to the convention. -/
theorem read_text_conventional (h : WellFormed ClassName.Conventional .alone t) :
    read t.text = .ok t := by
  rw [read_text (h.mono fun _ hn => hn.toSpelled), mapNames_eq_self h fun _ => ClassName.guessed_eq]

end Texts

/-- A nullable function to a nullable function, with a projected function among the type arguments
and a class named like the keyword of a projection. -/
def nullableFunctions : TypeRef :=
  .nullable (.function
    [.applied ⟨"kotlin.collections", ["Map", "Entry"]⟩
      [.projected .output (.function [.named ⟨"", ["in"]⟩] (.nullable (.named ⟨"", ["in"]⟩))),
        .named ⟨"", ["in"]⟩, .star]]
    (.nullable (.function [] (.nullable (.named ⟨"dev.example", ["mode"]⟩)))))

theorem nullableFunctions_wellFormed :
    WellFormed ClassName.Conventional .alone nullableFunctions := by
  have hentry : ClassName.Conventional ⟨"kotlin.collections", ["Map", "Entry"]⟩ :=
    ⟨⟨by decide, by decide⟩, by decide, by decide⟩
  have hin : WellFormed ClassName.Conventional .alone (.named ⟨"", ["in"]⟩) :=
    .named ⟨⟨by decide, by decide⟩, by decide, by decide⟩
  have hmode : WellFormed ClassName.Conventional .alone (.named ⟨"dev.example", ["mode"]⟩) :=
    .named ⟨⟨by decide, by decide⟩, by decide, by decide⟩
  have hprojected : WellFormed ClassName.Conventional .argument
      (.projected .output (.function [.named ⟨"", ["in"]⟩] (.nullable (.named ⟨"", ["in"]⟩)))) :=
    .projected (.function (List.forall_mem_singleton.mpr hin) (.nullable hin rfl))
  have hparameter := WellFormed.applied hentry (List.cons_ne_nil _ _) (List.forall_mem_cons.mpr
    ⟨hprojected, List.forall_mem_cons.mpr ⟨.argument hin, List.forall_mem_singleton.mpr .star⟩⟩)
  have hresult : WellFormed ClassName.Conventional .alone
      (.nullable (.function [] (.nullable (.named ⟨"dev.example", ["mode"]⟩)))) :=
    .nullable (.function (List.forall_mem_nil _) (.nullable hmode rfl)) rfl
  exact .nullable (.function (List.forall_mem_singleton.mpr hparameter) hresult) rfl

theorem read_nullableFunctions :
    WellFormed ClassName.Conventional .alone nullableFunctions
      ∧ nullableFunctions.text
        = "((kotlin.collections.Map.Entry<out (in) -> in?, in, *>) -> (() -> dev.example.mode?)?)?"
      ∧ read nullableFunctions.text = .ok nullableFunctions :=
  ⟨nullableFunctions_wellFormed, by decide, read_text_conventional nullableFunctions_wellFormed⟩

/-! ## What is read -/

/-- The types that texts write, with class names of a certain kind: all that are well formed, and
those in which parentheses make a nullable type nullable again. -/
inductive Readable (names : ClassName → Prop) : Place → TypeRef → Prop where
  | named {n : ClassName} : names n → Readable names .alone (.named n)
  | applied {n : ClassName} {arguments : List TypeRef} :
      names n → arguments ≠ [] → (∀ t ∈ arguments, Readable names .argument t) →
      Readable names .alone (.applied n arguments)
  | nullable {t : TypeRef} : Readable names .alone t → Readable names .alone (.nullable t)
  | function {parameters : List TypeRef} {result : TypeRef} :
      (∀ t ∈ parameters, Readable names .alone t) → Readable names .alone result →
      Readable names .alone (.function parameters result)
  | star : Readable names .argument .star
  | projected {variance : Variance} {t : TypeRef} :
      Readable names .alone t → Readable names .argument (.projected variance t)
  | argument {t : TypeRef} : Readable names .alone t → Readable names .argument t

/-- What is written is well formed, if no parentheses make a nullable type nullable again. -/
theorem Readable.wellFormed {names : ClassName → Prop} {place : Place} {t : TypeRef}
    (h : Readable names place t) (ht : t.marksTwice = false) : WellFormed names place t := by
  induction h with
  | named hn => exact .named hn
  | applied hn hne _ ih =>
      rw [marksTwice, anyMarksTwice_eq_false_iff] at ht
      exact .applied hn hne fun t hmem => ih t hmem (ht t hmem)
  | nullable _ ih =>
      rw [marksTwice, Bool.or_eq_false_iff] at ht
      exact .nullable (ih ht.2) ht.1
  | function _ _ ihparameters ihresult =>
      rw [marksTwice, Bool.or_eq_false_iff, anyMarksTwice_eq_false_iff] at ht
      exact .function (fun t hmem => ihparameters t hmem (ht.1 t hmem)) (ihresult ht.2)
  | star => exact .star
  | projected _ ih => exact .projected (ih ht)
  | argument _ ih => exact .argument (ih ht)

/-- The place where a part of the grammar stands. -/
def Part.place : Part → Place
  | .argument => .argument
  | .type _ | .core _ | .padded => .alone

mutual

theorem Written.readable {part : Part} {s rest : List Char} {t : TypeRef} :
    Written part s t rest → Readable ClassName.Spelled part.place t
  | .unmarked h => h.readable
  | .marked h _ => .nullable h.readable
  | .nullary _ h => .function (List.forall_mem_nil _) h.readable
  | .function hrow _ h => .function (paddedRow_readable hrow) h.readable
  | .grouped h => h.readable
  | .named hname => .named (ClassName.spelled_of_nameAt hname)
  | .applied hname _ hrow =>
      .applied (ClassName.spelled_of_nameAt hname) hrow.ne_nil (argumentRow_readable hrow)
  | .padded _ h _ => h.readable
  | .star _ _ => .star
  | .projected _ _ _ h _ => .projected h.readable
  | .argument h => .argument h.readable

theorem paddedRow_readable {s rest : List Char} {ts : List TypeRef} :
    Row ',' (Written .padded) s ts rest → ∀ t ∈ ts, Readable ClassName.Spelled .alone t
  | .last h => List.forall_mem_singleton.mpr h.readable
  | .more h hrow => List.forall_mem_cons.mpr ⟨h.readable, paddedRow_readable hrow⟩

theorem argumentRow_readable {s rest : List Char} {ts : List TypeRef} :
    Row ',' (Written .argument) s ts rest → ∀ t ∈ ts, Readable ClassName.Spelled .argument t
  | .last h => List.forall_mem_singleton.mpr h.readable
  | .more h hrow => List.forall_mem_cons.mpr ⟨h.readable, argumentRow_readable hrow⟩

end

end WrapperGen.TypeRef
