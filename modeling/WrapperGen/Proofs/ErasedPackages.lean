import Mathlib.Data.List.Forall2
import WrapperGen.Proofs.ShortText

/-!
# What a short text leaves out

Shortening is described by what it erases. `Erased drops t u` says that `u` is the type `t` without
the packages that are dropped: of a class reference and its arguments, and of a class reference that
is made nullable, and nowhere else. Whether a package is dropped is read off its segments (`Drops`),
where shortening compares texts: `kotlin` is the start of `kotlinx` as a text, and not as segments.

The short text of a type is then the full text of the type it is erased to (`text_of_erased`).
-/

namespace WrapperGen.Simplifier

open Text

/-! ## Packages that are dropped -/

/-- A package that is dropped: the wrapper's own, or one whose first segments
are those of a namespace. -/
def Drops (s : Simplifier) (package : String) : Prop :=
  package = s.package ∨ ∃ nameSpace ∈ s.namespaces, parts '.' nameSpace <+: parts '.' package

instance (s : Simplifier) (package : String) : Decidable (s.Drops package) :=
  inferInstanceAs (Decidable (_ ∨ _))

/-- A text goes on behind another with a dot if the other and the dot are its first characters. -/
theorem isPrefixOf_dotted_iff {x y : String} :
    (x.toList ++ ['.']).isPrefixOf y.toList = true ↔ ∃ rest, y = x ++ "." ++ rest := by
  have hdot : ".".toList = ['.'] := rfl
  rw [List.isPrefixOf_iff_prefix]
  constructor
  · rintro ⟨rest, hrest⟩
    refine ⟨String.ofList rest, ?_⟩
    rw [← String.toList_inj, String.toList_append, String.toList_append, hdot,
      String.toList_ofList, hrest]
  · rintro ⟨rest, rfl⟩
    rw [String.toList_append, String.toList_append, hdot]
    exact List.prefix_append _ _

theorem isWithin_iff {package nameSpace : String} :
    isWithin package nameSpace = true ↔ parts '.' nameSpace <+: parts '.' package := by
  have hdot : ".".toList = ['.'] := rfl
  rw [isWithin, Bool.or_eq_true, beq_iff_eq, isPrefixOf_dotted_iff, parts_prefix_iff hdot]

theorem covers_iff {s : Simplifier} {package : String} :
    s.covers package = true ↔ s.Drops package := by
  rw [covers, Drops, Bool.or_eq_true, beq_iff_eq, List.any_eq_true]
  simp only [isWithin_iff]

/-! ## Types without their dropped packages -/

/-- A class name without its package, if that is dropped. -/
inductive NameErased (drops : String → Prop) (n : ClassName) : ClassName → Prop
  | dropped : drops n.package → NameErased drops n ⟨"", n.simpleNames⟩
  | kept : ¬ drops n.package → NameErased drops n n

/-- A type without the packages that are dropped. Packages are dropped of class references, of
the arguments they are applied to, and of class references right below a question mark; any other
type is left as it is. -/
inductive Erased (drops : String → Prop) : TypeRef → TypeRef → Prop
  | named {n m : ClassName} : NameErased drops n m → Erased drops (.named n) (.named m)
  | applied {n m : ClassName} {ts us : List TypeRef} :
      NameErased drops n m → List.Forall₂ (Erased drops) ts us →
      Erased drops (.applied n ts) (.applied m us)
  | nullableNamed {n : ClassName} {u : TypeRef} : Erased drops (.named n) u →
      Erased drops (.nullable (.named n)) (.nullable u)
  | nullableApplied {n : ClassName} {ts : List TypeRef} {u : TypeRef} :
      Erased drops (.applied n ts) u →
      Erased drops (.nullable (.applied n ts)) (.nullable u)
  | nullableOther {inner : TypeRef} : (∀ n, inner ≠ .named n) → (∀ n ts, inner ≠ .applied n ts) →
      Erased drops (.nullable inner) (.nullable inner)
  | function {ts : List TypeRef} {t : TypeRef} : Erased drops (.function ts t) (.function ts t)
  | projected {variance : Variance} {t : TypeRef} :
      Erased drops (.projected variance t) (.projected variance t)
  | star : Erased drops .star .star
  | typeVariable {name : String} : Erased drops (.typeVariable name) (.typeVariable name)
  | unresolved {text : String} : Erased drops (.unresolved text) (.unresolved text)
  | verbatim {text : String} : Erased drops (.verbatim text) (.verbatim text)

variable {s : Simplifier}

theorem nameErased_iff {n m : ClassName} : NameErased s.Drops n m ↔ m = s.eraseName n := by
  rw [eraseName]
  constructor
  · intro h
    cases h with
    | dropped hdrops => rw [if_pos (covers_iff.mpr hdrops)]
    | kept hkept => rw [if_neg (hkept ∘ covers_iff.mp)]
  · rintro rfl
    by_cases hcovers : s.covers n.package = true
    · rw [if_pos hcovers]
      exact .dropped (covers_iff.mp hcovers)
    · rw [if_neg hcovers]
      exact .kept (hcovers ∘ covers_iff.mpr)

/-- Below a question mark, packages are dropped where shortening looks inside. -/
theorem erased_nullable_iff {drops : String → Prop} {inner v : TypeRef} :
    Erased drops (.nullable inner) v
      ↔ if looksInside inner then ∃ u, Erased drops inner u ∧ v = .nullable u
        else v = .nullable inner := by
  constructor
  · intro h
    cases h with
    | nullableNamed hu => exact ⟨_, hu, rfl⟩
    | nullableApplied hu => exact ⟨_, hu, rfl⟩
    | nullableOther hnamed happlied =>
        cases inner with
        | named n => exact absurd rfl (hnamed n)
        | applied n ts => exact absurd rfl (happlied n ts)
        | _ => rfl
  · intro h
    cases inner with
    | named n =>
        obtain ⟨u, hu, rfl⟩ := h
        exact .nullableNamed hu
    | applied n ts =>
        obtain ⟨u, hu, rfl⟩ := h
        exact .nullableApplied hu
    | _ =>
        obtain rfl := h
        exact .nullableOther (fun _ h => nomatch h) (fun _ _ h => nomatch h)

/-- Types that are related one by one by equality to a function's results are its results. -/
theorem forall₂_iff_eq_map {α β : Type} {R : α → β → Prop} {f : α → β} {xs : List α} {ys : List β}
    (h : ∀ x ∈ xs, ∀ y, R x y ↔ y = f x) : List.Forall₂ R xs ys ↔ ys = xs.map f := by
  induction xs generalizing ys with
  | nil => rw [List.forall₂_nil_left_iff, List.map_nil]
  | cons x xs ih =>
      rw [List.forall_mem_cons] at h
      rw [List.forall₂_cons_left_iff, List.map_cons]
      constructor
      · rintro ⟨y, rest, hy, hrest, rfl⟩
        rw [(h.1 y).mp hy, (ih h.2).mp hrest]
      · rintro rfl
        exact ⟨f x, xs.map f, (h.1 _).mpr rfl, (ih h.2).mpr rfl, rfl⟩

/-- The type without its covered packages is the one that the rules of `Erased` lead to. -/
theorem erased_iff {t u : TypeRef} : Erased s.Drops t u ↔ u = s.erase t := by
  induction t using TypeRef.forms generalizing u with
  | named n =>
      rw [erase]
      constructor
      · rintro ⟨hm⟩
        rw [nameErased_iff.mp hm]
      · rintro rfl
        exact .named (nameErased_iff.mpr rfl)
  | applied n arguments ih =>
      have harguments : ∀ {us}, List.Forall₂ (Erased s.Drops) arguments us
          ↔ us = s.eraseAll arguments := by
        intro us
        rw [eraseAll_eq_map]
        exact forall₂_iff_eq_map fun t ht u => ih t ht
      rw [erase]
      constructor
      · rintro (_ | ⟨hm, hus⟩)
        rw [nameErased_iff.mp hm, harguments.mp hus]
      · rintro rfl
        exact .applied (nameErased_iff.mpr rfl) (harguments.mpr rfl)
  | nullable inner ih =>
      rw [erased_nullable_iff, erase]
      split
      · constructor
        · rintro ⟨v, hv, rfl⟩
          rw [ih.mp hv]
        · rintro rfl
          exact ⟨s.erase inner, ih.mpr rfl, rfl⟩
      · rfl
  -- shortening does not look into the other types, and they erase to themselves
  | typeVariable name => exact ⟨fun h => by cases h; rfl, fun h => h ▸ .typeVariable⟩
  | star => exact ⟨fun h => by cases h; rfl, fun h => h ▸ .star⟩
  | projected variance inner _ => exact ⟨fun h => by cases h; rfl, fun h => h ▸ .projected⟩
  | function parameters result _ _ => exact ⟨fun h => by cases h; rfl, fun h => h ▸ .function⟩
  | unresolved text => exact ⟨fun h => by cases h; rfl, fun h => h ▸ .unresolved⟩
  | verbatim text => exact ⟨fun h => by cases h; rfl, fun h => h ▸ .verbatim⟩

/--
**The short text of a type is the full text of the type without its dropped packages.** Each type is
erased to exactly one, in the places that `Erased` names, and the packages that shortening covers
are those that are dropped.
-/
theorem text_of_erased (s : Simplifier) :
    (∀ package, s.covers package = true ↔ s.Drops package)
      ∧ ∀ t, (∃! u, Erased s.Drops t u) ∧ ∀ u, Erased s.Drops t u → s.text t = u.text := by
  refine ⟨fun _ => covers_iff,
    fun t => ⟨⟨s.erase t, erased_iff.mpr rfl, fun u hu => erased_iff.mp hu⟩, ?_⟩⟩
  intro u hu
  rw [erased_iff.mp hu, text_erase]

/-- A table of jobs, with a function below it that keeps its packages. -/
def jobTable : TypeRef :=
  .nullable (.applied ⟨"kotlin.collections", ["Map"]⟩
    [.nullable (.named ⟨"kotlinx.coroutines", ["Job"]⟩),
      .function [] (.named ⟨"kotlin", ["Unit"]⟩)])

/-- `kotlin` is dropped as a package, and stays in front of `kotlinx` and inside a function type. -/
theorem text_of_erased_jobTable :
    ∃ u, Erased insideExample.Drops jobTable u
      ∧ u.text = "Map<kotlinx.coroutines.Job?, () -> kotlin.Unit>?"
      ∧ insideExample.text jobTable = u.text := by
  have hdropped : insideExample.Drops "kotlin.collections" := by decide
  have hkept : ¬ insideExample.Drops "kotlinx.coroutines" := by decide
  have herased : Erased insideExample.Drops jobTable _ :=
    .nullableApplied (.applied (.dropped hdropped)
      (.cons (.nullableNamed (.named (.kept hkept))) (.cons .function .nil)))
  exact ⟨_, herased, by rfl, ((text_of_erased insideExample).2 _).2 _ herased⟩

end WrapperGen.Simplifier
