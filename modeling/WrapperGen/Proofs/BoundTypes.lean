import Mathlib.Logic.Function.Iterate
import WrapperGen.Proofs.DumpFaults
import WrapperGen.Proofs.ShortText

/-!
# Types with their parameters bound

A table keeps the type of a property with the type parameters of its owner bound. Binding moves a
bare name from one form to another, at any depth, and the texts of a type do not show it: in full
or shortened, a parameter is written as the class without a package that it was read as
(`text_bind`, `shortText_bind`).

What is read has nothing in it that is not in the grammar (`Grammatical`), so a type is unresolved
only where the dump says so, and it is a type variable only where binding has made it one.
-/

namespace WrapperGen

namespace TypeRef

/-! ## Types that are read -/

/-- A type that is made of the forms in the grammar alone. -/
inductive Grammatical : TypeRef → Prop where
  | named (n : ClassName) : Grammatical (.named n)
  | applied (n : ClassName) {arguments : List TypeRef} :
      (∀ t ∈ arguments, Grammatical t) → Grammatical (.applied n arguments)
  | nullable {t : TypeRef} : Grammatical t → Grammatical (.nullable t)
  | star : Grammatical .star
  | projected (variance : Variance) {t : TypeRef} :
      Grammatical t → Grammatical (.projected variance t)
  | function {parameters : List TypeRef} {result : TypeRef} :
      (∀ t ∈ parameters, Grammatical t) → Grammatical result →
      Grammatical (.function parameters result)

-- by recursion on the derivation, which holds those of the items in its rows

mutual

theorem Written.grammatical {part : Part} {s rest : List Char} {t : TypeRef} :
    Written part s t rest → Grammatical t
  | .unmarked h => h.grammatical
  | .marked h _ => .nullable h.grammatical
  | .nullary _ h => .function (List.forall_mem_nil _) h.grammatical
  | .function hrow _ h => .function (paddedRow_grammatical hrow) h.grammatical
  | .grouped h => h.grammatical
  | .named _ => .named _
  | .applied _ _ hrow => .applied _ (argumentRow_grammatical hrow)
  | .padded _ h _ => h.grammatical
  | .star _ _ => .star
  | .projected _ _ _ h _ => .projected _ h.grammatical
  | .argument h => h.grammatical

theorem paddedRow_grammatical {s rest : List Char} {ts : List TypeRef} :
    Row ',' (Written .padded) s ts rest → ∀ t ∈ ts, Grammatical t
  | .last h => List.forall_mem_singleton.mpr h.grammatical
  | .more h hrow => List.forall_mem_cons.mpr ⟨h.grammatical, paddedRow_grammatical hrow⟩

theorem argumentRow_grammatical {s rest : List Char} {ts : List TypeRef} :
    Row ',' (Written .argument) s ts rest → ∀ t ∈ ts, Grammatical t
  | .last h => List.forall_mem_singleton.mpr h.grammatical
  | .more h hrow => List.forall_mem_cons.mpr ⟨h.grammatical, argumentRow_grammatical hrow⟩

end

theorem grammatical_of_read {text : String} {t : TypeRef} (h : read text = .ok t) : t.Grammatical :=
  (writes_of_read h).grammatical

theorem anyUnresolved_eq_any (ts : List TypeRef) : anyUnresolved ts = ts.any hasUnresolved := by
  induction ts with
  | nil => rfl
  | cons t ts ih => rw [anyUnresolved, ih, List.any_cons]

theorem Grammatical.hasUnresolved_eq_false {t : TypeRef} (h : t.Grammatical) :
    t.hasUnresolved = false := by
  induction h with
  | named _ => rfl
  | applied _ _ ih =>
      rw [hasUnresolved, anyUnresolved_eq_any, List.any_eq_false]
      exact fun t ht => Bool.eq_false_iff.mp (ih t ht)
  | nullable _ ih => exact ih
  | star => rfl
  | projected _ _ ih => exact ih
  | function _ _ ihparameters ihresult =>
      rw [hasUnresolved, anyUnresolved_eq_any, ihresult, Bool.or_false, List.any_eq_false]
      exact fun t ht => Bool.eq_false_iff.mp (ihparameters t ht)

/-! ## Binding -/

variable {ps : List String}

theorem parameter?_eq_some {n : ClassName} {x : String} :
    parameter? ps n = some x ↔ x ∈ ps ∧ n = ⟨"", [x]⟩ := by
  obtain ⟨package, simpleNames⟩ := n
  rw [parameter?]
  constructor
  · intro h
    split at h
    · rename_i simple hsimple
      split at h
      · rename_i hbare
        obtain rfl := Option.some.inj h
        obtain rfl : simpleNames = [simple] := hsimple
        obtain rfl : package = "" := hbare.1
        exact ⟨hbare.2, rfl⟩
      · exact absurd h (by simp)
    · exact absurd h (by simp)
  · rintro ⟨hx, hn⟩
    obtain ⟨rfl, rfl⟩ := ClassName.mk.inj hn
    exact if_pos ⟨rfl, hx⟩

theorem bindAll_eq_map (ts : List TypeRef) : bindAll ps ts = ts.map (bind ps) := by
  induction ts with
  | nil => rfl
  | cons t ts ih => rw [bindAll, ih, List.map_cons]

theorem bind_parameter {x : String} (hx : x ∈ ps) :
    bind ps (.named ⟨"", [x]⟩) = .typeVariable x := by
  rw [bind, parameter?_eq_some.mpr ⟨hx, rfl⟩]

/-- A class is bound to the parameter of its name, or stays. -/
theorem bind_named_cases (ps : List String) (n : ClassName) :
    (∃ x ∈ ps, n = ⟨"", [x]⟩ ∧ bind ps (.named n) = .typeVariable x)
      ∨ bind ps (.named n) = .named n := by
  cases h : parameter? ps n with
  | none => exact Or.inr (by rw [bind, h])
  | some x =>
      obtain ⟨hx, rfl⟩ := parameter?_eq_some.mp h
      exact Or.inl ⟨x, hx, rfl, bind_parameter hx⟩

/-- **Binding twice is binding once.** -/
theorem bind_bind (t : TypeRef) : (t.bind ps).bind ps = t.bind ps := by
  have hall : ∀ ts : List TypeRef, (∀ t ∈ ts, (t.bind ps).bind ps = t.bind ps) →
      bindAll ps (bindAll ps ts) = bindAll ps ts := by
    intro ts hts
    rw [bindAll_eq_map, bindAll_eq_map, List.map_map]
    exact List.map_congr_left hts
  induction t using forms with
  | named n =>
      rcases bind_named_cases ps n with ⟨x, _, _, hbound⟩ | hstays
      · rw [hbound, bind]
      · rw [hstays, hstays]
  | applied n arguments ih => rw [bind, bind, hall _ ih]
  | nullable inner ih => rw [bind, bind, ih]
  | projected variance inner ih => rw [bind, bind, ih]
  | function parameters result ihparameters ihresult =>
      rw [bind, bind, hall _ ihparameters, ihresult]
  | typeVariable _ => rfl
  | star => rfl
  | unresolved _ => rfl
  | verbatim _ => rfl

theorem hasUnresolved_bind (t : TypeRef) : (t.bind ps).hasUnresolved = t.hasUnresolved := by
  have hall : ∀ ts : List TypeRef, (∀ t ∈ ts, (t.bind ps).hasUnresolved = t.hasUnresolved) →
      anyUnresolved (bindAll ps ts) = anyUnresolved ts := by
    intro ts hts
    induction ts with
    | nil => rfl
    | cons t ts ih =>
        rw [List.forall_mem_cons] at hts
        rw [bindAll, anyUnresolved, anyUnresolved, hts.1, ih hts.2]
  induction t using forms with
  | named n =>
      rcases bind_named_cases ps n with ⟨x, _, _, hbound⟩ | hstays
      · rw [hbound]
        rfl
      · rw [hstays]
  | applied n arguments ih => rw [bind, hasUnresolved, hall _ ih, hasUnresolved]
  | nullable inner ih => exact ih
  | projected variance inner ih => exact ih
  | function parameters result ihparameters ihresult =>
      rw [bind, hasUnresolved, hall _ ihparameters, ihresult, hasUnresolved]
  | typeVariable _ => rfl
  | star => rfl
  | unresolved _ => rfl
  | verbatim _ => rfl

/-- **What is read is bound to a type variable** if it is a parameter under some
question marks, and else not. -/
theorem Grammatical.isTypeVariable_bind_iff {t : TypeRef} (h : t.Grammatical) :
    (t.bind ps).isTypeVariable = true
      ↔ ∃ layers x, x ∈ ps ∧ t = TypeRef.nullable^[layers] (.named ⟨"", [x]⟩) := by
  constructor
  · intro hvariable
    induction h with
    | named n =>
        rcases bind_named_cases ps n with ⟨x, hx, rfl, _⟩ | hstays
        · exact ⟨0, x, hx, rfl⟩
        · rw [hstays] at hvariable
          exact absurd hvariable Bool.false_ne_true
    | nullable _ ih =>
        obtain ⟨layers, x, hx, rfl⟩ := ih hvariable
        exact ⟨layers + 1, x, hx, (Function.iterate_succ_apply' TypeRef.nullable layers _).symm⟩
    | applied _ _ _ => exact absurd hvariable Bool.false_ne_true
    | star => exact absurd hvariable Bool.false_ne_true
    | projected _ _ _ => exact absurd hvariable Bool.false_ne_true
    | function _ _ _ _ => exact absurd hvariable Bool.false_ne_true
  · rintro ⟨layers, x, hx, rfl⟩
    clear h
    induction layers with
    | zero =>
        rw [Function.iterate_zero_apply, bind_parameter hx]
        rfl
    | succ layers ih => rwa [Function.iterate_succ_apply', bind, isTypeVariable]

/-! ## The texts of a bound type -/

theorem isFunction_bind (t : TypeRef) : (t.bind ps).isFunction = t.isFunction := by
  cases t with
  | named n =>
      rcases bind_named_cases ps n with ⟨x, _, _, hbound⟩ | hstays
      · rw [hbound]
        rfl
      · rw [hstays]
  | _ => rfl

/-- **Binding does not change the text of a type.** -/
theorem text_bind (t : TypeRef) : (t.bind ps).text = t.text := by
  have hall : ∀ ts : List TypeRef, (∀ t ∈ ts, (t.bind ps).text = t.text) →
      texts (bindAll ps ts) = texts ts := by
    intro ts hts
    rw [bindAll_eq_map, texts_eq_map, texts_eq_map, List.map_map]
    exact List.map_congr_left hts
  induction t using forms with
  | named n =>
      rcases bind_named_cases ps n with ⟨x, _, rfl, hbound⟩ | hstays
      · rw [hbound]
        rfl
      · rw [hstays]
  | applied n arguments ih => rw [bind, text, hall _ ih, text]
  | nullable inner ih => rw [bind, text, ih, text, nullableText, nullableText, isFunction_bind]
  | projected variance inner ih => rw [bind, text, ih, text]
  | function parameters result ihparameters ihresult =>
      rw [bind, text, hall _ ihparameters, ihresult, text]
  | typeVariable _ => rfl
  | star => rfl
  | unresolved _ => rfl
  | verbatim _ => rfl

/-- Only a parameter by itself is looked into before it is bound and not behind. -/
theorem looksInside_bind_cases (ps : List String) (t : TypeRef) :
    Simplifier.looksInside (t.bind ps) = Simplifier.looksInside t
      ∨ ∃ x, t = .named ⟨"", [x]⟩ ∧ t.bind ps = .typeVariable x := by
  cases t with
  | named n =>
      rcases bind_named_cases ps n with ⟨x, _, rfl, hbound⟩ | hstays
      · exact Or.inr ⟨x, rfl, hbound⟩
      · exact Or.inl (by rw [hstays])
  | _ => exact Or.inl rfl

/-- **Binding does not change the short text of a type**, whatever is shortened. -/
theorem shortText_bind (s : Simplifier) (t : TypeRef) : s.text (t.bind ps) = s.text t := by
  -- a parameter is written the same whether or not the root package is covered
  have hparameter : ∀ x : String, s.text (.named ⟨"", [x]⟩) = x := by
    intro x
    rw [Simplifier.text, Simplifier.nameText]
    split
    · rfl
    · rfl
  induction t using forms with
  | named n =>
      rcases bind_named_cases ps n with ⟨x, _, rfl, hbound⟩ | hstays
      · rw [hbound, hparameter]
        rfl
      · rw [hstays]
  | applied n arguments ih =>
      have harguments : s.texts (bindAll ps arguments) = s.texts arguments := by
        rw [bindAll_eq_map, Simplifier.texts_eq_map, Simplifier.texts_eq_map, List.map_map]
        exact List.map_congr_left ih
      rw [bind, Simplifier.text, harguments, Simplifier.text]
  | nullable inner ih =>
      rcases looksInside_bind_cases ps inner with hlooks | ⟨x, rfl, hbound⟩
      · rw [bind, Simplifier.text, Simplifier.text, hlooks, ih]
        split
        · rfl
        · exact text_bind (.nullable inner)
      · rw [bind, hbound, Simplifier.text, Simplifier.text, hparameter]
        rfl
  | projected variance inner _ => exact text_bind (.projected variance inner)
  | function parameters result _ _ => exact text_bind (.function parameters result)
  | typeVariable _ => rfl
  | star => rfl
  | unresolved _ => rfl
  | verbatim _ => rfl

end TypeRef

/-! ## The types in a table -/

/-- The type of a property is unresolved just if the dump says so. -/
theorem hasUnresolved_typeRef (ps : List String) (p : PropertyDump) :
    (p.typeRef ps).hasUnresolved = !p.resolved := by
  rw [PropertyDump.typeRef]
  cases p.resolved with
  | false => rfl
  | true =>
      rw [if_pos rfl]
      cases hread : TypeRef.read p.type with
      | ok type =>
          exact (TypeRef.hasUnresolved_bind type).trans
            (TypeRef.grammatical_of_read hread).hasUnresolved_eq_false
      | error _ => rfl

namespace SymbolTable

variable {dump : SymbolDump} {t : SymbolTable} {i : Nat} {d : DeclarationDump}

theorem isResolved_iff (h : ofDump dump = .ok t) (hd : dump.declarations[i]? = some d) :
    SymbolSource.isResolved { table := t } ⟨i⟩ = true ↔ ∀ p ∈ d.properties, p.resolved = true := by
  obtain ⟨name, _, hentry⟩ := (ofDump_eq_ok.mp h).exists_name hd
  have hentry? : SymbolSource.entry? { table := t } ⟨i⟩ = some _ := hentry
  rw [SymbolSource.isResolved, hentry?]
  dsimp only
  rw [DeclarationEntry.isResolved, List.all_map, List.all_eq_true]
  refine forall₂_congr fun p _ => ?_
  rw [Function.comp_apply, PropertyEntry.ofDump, hasUnresolved_typeRef, Bool.not_not]

/--
**The types of a dump in its table.** A declaration is resolved just if its properties are said to
be. The type of a resolved property is the one that was read with the parameters of the owner bound,
or the text as it was written.

Binding changes no text of any type and does nothing a second time, and of the types that are read
it makes type variables of the parameters, with or without question marks, and of no others.
-/
theorem types_of_dump {dump : SymbolDump} {t : SymbolTable} (h : ofDump dump = .ok t) :
    (∀ i d, dump.declarations[i]? = some d →
        (SymbolSource.isResolved { table := t } ⟨i⟩ = true ↔ ∀ p ∈ d.properties, p.resolved = true))
      ∧ (∀ i j d p, dump.declarations[i]? = some d → d.properties[j]? = some p → p.resolved = true →
        (∀ type, TypeRef.read p.type = .ok type →
            SymbolSource.typeOf { table := t } ⟨⟨i⟩, j⟩ = type.bind d.typeParameters)
          ∧ ∀ e, TypeRef.read p.type = .error e →
            (SymbolSource.typeOf { table := t } ⟨⟨i⟩, j⟩).text = p.type
              ∧ ∀ s : Simplifier, s.text (SymbolSource.typeOf { table := t } ⟨⟨i⟩, j⟩) = p.type)
      ∧ (∀ (ps : List String) (type : TypeRef), (type.bind ps).text = type.text
          ∧ (∀ s : Simplifier, s.text (type.bind ps) = s.text type)
          ∧ (type.bind ps).bind ps = type.bind ps)
      ∧ ∀ (ps : List String) (text : String) (type : TypeRef), TypeRef.read text = .ok type →
          ((type.bind ps).isTypeVariable = true
            ↔ ∃ layers x, x ∈ ps ∧ type = TypeRef.nullable^[layers] (.named ⟨"", [x]⟩)) := by
  refine ⟨fun i d hd => isResolved_iff h hd, fun i j d p hd hp hresolved => ?_, fun ps type => ?_,
    fun ps text type hread => (TypeRef.grammatical_of_read hread).isTypeVariable_bind_iff⟩
  · rw [((answersFor_of_ofDump h).property i j d p hd hp).2.1, PropertyDump.typeRef,
      if_pos hresolved]
    constructor
    · intro type hread
      rw [hread]
    · intro e hread
      rw [hread]
      exact ⟨rfl, fun _ => rfl⟩
  · exact ⟨TypeRef.text_bind type, fun s => TypeRef.shortText_bind s type, TypeRef.bind_bind type⟩

/-- A class with a type parameter: a property of its type, one of lists of it, one whose type is
outside the grammar, and one of a type that is not resolved. -/
def boxOfT : SymbolDump := ⟨[{
  name := "dev.example.Box"
  typeParameters := ["T"]
  properties := [
    { name := "item", type := "T?" },
    { name := "items", type := "kotlin.collections.List<T?>" },
    { name := "callback", type := "suspend () -> T" },
    { name := "other", type := "com.elsewhere.Missing", resolved := false }] }]⟩

theorem types_of_boxOfT : ∃ t, ofDump boxOfT = .ok t
    ∧ SymbolSource.isResolved { table := t } ⟨0⟩ = false
    ∧ SymbolSource.typeOf { table := t } ⟨⟨0⟩, 0⟩ = .nullable (.typeVariable "T")
    ∧ (SymbolSource.typeOf { table := t } ⟨⟨0⟩, 2⟩).text = "suspend () -> T" := by
  obtain ⟨t, ht⟩ : ∃ t, ofDump boxOfT = .ok t := ⟨_, rfl⟩
  obtain ⟨hresolved, htype, _⟩ := types_of_dump ht
  refine ⟨t, ht, ?_, (htype 0 0 _ _ rfl rfl rfl).1 _ rfl, ((htype 0 2 _ _ rfl rfl rfl).2 _ rfl).1⟩
  rw [← Bool.not_eq_true, hresolved 0 _ rfl]
  decide

end SymbolTable

end WrapperGen
