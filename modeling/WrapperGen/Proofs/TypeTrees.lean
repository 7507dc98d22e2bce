import WrapperGen.TypeRef

/-!
# Types as trees

A class has types for arguments and a function has types for parameters, so a fact about all
types is proved for each form from what holds of the types inside it, lists of them
included. The functions on types go through such lists by themselves; here they are the
functions mapped over the list.
-/

namespace WrapperGen.TypeRef

/-- Induction on the forms of a type. -/
@[elab_as_elim]
theorem forms {motive : TypeRef → Prop} (named : ∀ n, motive (.named n))
    (applied : ∀ n arguments, (∀ t ∈ arguments, motive t) → motive (.applied n arguments))
    (nullable : ∀ inner, motive inner → motive (.nullable inner))
    (typeVariable : ∀ name, motive (.typeVariable name)) (star : motive .star)
    (projected : ∀ variance inner, motive inner → motive (.projected variance inner))
    (function : ∀ parameters result, (∀ t ∈ parameters, motive t) → motive result →
      motive (.function parameters result))
    (unresolved : ∀ text, motive (.unresolved text)) (verbatim : ∀ text, motive (.verbatim text))
    (t : TypeRef) :
    motive t :=
  -- the recursor has a second motive, for the lists of types
  @TypeRef.rec motive (fun ts => ∀ t ∈ ts, motive t) named applied nullable typeVariable star
    projected function
    unresolved verbatim (List.forall_mem_nil _)
      (fun _ _ ht hts => List.forall_mem_cons.mpr ⟨ht, hts⟩) t

theorem texts_eq_map (ts : List TypeRef) : texts ts = ts.map text := by
  induction ts with
  | nil => rfl
  | cons t ts ih => rw [texts, ih, List.map_cons]

/-! ## Nullable types -/

/-- Whether a type is a nullable one. -/
def isNullable : TypeRef → Bool
  | nullable _ => true
  | _ => false

mutual

/-- Whether a nullable type is made nullable again anywhere in a type. -/
def marksTwice : TypeRef → Bool
  | nullable inner => inner.isNullable || inner.marksTwice
  | applied _ arguments => anyMarksTwice arguments
  | projected _ inner => inner.marksTwice
  | function parameters result => anyMarksTwice parameters || result.marksTwice
  | named _ | typeVariable _ | star | unresolved _ | verbatim _ => false

/-- Whether a nullable type is made nullable again in one of several types. -/
def anyMarksTwice : List TypeRef → Bool
  | [] => false
  | t :: ts => t.marksTwice || anyMarksTwice ts

end

theorem anyMarksTwice_eq_false_iff (ts : List TypeRef) :
    anyMarksTwice ts = false ↔ ∀ t ∈ ts, t.marksTwice = false := by
  induction ts with
  | nil => simp [anyMarksTwice]
  | cons t ts ih => rw [anyMarksTwice, Bool.or_eq_false_iff, ih, List.forall_mem_cons]

/-! ## Class names -/

mutual

/-- A type with each of its class names replaced. -/
def mapNames (f : ClassName → ClassName) : TypeRef → TypeRef
  | named n => named (f n)
  | applied n arguments => applied (f n) (mapAllNames f arguments)
  | nullable inner => nullable (inner.mapNames f)
  | projected variance inner => projected variance (inner.mapNames f)
  | function parameters result => function (mapAllNames f parameters) (result.mapNames f)
  | t@(typeVariable _) | t@star | t@(unresolved _) | t@(verbatim _) => t

/-- Several types with each of their class names replaced. -/
def mapAllNames (f : ClassName → ClassName) : List TypeRef → List TypeRef
  | [] => []
  | t :: ts => t.mapNames f :: mapAllNames f ts

end

theorem mapAllNames_eq_map (f : ClassName → ClassName) (ts : List TypeRef) :
    mapAllNames f ts = ts.map (mapNames f) := by
  induction ts with
  | nil => rfl
  | cons t ts ih => rw [mapAllNames, ih, List.map_cons]

end WrapperGen.TypeRef
