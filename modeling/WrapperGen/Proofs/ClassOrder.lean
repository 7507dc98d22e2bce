import Mathlib.Logic.Relation
import WrapperGen.Proofs.Collecting
import WrapperGen.Proofs.KeyWalk

/-!
# Inner classes come in order

Whatever the declarations look like, the inner classes that are collected refer to earlier ones
only, and the members refer to classes that are there. Two declarations with one simple name do not
disturb this: a class that is not taken leaves behind the names of the classes it refers to, which
were offered before it.

The invariant is `Collected.Closed`, kept by every property that is added.
-/

namespace WrapperGen

/-- The class `a` of a set refers to the name `b`. -/
def NestedClassSet.Refers (s : NestedClassSet) (a b : String) : Prop :=
  ∃ c, s.get? a = some c ∧ b ∈ references c.fields

/-- The classes are layered, and the fields refer to some of them. -/
structure Collected.Closed (collected : Collected) : Prop where
  /-- Each class refers to earlier ones only. -/
  layered : Layered collected.nested.classes
  /-- The fields refer to classes that are there. -/
  known : references collected.fields ⊆ collected.nested.names

/-! ## The invariant is kept -/

theorem references_append (fields more : List ConfigField) :
    references (fields ++ more) = references fields ++ references more :=
  List.filterMap_append

theorem Collected.Closed.empty : Collected.Closed {} := ⟨.nil, by simp [references]⟩

/-- A section keeps the invariant, whether or not its class and those inside it are taken. -/
theorem Collected.Closed.addSection {collected inside : Collected} (h : collected.Closed)
    (hinside : inside.Closed) (name className : String) :
    (collected.addSection name className inside).Closed := by
  -- the class is offered last, when everything it refers to is there
  have hinner : references inside.fields ⊆ (collected.nested.merge inside.nested).names :=
    fun n hn => NestedClassSet.mem_names_merge.mpr (Or.inr (hinside.known hn))
  refine ⟨(h.layered.merge hinside.layered).insert hinner, ?_⟩
  intro n hn
  rw [Collected.addSection, references_append, List.mem_append] at hn
  refine NestedClassSet.mem_names_insert.mpr ?_
  rcases hn with hn | hn
  · exact Or.inl (NestedClassSet.mem_names_merge.mpr (Or.inl (h.known hn)))
  · exact Or.inr (by simpa [references] using hn)

namespace Collector

variable {c : Collector}

/-- A property refers to the class of the section entered through it. -/
theorem references_fieldOf? (trail : List DeclarationId) (subscribe : Bool) (p : PropertyId) :
    references (c.fieldOf? trail subscribe p).toList
      = ((c.entered? trail p).map c.classNameOf).toList := by
  unfold fieldOf? entered?
  cases c.member? p with
  | none => rfl
  | some m =>
      dsimp only [Option.bind_some]
      cases m.shape with
      | opens target =>
          dsimp only
          split
          · rfl
          · rfl
      | computed => rfl
      | generic => rfl
      | misplacedMarker => rfl
      | plain => rfl

/-- **Every property keeps the invariant**, if collecting inside the sections
entered establishes it. -/
theorem closed_addProperty {trail : List DeclarationId} {owner : String} {subscribe : Bool}
    {collected : Collected} {p : PropertyId} (h : collected.Closed)
    (hinside : ∀ target ∈ c.source.unmet trail, ∀ id subscribe,
      (c.collectFrom (target :: trail) id subscribe).Closed) :
    (c.addProperty trail owner subscribe collected p).Closed := by
  cases he : c.entered? trail p with
  | some v =>
      obtain ⟨name, heq⟩ := addProperty_of_entered owner subscribe collected he
      rw [heq]
      exact h.addSection (hinside v (mem_unmet_of_entered? he) v _) name _
  | none =>
      have hnested := (addProperty_of_not_entered owner subscribe collected he).1
      refine ⟨by rw [hnested]; exact h.layered, ?_⟩
      rw [hnested, addProperty_fields, references_append, references_fieldOf?, he]
      simpa using h.known

/-- The invariant holds of whatever is collected, at any place. -/
theorem closed_collectFrom (trail : List DeclarationId) :
    ∀ (id : DeclarationId) (subscribe : Bool), (c.collectFrom trail id subscribe).Closed := by
  induction trail using trail_induction c.source with
  | h trail ih =>
    intro id subscribe
    rw [collectFrom_eq_foldl]
    refine List.foldlRecOn _ _ Collected.Closed.empty ?_
    intro collected hc p _
    exact closed_addProperty hc ih

end Collector

/-! ## What the invariant says -/

/-- Following references leads to earlier and earlier places. -/
theorem Layered.transGen_earlier {s : NestedClassSet} (h : Layered s.classes) {a b : String}
    (hab : Relation.TransGen s.Refers a b) :
    ∀ i : Nat, s.names[i]? = some a → ∃ j, j < i ∧ s.names[j]? = some b := by
  have hstep : ∀ {a b : String}, s.Refers a b →
      ∀ i : Nat, s.names[i]? = some a → ∃ j, j < i ∧ s.names[j]? = some b := by
    rintro a b ⟨cls, hget, hb⟩ i hi
    refine h.earlier i cls ?_ b hb
    rw [NestedClassSet.names, List.getElem?_map] at hi
    obtain ⟨cls', hcls', hname⟩ := Option.map_eq_some_iff.mp hi
    have hsame := NestedClassSet.get?_of_mem (List.mem_of_getElem? hcls')
    rw [hname, hget] at hsame
    rw [hcls', hsame]
  induction hab with
  | single hr => exact hstep hr
  | tail _ hr ih =>
      intro i hi
      obtain ⟨j, hj, hjn⟩ := ih i hi
      obtain ⟨k, hk, hkn⟩ := hstep hr j hjn
      exact ⟨k, by omega, hkn⟩

theorem Layered.acyclic {s : NestedClassSet} (h : Layered s.classes) (name : String) :
    ¬ Relation.TransGen s.Refers name name := by
  intro hcycle
  have hmem : name ∈ s.names := by
    obtain ⟨_, ⟨cls, hget, _⟩, _⟩ := Relation.TransGen.head'_iff.mp hcycle
    rw [← NestedClassSet.get?_name hget]
    exact List.mem_map_of_mem (NestedClassSet.get?_mem hget)
  -- the class would stand at an earlier place than its own
  obtain ⟨i, hi, hin⟩ := List.mem_iff_getElem.mp hmem
  obtain ⟨j, hj, hjn⟩ := h.transGen_earlier hcycle i (by rw [List.getElem?_eq_getElem hi, hin])
  have hnodup : s.names.Nodup := s.distinct
  have hij : i = j := by
    refine (List.getElem?_inj hi hnodup).mp ?_
    rw [List.getElem?_eq_getElem hi, hin, hjn]
  omega

/-- Fields and inner classes that are closed, ordered and free of cycles. -/
structure Collected.InOrder (collected : Collected) : Prop where
  /-- No two classes have the same name. -/
  distinct : collected.nested.names.Nodup
  /-- Every section among the members names a class. -/
  members : ∀ field : NestField, .nest field ∈ collected.fields →
  field.className ∈ collected.nested.names
  /-- Every section in a class names a class at an earlier place. -/
  earlier : ∀ (i : Nat) (cls : NestedClass), collected.nested.classes[i]? = some cls →
    ∀ field : NestField, .nest field ∈ cls.fields →
      ∃ j, j < i ∧ collected.nested.names[j]? = some field.className
  /-- No class leads back to itself. -/
  acyclic : ∀ name, ¬ Relation.TransGen collected.nested.Refers name name
  /-- The walk over the keys meets no missing class and none that it is inside of. -/
  keys : Unfolds collected.nested OptionKey.root collected.fields
    (keyPaths collected.fields collected.nested)

/-- **The inner classes of every wrapper are closed and in order.** -/
theorem Collector.collect_inOrder (c : Collector) (root : DeclarationId) (subscribe : Bool) :
    (c.collect root subscribe).InOrder := by
  have h : (c.collect root subscribe).Closed := closed_collectFrom [root] root subscribe
  refine ⟨(c.collect root subscribe).nested.distinct, ?_, ?_, h.layered.acyclic,
    unfolds_keyPaths h.layered h.known⟩
  · intro field hf
    exact h.known (mem_references.mpr ⟨field, hf, rfl⟩)
  · intro i cls hcls field hf
    exact h.layered.earlier i cls hcls _ (mem_references.mpr ⟨field, hf, rfl⟩)

end WrapperGen
