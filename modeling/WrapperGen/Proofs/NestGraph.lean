import WrapperGen.Collect

/-!
# The graph of sections

What the properties of declarations are, said of the source alone: a property is stored or not, and
a stored one may open the section of a declaration. These are the edges of a graph. `Chain` follows
them without restraint; `SimplePath` meets no declaration twice, and is written innermost
declaration first, the way the trail of the collector is.

The two halves meet in `chain_of_noSelfReference`: where no edge leads back onto a simple
path, every chain is one.
-/

namespace WrapperGen

/-- The type names a declaration that is known and can be a section. -/
def SymbolSource.NamesSection (s : SymbolSource) (type : TypeRef) (v : DeclarationId) : Prop :=
  ∃ name info, type.className? = some name ∧ s.resolve? name = some v
    ∧ s.declaration? v = some info ∧ info.kind.isClassLike = true

theorem SymbolSource.section?_eq_some {s : SymbolSource} {type : TypeRef} {v : DeclarationId} :
    s.section? type = some v ↔ s.NamesSection type v := by
  unfold section? NamesSection
  simp only [Option.bind_eq_bind, Option.bind_eq_some_iff, Option.ite_none_right_eq_some,
    Option.some.injEq]
  constructor
  · rintro ⟨name, hname, id, hid, info, hinfo, hlike, rfl⟩
    exact ⟨name, info, hname, hid, hinfo, hlike⟩
  · rintro ⟨name, info, hname, hid, hinfo, hlike⟩
    exact ⟨name, hname, v, hid, info, hinfo, hlike, rfl⟩

theorem SymbolSource.mem_handles {s : SymbolSource} {id : DeclarationId} :
    id ∈ s.handles ↔ id.index < s.table.size := by
  simp only [handles, List.mem_map, List.mem_range]
  constructor
  · rintro ⟨i, hi, rfl⟩
    exact hi
  · exact fun h => ⟨id.index, h, rfl⟩

theorem SymbolSource.mem_unmet {s : SymbolSource} {trail : List DeclarationId}
    {id : DeclarationId} :
    id ∈ s.unmet trail ↔ id ∈ s.handles ∧ id ∉ trail := by
  simp [unmet]

/-- What a name resolves to is a handle of the table. -/
theorem SymbolSource.mem_handles_of_resolve? {s : SymbolSource} {name : ClassName}
    {v : DeclarationId} (h : s.resolve? name = some v) : v ∈ s.handles := by
  rw [resolve?, Option.map_eq_some_iff] at h
  obtain ⟨i, hi, rfl⟩ := h
  exact mem_handles.mpr (List.findIdx?_eq_some_iff_findIdx_eq.mp hi).1

theorem SymbolSource.NamesSection.mem_handles {s : SymbolSource} {type : TypeRef}
    {v : DeclarationId} (h : s.NamesSection type v) : v ∈ s.handles := by
  obtain ⟨name, _, _, hid, _⟩ := h
  exact mem_handles_of_resolve? hid

namespace Collector

variable {c : Collector}

/-! ## Properties -/

/-- A property that holds a value of a definite type. -/
structure Stored (c : Collector) (p : PropertyId) (info : PropertyInfo) : Prop where
  known : c.source.property? p = some info
  backed : info.hasBackingField = true
  concrete : (c.source.typeOf p).isTypeVariable = false

/-- A stored property marked as a section, whose type names the section `v`. -/
structure Nests (c : Collector) (p : PropertyId) (info : PropertyInfo) (v : DeclarationId) : Prop
    extends c.Stored p info where
  marked : c.source.isMarked (.property p) c.markers.nest = true
  names : c.source.NamesSection (c.source.typeOf p) v

/-- A stored property marked as a section, whose type names none. -/
structure Misplaced (c : Collector) (p : PropertyId) (info : PropertyInfo) : Prop
    extends c.Stored p info where
  marked : c.source.isMarked (.property p) c.markers.nest = true
  unnamed : ∀ v, ¬ c.source.NamesSection (c.source.typeOf p) v

/-- Whether a property is marked for subscription. -/
def isHooked (c : Collector) (p : PropertyId) : Bool :=
  c.source.isMarked (.property p) c.markers.hook

theorem Nests.target_unique {p : PropertyId} {info info' : PropertyInfo} {v v' : DeclarationId}
    (h : c.Nests p info v) (h' : c.Nests p info' v') : v = v' :=
  Option.some.inj
    ((SymbolSource.section?_eq_some.mpr h.names).symm.trans
      (SymbolSource.section?_eq_some.mpr h'.names))

/-- What a property gives: nothing, the section it opens, or a value. -/
theorem stored_cases (c : Collector) (p : PropertyId) :
    (∀ info, ¬ c.Stored p info) ∨ (∃ info v, c.Nests p info v)
      ∨ ∃ info, c.Stored p info ∧ ∀ v, ¬ c.Nests p info v := by
  by_cases hstored : ∃ info, c.Stored p info
  · obtain ⟨info, hinfo⟩ := hstored
    by_cases hnests : ∃ v, c.Nests p info v
    · obtain ⟨v, hv⟩ := hnests
      exact Or.inr (Or.inl ⟨info, v, hv⟩)
    · exact Or.inr (Or.inr ⟨info, hinfo, fun v hv => hnests ⟨v, hv⟩⟩)
  · exact Or.inl fun info hinfo => hstored ⟨info, hinfo⟩

/-- What a known property is, by what the source says of it. -/
inductive HasShape (c : Collector) (p : PropertyId) (info : PropertyInfo) :
    PropertyShape → Prop where
  | computed :
      c.source.property? p = some info → info.hasBackingField = false → HasShape c p info .computed
  | generic : c.source.property? p = some info → info.hasBackingField = true →
      (c.source.typeOf p).isTypeVariable = true → HasShape c p info .generic
  | opens {v : DeclarationId} : c.Nests p info v → HasShape c p info (.opens v)
  | misplacedMarker : c.Misplaced p info → HasShape c p info .misplacedMarker
  | plain : c.Stored p info → c.source.isMarked (.property p) c.markers.nest = false →
      HasShape c p info .plain

theorem HasShape.known {p : PropertyId} {info : PropertyInfo} {shape : PropertyShape}
    (h : c.HasShape p info shape) : c.source.property? p = some info := by
  cases h with
  | computed h _ => exact h
  | generic h _ _ => exact h
  | opens h => exact h.known
  | misplacedMarker h => exact h.known
  | plain h _ => exact h.known

theorem HasShape.shapeOf_eq {p : PropertyId} {info : PropertyInfo} {shape : PropertyShape}
    (h : c.HasShape p info shape) : c.shapeOf p info = shape := by
  cases h with
  | computed _ hb => simp [shapeOf, hb]
  | generic _ hb ht => simp [shapeOf, hb, ht]
  | opens h =>
      simp [shapeOf, h.backed, h.concrete, h.marked, SymbolSource.section?_eq_some.mpr h.names]
  | misplacedMarker h =>
      have hnone : c.source.section? (c.source.typeOf p) = none := by
        rw [Option.eq_none_iff_forall_ne_some]
        exact fun v hv => h.unnamed v (SymbolSource.section?_eq_some.mp hv)
      simp [shapeOf, h.backed, h.concrete, h.marked, hnone]
  | plain h hm => simp [shapeOf, h.backed, h.concrete, hm]

/-- Every known property has its shape. -/
theorem hasShape_shapeOf {p : PropertyId} {info : PropertyInfo}
    (hk : c.source.property? p = some info) :
    c.HasShape p info (c.shapeOf p info) := by
  suffices ∃ shape, c.HasShape p info shape by
    obtain ⟨shape, h⟩ := this
    rw [h.shapeOf_eq]
    exact h
  cases hb : info.hasBackingField with
  | false => exact ⟨_, .computed hk hb⟩
  | true =>
    cases ht : (c.source.typeOf p).isTypeVariable with
    | true => exact ⟨_, .generic hk hb ht⟩
    | false =>
      have hs : c.Stored p info := ⟨hk, hb, ht⟩
      cases hm : c.source.isMarked (.property p) c.markers.nest with
      | false => exact ⟨_, .plain hs hm⟩
      | true =>
        cases ho : c.source.section? (c.source.typeOf p) with
        | some v => exact ⟨_, .opens ⟨hs, hm, SymbolSource.section?_eq_some.mp ho⟩⟩
        | none =>
          refine ⟨_, .misplacedMarker ⟨hs, hm, fun v hv => ?_⟩⟩
          rw [SymbolSource.section?_eq_some.mpr hv] at ho
          exact absurd ho (by simp)

/-! ## Edges, chains and simple paths -/

/-- The property `p` of `u` opens the section `v`. -/
def NestEdge (c : Collector) (u : DeclarationId) (p : PropertyId) (v : DeclarationId) : Prop :=
  p ∈ c.source.properties u ∧ ∃ info, c.Nests p info v

/-- Properties that lead from section to section, from `u` to the last of them. -/
inductive Chain (c : Collector) : DeclarationId → List PropertyId → DeclarationId → Prop where
  | nil {u : DeclarationId} : Chain c u [] u
  | cons {u v w : DeclarationId} {p : PropertyId} {ps : List PropertyId} :
      c.NestEdge u p v → Chain c v ps w → Chain c u (p :: ps) w

/-- What chains lead to. -/
def Reaches (c : Collector) (u v : DeclarationId) : Prop := ∃ ps, c.Chain u ps v

/--
`SimplePath c start path`: the path goes on from `start` along edges, and none of the declarations
that it adds was on it before. The innermost declaration stands first.
-/
inductive SimplePath (c : Collector) (start : List DeclarationId) : List DeclarationId → Prop where
  | here : SimplePath c start start
  | enter {u v : DeclarationId} {p : PropertyId} {around : List DeclarationId} :
      SimplePath c start (u :: around) → c.NestEdge u p v → v ∉ u :: around →
      SimplePath c start (v :: u :: around)

theorem Chain.append {u v w : DeclarationId} {ps qs : List PropertyId} (h : c.Chain u ps v)
    (h' : c.Chain v qs w) : c.Chain u (ps ++ qs) w := by
  induction h with
  | nil => exact h'
  | cons he _ ih => exact .cons he (ih h')

theorem Chain.snoc {u v w : DeclarationId} {ps : List PropertyId} {p : PropertyId}
    (h : c.Chain u ps v) (he : c.NestEdge v p w) : c.Chain u (ps ++ [p]) w :=
  h.append (.cons he .nil)

/-- A path may be entered one declaration earlier. -/
theorem SimplePath.before {u v : DeclarationId} {p : PropertyId} {around path : List DeclarationId}
    (he : c.NestEdge u p v) (hv : v ∉ u :: around) (h : c.SimplePath (v :: u :: around) path) :
    c.SimplePath (u :: around) path := by
  induction h with
  | here => exact .enter .here he hv
  | enter _ he' hv' ih => exact .enter ih he' hv'

/-- A path ends where it starts, or goes on through a first edge. -/
theorem SimplePath.first {u : DeclarationId} {around path : List DeclarationId}
    (h : c.SimplePath (u :: around) path) :
    path = u :: around
      ∨ ∃ p v, c.NestEdge u p v ∧ v ∉ u :: around ∧ c.SimplePath (v :: u :: around) path := by
  induction h with
  | here => exact Or.inl rfl
  | enter _ he hv ih =>
      rcases ih with heq | ⟨p', v', he', hv', hpath⟩
      · obtain ⟨rfl, rfl⟩ := List.cons.inj heq
        exact Or.inr ⟨_, _, he, hv, .here⟩
      · exact Or.inr ⟨p', v', he', hv', .enter hpath he hv⟩

theorem SimplePath.nodup {start path : List DeclarationId} (h : c.SimplePath start path)
    (hs : start.Nodup) : path.Nodup := by
  induction h with
  | here => exact hs
  | enter _ _ hv ih => exact List.nodup_cons.mpr ⟨hv, ih⟩

theorem SimplePath.trans {start middle path : List DeclarationId} (h : c.SimplePath start middle)
    (h' : c.SimplePath middle path) : c.SimplePath start path := by
  induction h' with
  | here => exact h
  | enter _ he hv ih => exact .enter ih he hv

/-- What lies around the start lies around the end. -/
theorem SimplePath.around_subset {u v : DeclarationId} {around rest : List DeclarationId}
    (h : c.SimplePath (u :: around) (v :: rest)) : around ⊆ rest := by
  generalize hp : v :: rest = path at h
  induction h generalizing v rest with
  | here =>
      obtain ⟨rfl, rfl⟩ := List.cons.inj hp
      exact fun _ hx => hx
  | enter _ _ _ ih =>
      obtain ⟨rfl, rfl⟩ := List.cons.inj hp
      exact fun x hx => List.mem_cons_of_mem _ (ih rfl hx)

/-- Every declaration of a path has its own path, and a chain leads from it to the end. -/
theorem SimplePath.through {root u v : DeclarationId} {around : List DeclarationId}
    (h : c.SimplePath [root] (u :: around)) (hv : v ∈ u :: around) :
    ∃ rest ps, c.SimplePath [root] (v :: rest) ∧ c.Chain v ps u := by
  generalize hp : u :: around = path at h hv
  induction h generalizing u around with
  | here =>
      obtain ⟨rfl, rfl⟩ := List.cons.inj hp
      obtain rfl := List.mem_singleton.mp hv
      exact ⟨[], [], .here, .nil⟩
  | @enter w u' p around' hpath he hnew ih =>
      obtain ⟨rfl, rfl⟩ := List.cons.inj hp
      rcases List.mem_cons.mp hv with rfl | hv
      · exact ⟨_, [], .enter hpath he hnew, .nil⟩
      · obtain ⟨rest, ps, hrest, hchain⟩ := ih rfl hv
        exact ⟨rest, ps ++ [p], hrest, hchain.snoc he⟩

theorem SimplePath.reaches {root u : DeclarationId} {around : List DeclarationId}
    (h : c.SimplePath [root] (u :: around)) : c.Reaches root u := by
  generalize hp : u :: around = path at h
  induction h generalizing u around with
  | here =>
      obtain ⟨rfl, rfl⟩ := List.cons.inj hp
      exact ⟨[], .nil⟩
  | enter _ he _ ih =>
      obtain ⟨rfl, rfl⟩ := List.cons.inj hp
      obtain ⟨ps, hps⟩ := ih rfl
      exact ⟨_, hps.snoc he⟩

/-- **What a chain leads to, a simple path leads to.** Where the chain comes back onto the path, the
path is cut off there. -/
theorem Reaches.simplePath {root u : DeclarationId} (h : c.Reaches root u) :
    ∃ around, c.SimplePath [root] (u :: around) := by
  obtain ⟨ps, hps⟩ := h
  suffices ∀ (w : DeclarationId) (around : List DeclarationId), c.SimplePath [root] (w :: around) →
      c.Chain w ps u → ∃ around, c.SimplePath [root] (u :: around) from this root [] .here hps
  clear hps
  intro w around hw hchain
  induction hchain generalizing around with
  | nil => exact ⟨around, hw⟩
  | @cons w v _ p _ he _ ih =>
      by_cases hv : v ∈ w :: around
      · -- the path is cut off at `v`
        obtain ⟨rest, _, hrest, _⟩ := hw.through hv
        exact ih rest hrest
      · exact ih _ (.enter hw he hv)

/-! ## Edges that lead back -/

/-- No edge leads from the end of a simple path back onto it. -/
def NoSelfReference (c : Collector) (root : DeclarationId) : Prop :=
  ∀ (u v : DeclarationId) (p : PropertyId) (around : List DeclarationId),
    c.SimplePath [root] (u :: around) → c.NestEdge u p v → v ∉ u :: around

/-- **Where no edge leads back, every chain is a simple path**, whatever path it goes on from. -/
theorem chain_of_noSelfReference {root u v : DeclarationId} {around : List DeclarationId}
    {ps : List PropertyId} (hno : c.NoSelfReference root)
    (hpath : c.SimplePath [root] (u :: around)) (h : c.Chain u ps v) :
    ∃ rest, c.SimplePath [root] (v :: rest) ∧ (ps ≠ [] → u ∈ rest) ∧ around ⊆ rest := by
  induction h generalizing around with
  | nil => exact ⟨around, hpath, fun h => absurd rfl h, fun _ hx => hx⟩
  | @cons u v w p ps he _ ih =>
      obtain ⟨rest, hrest, _, hsub⟩ := ih (.enter hpath he (hno u v p around hpath he))
      refine ⟨rest, hrest, fun _ => hsub List.mem_cons_self, fun x hx => ?_⟩
      exact hsub (List.mem_cons_of_mem _ hx)

/-- A cycle of edges that chains from `root` lead to. -/
def HasCycle (c : Collector) (root : DeclarationId) : Prop :=
  ∃ u ps, c.Reaches root u ∧ ps ≠ [] ∧ c.Chain u ps u

/-- Edges lead back onto simple paths just where there are cycles. -/
theorem noSelfReference_iff {root : DeclarationId} :
    c.NoSelfReference root ↔ ¬ c.HasCycle root := by
  constructor
  · rintro hno ⟨u, ps, hreach, hne, hchain⟩
    -- going round the cycle would give a simple path that meets `u` twice
    obtain ⟨around, hpath⟩ := hreach.simplePath
    obtain ⟨rest, hrest, hmem, _⟩ := chain_of_noSelfReference hno hpath hchain
    have hnodup := hrest.nodup (List.pairwise_singleton _ root)
    exact (List.nodup_cons.mp hnodup).1 (hmem hne)
  · intro hno u v p around hpath he hv
    -- the edge back to `v` closes the part of the path from there on
    obtain ⟨rest, ps, hrest, hchain⟩ := hpath.through hv
    exact hno ⟨v, ps ++ [p], hrest.reaches, by simp, hchain.snoc he⟩

end Collector

end WrapperGen
