import WrapperGen.Proofs.NameIndex

/-!
# What a dump makes, or what is wrong with it

A dump makes a table if each declaration has a name that can be read and that no other has.
Otherwise it makes none, and the error is that of the first declaration at fault
(`ofDump_eq_error_iff`): declarations behind it are not looked at, whatever is wrong with them.

A table that is made answers for the dump: the handle of a place is that of the declaration written
there, and handles of no place are answered as if there were nothing (`AnswersFor`).
-/

namespace WrapperGen

/-! ## Declarations at fault -/

/-- The declaration at a place has a name that cannot be read, or that an
earlier one has as well. -/
inductive SymbolDump.FaultAt (dump : SymbolDump) (i : Nat) : LoadError → Prop where
  | unreadable {d : DeclarationDump} {cause : TypeSyntaxError} :
      dump.declarations[i]? = some d → ClassName.read d.name = .error cause →
      dump.FaultAt i (.name d.name cause)
  | taken {d earlier : DeclarationDump} {name other : ClassName} {j : Nat} :
      dump.declarations[i]? = some d → ClassName.read d.name = .ok name →
      j < i → dump.declarations[j]? = some earlier → ClassName.read earlier.name = .ok other →
      other.canonical = name.canonical → dump.FaultAt i (.duplicate name.canonical)

variable {dump : SymbolDump} {i : Nat} {e e' : LoadError}

/-- There is one thing wrong with a declaration at most. -/
theorem SymbolDump.FaultAt.unique (h : dump.FaultAt i e) (h' : dump.FaultAt i e') : e = e' := by
  cases h with
  | unreadable hd hread =>
      cases h' with
      | unreadable hd' hread' =>
          obtain rfl := Option.some.inj (hd.symm.trans hd')
          rw [Except.error.inj (hread.symm.trans hread')]
      | taken hd' hread' _ _ _ _ =>
          obtain rfl := Option.some.inj (hd.symm.trans hd')
          exact absurd (hread.symm.trans hread') (by simp)
  | taken hd hread _ _ _ _ =>
      cases h' with
      | unreadable hd' hread' =>
          obtain rfl := Option.some.inj (hd.symm.trans hd')
          exact absurd (hread'.symm.trans hread) (by simp)
      | taken hd' hread' _ _ _ _ =>
          obtain rfl := Option.some.inj (hd.symm.trans hd')
          rw [Except.ok.inj (hread.symm.trans hread')]

/-- What is wrong with a declaration is so whatever comes behind it. -/
theorem SymbolDump.FaultAt.take {n : Nat} (h : dump.FaultAt i e) (hi : i < n) :
    SymbolDump.FaultAt ⟨dump.declarations.take n⟩ i e := by
  have hkept : ∀ {j d}, j < n → dump.declarations[j]? = some d →
      (dump.declarations.take n)[j]? = some d :=
    fun hj hd => (List.getElem?_take_of_lt hj).trans hd
  cases h with
  | unreadable hd hread => exact .unreadable (hkept hi hd) hread
  | taken hd hread hj hearlier hother hsame =>
      exact .taken (hkept hi hd) hread hj (hkept (Nat.lt_trans hj hi) hearlier) hother hsame

namespace SymbolTable

variable {t : SymbolTable}

/-- The declaration at a place has a name that can be read, and makes the entry at that place. -/
theorem Entries.exists_name {dumps : List DeclarationDump} {entries : List DeclarationEntry}
    {d : DeclarationDump} (h : Entries dumps entries) (hd : dumps[i]? = some d) :
    ∃ name, ClassName.read d.name = .ok name
      ∧ entries[i]? = some ⟨⟨name, d.kind, d.source⟩, d.annotations,
        d.properties.map (PropertyEntry.ofDump d.typeParameters)⟩ := by
  obtain ⟨entry, hentry, hmade⟩ := h.exists_entry hd
  obtain ⟨name, hname, rfl⟩ := DeclarationEntry.ofDump_eq_ok.mp hmade
  exact ⟨name, hname, hentry⟩

theorem Entries.getElem?_eq_none {dumps : List DeclarationDump} {entries : List DeclarationEntry}
    (h : Entries dumps entries) (hd : dumps[i]? = none) : entries[i]? = none := by
  rw [List.getElem?_eq_none_iff] at hd ⊢
  rwa [← h.length_eq]

/-- A declaration that is not added behind others is at fault. -/
theorem faultAt_of_addDump {before : List DeclarationDump} (after : List DeclarationDump)
    {d : DeclarationDump} (hentries : Entries before t.declarations) (h : t.addDump d = .error e) :
    SymbolDump.FaultAt ⟨before ++ d :: after⟩ before.length e := by
  have hd : (before ++ d :: after)[before.length]? = some d := by simp
  rw [addDump, DeclarationEntry.ofDump] at h
  cases hread : ClassName.read d.name with
  | error cause =>
      rw [hread] at h
      obtain rfl := Except.error.inj h
      exact .unreadable hd hread
  | ok name =>
      rw [hread] at h
      dsimp only at h
      rw [add] at h
      split at h
      · rename_i hmem
        obtain rfl := Except.error.inj h
        obtain ⟨entry, hentry, hsame⟩ := List.mem_map.mp hmem
        obtain ⟨j, hj⟩ := List.mem_iff_getElem?.mp hentry
        obtain ⟨earlier, hearlier, hmade⟩ := hentries.exists_declaration hj
        obtain ⟨other, hother, rfl⟩ := DeclarationEntry.ofDump_eq_ok.mp hmade
        have hlt : j < before.length := (List.getElem?_eq_some_iff.mp hearlier).1
        exact .taken hd hread hlt ((List.getElem?_append_left hlt).trans hearlier) hother hsame
      · exact absurd h (by simp)

/-- Declarations are added up to the first that is refused. -/
theorem exists_refused {dumps : List DeclarationDump} (h : t.addAll dumps = .error e) :
    ∃ before d after t', dumps = before ++ d :: after ∧ t.addAll before = .ok t'
      ∧ t'.addDump d = .error e := by
  induction dumps generalizing t with
  | nil => exact absurd h (by simp [addAll])
  | cons d dumps ih =>
      rw [addAll] at h
      split at h
      · rename_i hadd
        obtain rfl := Except.error.inj h
        exact ⟨[], d, dumps, t, rfl, rfl, hadd⟩
      · rename_i t₁ hadd
        obtain ⟨before, d', after, t', rfl, hbefore, hrefused⟩ := ih h
        exact ⟨d :: before, d', after, t', rfl, by rw [addAll, hadd]; exact hbefore, hrefused⟩

/-- A dump that makes no table has a declaration at fault, and those before it make one. -/
theorem exists_faultAt (h : ofDump dump = .error e) :
    ∃ i t', ofDump ⟨dump.declarations.take i⟩ = .ok t' ∧ dump.FaultAt i e := by
  obtain ⟨before, d, after, t', hsplit, hbefore, hrefused⟩ := exists_refused h
  have htake : dump.declarations.take before.length = before := by rw [hsplit, List.take_left]
  have hloaded : ofDump ⟨before⟩ = .ok t' := hbefore
  refine ⟨before.length, t', by rw [htake, hloaded], ?_⟩
  have hfault := faultAt_of_addDump after (ofDump_eq_ok.mp hloaded) hrefused
  rwa [← hsplit] at hfault

/-- In a dump that makes a table no declaration is at fault. -/
theorem not_faultAt (h : ofDump dump = .ok t) : ¬ dump.FaultAt i e := by
  have hentries := ofDump_eq_ok.mp h
  intro hfault
  cases hfault with
  | unreadable hd hread =>
      obtain ⟨name, hname, _⟩ := hentries.exists_name hd
      exact absurd (hread.symm.trans hname) (by simp)
  | @taken d earlier name other j hd hread hj hearlier hother hsame =>
      obtain ⟨name', hname, hentry⟩ := hentries.exists_name hd
      obtain ⟨other', hother', hfirst⟩ := hentries.exists_name hearlier
      obtain rfl := Except.ok.inj (hread.symm.trans hname)
      obtain rfl := Except.ok.inj (hother.symm.trans hother')
      have hplaces : (⟨j⟩ : DeclarationId) = ⟨i⟩ :=
        SymbolSource.eq_of_canonical_eq (s := { table := t }) hfirst hentry hsame
      exact absurd (congrArg DeclarationId.index hplaces) (Nat.ne_of_lt hj)

/-- **The error of a dump** is that of the first declaration at fault. -/
theorem ofDump_eq_error_iff :
    ofDump dump = .error e ↔ ∃ i, dump.FaultAt i e ∧ ∀ j < i, ∀ e', ¬ dump.FaultAt j e' := by
  have hfirst : ∀ {e}, ofDump dump = .error e → ∃ i, dump.FaultAt i e
      ∧ ∀ j < i, ∀ e', ¬ dump.FaultAt j e' := by
    intro e h
    obtain ⟨i, t', hloaded, hfault⟩ := exists_faultAt h
    exact ⟨i, hfault, fun j hj e' hearlier => not_faultAt hloaded (hearlier.take hj)⟩
  refine ⟨hfirst, ?_⟩
  rintro ⟨i, hfault, hleast⟩
  cases h : ofDump dump with
  | ok t => exact absurd hfault (not_faultAt h)
  | error e' =>
      obtain ⟨i', hfault', hleast'⟩ := hfirst h
      rcases Nat.lt_trichotomy i i' with hlt | rfl | hlt
      · exact absurd hfault (hleast' i hlt e)
      · rw [hfault'.unique hfault]
      · exact absurd hfault' (hleast i' hlt e')

/-- A dump makes a table if its names can be read and none is there twice. -/
theorem exists_ofDump_iff :
    (∃ t, ofDump dump = .ok t) ↔ ∃ names : List ClassName,
      dump.declarations.map (ClassName.read ·.name) = names.map .ok
        ∧ (names.map ClassName.canonical).Nodup := by
  constructor
  · rintro ⟨t, h⟩
    refine ⟨t.declarations.map (·.info.name), ?_, by rw [List.map_map]; exact t.distinct⟩
    have hentries := ofDump_eq_ok.mp h
    refine List.ext_getElem? fun i => ?_
    rw [List.map_map, List.getElem?_map, List.getElem?_map]
    cases hd : dump.declarations[i]? with
    | none =>
        rw [hentries.getElem?_eq_none hd]
        rfl
    | some d =>
        obtain ⟨name, hname, hentry⟩ := hentries.exists_name hd
        rw [hentry]
        exact congrArg some hname
  · rintro ⟨names, hnames, hdistinct⟩
    have hread : ∀ {j : Nat} {d : DeclarationDump}, dump.declarations[j]? = some d →
        ∃ name, names[j]? = some name ∧ ClassName.read d.name = .ok name := by
      intro j d hd
      have hplace := congrArg (·[j]?) hnames
      simp only [List.getElem?_map, hd] at hplace
      obtain ⟨name, hname, heq⟩ := Option.map_eq_some_iff.mp hplace.symm
      exact ⟨name, hname, heq.symm⟩
    -- a dump that is refused has a first fault, and each kind of fault is ruled out
    cases h : ofDump dump with
    | ok t => exact ⟨t, rfl⟩
    | error e =>
        obtain ⟨i, _, _, hfault⟩ := exists_faultAt h
        cases hfault with
        | unreadable hd hunread =>
            obtain ⟨name, _, hname⟩ := hread hd
            exact absurd (hunread.symm.trans hname) (by simp)
        | @taken d earlier name other j hd hname hj hearlier hother hsame =>
            obtain ⟨name', hat, hname'⟩ := hread hd
            obtain ⟨other', hatother, hother'⟩ := hread hearlier
            obtain rfl := Except.ok.inj (hname.symm.trans hname')
            obtain rfl := Except.ok.inj (hother.symm.trans hother')
            -- no two of the names are alike, so both declarations are the same one
            obtain rfl : other = name :=
              List.inj_on_of_nodup_map hdistinct (List.mem_of_getElem? hatother)
                (List.mem_of_getElem? hat) hsame
            have hlt : j < names.length := (List.getElem?_eq_some_iff.mp hatother).1
            have hplaces : j = i :=
              (List.getElem?_inj hlt (hdistinct.of_map _)).mp (hatother.trans hat.symm)
            exact absurd hplaces (Nat.ne_of_lt hj)

end SymbolTable

/-! ## What a table answers -/

/-- A source answers for a dump: what it says of the handle of a place is what is written
there, a name stands for the declaration that has it, and of handles that stand for no place
there is nothing to say. -/
structure SymbolSource.AnswersFor (s : SymbolSource) (dump : SymbolDump) : Prop where
  declaration : ∀ (i : Nat) (d : DeclarationDump), dump.declarations[i]? = some d →
    ∃ name, ClassName.read d.name = .ok name
      ∧ s.declaration? ⟨i⟩ = some ⟨name, d.kind, d.source⟩
      ∧ s.annotations (.declaration ⟨i⟩) = d.annotations
      ∧ s.properties ⟨i⟩ = (List.range d.properties.length).map (PropertyId.mk ⟨i⟩)
  property : ∀ (i j : Nat) (d : DeclarationDump) (p : PropertyDump),
    dump.declarations[i]? = some d →
    d.properties[j]? = some p →
    s.property? ⟨⟨i⟩, j⟩ = some ⟨p.name, p.mutable, p.backingField⟩
      ∧ s.typeOf ⟨⟨i⟩, j⟩ = p.typeRef d.typeParameters
      ∧ s.annotations (.property ⟨⟨i⟩, j⟩) = p.annotations
  resolves : ∀ (name : ClassName) (i : Nat), s.resolve? name = some ⟨i⟩
    ↔ ∃ d written, dump.declarations[i]? = some d ∧ ClassName.read d.name = .ok written
      ∧ written.canonical = name.canonical
  noDeclaration : ∀ id : DeclarationId, dump.declarations.length ≤ id.index →
    s.declaration? id = none ∧ s.properties id = [] ∧ s.isResolved id = false
      ∧ s.annotations (.declaration id) = .empty
  noProperty : ∀ p : PropertyId,
    (∀ d, dump.declarations[p.declaration.index]? = some d → d.properties.length ≤ p.index) →
    s.property? p = none ∧ s.typeOf p
      = .unresolved ("<unknown property " ++ toString p.index ++ ">")
      ∧ s.annotations (.property p) = .empty

namespace SymbolTable

variable {t : SymbolTable}

/-- What a table has on a property of a declaration is what is written there. -/
theorem propertyEntry?_of_declaration (h : Entries dump.declarations t.declarations)
    {p : PropertyId} {d : DeclarationDump} (hd : dump.declarations[p.declaration.index]? = some d) :
    SymbolSource.propertyEntry? { table := t } p
      = d.properties[p.index]?.map (PropertyEntry.ofDump d.typeParameters) := by
  obtain ⟨name, _, hentry⟩ := h.exists_name hd
  unfold SymbolSource.propertyEntry? SymbolSource.entry?
  dsimp only
  rw [hentry, Option.bind_some, List.getElem?_map]

/-- A table has nothing on properties that are not written. -/
theorem propertyEntry?_eq_none (h : Entries dump.declarations t.declarations) {p : PropertyId}
    (hp : ∀ d, dump.declarations[p.declaration.index]? = some d → d.properties.length ≤ p.index) :
    SymbolSource.propertyEntry? { table := t } p = none := by
  cases hd : dump.declarations[p.declaration.index]? with
  | some d =>
      rw [propertyEntry?_of_declaration h hd, List.getElem?_eq_none (hp d hd), Option.map_none]
  | none =>
      unfold SymbolSource.propertyEntry? SymbolSource.entry?
      dsimp only
      rw [h.getElem?_eq_none hd, Option.bind_none]

/-- A name stands for the declaration that has it. -/
theorem resolve?_iff_written (h : Entries dump.declarations t.declarations)
    {name : ClassName} {i : Nat} :
    SymbolSource.resolve? { table := t } name = some ⟨i⟩
      ↔ ∃ d written, dump.declarations[i]? = some d ∧ ClassName.read d.name = .ok written
        ∧ written.canonical = name.canonical := by
  rw [SymbolSource.resolve?_eq_some]
  constructor
  · rintro ⟨entry, hentry, hsame⟩
    obtain ⟨d, hd, hmade⟩ := h.exists_declaration hentry
    obtain ⟨written, hread, rfl⟩ := DeclarationEntry.ofDump_eq_ok.mp hmade
    exact ⟨d, written, hd, hread, hsame⟩
  · rintro ⟨d, written, hd, hread, hsame⟩
    obtain ⟨other, hother, hentry⟩ := h.exists_name hd
    obtain rfl := Except.ok.inj (hread.symm.trans hother)
    exact ⟨_, hentry, hsame⟩

/-- A table that is made from a dump answers for it. -/
theorem answersFor_of_ofDump (h : ofDump dump = .ok t) :
    SymbolSource.AnswersFor { table := t } dump where
  declaration i d hd := by
    obtain ⟨name, hname, hentry⟩ := (ofDump_eq_ok.mp h).exists_name hd
    have hentry? : SymbolSource.entry? { table := t } ⟨i⟩ = some _ := hentry
    refine ⟨name, hname, ?_, ?_, ?_⟩
    · rw [SymbolSource.declaration?, if_neg List.not_mem_nil, hentry?]
      rfl
    · rw [SymbolSource.annotations, hentry?]
    · rw [SymbolSource.properties, hentry?]
      simp only [List.length_map]
  property i j d p hd hp := by
    have hentry : SymbolSource.propertyEntry? { table := t } ⟨⟨i⟩, j⟩ = _ :=
      propertyEntry?_of_declaration (ofDump_eq_ok.mp h) hd
    rw [hp, Option.map_some] at hentry
    refine ⟨?_, ?_, ?_⟩
    · rw [SymbolSource.property?, if_neg List.not_mem_nil, hentry]
      rfl
    · rw [SymbolSource.typeOf, hentry]
      rfl
    · rw [SymbolSource.annotations, hentry]
      rfl
  resolves _ _ := resolve?_iff_written (ofDump_eq_ok.mp h)
  noDeclaration id hid := by
    have hnone : SymbolSource.entry? { table := t } id = none :=
      (ofDump_eq_ok.mp h).getElem?_eq_none (List.getElem?_eq_none hid)
    refine ⟨?_, ?_, ?_, ?_⟩
    · rw [SymbolSource.declaration?, if_neg List.not_mem_nil, hnone]
      rfl
    · rw [SymbolSource.properties, hnone]
    · rw [SymbolSource.isResolved, hnone]
    · rw [SymbolSource.annotations, hnone]
  noProperty p hp := by
    have hnone := propertyEntry?_eq_none (ofDump_eq_ok.mp h) hp
    refine ⟨?_, ?_, ?_⟩
    · rw [SymbolSource.property?, if_neg List.not_mem_nil, hnone]
      rfl
    · rw [SymbolSource.typeOf, hnone]
    · rw [SymbolSource.annotations, hnone]

/--
**A dump makes a table that answers for it, or fails at the first declaration at fault.**

It makes one exactly if all names can be read and no two are the same. Building the table with
an index of the names comes to the same: it fails alike, and what the index says of a name is
what the declarations say.
-/
theorem ofDump_exact (dump : SymbolDump) :
    ((∃ t, ofDump dump = .ok t) ↔ ∃ names : List ClassName,
        dump.declarations.map (ClassName.read ·.name) = names.map .ok
          ∧ (names.map ClassName.canonical).Nodup)
      ∧ (∀ e, ofDump dump = .error e ↔ ∃ i, dump.FaultAt i e ∧ ∀ j < i, ∀ e', ¬ dump.FaultAt j e')
      ∧ (∀ t, ofDump dump = .ok t → SymbolSource.AnswersFor { table := t } dump
          ∧ ∃ x, IndexedTable.ofDump dump = .ok x ∧ x.InStep t
            ∧ ∀ name : ClassName, x.byName.get? name.canonical
              = SymbolSource.resolve? { table := t } name)
      ∧ ∀ e, ofDump dump = .error e → IndexedTable.ofDump dump = .error e := by
  have hlike := IndexedTable.endsLike_ofDump dump
  refine ⟨exists_ofDump_iff, fun e => ofDump_eq_error_iff, fun t h => ⟨answersFor_of_ofDump h, ?_⟩,
    fun e h => ?_⟩
  · rw [h] at hlike
    generalize IndexedTable.ofDump dump = indexed at hlike
    cases hlike with
    | ok hstep => exact ⟨_, rfl, hstep, fun name => hstep.get?_eq_resolve? rfl name⟩
  · rw [h] at hlike
    generalize IndexedTable.ofDump dump = indexed at hlike
    cases hlike with
    | error _ => rfl

/-- Two classes, and behind them the first once more, written with a slash, and a
name that cannot be read. -/
def collidingNames : SymbolDump :=
  ⟨[{ name := "a.B" },
    { name := "c.D", properties := [{ name := "flag", type := "kotlin.Boolean" }] },
    { name := "a/B" }, { name := "a.<B>" }]⟩

theorem ofDump_exact_collidingNames :
    (∃ t, ofDump ⟨collidingNames.declarations.take 2⟩ = .ok t
        ∧ SymbolSource.AnswersFor { table := t } ⟨collidingNames.declarations.take 2⟩)
      ∧ ∃ i, collidingNames.FaultAt i (.duplicate "a.B")
        ∧ ∀ j < i, ∀ e', ¬ collidingNames.FaultAt j e' := by
  obtain ⟨t, h⟩ := (ofDump_exact ⟨collidingNames.declarations.take 2⟩).1.mpr
    ⟨[⟨"a", ["B"]⟩, ⟨"c", ["D"]⟩], rfl, by decide⟩
  exact ⟨⟨t, h, ((ofDump_exact _).2.2.1 t h).1⟩, ((ofDump_exact collidingNames).2.1 _).mp rfl⟩

end SymbolTable

end WrapperGen
