import Mathlib.Data.List.Forall2
import Mathlib.Data.List.Nodup
import WrapperGen.Proofs.NameSpelling
import WrapperGen.Symbols.Source

/-!
# Tables that are loaded

A dump makes a table exactly when its declarations make entries that have distinct names, and
the table then holds these entries in their order (`ofDump_eq_ok`). So the place of a
declaration in the dump is its handle. As the names are distinct, a name finds the one
declaration that has it (`resolve?_eq_some`).
-/

namespace WrapperGen

/-- What stands at one place of two related lists is related. -/
theorem getElem?_of_forall₂ {α β : Type} {S : α → β → Prop} {xs : List α} {ys : List β}
    (h : List.Forall₂ S xs ys) :
    ∀ i : Nat, Option.Rel S xs[i]? ys[i]? := by
  induction h with
  | nil => exact fun _ => .none
  | cons hxy _ ih =>
    intro i
    cases i with
    | zero => exact .some hxy
    | succ i => exact ih i

/-! ## Entries -/

/-- A declaration of a dump makes an entry when its name can be read. -/
theorem DeclarationEntry.ofDump_eq_ok {d : DeclarationDump} {entry : DeclarationEntry} :
    DeclarationEntry.ofDump d = .ok entry ↔ ∃ name, ClassName.read d.name = .ok name
      ∧ entry = ⟨⟨name, d.kind, d.source⟩, d.annotations,
        d.properties.map (PropertyEntry.ofDump d.typeParameters)⟩ := by
  rw [ofDump]
  cases ClassName.read d.name with
  | error cause => simp
  | ok name => simp [eq_comm]

namespace SymbolSource

variable {s : SymbolSource} {u v : DeclarationId} {d e : DeclarationEntry}

/-- A declaration is known by its canonical name. -/
theorem eq_of_canonical_eq (hu : s.entry? u = some d) (hv : s.entry? v = some e)
    (heq : d.canonical = e.canonical) :
    u = v := by
  obtain ⟨hlt, _⟩ := List.getElem?_eq_some_iff.mp hu
  have hindex : u.index = v.index := by
    refine (List.getElem?_inj (by rwa [List.length_map]) s.table.distinct).mp ?_
    rw [List.getElem?_map, List.getElem?_map, show s.table.declarations[u.index]? = some d from hu,
      show s.table.declarations[v.index]? = some e from hv]
    exact congrArg some heq
  cases u
  cases v
  exact congrArg DeclarationId.mk hindex

/-- **A name finds the declaration that has it.** -/
theorem resolve?_eq_some {name : ClassName} :
    s.resolve? name = some v ↔ ∃ d, s.entry? v = some d ∧ d.canonical = name.canonical := by
  rw [resolve?, Option.map_eq_some_iff]
  constructor
  · rintro ⟨i, hi, rfl⟩
    obtain ⟨hlt, hname, _⟩ := List.findIdx?_eq_some_iff_getElem.mp hi
    exact ⟨_, List.getElem?_eq_getElem hlt, by simpa using hname⟩
  · rintro ⟨d, hd, hname⟩
    have hfound :
        (s.table.declarations.findIdx? fun d => d.canonical == name.canonical).isSome := by
      rw [List.findIdx?_isSome, List.any_eq_true]
      exact ⟨d, List.mem_of_getElem? hd, by simpa using hname⟩
    obtain ⟨i, hi⟩ := Option.isSome_iff_exists.mp hfound
    obtain ⟨hlt, hsame, _⟩ := List.findIdx?_eq_some_iff_getElem.mp hi
    have hother : s.entry? ⟨i⟩ = some s.table.declarations[i] := List.getElem?_eq_getElem hlt
    exact ⟨i, hi,
      eq_of_canonical_eq hother hd ((by simpa using hsame : _ = name.canonical).trans hname.symm)⟩

/-- Looking up a name takes no more than the names. -/
theorem resolve?_eq (s : SymbolSource) (name : ClassName) :
    s.resolve? name = (s.table.names.findIdx? (· == name.canonical)).map DeclarationId.mk := by
  rw [resolve?, SymbolTable.names, List.findIdx?_map]
  rfl

end SymbolSource

/-! ## Dumps and tables -/

namespace SymbolTable

/-- A table that is made from a dump. -/
def Loaded (t : SymbolTable) : Prop := ∃ dump, ofDump dump = .ok t

theorem spelled_of_read {text : String} {name : ClassName} (h : ClassName.read text = .ok name) :
    name.Spelled := by
  obtain ⟨_, hname, _⟩ := nameAt_of_read h
  exact ClassName.spelled_of_nameAt hname

/-- The entries that are made from declarations of a dump. -/
def Entries (dumps : List DeclarationDump) (entries : List DeclarationEntry) : Prop :=
  List.Forall₂ (fun dump entry => DeclarationEntry.ofDump dump = .ok entry) dumps entries

theorem addDump_eq_ok {t t' : SymbolTable} {dump : DeclarationDump} : t.addDump dump = .ok t'
    ↔ ∃ entry, DeclarationEntry.ofDump dump = .ok entry
      ∧ t'.declarations = t.declarations ++ [entry] := by
  rw [addDump]
  cases hentry : DeclarationEntry.ofDump dump with
  | error e => simp
  | ok entry =>
      dsimp only
      rw [add]
      constructor
      · intro h
        split at h
        · exact absurd h (by simp)
        · exact ⟨entry, rfl, by rw [← Except.ok.inj h]⟩
      · rintro ⟨_, heq, ht⟩
        obtain rfl := Except.ok.inj heq
        -- the name is new, as it stands in the longer table
        have hdistinct := t'.distinct
        rw [ht, List.map_append, List.nodup_append] at hdistinct
        rw [dif_neg fun hmem => hdistinct.2.2 _ hmem _ (by simp) rfl]
        cases t'
        cases ht
        rfl

theorem addAll_eq_ok {t t' : SymbolTable} {dumps : List DeclarationDump} : t.addAll dumps = .ok t'
    ↔ ∃ entries, Entries dumps entries ∧ t'.declarations = t.declarations ++ entries := by
  induction dumps generalizing t with
  | nil =>
      rw [addAll]
      constructor
      · intro h
        exact ⟨[], .nil, by rw [← Except.ok.inj h, List.append_nil]⟩
      · rintro ⟨_, hentries, ht⟩
        cases hentries
        cases t
        cases t'
        rw [List.append_nil] at ht
        cases ht
        rfl
  | cons dump dumps ih =>
      rw [addAll]
      constructor
      · intro h
        split at h
        · exact absurd h (by simp)
        · rename_i t₁ hadd
          obtain ⟨entry, hentry, ht₁⟩ := addDump_eq_ok.mp hadd
          obtain ⟨entries, hentries, ht⟩ := ih.mp h
          exact ⟨entry :: entries, .cons hentry hentries,
            by rw [ht, ht₁, List.append_assoc, List.singleton_append]⟩
      · rintro ⟨_, hentries, ht⟩
        cases hentries with
        | @cons _ entry _ entries hentry hentries =>
            -- the final table has no name twice, so none of the tables before it has
            have hdistinct : ((t.declarations ++ [entry]).map DeclarationEntry.canonical).Nodup :=
              t'.distinct.sublist ((List.Sublist.map _) (by rw [ht]; simp))
            have hadd : t.addDump dump = .ok ⟨_, hdistinct⟩ :=
              addDump_eq_ok.mpr ⟨entry, hentry, rfl⟩
            rw [hadd]
            exact ih.mpr ⟨entries, hentries, by rw [ht, List.append_assoc, List.singleton_append]⟩

/-- **The table of a dump** holds the entries of its declarations. -/
theorem ofDump_eq_ok {t : SymbolTable} {dump : SymbolDump} :
    ofDump dump = .ok t ↔ Entries dump.declarations t.declarations := by
  rw [ofDump, addAll_eq_ok]
  constructor
  · rintro ⟨entries, hentries, ht⟩
    rw [ht]
    exact hentries
  · exact fun h => ⟨_, h, rfl⟩

/-- **A table is loaded when its entries are those of a dump**: it holds no name twice. -/
theorem loaded_iff {t : SymbolTable} : t.Loaded ↔ ∃ dumps, Entries dumps t.declarations :=
  ⟨fun ⟨dump, hdump⟩ => ⟨dump.declarations, ofDump_eq_ok.mp hdump⟩,
    fun ⟨dumps, hentries⟩ => ⟨⟨dumps⟩, ofDump_eq_ok.mpr hentries⟩⟩

/-- The declaration at a place makes the entry at that place. -/
theorem Entries.exists_entry {dumps : List DeclarationDump}
    {entries : List DeclarationEntry} {i : Nat} {d : DeclarationDump} (h : Entries dumps entries)
    (hd : dumps[i]? = some d) :
    ∃ entry, entries[i]? = some entry ∧ DeclarationEntry.ofDump d = .ok entry := by
  have hrel := getElem?_of_forall₂ h i
  rw [hd] at hrel
  generalize entries[i]? = found at hrel
  cases hrel with
  | some hmade => exact ⟨_, rfl, hmade⟩

/-- The entry at a place is made from the declaration at that place. -/
theorem Entries.exists_declaration {dumps : List DeclarationDump}
    {entries : List DeclarationEntry} {i : Nat} {entry : DeclarationEntry}
    (h : Entries dumps entries) (hentry : entries[i]? = some entry) :
    ∃ d, dumps[i]? = some d ∧ DeclarationEntry.ofDump d = .ok entry := by
  have hrel := getElem?_of_forall₂ h i
  rw [hentry] at hrel
  generalize dumps[i]? = found at hrel
  cases hrel with
  | some hmade => exact ⟨_, rfl, hmade⟩

theorem Entries.exists_dump {dumps : List DeclarationDump} {entries : List DeclarationEntry}
    (h : Entries dumps entries) :
    ∀ entry ∈ entries, ∃ dump, DeclarationEntry.ofDump dump = .ok entry := by
  induction h with
  | nil => exact fun entry hentry => absurd hentry List.not_mem_nil
  | @cons dump entry _ _ hmade _ ih =>
      intro other hother
      rcases List.mem_cons.mp hother with rfl | hlater
      · exact ⟨dump, hmade⟩
      · exact ih other hlater

/-- **The names in a loaded table are made of identifiers.** -/
theorem Loaded.spelled {t : SymbolTable} (h : t.Loaded) {entry : DeclarationEntry}
    (hentry : entry ∈ t.declarations) :
    entry.info.name.Spelled := by
  obtain ⟨dumps, hentries⟩ := loaded_iff.mp h
  obtain ⟨dump, hmade⟩ := hentries.exists_dump entry hentry
  obtain ⟨name, hname, rfl⟩ := DeclarationEntry.ofDump_eq_ok.mp hmade
  exact spelled_of_read hname

end SymbolTable

end WrapperGen
