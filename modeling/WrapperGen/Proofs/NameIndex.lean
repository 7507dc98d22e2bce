import WrapperGen.Proofs.LoadedTables

/-!
# An index of the names

A table finds a name by going through its declarations. Here the handles are put into an index by
name while the table is built, and a name is taken if the index has it. The two ways are the same:
they stop at the same declaration for the same reason, and as long as neither stops, the index has
exactly the names of the declarations, each with the handle of the one that has it (`inStep_add`).
-/

namespace WrapperGen

namespace KeyMap

variable {α : Type}

theorem lookup_cons_eq (entry : String × α) (rest : List (String × α)) (name : String) :
    (entry :: rest).lookup name = if name = entry.1 then some entry.2 else rest.lookup name := by
  rw [List.lookup_cons]
  by_cases h : name = entry.1
  · rw [if_pos h, beq_iff_eq.mpr h]
  · rw [if_neg h, beq_eq_false_iff_ne.mpr h]

/-- What is looked up where an entry was placed is the entry, or what was there. -/
theorem lookup_place (key name : String) (value : α) (entries : List (String × α)) :
    (place key value entries).lookup name = if name = key then some value
      else entries.lookup name := by
  induction entries with
  | nil => exact lookup_cons_eq _ _ _
  | cons entry rest ih =>
      rw [place]
      split
      · exact lookup_cons_eq _ _ _
      · split
        · rename_i hsame
          rw [lookup_cons_eq, lookup_cons_eq, ← hsame]
          split
          · rfl
          · rfl
        · rename_i hother
          rw [lookup_cons_eq, lookup_cons_eq, ih]
          split
          · rename_i hname
            rw [if_neg fun h => hother (h.symm.trans hname)]
          · rfl

theorem get?_insert (m : KeyMap α) (key name : String) (value : α) :
    (m.insert key value).get? name = if name = key then some value else m.get? name :=
  lookup_place key name value m.entries

end KeyMap

/-! ## Building with an index -/

/-- Declarations, and the handle of each canonical name among them. -/
structure IndexedTable where
  declarations : List DeclarationEntry := []
  byName : KeyMap DeclarationId := .empty

namespace IndexedTable

/-- The table with one more declaration. The name is put into the index whether or not it was there;
if it was, the table is given up. -/
def add (x : IndexedTable) (entry : DeclarationEntry) : Except LoadError IndexedTable :=
  let earlier := x.byName.get? entry.canonical
  let byName := x.byName.insert entry.canonical ⟨x.declarations.length⟩
  if earlier.isSome then .error (.duplicate entry.canonical)
  else .ok ⟨x.declarations ++ [entry], byName⟩

/-- The table with several declarations of a dump, up to the first that fails. -/
def addAll (x : IndexedTable) : List DeclarationDump → Except LoadError IndexedTable
  | [] => .ok x
  | d :: ds =>
    match DeclarationEntry.ofDump d with
    | .error e => .error e
    | .ok entry =>
      match x.add entry with
      | .error e => .error e
      | .ok x => x.addAll ds

/-- The table of a dump. -/
def ofDump (dump : SymbolDump) : Except LoadError IndexedTable := addAll {} dump.declarations

/-- The index has the names of a table, each with the handle of the declaration that has it. -/
structure InStep (x : IndexedTable) (t : SymbolTable) : Prop where
  declarations : x.declarations = t.declarations
  index : ∀ name id, x.byName.get? name = some id
    ↔ ∃ entry, t.declarations[id.index]? = some entry ∧ entry.canonical = name

/-- Both ways succeed and are in step, or fail for the same reason. -/
inductive EndsLike : Except LoadError IndexedTable → Except LoadError SymbolTable → Prop where
  | ok {x : IndexedTable} {t : SymbolTable} : x.InStep t → EndsLike (.ok x) (.ok t)
  | error (e : LoadError) : EndsLike (.error e) (.error e)

variable {x : IndexedTable} {t : SymbolTable}

theorem inStep_empty : InStep {} {} where
  declarations := rfl
  index name id :=
    ⟨fun h => absurd h (by simp [KeyMap.get?, KeyMap.empty]), fun ⟨_, h, _⟩ => absurd h (by simp)⟩

/-- The index has a name exactly if the table has. -/
theorem InStep.isSome_iff (h : x.InStep t) (name : String) :
    (x.byName.get? name).isSome ↔ name ∈ t.declarations.map DeclarationEntry.canonical := by
  rw [Option.isSome_iff_exists, List.mem_map]
  constructor
  · rintro ⟨id, hid⟩
    obtain ⟨entry, hentry, hname⟩ := (h.index name id).mp hid
    exact ⟨entry, List.mem_of_getElem? hentry, hname⟩
  · rintro ⟨entry, hentry, hname⟩
    obtain ⟨i, hi⟩ := List.mem_iff_getElem?.mp hentry
    exact ⟨⟨i⟩, (h.index name ⟨i⟩).mpr ⟨entry, hi, hname⟩⟩

/-- Looking a name up in the index is looking it up in the table. -/
theorem InStep.get?_eq_resolve? (h : x.InStep t) {s : SymbolSource} (hs : s.table = t)
    (name : ClassName) :
    x.byName.get? name.canonical = s.resolve? name := by
  refine Option.ext fun id => ?_
  rw [h.index, SymbolSource.resolve?_eq_some, SymbolSource.entry?, hs]

/-- **One more declaration keeps the index in step**, or is refused both ways. -/
theorem inStep_add (h : x.InStep t) (entry : DeclarationEntry) :
    EndsLike (x.add entry) (t.add entry) := by
  rw [add, SymbolTable.add]
  by_cases htaken : entry.canonical ∈ t.declarations.map DeclarationEntry.canonical
  · rw [dif_pos htaken]
    simp only [(h.isSome_iff _).mpr htaken, if_true]
    exact .error _
  · have hnone : x.byName.get? entry.canonical = none := by
      rwa [← Option.not_isSome_iff_eq_none, h.isSome_iff]
    rw [dif_neg htaken]
    simp only [hnone, Option.isSome_none, Bool.false_eq_true, if_false]
    refine .ok ⟨by rw [h.declarations], fun name id => ?_⟩
    rw [KeyMap.get?_insert, h.declarations]
    constructor
    · intro hget
      split at hget
      · rename_i hname
        obtain rfl := Option.some.inj hget
        exact ⟨entry, by simp, hname.symm⟩
      · obtain ⟨d, hd, hname⟩ := (h.index name id).mp hget
        have hlt : id.index < t.declarations.length := (List.getElem?_eq_some_iff.mp hd).1
        exact ⟨d, by rw [List.getElem?_append_left hlt, hd], hname⟩
    · rintro ⟨d, hd, rfl⟩
      by_cases hlt : id.index < t.declarations.length
      · rw [List.getElem?_append_left hlt] at hd
        have hother : d.canonical ≠ entry.canonical := fun heq =>
          htaken (heq ▸ List.mem_map_of_mem (List.mem_of_getElem? hd))
        rw [if_neg hother]
        exact (h.index _ id).mpr ⟨d, hd, rfl⟩
      · -- behind the others there is only the new one
        obtain ⟨hbound, hlast⟩ := List.getElem?_eq_some_iff.mp hd
        rw [List.length_append, List.length_singleton] at hbound
        have hindex : id.index = t.declarations.length := by omega
        rw [List.getElem_append_right (by omega)] at hlast
        obtain rfl : entry = d := by simpa [hindex] using hlast
        rw [if_pos rfl, ← hindex]

theorem endsLike_addAll (h : x.InStep t) (dumps : List DeclarationDump) :
    EndsLike (x.addAll dumps) (t.addAll dumps) := by
  induction dumps generalizing x t with
  | nil => exact .ok h
  | cons d dumps ih =>
      rw [addAll, SymbolTable.addAll, SymbolTable.addDump]
      cases DeclarationEntry.ofDump d with
      | error e => exact .error e
      | ok entry =>
          have hadd := inStep_add h entry
          dsimp only
          revert hadd
          generalize x.add entry = added, t.add entry = added'
          rintro (hstep | e)
          · exact ih hstep
          · exact .error e

/-- **A table is built with an index as without**, and the index never says
otherwise than the table. -/
theorem endsLike_ofDump (dump : SymbolDump) : EndsLike (ofDump dump) (SymbolTable.ofDump dump) :=
  endsLike_addAll inStep_empty dump.declarations

end IndexedTable

end WrapperGen
