import WrapperGen.Proofs.NameIndex
import WrapperGen.Settings

/-!
# Tables of settings

A table gives each of its keys once if it was put together by storing, and so do the tables inside
it (`Tidy`). Where that is so, merging can be read off key by key: a key stands for what the later
table makes of what it stood for before, or for just that if the later table does not have it
(`lookup_mergeTable`). A table that gave a key twice would be merged with itself first.
-/

namespace WrapperGen

/-- What is not among the keys is not found. -/
theorem lookup_eq_none_of_notMem {α : Type} {entries : List (String × α)} {key : String}
    (h : key ∉ entries.map Prod.fst) : entries.lookup key = none := by
  rw [List.lookup_eq_none_iff]
  intro e he
  rw [bne_iff_ne]
  rintro rfl
  exact h (List.mem_map_of_mem he)

namespace SettingValue

/-- No table in a value gives a key twice. What is inside lists does not matter, as
they are never merged. -/
inductive Tidy : SettingValue → Prop where
  | text {s : String} : Tidy (text s)
  | flag {b : Bool} : Tidy (flag b)
  | number {written : String} : Tidy (number written)
  | list {items : List SettingValue} : Tidy (list items)
  | table {entries : SettingTable} :
      (entries.map Prod.fst).Nodup → (∀ e ∈ entries, Tidy e.2) → Tidy (table entries)

/-- No table in a table gives a key twice, nor does the table itself. -/
structure TidyTable (entries : SettingTable) : Prop where
  nodup : (entries.map Prod.fst).Nodup
  values : ∀ e ∈ entries, e.2.Tidy

theorem tidy_table_iff {entries : SettingTable} : (table entries).Tidy ↔ TidyTable entries := by
  refine ⟨fun h => ?_, fun h => .table h.nodup h.values⟩
  cases h with
  | table hnodup hvalues => exact ⟨hnodup, hvalues⟩

theorem tidyTable_nil : TidyTable [] := ⟨List.nodup_nil, List.forall_mem_nil _⟩

theorem TidyTable.of_lookup {entries : SettingTable} (h : TidyTable entries) {key : String}
    {v : SettingValue} (hv : entries.lookup key = some v) : v.Tidy := by
  obtain ⟨before, behind, rfl, _⟩ := List.lookup_eq_some_iff.mp hv
  exact h.values (key, v) (by simp)

/-! ## Storing -/

section Storing

variable {key : String} {value : SettingValue} {entries : SettingTable}

theorem lookup_store (k : String) :
    (store key value entries).lookup k = if k = key then some value else entries.lookup k := by
  induction entries with
  | nil => exact KeyMap.lookup_cons_eq _ _ _
  | cons entry rest ih =>
      rw [store]
      split
      · rename_i hsame
        rw [KeyMap.lookup_cons_eq, KeyMap.lookup_cons_eq, hsame]
        split <;> rfl
      · rename_i hother
        rw [KeyMap.lookup_cons_eq, KeyMap.lookup_cons_eq, ih]
        split
        · rename_i hk
          rw [if_neg fun h => hother (hk.symm.trans h)]
        · rfl

theorem mem_store {e : String × SettingValue} (h : e ∈ store key value entries) :
    e = (key, value) ∨ e ∈ entries := by
  induction entries with
  | nil => exact Or.inl (List.mem_singleton.mp h)
  | cons entry rest ih =>
      rw [store] at h
      split at h
      · exact (List.mem_cons.mp h).imp_right (List.mem_cons_of_mem entry)
      · rcases List.mem_cons.mp h with rfl | h
        · exact Or.inr List.mem_cons_self
        · exact (ih h).imp_right (List.mem_cons_of_mem entry)

theorem TidyTable.store (h : TidyTable entries) (hvalue : value.Tidy) :
    TidyTable (store key value entries) := by
  refine ⟨?_, fun e he => ?_⟩
  · replace h := h.nodup
    induction entries with
    | nil => exact List.nodup_singleton key
    | cons entry rest ih =>
        rw [List.map_cons, List.nodup_cons] at h
        rw [SettingValue.store]
        split
        · rename_i hsame
          rw [List.map_cons, List.nodup_cons, ← hsame]
          exact h
        · rename_i hother
          rw [List.map_cons, List.nodup_cons]
          refine ⟨fun hmem => ?_, ih h.2⟩
          obtain ⟨e, he, hkey⟩ := List.mem_map.mp hmem
          rcases mem_store he with rfl | he
          · exact hother hkey.symm
          · exact h.1 (List.mem_map.mpr ⟨e, he, hkey⟩)
  · rcases mem_store he with rfl | he
    · exact hvalue
    · exact h.values e he

end Storing

/-! ## Merging -/

theorem merge_table (known entries : SettingTable) :
    merge (some (table known)) (table entries) = table (mergeTable known entries) := by
  rw [merge]

/-- Only a table changes what a later source gives. -/
theorem merge_of_ne_table {earlier : Option SettingValue}
    (h : ∀ known, earlier ≠ some (table known)) (v : SettingValue) : merge earlier v = v := by
  cases v with
  | table entries =>
      rw [merge]
      exact fun known heq => h known heq
  | text s => rw [merge]
  | flag b => rw [merge]
  | number written => rw [merge]
  | list items => rw [merge]

mutual

theorem Tidy.merge {earlier : Option SettingValue} (hearlier : ∀ e ∈ earlier, e.Tidy) :
    ∀ v : SettingValue, v.Tidy → (merge earlier v).Tidy
  | .table entries, h => by
    by_cases hknown : ∃ known, earlier = some (SettingValue.table known)
    · obtain ⟨known, rfl⟩ := hknown
      rw [merge_table, tidy_table_iff]
      exact TidyTable.mergeTable (tidy_table_iff.mp (hearlier _ rfl)) entries (tidy_table_iff.mp h)
    · rw [merge_of_ne_table (not_exists.mp hknown)]
      exact h
  | .text s, h => by rwa [SettingValue.merge]
  | .flag b, h => by rwa [SettingValue.merge]
  | .number written, h => by rwa [SettingValue.merge]
  | .list items, h => by rwa [SettingValue.merge]

/-- Tables that give each key once do so when they are merged. -/
theorem TidyTable.mergeTable {known : SettingTable} (hknown : TidyTable known) :
    ∀ entries : SettingTable, TidyTable entries → TidyTable (mergeTable known entries)
  | [], _ => hknown
  | (key, value) :: rest, h => by
    have hnodup := h.nodup
    have hvalues := h.values
    rw [List.map_cons, List.nodup_cons] at hnodup
    rw [List.forall_mem_cons] at hvalues
    exact TidyTable.mergeTable
      (hknown.store (Tidy.merge (fun e he => hknown.of_lookup he) value hvalues.1)) rest
      ⟨hnodup.2, hvalues.2⟩

end

/-- **Merging, key by key.** -/
theorem lookup_mergeTable {known entries : SettingTable} (h : (entries.map Prod.fst).Nodup)
    (key : String) :
    (mergeTable known entries).lookup key
      = match entries.lookup key with
        | some v => some (merge (known.lookup key) v)
        | none => known.lookup key := by
  induction entries generalizing known with
  | nil => rfl
  | cons entry rest ih =>
      rw [List.map_cons, List.nodup_cons] at h
      rw [mergeTable, ih h.2, lookup_store, KeyMap.lookup_cons_eq]
      by_cases hkey : key = entry.1
      · -- the rest does not have the key again
        rw [lookup_eq_none_of_notMem (hkey ▸ h.1), if_pos hkey, if_pos hkey, hkey]
      · rw [if_neg hkey, if_neg hkey]

end SettingValue

open SettingValue

theorem tidy_mergeAll {sources : List SettingTable} (h : ∀ t ∈ sources, TidyTable t) :
    TidyTable (mergeAll sources) := by
  suffices hfold : ∀ known, TidyTable known → TidyTable (sources.foldl mergeTable known) from
    hfold [] tidyTable_nil
  induction sources with
  | nil => exact fun _ hknown => hknown
  | cons t sources ih =>
      rw [List.forall_mem_cons] at h
      exact fun known hknown => ih h.2 _ (hknown.mergeTable t h.1)

end WrapperGen
