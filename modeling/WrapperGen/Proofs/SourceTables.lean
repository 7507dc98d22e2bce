import WrapperGen.Proofs.SettingTables

/-!
# The tables of the sources

Each source gives every setting once, and every member of a setting that is a table. A file that
defines a key twice cannot be read (`tidy_of_settings?`), in the environment a later variable takes
the place of an earlier one (`tidy_environment`), and the options of a command line are settings of
different names (`tidy_commandLine`). So where a setting comes from is a question about the sources,
and never about two places in one.
-/

namespace WrapperGen

open SettingValue

/-- A reader reads no value in which a table gives a key twice. -/
def ReadsTidy (reader : Text.Reader SettingValue) : Prop :=
  ∀ s v rest, reader s = some (v, rest) → v.Tidy

theorem ReadsTidy.orElse {reader other : Text.Reader SettingValue} (h : ReadsTidy reader)
    (hother : ReadsTidy other) :
    ReadsTidy fun s => reader s <|> other s := by
  intro s v rest heq
  dsimp only at heq
  cases hs : reader s with
  | none =>
      rw [hs] at heq
      exact hother s v rest heq
  | some read =>
      rw [hs] at heq
      exact h s v rest (hs.trans heq)

/-! ## Files -/

namespace Toml

open Text (Reader)

/-- No table that a key stands for gives a key twice. A row of tables ends up as a list. -/
inductive Node.Tidy : Node → Prop where
  | value {v : SettingValue} : v.Tidy → Tidy (.value v)
  | table {origin : Origin} {entries : Entries} :
      (entries.map Prod.fst).Nodup → (∀ e ∈ entries, Node.Tidy e.2) → Tidy (.table origin entries)
  | tables {items : List Entries} : Tidy (.tables items)

/-- No table among some entries gives a key twice, nor do the entries. -/
structure TidyEntries (entries : Entries) : Prop where
  nodup : (entries.map Prod.fst).Nodup
  nodes : ∀ e ∈ entries, e.2.Tidy

theorem tidyEntries_nil : TidyEntries [] := ⟨List.nodup_nil, List.forall_mem_nil _⟩

theorem tidy_table {origin : Origin} {entries : Entries} :
    (Node.table origin entries).Tidy ↔ TidyEntries entries := by
  refine ⟨fun h => ?_, fun h => .table h.nodup h.nodes⟩
  cases h with
  | table hnodup hnodes => exact ⟨hnodup, hnodes⟩

/-- A change keeps nodes tidy. -/
def KeepsTidy (change : Option Node → Option Node) : Prop :=
  ∀ before after, (∀ n ∈ before, n.Tidy) → change before = some after → after.Tidy

theorem mem_keys_of_alter? {key : String} {change : Option Node → Option Node}
    {entries entries' : Entries} (h : alter? key change entries = some entries') {k : String}
    (hk : k ∈ entries'.map Prod.fst) :
    k = key ∨ k ∈ entries.map Prod.fst := by
  induction entries generalizing entries' with
  | nil =>
      obtain ⟨node, _, rfl⟩ := Option.map_eq_some_iff.mp h
      exact Or.inl (List.mem_singleton.mp hk)
  | cons entry rest ih =>
      rw [alter?] at h
      split at h
      · obtain ⟨node, _, rfl⟩ := Option.map_eq_some_iff.mp h
        exact (List.mem_cons.mp hk).imp_right (List.mem_cons_of_mem entry.1)
      · obtain ⟨rest', hrest, rfl⟩ := Option.map_eq_some_iff.mp h
        rcases List.mem_cons.mp hk with rfl | hk
        · exact Or.inr List.mem_cons_self
        · exact (ih hrest hk).imp_right (List.mem_cons_of_mem entry.1)

theorem TidyEntries.alter? {key : String} {change : Option Node → Option Node}
    {entries entries' : Entries} (h : TidyEntries entries) (hchange : KeepsTidy change)
    (heq : alter? key change entries = some entries') :
    TidyEntries entries' := by
  induction entries generalizing entries' with
  | nil =>
      obtain ⟨node, hnode, rfl⟩ := Option.map_eq_some_iff.mp heq
      exact ⟨List.nodup_singleton key,
        List.forall_mem_singleton.mpr (hchange none node (by simp) hnode)⟩
  | cons entry rest ih =>
      obtain ⟨hnodup, hnodes⟩ := h
      rw [List.map_cons, List.nodup_cons] at hnodup
      rw [List.forall_mem_cons] at hnodes
      rw [Toml.alter?] at heq
      split at heq
      · rename_i hsame
        obtain ⟨node, hnode, rfl⟩ := Option.map_eq_some_iff.mp heq
        refine ⟨?_, List.forall_mem_cons.mpr ⟨hchange _ node (fun n hn => ?_) hnode, hnodes.2⟩⟩
        · rw [List.map_cons, List.nodup_cons, ← hsame]
          exact hnodup
        · rw [← Option.some.inj hn]
          exact hnodes.1
      · rename_i hother
        obtain ⟨rest', hrest, rfl⟩ := Option.map_eq_some_iff.mp heq
        obtain ⟨hnodup', hnodes'⟩ := ih ⟨hnodup.2, hnodes.2⟩ hrest
        refine ⟨List.nodup_cons.mpr ⟨fun hmem => ?_, hnodup'⟩,
          List.forall_mem_cons.mpr ⟨hnodes.1, hnodes'⟩⟩
        exact (mem_keys_of_alter? hrest hmem).elim hother hnodup.1

/-- Wherever keys lead, tables stay tidy if the change at the end of them leaves one so. -/
theorem TidyEntries.changeAt? {created : Origin} {change : Origin → Entries → Option Entries}
    (hchange : ∀ origin entries entries', TidyEntries entries →
      change origin entries = some entries' →
      TidyEntries entries') {keys : List String} {origin : Origin} {entries entries' : Entries}
    (h : TidyEntries entries) (heq : changeAt? created change keys origin entries = some entries') :
    TidyEntries entries' := by
  induction keys generalizing origin entries entries' with
  | nil => exact hchange origin entries entries' h heq
  | cons key keys ih =>
      rw [Toml.changeAt?] at heq
      refine h.alter? (fun before after hbefore hafter => ?_) heq
      -- only tables are changed; nothing is asked of a row of tables
      match before with
      | none =>
        obtain ⟨inner, hinner, rfl⟩ := Option.map_eq_some_iff.mp hafter
        exact tidy_table.mpr (ih tidyEntries_nil hinner)
      | some (.table origin inner) =>
        dsimp only at hafter
        split at hafter
        · cases hafter
        · obtain ⟨inner', hinner, rfl⟩ := Option.map_eq_some_iff.mp hafter
          exact tidy_table.mpr (ih (tidy_table.mp (hbefore _ rfl)) hinner)
      | some (.tables items) =>
        simp only [Option.bind_eq_bind, Option.bind_eq_some_iff] at hafter
        obtain ⟨_, _, _, _, hnode⟩ := hafter
        rw [← Option.some.inj hnode]
        exact .tables
      | some (.value _) => cases hafter

theorem TidyEntries.addValue? {keys : List String} {key : String} {value : SettingValue}
    {entries entries' : Entries} (h : TidyEntries entries) (hvalue : value.Tidy)
    (heq : addValue? keys key value entries = some entries') :
    TidyEntries entries' := by
  refine h.changeAt? (fun origin inner inner' hinner hchange => ?_) heq
  split at hchange
  · refine hinner.alter? (fun before after _ hafter => ?_) hchange
    cases before with
    | none =>
        rw [← Option.some.inj hafter]
        exact .value hvalue
    | some _ => cases hafter
  · cases hchange

theorem TidyEntries.openTable? {keys : List String} {key : String} {entries entries' : Entries}
    (h : TidyEntries entries) (heq : openTable? keys key entries = some entries') :
    TidyEntries entries' := by
  refine h.changeAt? (fun _ inner inner' hinner hchange => ?_) heq
  refine hinner.alter? (fun before after hbefore hafter => ?_) hchange
  match before with
  | none =>
    rw [← Option.some.inj hafter]
    exact tidy_table.mpr tidyEntries_nil
  | some (.table .implied inner) =>
    rw [← Option.some.inj hafter]
    exact tidy_table.mpr (tidy_table.mp (hbefore _ rfl))
  | some (.table .opened _) => cases hafter
  | some (.table .dotted _) => cases hafter
  | some (.tables _) => cases hafter
  | some (.value _) => cases hafter

theorem TidyEntries.openNext? {keys : List String} {key : String} {entries entries' : Entries}
    (h : TidyEntries entries) (heq : openNext? keys key entries = some entries') :
    TidyEntries entries' := by
  refine h.changeAt? (fun _ inner inner' hinner hchange => ?_) heq
  refine hinner.alter? (fun before after _ hafter => ?_) hchange
  match before with
  | none =>
    rw [← Option.some.inj hafter]
    exact .tables
  | some (.tables _) =>
    rw [← Option.some.inj hafter]
    exact .tables
  | some (.table _ _) => cases hafter
  | some (.value _) => cases hafter

theorem TidyEntries.addBelow? {header keys : List String} {key : String} {value : SettingValue}
    {entries entries' : Entries} (h : TidyEntries entries) (hvalue : value.Tidy)
    (heq : addBelow? header keys key value entries = some entries') : TidyEntries entries' :=
  h.changeAt? (fun _ _ _ hinner hchange => hinner.addValue? hvalue hchange) heq

theorem keys_toSettings (entries : Entries) :
    (toSettings entries).map Prod.fst = entries.map Prod.fst := by
  induction entries with
  | nil => rfl
  | cons entry rest ih =>
      obtain ⟨key, node⟩ := entry
      rw [toSettings, List.map_cons, ih, List.map_cons]

mutual

theorem Node.Tidy.toValue : ∀ node : Node, node.Tidy → node.toValue.Tidy
  | .value v, h => by
    cases h with
    | value hv =>
        rw [Node.toValue]
        exact hv
  | .table origin entries, h => by
    rw [Node.toValue, tidy_table_iff]
    exact TidyEntries.toSettings entries (tidy_table.mp h)
  | .tables items, _ => by
    rw [Node.toValue]
    exact .list

theorem TidyEntries.toSettings :
    ∀ entries : Entries, TidyEntries entries → TidyTable (toSettings entries)
  | [], _ => tidyTable_nil
  | (key, node) :: rest, h => by
    obtain ⟨hnodup, hnodes⟩ := h
    rw [List.map_cons, List.nodup_cons] at hnodup
    rw [List.forall_mem_cons] at hnodes
    have hrest := TidyEntries.toSettings rest ⟨hnodup.2, hnodes.2⟩
    rw [Toml.toSettings]
    refine ⟨List.nodup_cons.mpr ⟨?_, hrest.nodup⟩,
      List.forall_mem_cons.mpr ⟨Node.Tidy.toValue node hnodes.1, hrest.values⟩⟩
    rw [keys_toSettings]
    exact hnodup.1

end

/-! ### Reading -/

theorem readsTidy_flag : ReadsTidy readFlag := by
  refine ReadsTidy.orElse (fun s v rest h => ?_) fun s v rest h => ?_
  · obtain ⟨_, _, heq⟩ := Option.map_eq_some_iff.mp h
    rw [← (Prod.mk.inj heq).1]
    exact .flag
  · obtain ⟨_, _, heq⟩ := Option.map_eq_some_iff.mp h
    rw [← (Prod.mk.inj heq).1]
    exact .flag

theorem readsTidy_measure : ReadsTidy readMeasure := by
  intro s v rest h
  rw [readMeasure] at h
  split at h
  · rw [← (Prod.mk.inj (Option.some.inj h)).1]
    exact tidy_table_iff.mpr tidyTable_nil
  · obtain ⟨_, _, heq⟩ := Option.map_eq_some_iff.mp h
    rw [← (Prod.mk.inj heq).1]
    exact .number

theorem readsTidy_scalar : ReadsTidy readScalar := by
  refine ReadsTidy.orElse (fun s v rest h => ?_) (readsTidy_flag.orElse readsTidy_measure)
  obtain ⟨_, _, heq⟩ := Option.map_eq_some_iff.mp h
  rw [← (Prod.mk.inj heq).1]
  exact .text

theorem TidyEntries.readPair {value : Reader SettingValue}
    {add : List String → String → SettingValue → Option Entries} (hvalue : ReadsTidy value)
    (hadd : ∀ keys key v entries, v.Tidy → add keys key v = some entries → TidyEntries entries)
    {s rest : List Char} {entries : Entries} (h : readPair value add s = some (entries, rest)) :
    TidyEntries entries := by
  simp only [Toml.readPair, Option.bind_eq_bind, Option.bind_eq_some_iff] at h
  obtain ⟨⟨⟨keys, key⟩, _⟩, _, ⟨_, _⟩, _, ⟨v, _⟩, hv, after, hafter, heq⟩ := h
  rw [← (Prod.mk.inj (Option.some.inj heq)).1]
  exact hadd keys key v after (hvalue _ _ _ hv) hafter

theorem TidyEntries.readPairs {value : Reader SettingValue} (hvalue : ReadsTidy value) {bound : Nat}
    {s rest : List Char} {entries entries' : Entries} (hentries : TidyEntries entries)
    (h : readPairs value bound entries s = some (entries', rest)) : TidyEntries entries' := by
  induction bound generalizing s entries with
  | zero => cases h
  | succ bound ih =>
      simp only [Toml.readPairs, Option.bind_eq_bind, Option.bind_eq_some_iff] at h
      obtain ⟨⟨after, behind⟩, hpair, h⟩ := h
      have hafter :=
        TidyEntries.readPair hvalue (fun _ _ _ _ hv hadd => hentries.addValue? hv hadd) hpair
      dsimp only at h
      split at h
      · exact ih hafter h
      · rw [← (Prod.mk.inj (Option.some.inj h)).1]
        exact hafter
      · cases h

theorem readsTidy_inline {value : Reader SettingValue} (hvalue : ReadsTidy value) :
    ReadsTidy (readInline value) := by
  intro s v rest h
  rw [readInline] at h
  split at h
  · rw [← (Prod.mk.inj (Option.some.inj h)).1]
    exact tidy_table_iff.mpr tidyTable_nil
  · obtain ⟨⟨entries, behind⟩, hpairs, heq⟩ := Option.map_eq_some_iff.mp h
    rw [← (Prod.mk.inj heq).1]
    exact tidy_table_iff.mpr
      (TidyEntries.toSettings _ (TidyEntries.readPairs hvalue tidyEntries_nil hpairs))

/-- A value in brackets is read by values with fewer brackets around each other. -/
theorem readsTidy_value (depth : Nat) : ReadsTidy (readValue depth) := by
  induction depth with
  | zero => exact readsTidy_scalar
  | succ depth ih =>
      intro s v rest h
      unfold readValue at h
      split at h
      · obtain ⟨⟨items, behind⟩, _, heq⟩ := Option.map_eq_some_iff.mp h
        rw [← (Prod.mk.inj heq).1]
        exact .list
      · exact readsTidy_inline ih _ _ _ h
      · exact readsTidy_scalar _ _ _ h

theorem TidyEntries.readLine {d d' : Document} {s rest : List Char} (hd : TidyEntries d.entries)
    (h : readLine d s = some (d', rest)) : TidyEntries d'.entries := by
  unfold Toml.readLine at h
  split at h
  · simp only [Option.bind_eq_bind, Option.bind_eq_some_iff] at h
    obtain ⟨⟨⟨keys, key⟩, _⟩, _, ⟨_, _⟩, _, entries, hentries, heq⟩ := h
    rw [← (Prod.mk.inj (Option.some.inj heq)).1]
    exact hd.openNext? hentries
  · simp only [Option.bind_eq_bind, Option.bind_eq_some_iff] at h
    obtain ⟨⟨⟨keys, key⟩, _⟩, _, ⟨_, _⟩, _, entries, hentries, heq⟩ := h
    rw [← (Prod.mk.inj (Option.some.inj heq)).1]
    exact hd.openTable? hentries
  · split at h
    · rw [← (Prod.mk.inj (Option.some.inj h)).1]
      exact hd
    · obtain ⟨⟨entries, behind⟩, hpair, heq⟩ := Option.map_eq_some_iff.mp h
      rw [← (Prod.mk.inj heq).1]
      exact TidyEntries.readPair (readsTidy_value _)
        (fun _ _ _ _ hv hadd => hd.addBelow? hv hadd) hpair

theorem TidyEntries.readLines {bound : Nat} {d d' : Document} {s : List Char}
    (hd : TidyEntries d.entries) (h : readLines bound d s = some d') : TidyEntries d'.entries := by
  induction bound generalizing d s with
  | zero => cases h
  | succ bound ih =>
      simp only [Toml.readLines, Option.bind_eq_bind, Option.bind_eq_some_iff] at h
      obtain ⟨⟨after, behind⟩, hline, h⟩ := h
      have hafter := hd.readLine hline
      dsimp only at h
      split at h
      · rw [← Option.some.inj h]
        exact hafter
      · simp only [Option.bind_eq_some_iff] at h
        obtain ⟨⟨_, rest⟩, _, h⟩ := h
        exact ih hafter h

/-- **A file that can be read gives each key once.** -/
theorem tidy_of_settings? {text : String} {table : SettingTable} (h : settings? text = some table) :
    TidyTable table := by
  simp only [settings?, Option.bind_eq_bind, Option.bind_eq_some_iff] at h
  obtain ⟨d, hlines, heq⟩ := h
  rw [← Option.some.inj heq]
  exact TidyEntries.toSettings _ (TidyEntries.readLines tidyEntries_nil hlines)

end Toml

/-! ## Environments -/

namespace Environment

open Text (Reader)

/-- Items are read one by one. -/
theorem forall_readItems {α : Type} {item : Reader α} {P : α → Prop}
    (hitem : ∀ s x rest, item s = some (x, rest) → P x) {close : Char} {bound : Nat}
    {s rest : List Char} {items : List α} (h : readItems item close bound s = some (items, rest)) :
    ∀ x ∈ items, P x := by
  induction bound generalizing s rest items with
  | zero => cases h
  | succ bound ih =>
      rw [readItems] at h
      split at h
      · rw [← (Prod.mk.inj (Option.some.inj h)).1]
        exact List.forall_mem_nil _
      · simp only [Option.bind_eq_bind, Option.bind_eq_some_iff] at h
        obtain ⟨⟨x, behind⟩, hx, h⟩ := h
        dsimp only at h
        split at h
        · simp only [Option.bind_eq_some_iff] at h
          obtain ⟨⟨xs, _⟩, hxs, heq⟩ := h
          rw [← (Prod.mk.inj (Option.some.inj heq)).1]
          exact List.forall_mem_cons.mpr ⟨hitem _ _ _ hx, ih hxs⟩
        · split at h
          · rw [← (Prod.mk.inj (Option.some.inj h)).1]
            exact List.forall_mem_singleton.mpr (hitem _ _ _ hx)
          · cases h
        · cases h

/-- A table that entries are stored in one by one gives each key once. -/
theorem tidy_foldl_store {entries : SettingTable} (h : ∀ e ∈ entries, e.2.Tidy)
    {known : SettingTable} (hknown : TidyTable known) :
    TidyTable (entries.foldl (fun t (key, value) => store key value t) known) := by
  induction entries generalizing known with
  | nil => exact hknown
  | cons entry entries ih =>
      rw [List.forall_mem_cons] at h
      exact ih h.2 (hknown.store h.1)

theorem readsTidy_bare {inner : Reader SettingValue} (hinner : ReadsTidy inner) :
    ReadsTidy (readBare inner) := by
  intro s v rest h
  unfold readBare at h
  split at h
  · rw [← (Prod.mk.inj (Option.some.inj h)).1]
    exact .flag
  · rw [← (Prod.mk.inj (Option.some.inj h)).1]
    exact .flag
  · -- a table: its entries are stored one after the other, so no key comes twice
    simp only [Option.bind_eq_bind, Option.bind_eq_some_iff] at h
    obtain ⟨⟨entries, behind⟩, hentries, heq⟩ := h
    rw [← (Prod.mk.inj (Option.some.inj heq)).1, tidy_table_iff]
    refine tidy_foldl_store
      (forall_readItems (P := fun e => e.2.Tidy) (fun s entry rest hentry => ?_) hentries)
      tidyTable_nil
    simp only [Option.bind_eq_some_iff] at hentry
    obtain ⟨⟨key, _⟩, _, hentry⟩ := hentry
    dsimp only at hentry
    split at hentry
    · simp only [Option.bind_eq_some_iff] at hentry
      obtain ⟨⟨value, _⟩, hvalue, heq⟩ := hentry
      rw [← (Prod.mk.inj (Option.some.inj heq)).1]
      exact hinner _ _ _ hvalue
    · cases hentry
  · simp only [Option.bind_eq_bind, Option.bind_eq_some_iff] at h
    obtain ⟨⟨items, behind⟩, _, heq⟩ := h
    rw [← (Prod.mk.inj (Option.some.inj heq)).1]
    exact .list
  · simp only [Option.bind_eq_bind, Option.bind_eq_some_iff] at h
    obtain ⟨⟨text, behind⟩, _, heq⟩ := h
    rw [← (Prod.mk.inj (Option.some.inj heq)).1]
    exact .text
  · split at h
    · rw [← (Prod.mk.inj (Option.some.inj h)).1]
      exact .text
    · cases h
  · rw [← (Prod.mk.inj (Option.some.inj h)).1, plainValue]
    split
    · exact .number
    · split
      · exact .number
      · exact .text

theorem readsTidy_value (depth : Nat) : ReadsTidy (readValue depth) := by
  induction depth with
  | zero => exact fun _ _ _ h => by cases h
  | succ depth ih =>
      intro s v rest h
      simp only [readValue, Option.bind_eq_bind, Option.bind_eq_some_iff] at h
      obtain ⟨⟨value, behind⟩, hvalue, heq⟩ := h
      rw [← (Prod.mk.inj (Option.some.inj heq)).1]
      exact readsTidy_bare ih _ _ _ hvalue

theorem tidy_valueOf (text : String) : (valueOf text).Tidy := by
  rw [valueOf]
  split
  · rename_i hread
    exact readsTidy_value _ _ _ _ hread
  · exact .text

theorem tidy_nest {value : SettingValue} (h : value.Tidy) (keys : List String) :
    (nest value keys).Tidy := by
  induction keys with
  | nil => exact h
  | cons key keys ih => exact .table (List.nodup_singleton key) (List.forall_mem_singleton.mpr ih)

/-- **An environment gives each key once**, however many of its variables name it. -/
theorem tidy_environment (environment : Variables) : TidyTable (settings environment) := by
  refine tidy_mergeAll fun t ht => ?_
  obtain ⟨⟨name, text⟩, _, hvariable⟩ := List.mem_filterMap.mp ht
  simp only [Option.bind_eq_bind, Option.bind_eq_some_iff] at hvariable
  obtain ⟨keys, _, hnest⟩ := hvariable
  split at hnest
  · rename_i entries heq
    rw [← Option.some.inj hnest, ← tidy_table_iff, ← heq]
    exact tidy_nest (tidy_valueOf text) keys
  · cases hnest

end Environment

/-! ## Command lines -/

/-- A table of the settings that are there. -/
def givenOnly (entries : List (String × Option SettingValue)) : SettingTable :=
  entries.flatMap fun e => e.2.toList.map fun v => (e.1, v)

theorem mem_givenOnly {entries : List (String × Option SettingValue)} {e : String × SettingValue} :
    e ∈ givenOnly entries ↔ (e.1, some e.2) ∈ entries := by
  simp only [givenOnly, List.mem_flatMap, List.mem_map, Option.mem_toList]
  constructor
  · rintro ⟨⟨key, v?⟩, hmem, v, rfl, rfl⟩
    exact hmem
  · exact fun hmem => ⟨_, hmem, e.2, rfl, rfl⟩

theorem keys_givenOnly (entries : List (String × Option SettingValue)) :
    ((givenOnly entries).map Prod.fst).Sublist (entries.map Prod.fst) := by
  induction entries with
  | nil => exact List.Sublist.refl _
  | cons entry rest ih =>
      obtain ⟨key, v?⟩ := entry
      rw [givenOnly, List.flatMap_cons, ← givenOnly, List.map_append]
      cases v? with
      | none => exact ih.cons key
      | some v => exact ih.cons_cons key

theorem lookup_givenOnly {entries : List (String × Option SettingValue)}
    (h : (entries.map Prod.fst).Nodup) (key : String) :
    (givenOnly entries).lookup key = (entries.lookup key).join := by
  induction entries with
  | nil => rfl
  | cons entry rest ih =>
      obtain ⟨k, v?⟩ := entry
      rw [List.map_cons, List.nodup_cons] at h
      rw [givenOnly, List.flatMap_cons, ← givenOnly, KeyMap.lookup_cons_eq]
      cases v? with
      | none =>
          rw [Option.toList_none, List.map_nil, List.nil_append, ih h.2]
          split
          · rename_i hkey
            rw [hkey, lookup_eq_none_of_notMem h.1]
            rfl
          · rfl
      | some v =>
          rw [Option.toList_some, List.map_cons, List.map_nil, List.singleton_append,
            KeyMap.lookup_cons_eq, ih h.2]
          split <;> rfl

namespace CommandLine

/-- The settings that there are options for, with what a command line gives for them. -/
def optionSettings (c : CommandLine) : List (String × Option SettingValue) := [
  ("symbols", (c.value? .symbols).map .text),
  ("out_dir", (c.value? .outDirectory).map .text),
  ("sources_dir", (c.value? .sourcesDirectory).map .text),
  ("records_dir", (c.value? .recordsDirectory).map .text),
  ("deferred_file", (c.value? .deferredFile).map .text),
  ("simplified_namespaces",
    if c.values .simplify = [] then none else some (.list ((c.values .simplify).map .text))),
  ("allow_errors", if c.allowErrors then some (.flag true) else none)]

theorem settings_eq (c : CommandLine) : c.settings = givenOnly c.optionSettings := by
  have htext : ∀ (key : String) (v? : Option String),
      ((v?.map SettingValue.text).toList.map fun v => (key, v))
        = v?.toList.map fun s => (key, .text s) := by
    intro key v?
    cases v? <;> rfl
  have hnamespaces : (if c.values .simplify = [] then []
      else [("simplified_namespaces", SettingValue.list ((c.values .simplify).map .text))])
        = ((if c.values .simplify = [] then none
            else some (SettingValue.list ((c.values .simplify).map .text))).toList.map
          fun v => ("simplified_namespaces", v)) := by
    split <;> rfl
  have hflag : (if c.allowErrors then [("allow_errors", SettingValue.flag true)] else [])
      = ((if c.allowErrors then some (SettingValue.flag true) else none).toList.map fun v =>
        ("allow_errors", v)) := by
    split <;> rfl
  simp only [settings, givenOnly, optionSettings, List.flatMap_cons, List.flatMap_nil, htext,
    hnamespaces, hflag, List.append_assoc, List.append_nil]

theorem nodup_optionSettings (c : CommandLine) : (c.optionSettings.map Prod.fst).Nodup := by
  rw [optionSettings]
  simp only [List.map_cons, List.map_nil]
  decide

/-- **A command line gives each key once.** -/
theorem tidy_commandLine (c : CommandLine) : TidyTable c.settings := by
  rw [settings_eq]
  refine ⟨(keys_givenOnly _).nodup (nodup_optionSettings c), fun e he => ?_⟩
  have htext : ∀ o, ∀ v ∈ (c.value? o).map SettingValue.text, v.Tidy := by
    intro o v hv
    obtain ⟨s, _, rfl⟩ := Option.map_eq_some_iff.mp hv
    exact .text
  have hall : ∀ entry ∈ c.optionSettings, ∀ v ∈ entry.2, v.Tidy := by
    simp only [optionSettings, List.forall_mem_cons]
    refine ⟨htext _, htext _, htext _, htext _, htext _, fun v hv => ?_, fun v hv => ?_,
      List.forall_mem_nil _⟩
    · split at hv
      · cases hv
      · rw [← Option.some.inj hv]
        exact .list
    · split at hv
      · rw [← Option.some.inj hv]
        exact .flag
      · cases hv
  exact hall _ (mem_givenOnly.mp he) e.2 rfl

theorem lookup_settings (c : CommandLine) (key : String) :
    c.settings.lookup key = (c.optionSettings.lookup key).join := by
  rw [settings_eq, lookup_givenOnly (nodup_optionSettings c)]

end CommandLine

end WrapperGen
