import WrapperGen.Proofs.Footprint
import WrapperGen.Proofs.SettingTables

/-!
# Settings from layers

The sources of settings lie on top of each other. A setting has the value that the highest layer
gives which gives it at all (`ofSources_eq_ok_iff`). A marker is a setting of its own as long as
markers are given by name. But they may also be given as a list, and a list is one value: it hides
whatever the layers below say about markers, and it is hidden as a whole by a layer above that gives
any of them (`shown`).
-/

namespace WrapperGen

open SettingValue

/-! ## Settings one by one -/

/-- A marker that can be set. -/
inductive Marker where
  | config
  | nest
  | hook
deriving DecidableEq, Repr

namespace Marker

/-- The key of a marker in a table of markers. -/
def key : Marker → String
  | config => "config"
  | nest => "nest"
  | hook => "hook"

/-- The place of a marker in a list of markers. -/
def place : Marker → Nat
  | config => 0
  | nest => 1
  | hook => 2

/-- The value that a table or list of markers gives a marker. -/
def given? (m : Marker) : SettingValue → Option SettingValue
  | .table entries => entries.lookup m.key
  | .list items => items[m.place]?
  | _ => none

/-- The annotation that a marker is. -/
def nameIn (markers : Markers) : Marker → String
  | config => markers.config
  | nest => markers.nest
  | hook => markers.hook

end Marker

/-- A setting, where each marker is one of its own. -/
inductive Setting where
  | symbols
  | outDirectory
  | sourcesDirectory
  | recordsDirectory
  | deferredFile
  | namespaces
  | allowErrors
  | marker (m : Marker)
deriving DecidableEq, Repr

namespace Setting

/-- The key of a setting. Markers are inside the value of theirs. -/
def key : Setting → String
  | symbols => "symbols"
  | outDirectory => "out_dir"
  | sourcesDirectory => "sources_dir"
  | recordsDirectory => "records_dir"
  | deferredFile => "deferred_file"
  | namespaces => "simplified_namespaces"
  | allowErrors => "allow_errors"
  | marker _ => "markers"

/-- The value that a layer gives a setting. -/
def given? (x : Setting) (layer : SettingTable) : Option SettingValue :=
  match x with
  | marker m => (layer.lookup "markers").bind m.given?
  | _ => layer.lookup x.key

/-- The value of a setting as a source would give it. -/
def valueIn (s : Settings) : Setting → Option SettingValue
  | symbols => s.symbols.map fun p => .text p.text
  | outDirectory => some (.text s.outDirectory.text)
  | sourcesDirectory => s.sourcesDirectory.map fun p => .text p.text
  | recordsDirectory => s.recordsDirectory.map fun p => .text p.text
  | deferredFile => s.deferredFile.map fun p => .text p.text
  | namespaces => some (.list (s.options.namespaces.map .text))
  | allowErrors => some (.flag s.allowErrors)
  | marker m => some (.text (m.nameIn s.options.markers))

end Setting

/-! ## What layers give -/

/-- The forms that values have. -/
inductive SettingValue.Form where
  | text
  | flag
  | number
  | list
  | table
deriving DecidableEq, Repr

/-- The form of a value. -/
def SettingValue.form : SettingValue → Form
  | .text _ => .text
  | .flag _ => .flag
  | .number _ => .number
  | .list _ => .list
  | .table _ => .table

/-- Which of several values for all markers show, from the highest layer down: if the first is a
table, then also the tables right behind it. -/
def shown : List SettingValue → List SettingValue
  | [] => []
  | v :: below => if v.form = .table then v :: below.takeWhile (·.form = .table) else [v]

/-- The value that the highest of some layers gives which gives the setting. -/
def Setting.highest? (x : Setting) (layers : List SettingTable) : Option SettingValue :=
  match x with
  | marker m => (shown (layers.filterMap (·.lookup "markers"))).findSome? m.given?
  | _ => layers.findSome? x.given?

/-! ## Merging layers -/

namespace SettingValue

/-- A value as it looks to whoever wants no table. -/
def outline : SettingValue → SettingValue
  | .table _ => .table []
  | v => v

theorem merge_of_form {v : SettingValue} (h : v.form ≠ .table) (earlier : Option SettingValue) :
    merge earlier v = v := by
  cases v with
  | table entries => exact absurd rfl h
  | text s => rw [merge]
  | flag b => rw [merge]
  | number written => rw [merge]
  | list items => rw [merge]

/-- A later value is changed only inside a table. -/
theorem merge_table_eq (earlier : Option SettingValue) (entries : SettingTable) :
    ∃ known, merge earlier (table entries) = table known := by
  by_cases h : ∃ known, earlier = some (table known)
  · obtain ⟨known, rfl⟩ := h
    exact ⟨_, merge_table known entries⟩
  · exact ⟨entries, merge_of_ne_table (not_exists.mp h) _⟩

theorem outline_merge (earlier : Option SettingValue) (v : SettingValue) :
    (merge earlier v).outline = v.outline := by
  by_cases h : v.form = .table
  · cases v with
    | table entries =>
        obtain ⟨known, hknown⟩ := merge_table_eq earlier entries
        rw [hknown]
        rfl
    | _ => cases h
  · rw [merge_of_form h]

theorem form_outline (v : SettingValue) : v.outline.form = v.form := by
  cases v <;> rfl

theorem form_merge (earlier : Option SettingValue) (v : SettingValue) :
    (merge earlier v).form = v.form := by
  rw [← form_outline, outline_merge, form_outline]

/-- What comes of the values that layers give a key, from the highest layer down. -/
def merged : List SettingValue → Option SettingValue
  | [] => none
  | v :: below => some (merge (merged below) v)

end SettingValue

theorem lookup_mergeAll {layers : List SettingTable} (h : ∀ t ∈ layers, TidyTable t)
    (key : String) :
    (mergeAll layers.reverse).lookup key = merged (layers.filterMap (·.lookup key)) := by
  induction layers with
  | nil => rfl
  | cons top below ih =>
      rw [List.forall_mem_cons] at h
      have hmerge : mergeAll (top :: below).reverse = mergeTable (mergeAll below.reverse) top := by
        rw [mergeAll, List.reverse_cons, List.foldl_append]
        rfl
      rw [hmerge, lookup_mergeTable h.1.nodup, ih h.2, List.filterMap_cons]
      cases top.lookup key <;> rfl

theorem outline_merged (values : List SettingValue) :
    (merged values).map outline = values.head?.map outline := by
  cases values with
  | nil => rfl
  | cons v below => exact congrArg some (outline_merge _ v)

theorem shown_of_table {v : SettingValue} (h : v.form = .table) (below : List SettingValue) :
    shown (v :: below) = v :: below.takeWhile (·.form = .table) :=
  if_pos h

theorem shown_of_leaf {v : SettingValue} (h : v.form ≠ .table) (below : List SettingValue) :
    shown (v :: below) = [v] :=
  if_neg h

/-- Merging gives a table only on top of another one. -/
theorem merged_eq_table {values : List SettingValue} {known : SettingTable}
    (h : merged values = some (table known)) :
    shown values = values.takeWhile (·.form = .table) := by
  cases values with
  | nil => rfl
  | cons v below =>
      have hform : v.form = .table := by
        rw [← form_merge (merged below) v, Option.some.inj h]
        rfl
      rw [shown_of_table hform]
      exact (List.takeWhile_cons_of_pos (by simpa using hform)).symm

/-- Where merging gives no table, no table is on top. -/
theorem takeWhile_of_merged_ne_table {values : List SettingValue}
    (h : ∀ known, merged values ≠ some (table known)) :
    values.takeWhile (·.form = .table) = [] := by
  cases values with
  | nil => rfl
  | cons v below =>
      cases v with
      | table entries =>
          obtain ⟨known, hknown⟩ := merge_table_eq (merged below) entries
          exact absurd (congrArg some hknown) (h known)
      | _ => rfl

/-- What comes of several values for all markers gives a marker what the first of
those gives that show. -/
theorem given?_merged (m : Marker) {values : List SettingValue} (h : ∀ v ∈ values, v.Tidy) :
    ((merged values).bind m.given?).map outline
      = ((shown values).findSome? m.given?).map outline := by
  induction values with
  | nil => rfl
  | cons v below ih =>
      rw [List.forall_mem_cons] at h
      rw [merged, Option.bind_some]
      cases v with
      | table entries =>
          rw [shown_of_table rfl, List.findSome?_cons]
          by_cases hbelow : ∃ known, merged below = some (table known)
          · obtain ⟨known, hknown⟩ := hbelow
            replace ih := ih h.2
            rw [hknown, merged_eq_table hknown] at ih
            rw [hknown, merge_table, Marker.given?, Marker.given?,
              lookup_mergeTable (tidy_table_iff.mp h.1).nodup]
            -- what the upper table does not have, the tables below it give
            cases entries.lookup m.key with
            | none => exact ih
            | some x => exact congrArg some (outline_merge _ x)
          · rw [merge_of_ne_table (not_exists.mp hbelow),
              takeWhile_of_merged_ne_table (not_exists.mp hbelow)]
            cases m.given? (table entries) <;> rfl
      | _ =>
          rw [shown_of_leaf (by rw [SettingValue.form]; decide), List.findSome?_singleton,
            merge_of_form]
          rw [SettingValue.form]
          decide

/-- **A table of all layers gives a setting what the highest layer gives which gives it.** -/
theorem given?_mergeAll (x : Setting) {layers : List SettingTable} (h : ∀ t ∈ layers, TidyTable t) :
    (x.given? (mergeAll layers.reverse)).map outline = (x.highest? layers).map outline := by
  have hvalue : ∀ key, ((mergeAll layers.reverse).lookup key).map outline
      = (layers.findSome? (·.lookup key)).map outline := by
    intro key
    rw [lookup_mergeAll h, outline_merged, List.head?_filterMap]
  cases x with
  | marker m =>
      rw [Setting.given?, lookup_mergeAll h, Setting.highest?]
      refine given?_merged m fun v hv => ?_
      obtain ⟨t, ht, hlookup⟩ := List.mem_filterMap.mp hv
      exact (h t ht).of_lookup hlookup
  | _ => exact hvalue _

/-! ## Settings of a table -/

namespace Settings

variable {keys : List String} {v : SettingValue}

theorem decodeText_eq_ok_iff {s : String} : decodeText keys v = .ok s ↔ v = .text s := by
  cases v <;> simp [decodeText]

theorem decodePath_eq_ok_iff {p : Path} : decodePath keys v = .ok p ↔ v = .text p.text := by
  obtain ⟨s⟩ := p
  cases v <;> simp [decodePath, decodeText, Except.map]

theorem decodeFlag_eq_ok_iff {b : Bool} : decodeFlag keys v = .ok b ↔ v = .flag b := by
  cases v <;> simp [decodeFlag]

theorem decodeItems_eq_ok_iff {index : Nat} {values : List SettingValue} {texts : List String} :
    decodeItems keys index values = .ok texts ↔ values = texts.map .text := by
  induction values generalizing index texts with
  | nil => cases texts <;> simp [decodeItems]
  | cons v values ih =>
      simp only [decodeItems, bind_eq_ok, decodeText_eq_ok_iff, ih]
      cases texts with
      | nil => simp [pure, Except.pure]
      | cons s texts => simp [pure, Except.pure]

theorem decodeTexts_eq_ok_iff {texts : List String} :
    decodeTexts keys v = .ok texts ↔ v = .list (texts.map .text) := by
  cases v <;> simp [decodeTexts, decodeItems_eq_ok_iff]

theorem decodeMaybePath_eq_ok_iff {p : Option Path} :
    (some <$> decodePath keys v) = .ok p
      ↔ (p.map fun path => SettingValue.text path.text) = some v := by
  have hmap : (some <$> decodePath keys v) = .ok p ↔ ∃ path, decodePath keys v = .ok path
      ∧ some path = p := by
    cases decodePath keys v <;> simp [Functor.map, Except.map]
  simp only [hmap, decodePath_eq_ok_iff, Option.map_eq_some_iff]
  constructor
  · rintro ⟨path, rfl, rfl⟩
    exact ⟨path, rfl, rfl⟩
  · rintro ⟨path, rfl, rfl⟩
    exact ⟨path, rfl, rfl⟩

/-- A value under a key, written as a source would give it, is the one that is
given, or else the default. -/
theorem valueAt_eq_ok_iff {α : Type} {decode : List String → SettingValue → Except SettingError α}
    {default a : α} {entries : SettingTable} {key : String} (written : α → Option SettingValue)
    (hdecode : ∀ v a, decode (keys ++ [key]) v = .ok a ↔ written a = some v)
    (hdefault : written a = written default → a = default) :
    valueAt keys decode default entries key = .ok a
      ↔ written a = (entries.lookup key).or (written default) := by
  rw [valueAt]
  cases entries.lookup key with
  | none => exact ⟨fun h => by rw [Except.ok.inj h, Option.none_or], fun h => by rw [hdefault h]⟩
  | some v => exact hdecode v a

section ByKind

variable {entries : SettingTable} {key : String}

theorem valueAt_text_eq_ok_iff {default s : String} :
    valueAt keys decodeText default entries key = .ok s
    ↔ some (SettingValue.text s) = (entries.lookup key).or (some (.text default)) := by
  refine valueAt_eq_ok_iff (fun s => some (.text s)) (fun v s => ?_) fun h => ?_
  · rw [decodeText_eq_ok_iff, Option.some_inj, eq_comm]
  · exact SettingValue.text.inj (Option.some.inj h)

theorem valueAt_flag_eq_ok_iff {default b : Bool} :
    valueAt keys decodeFlag default entries key = .ok b
    ↔ some (SettingValue.flag b) = (entries.lookup key).or (some (.flag default)) := by
  refine valueAt_eq_ok_iff (fun b => some (.flag b)) (fun v b => ?_) fun h => ?_
  · rw [decodeFlag_eq_ok_iff, Option.some_inj, eq_comm]
  · exact SettingValue.flag.inj (Option.some.inj h)

theorem valueAt_path_eq_ok_iff {default p : Path} :
    valueAt keys decodePath default entries key = .ok p
    ↔ some (SettingValue.text p.text) = (entries.lookup key).or (some (.text default.text)) := by
  refine valueAt_eq_ok_iff (fun p : Path => some (.text p.text)) (fun v p => ?_) fun h => ?_
  · rw [decodePath_eq_ok_iff, Option.some_inj, eq_comm]
  · exact congrArg Path.mk (SettingValue.text.inj (Option.some.inj h))

theorem valueAt_texts_eq_ok_iff {default texts : List String} :
    valueAt keys decodeTexts default entries key = .ok texts
      ↔ some (SettingValue.list (texts.map .text))
        = (entries.lookup key).or (some (.list (default.map .text))) := by
  refine valueAt_eq_ok_iff (fun texts : List String => some (.list (texts.map .text)))
    (fun v texts => ?_) fun h => ?_
  · rw [decodeTexts_eq_ok_iff, Option.some_inj, eq_comm]
  · exact List.map_injective_iff.mpr (fun _ _ => SettingValue.text.inj)
      (SettingValue.list.inj (Option.some.inj h))

/-- A path that need not be given. -/
theorem valueAt_maybePath_eq_ok_iff {p : Option Path} :
    valueAt keys (fun keys value => some <$> decodePath keys value) none entries key = .ok p
      ↔ (p.map fun path => SettingValue.text path.text) = entries.lookup key := by
  rw [valueAt_eq_ok_iff (fun p : Option Path => p.map fun path => SettingValue.text path.text),
    Option.map_none, Option.or_none]
  · exact fun v p => decodeMaybePath_eq_ok_iff
  · exact fun h => Option.map_eq_none_iff.mp h

end ByKind

theorem forall_marker {P : Marker → Prop} : (∀ m, P m) ↔ P .config ∧ P .nest ∧ P .hook := by
  refine ⟨fun h => ⟨h _, h _, h _⟩, fun h m => ?_⟩
  cases m with
  | config => exact h.1
  | nest => exact h.2.1
  | hook => exact h.2.2

/-- Markers are given by name or as a list, and each of them is what is given for
it, or else the default. -/
theorem decodeMarkers_eq_ok_iff {markers : Markers} : decodeMarkers keys v = .ok markers
    ↔ (v.form = .table ∨ v.form = .list)
      ∧ ∀ m : Marker, some (.text (m.nameIn markers))
        = (m.given? v).or (some (.text (m.nameIn {}))) := by
  obtain ⟨config, nest, hook⟩ := markers
  rw [forall_marker]
  cases v with
  | table entries =>
      simp only [decodeMarkers, bind_eq_ok, valueAt_text_eq_ok_iff, pure, Except.pure,
        Except.ok.injEq, Markers.mk.injEq]
      constructor
      · rintro ⟨_, hconfig, _, hhook, _, hnest, rfl, rfl, rfl⟩
        exact ⟨Or.inl rfl, hconfig, hnest, hhook⟩
      · rintro ⟨_, hconfig, hnest, hhook⟩
        exact ⟨config, hconfig, hook, hhook, nest, hnest, rfl, rfl, rfl⟩
  | list values =>
      simp only [decodeMarkers, bind_eq_ok, decodeItems_eq_ok_iff, pure, Except.pure,
        Except.ok.injEq, Markers.mk.injEq, Marker.given?, Marker.place]
      constructor
      · rintro ⟨texts, htexts, rfl, rfl, rfl⟩
        have hitem : ∀ i < 3, ∀ default,
            some (text (texts[i]?.getD default)) = values[i]?.or (some (.text default)) := by
          intro i hi default
          have hvalue : values[i]? = texts[i]?.map .text := by
            rw [← List.getElem?_map, ← htexts, List.getElem?_take_of_lt hi]
          rw [hvalue]
          cases texts[i]? <;> rfl
        exact ⟨Or.inr rfl, hitem 0 (by decide) _, hitem 1 (by decide) _, hitem 2 (by decide) _⟩
      · rintro ⟨_, hconfig, hnest, hhook⟩
        -- as many of the three as there are
        rcases values with _ | ⟨a, _ | ⟨b, _ | ⟨c, rest⟩⟩⟩
        · exact ⟨[], rfl, (text.inj (Option.some.inj hconfig)).symm,
            (text.inj (Option.some.inj hnest)).symm, (text.inj (Option.some.inj hhook)).symm⟩
        · refine ⟨[config], ?_, rfl, (text.inj (Option.some.inj hnest)).symm,
            (text.inj (Option.some.inj hhook)).symm⟩
          rw [← Option.some.inj hconfig]
          rfl
        · refine ⟨[config, nest], ?_, rfl, rfl, (text.inj (Option.some.inj hhook)).symm⟩
          rw [← Option.some.inj hconfig, ← Option.some.inj hnest]
          rfl
        · refine ⟨[config, nest, hook], ?_, rfl, rfl, rfl⟩
          rw [← Option.some.inj hconfig, ← Option.some.inj hnest, ← Option.some.inj hhook]
          rfl
  | _ => simp [decodeMarkers, form]

/-- Markers are read from a table if each of them can be. -/
theorem valueAt_markers_eq_ok_iff {layer : SettingTable} {markers : Markers} :
    valueAt [] decodeMarkers {} layer "markers" = .ok markers
      ↔ (∀ v ∈ layer.lookup "markers", v.form = .table ∨ v.form = .list)
        ∧ ∀ m, some (.text (m.nameIn markers))
          = ((Setting.marker m).given? layer).or (some (.text (m.nameIn {}))) := by
  simp only [valueAt, Setting.given?]
  cases layer.lookup "markers" with
  | none =>
      constructor
      · rintro h
        rw [← Except.ok.inj h]
        exact ⟨fun v hv => absurd hv (Option.not_mem_none v), fun _ => rfl⟩
      · rintro ⟨_, h⟩
        have hname : ∀ m : Marker, m.nameIn markers = m.nameIn {} :=
          fun m => text.inj (Option.some.inj (h m))
        obtain ⟨config, nest, hook⟩ := markers
        obtain ⟨rfl, rfl, rfl⟩ := forall_marker.mp hname
        rfl
  | some v =>
      refine decodeMarkers_eq_ok_iff.trans (and_congr_left' ⟨fun h w hw => ?_, fun h => h v rfl⟩)
      rw [← Option.some.inj hw]
      exact h

/-- Settings are read from a table if each of them can be. -/
theorem ofTable_eq_ok_iff {layer : SettingTable} {s : Settings} : ofTable layer = .ok s
    ↔ (∀ v ∈ layer.lookup "markers", v.form = .table ∨ v.form = .list)
      ∧ ∀ x : Setting, x.valueIn s = (x.given? layer).or (x.valueIn {}) := by
  simp only [ofTable, bind_eq_ok]
  -- the settings are decoded in the order of their keys, each for itself
  constructor
  · rintro ⟨_, hallow, _, hdeferred, _, hmarkers, _, hout, _, hrecords, _, hnamespaces, _, hsources,
      _, hsymbols, h⟩
    cases Except.ok.inj h
    obtain ⟨hform, hmarkers⟩ := valueAt_markers_eq_ok_iff.mp hmarkers
    refine ⟨hform, fun x => ?_⟩
    cases x with
    | symbols => exact (valueAt_maybePath_eq_ok_iff.mp hsymbols).trans (Option.or_none).symm
    | outDirectory => exact valueAt_path_eq_ok_iff.mp hout
    | sourcesDirectory =>
        exact (valueAt_maybePath_eq_ok_iff.mp hsources).trans (Option.or_none).symm
    | recordsDirectory =>
        exact (valueAt_maybePath_eq_ok_iff.mp hrecords).trans (Option.or_none).symm
    | deferredFile => exact (valueAt_maybePath_eq_ok_iff.mp hdeferred).trans (Option.or_none).symm
    | namespaces => exact valueAt_texts_eq_ok_iff.mp hnamespaces
    | allowErrors => exact valueAt_flag_eq_ok_iff.mp hallow
    | marker m => exact hmarkers m
  · rintro ⟨hform, hvalue⟩
    exact ⟨s.allowErrors, valueAt_flag_eq_ok_iff.mpr (hvalue .allowErrors),
      s.deferredFile, valueAt_maybePath_eq_ok_iff.mpr ((hvalue .deferredFile).trans Option.or_none),
      s.options.markers, valueAt_markers_eq_ok_iff.mpr ⟨hform, fun m => hvalue (.marker m)⟩,
      s.outDirectory, valueAt_path_eq_ok_iff.mpr (hvalue .outDirectory),
      s.recordsDirectory,
      valueAt_maybePath_eq_ok_iff.mpr ((hvalue .recordsDirectory).trans Option.or_none),
      s.options.namespaces, valueAt_texts_eq_ok_iff.mpr (hvalue .namespaces), s.sourcesDirectory,
      valueAt_maybePath_eq_ok_iff.mpr ((hvalue .sourcesDirectory).trans Option.or_none), s.symbols,
      valueAt_maybePath_eq_ok_iff.mpr ((hvalue .symbols).trans Option.or_none), rfl⟩

end Settings

/-! ## Settings of layers -/

/-- No setting is a table. -/
theorem Setting.form_valueIn (x : Setting) (s : Settings) : ∀ v ∈ x.valueIn s, v.form ≠ .table := by
  have hpath : ∀ p : Option Path, ∀ v ∈ p.map fun path => SettingValue.text path.text, v.form
      ≠ .table := by
    intro p v hv
    obtain ⟨path, _, rfl⟩ := Option.map_eq_some_iff.mp hv
    rw [form]
    decide
  intro v hv
  cases x with
  | symbols => exact hpath _ v hv
  | sourcesDirectory => exact hpath _ v hv
  | recordsDirectory => exact hpath _ v hv
  | deferredFile => exact hpath _ v hv
  | _ =>
      rw [← Option.some.inj hv, form]
      decide

/-- Who wants no table sees only the outlines of values. -/
theorem eq_or_iff_outline {value given default : Option SettingValue}
    (h : ∀ v ∈ value, v.form ≠ .table) :
    value = given.or default ↔ value = (given.map outline).or default := by
  cases given with
  | none => rfl
  | some w =>
      cases w with
      | table entries =>
          refine ⟨fun heq => absurd rfl (h (.table entries) ?_),
            fun heq => absurd rfl (h (.table []) ?_)⟩
          · rw [heq]
            rfl
          · rw [heq]
            rfl
      | _ => rfl

/-- **Settings have the values that the highest layers give them.** Layers can be put together
unless the value that the highest of them gives for all markers is neither a table nor a list, or
the value for some setting is none for it. -/
theorem Settings.ofSources_eq_ok_iff {file environment commandLine : SettingTable}
    (hfile : TidyTable file) (henvironment : TidyTable environment)
    (hcommandLine : TidyTable commandLine) {s : Settings} :
    ofSources file environment commandLine = .ok s
      ↔ (∀ v ∈ [commandLine, environment, file].findSome? (·.lookup "markers"), v.form = .table
        ∨ v.form = .list)
        ∧ ∀ x : Setting, x.valueIn s = (x.highest? [commandLine, environment, file]).or
          (x.valueIn {}) := by
  have htidy : ∀ t ∈ [commandLine, environment, file], TidyTable t :=
    List.forall_mem_cons.mpr
      ⟨hcommandLine, List.forall_mem_cons.mpr ⟨henvironment, List.forall_mem_singleton.mpr hfile⟩⟩
  have hsources : ofSources file environment commandLine = .ok s
      ↔ ofTable (mergeAll [commandLine, environment, file].reverse) = .ok s := by
    rw [ofSources,
      show [commandLine, environment, file].reverse = [file, environment, commandLine] from rfl]
    cases ofTable (mergeAll [file, environment, commandLine]) <;> simp
  rw [hsources, ofTable_eq_ok_iff, lookup_mergeAll htidy]
  refine and_congr ?_ (forall_congr' fun x => ?_)
  · rw [← List.head?_filterMap]
    cases [commandLine, environment, file].filterMap (·.lookup "markers") with
    | nil => exact Iff.rfl
    | cons v below =>
        simp only [merged, List.head?_cons, Option.mem_def, Option.some.injEq,
          forall_eq', form_merge]
  · rw [eq_or_iff_outline (x.form_valueIn s), given?_mergeAll x htidy,
      ← eq_or_iff_outline (x.form_valueIn s)]

/-! ## Changes that cannot be seen -/

/-- Two layers give all settings but one the same value, and give markers in the same form. -/
structure SameBut (x : Setting) (layer layer' : SettingTable) : Prop where
  others : ∀ y, y ≠ x → y.given? layer' = y.given? layer
  form : (layer'.lookup "markers").map SettingValue.form
    = (layer.lookup "markers").map SettingValue.form

/-- One of some layers is replaced by one that says something else about a setting, or nothing, and
nothing else changes. A layer above gives the setting. -/
def ReplacedBelow (x : Setting) (layers layers' : List SettingTable) : Prop :=
  ∃ above layer layer' below, layers = above ++ layer :: below ∧ layers' = above ++ layer' :: below
    ∧ SameBut x layer layer' ∧ ∃ t ∈ above, (x.given? t).isSome

section Replaced

variable {α β : Type} {as bs : List α} {b b' : α} {f : α → Option β}

/-- What is found in a list is the same with another item, if that is passed by
or found to be the same. -/
theorem findSome?_replaced (h : (∃ a ∈ as, (f a).isSome) ∨ f b' = f b) :
    (as ++ b' :: bs).findSome? f = (as ++ b :: bs).findSome? f := by
  rw [List.findSome?_append, List.findSome?_append]
  rcases h with hfound | hsame
  · rw [Option.or_of_isSome (List.findSome?_isSome_iff.mpr hfound),
      Option.or_of_isSome (List.findSome?_isSome_iff.mpr hfound)]
  · rw [List.findSome?_cons, List.findSome?_cons, hsame]

/-- The same holds where the list is cut off at an item, if the other item is cut off as well. -/
theorem findSome?_takeWhile_replaced {p : α → Bool} (hp : p b' = p b)
    (h : (∃ a ∈ as, (f a).isSome) ∨ f b' = f b) :
    ((as ++ b' :: bs).takeWhile p).findSome? f = ((as ++ b :: bs).takeWhile p).findSome? f := by
  rw [List.takeWhile_append, List.takeWhile_append]
  split
  · rw [List.takeWhile_cons, List.takeWhile_cons, hp]
    split
    · exact findSome?_replaced h
    · rfl
  · rfl

end Replaced

/-- The same holds for what shows of several values for all markers. -/
theorem findSome?_shown_replaced {above below : List SettingValue}
    {v v' : SettingValue} {m : Marker} (hform : v'.form = v.form)
    (h : (∃ a ∈ above, (m.given? a).isSome) ∨ m.given? v' = m.given? v) :
    (shown (above ++ v' :: below)).findSome? m.given?
      = (shown (above ++ v :: below)).findSome? m.given? := by
  cases above with
  | nil =>
      have hsame : m.given? v' = m.given? v := h.resolve_left fun ⟨a, ha, _⟩ => List.not_mem_nil ha
      rw [List.nil_append, List.nil_append, shown, shown, hform]
      split
      · rw [List.findSome?_cons, List.findSome?_cons, hsame]
      · rw [List.findSome?_singleton, List.findSome?_singleton, hsame]
  | cons a above =>
      rw [List.cons_append, List.cons_append, shown, shown]
      split
      · rw [List.findSome?_cons, List.findSome?_cons]
        cases ha : m.given? a with
        | some x => rfl
        | none =>
            refine findSome?_takeWhile_replaced (by rw [hform])
              (h.imp_left fun ⟨c, hc, hgiven⟩ => ?_)
            rcases List.mem_cons.mp hc with rfl | hc
            · rw [ha] at hgiven
              cases hgiven
            · exact ⟨c, hc, hgiven⟩
      · rfl

section Hidden

variable {x : Setting} {layers layers' : List SettingTable}

/-- What replaces a hidden value is hidden as well. -/
theorem ReplacedBelow.highest? (h : ReplacedBelow x layers layers') (y : Setting) :
    y.highest? layers' = y.highest? layers := by
  obtain ⟨above, layer, layer', below, rfl, rfl, hsame, hgiven⟩ := h
  have hvalue : (∃ t ∈ above, (y.given? t).isSome) ∨ y.given? layer' = y.given? layer := by
    by_cases hy : y = x
    · exact Or.inl (hy ▸ hgiven)
    · exact Or.inr (hsame.others y hy)
  -- the form tells which layers show their markers, and that is kept; other settings are looked up
  -- in every layer
  cases y with
  | marker m =>
      have hform := hsame.form
      rw [Setting.highest?, Setting.highest?, List.filterMap_append, List.filterMap_append,
        List.filterMap_cons, List.filterMap_cons]
      rw [Setting.given?, Setting.given?] at hvalue
      cases hlayer : layer.lookup "markers" with
      | none =>
          rw [hlayer, Option.map_none, Option.map_eq_none_iff] at hform
          rw [hform]
      | some v =>
          rw [hlayer, Option.map_some, Option.map_eq_some_iff] at hform
          obtain ⟨v', hlayer', hform⟩ := hform
          rw [hlayer, hlayer'] at hvalue
          rw [hlayer']
          refine findSome?_shown_replaced hform (hvalue.imp_left fun ⟨t, ht, hgiven⟩ => ?_)
          obtain ⟨value, hvalue⟩ := Option.isSome_iff_exists.mp hgiven
          obtain ⟨a, ha, hvalue⟩ := Option.bind_eq_some_iff.mp hvalue
          exact ⟨a, List.mem_filterMap.mpr ⟨t, ht, ha⟩, Option.isSome_of_eq_some hvalue⟩
  | _ => exact findSome?_replaced hvalue

theorem ReplacedBelow.form (h : ReplacedBelow x layers layers') :
    (layers'.findSome? (·.lookup "markers")).map SettingValue.form
      = (layers.findSome? (·.lookup "markers")).map SettingValue.form := by
  obtain ⟨above, layer, layer', below, rfl, rfl, hsame, _⟩ := h
  have hform := hsame.form
  rw [List.findSome?_append, List.findSome?_append, List.findSome?_cons, List.findSome?_cons]
  cases above.findSome? (·.lookup "markers") with
  | some v => rfl
  | none =>
      rw [Option.none_or, Option.none_or]
      cases hlayer : layer.lookup "markers" with
      | none =>
          rw [hlayer, Option.map_none, Option.map_eq_none_iff] at hform
          rw [hform]
      | some v =>
          rw [hlayer] at hform
          obtain ⟨v', hlayer', _⟩ := Option.map_eq_some_iff.mp hform
          rw [hlayer'] at hform ⊢
          exact hform

end Hidden

end WrapperGen
