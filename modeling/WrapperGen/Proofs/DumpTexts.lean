import Mathlib.Data.List.Nodup
import WrapperGen.Proofs.JsonRecords
import WrapperGen.Proofs.JsonTexts
import WrapperGen.Symbols.Dump

/-!
# Dumps that are written and read again

Nothing of a dump is lost in its text. What is left out of the text is what reading puts in its
place: no annotations, no type parameters, no source file. An annotation value is tried as one
kind after the other, and what is written for one kind is never taken for another. So a dump is
read back from its text (`read_write`), unless its annotations hold lists inside lists more deeply
than the reader follows.
-/

namespace WrapperGen

/-! ## Maps -/

namespace KeyMap

variable {α : Type}

theorem place_of_lt {key : String} {value : α} {entries : List (String × α)}
    (h : ∀ e ∈ entries, e.1 < key) :
    place key value entries = entries ++ [(key, value)] := by
  induction entries with
  | nil => rfl
  | cons e entries ih =>
    have he : e.1 < key := h e List.mem_cons_self
    have hrest := ih fun e' he' => h e' (List.mem_cons_of_mem _ he')
    rw [place, if_neg (String.lt_asymm he),
      if_neg (fun heq => String.lt_irrefl _ (heq ▸ he)), hrest]
    rfl

/-- Entries that come in the order of their keys are put at the end. -/
theorem foldl_insert_entries (m : KeyMap α) (entries : List (String × α))
    (h : (m.entries ++ entries).Pairwise fun a b => a.1 < b.1) :
    (entries.foldl (fun m e => m.insert e.1 e.2) m).entries = m.entries ++ entries := by
  induction entries generalizing m with
  | nil => simp
  | cons e entries ih =>
    have hbefore : ∀ e' ∈ m.entries, e'.1 < e.1 := fun e' he' =>
      (List.pairwise_append.mp h).2.2 e' he' e List.mem_cons_self
    have hplaced : (m.insert e.1 e.2).entries = m.entries ++ [e] := place_of_lt hbefore
    rw [List.foldl_cons, ih, hplaced, List.append_assoc, List.singleton_append]
    rw [hplaced, List.append_assoc, List.singleton_append]
    exact h

theorem ofList_entries (m : KeyMap α) : ofList m.entries = m := by
  have h : (ofList m.entries).entries = m.entries :=
    foldl_insert_entries empty m.entries m.ascending
  cases m
  cases hlist : ofList _
  rw [hlist] at h
  cases h
  rfl

theorem eq_empty_of_isEmpty {m : KeyMap α} (h : m.isEmpty = true) : m = empty := by
  obtain ⟨entries, ascending⟩ := m
  obtain rfl : entries = [] := List.isEmpty_iff.mp h
  rfl

end KeyMap

/-! ## Annotations -/

theorem Json.Number.ofDigits_ofInt (i : Int) : ofDigits (ofInt i).whole = i.natAbs := by
  have hdigits : Nat.ofDigitChars 10 (Nat.toDigits 10 i.natAbs) 0 = i.natAbs :=
    Nat.ofDigitChars_ten_toDigits
  simp only [Nat.ofDigitChars_eq_foldl, Nat.mul_comm 10] at hdigits
  rw [ofInt, ofDigits, List.foldl_map]
  exact hdigits

/-- An integer of 64 bits is read as the number that it is. -/
theorem Json.Number.integer?_ofInt {i : Int} (hmin : Int64.minValue.toInt ≤ i)
    (hmax : i ≤ Int64.maxValue.toInt) :
    (ofInt i).integer? = some i := by
  have hsize : UInt64.size = 18446744073709551616 := rfl
  have hleast : Int64.minValue.toInt = -9223372036854775808 := rfl
  have hgreatest : Int64.maxValue.toInt = 9223372036854775807 := rfl
  -- without point and exponent only the range is left to look at, and it depends on the sign
  have hwhole : (ofInt i).fraction.isSome = false ∧ (ofInt i).exponent.isSome = false := ⟨rfl, rfl⟩
  rw [integer?, hwhole.1, hwhole.2, ofDigits_ofInt]
  by_cases hnegative : i < 0
  · have hsign : (ofInt i).negative = true := decide_eq_true hnegative
    have hrange : 0 < i.natAbs ∧ i.natAbs ≤ UInt64.size / 2 := by omega
    rw [hsign, if_neg (by decide), if_pos rfl, if_pos hrange]
    exact congrArg some (by omega)
  · have hsign : (ofInt i).negative = false := decide_eq_false hnegative
    have hrange : i.natAbs < UInt64.size := by omega
    rw [hsign, if_neg (by decide), if_neg (by decide), if_pos hrange]
    exact congrArg some (by omega)

namespace AnnotationValue

mutual

/-- What is written for a value is taken for this value. -/
theorem ofReading?_ofJson :
    ∀ v : AnnotationValue, ofReading? (Json.Reading.ofJson v.toJson) = some v
  | bool b => rfl
  | integer i => by
    have hrange : Int64.minValue.toInt ≤ i.toInt ∧ i.toInt ≤ Int64.maxValue.toInt :=
      ⟨Int64.minValue_le_toInt i, Int64.toInt_le i⟩
    rw [toJson, Json.Reading.ofJson, ofReading?, Json.Number.integer?_ofInt hrange.1 hrange.2,
      Option.bind_some, int64?, if_pos hrange, Int64.ofInt_toInt]
    rfl
  | string s => rfl
  | list items => by
    rw [toJson, Json.Reading.ofJson, ofReading?, ofItems?_ofItems items]
    rfl

theorem ofItems?_ofItems :
    ∀ vs : List AnnotationValue, ofItems? (Json.Reading.ofItems (toJsonItems vs)) = some vs
  | [] => rfl
  | v :: vs => by
    rw [toJsonItems, Json.Reading.ofItems, ofItems?, ofReading?_ofJson v, ofItems?_ofItems vs]
    rfl

end

mutual

/-- What is written for a value can be read to its end. -/
theorem checkRead_ofJson : ∀ (v : AnnotationValue) (levels : Nat), v.toJson.nesting ≤ levels →
    checkRead levels (Json.Reading.ofJson v.toJson) = .ok ()
  | bool b, levels, _ => by rw [toJson, Json.Reading.ofJson, checkRead]
  | integer i, levels, _ => by
    have hmeaning : (Json.Number.ofInt i.toInt).meaning = .integer i.toInt := by
      rw [Json.Number.meaning,
        Json.Number.integer?_ofInt (Int64.minValue_le_toInt i) (Int64.toInt_le i)]
    rw [toJson, Json.Reading.ofJson, checkRead, hmeaning, if_neg (by simp)]
  | string s, levels, _ => by rw [toJson, Json.Reading.ofJson, checkRead]
  | list items, levels, hlevels => by
    rw [toJson] at hlevels
    obtain ⟨inside, rfl, hinside⟩ := Json.exists_inside_array hlevels
    have hitems := checkItems_ofItems items inside hinside
    rw [toJson, Json.Reading.ofJson, checkRead, Json.enter, hitems]
    rfl

theorem checkItems_ofItems : ∀ (vs : List AnnotationValue) (levels : Nat),
    Json.nestingItems (toJsonItems vs) ≤ levels →
    checkItems levels (Json.Reading.ofItems (toJsonItems vs)) = .ok ()
  | [], levels, _ => by rw [toJsonItems, Json.Reading.ofItems, checkItems]
  | v :: vs, levels, hlevels => by
    rw [toJsonItems, Json.nestingItems, Nat.max_le] at hlevels
    rw [toJsonItems, Json.Reading.ofItems, checkItems, checkRead_ofJson v levels hlevels.1]
    exact checkItems_ofItems vs levels hlevels.2

end

theorem readsBack : decode.ReadsBack toJson := by
  intro v levels hlevels
  rw [decode, checkRead_ofJson v levels hlevels, ofReading?_ofJson]
  rfl

end AnnotationValue

/-- A map is read back when its values are. -/
theorem KeyMap.ofList_readsBack {α : Type} {decode : Json.Decoder α} {write : α → Json}
    (h : decode.ReadsBack write) :
    Json.Decoder.ReadsBack (fun levels reading => ofList <$> Json.decodeMap decode levels reading)
      fun m : KeyMap α => .object (m.entries.map fun (key, x) => (key, write x)) := by
  intro m levels hlevels
  dsimp only
  rw [Json.readsBack_map h m.entries levels hlevels]
  exact congrArg Except.ok m.ofList_entries

theorem Arguments.readsBack : decode.ReadsBack toJson :=
  KeyMap.ofList_readsBack AnnotationValue.readsBack

theorem Annotations.readsBack : decode.ReadsBack toJson :=
  KeyMap.ofList_readsBack Arguments.readsBack

theorem Annotations.member_eq (annotations : Annotations) :
    annotations.member = Json.optionalMember annotations.isEmpty "annotations" annotations.toJson :=
  rfl

/-- Annotations that are left out are those that a record starts with. -/
theorem Annotations.fills_member {α : Type} {fields : List (Json.Field α)}
    {levels : Nat} {record : α} (set : Annotations → α → α)
    (hfind : fields.find? (·.name == "annotations") = some (.of "annotations" false decode set))
    (hblank : set .empty record = record) (annotations : Annotations)
    (hlevels : Json.nestingMembers annotations.member ≤ levels) :
    Json.Fills fields levels annotations.member record (set annotations record) := by
  rw [member_eq] at hlevels ⊢
  refine Json.fills_optionalMember hfind (fun hempty => ?_) (fun hnesting => ?_) hlevels
  · rw [KeyMap.eq_empty_of_isEmpty hempty, hblank]
  · exact Json.store_of (readsBack annotations levels hnesting) _ _ _

/-! ## Properties -/

theorem PropertyDump.readsBack : decode.ReadsBack toJson := by
  intro p levels hlevels
  obtain ⟨inside, rfl, hinside⟩ := Json.exists_inside_object hlevels
  rw [Json.nestingMembers_append, Nat.max_le] at hinside
  have hplain : Json.Fills fields inside
      [("name", .string p.name), ("type", .string p.type), ("mutable", .bool p.mutable),
        ("backing_field", .bool p.backingField), ("resolved", .bool p.resolved)]
      {} { p with annotations := .empty } :=
    .cons rfl rfl (.cons rfl rfl (.cons rfl rfl (.cons rfl rfl (.cons rfl rfl .nil))))
  have hfilled := hplain.append
    (Annotations.fills_member (fun a p => { p with annotations := a }) rfl rfl
      p.annotations hinside.2)
  refine Json.decodeRecord_of_fills hfilled (by decide) ?_ ?_ "PropertyDump"
  · rw [List.map_append]
    exact (List.Sublist.refl _).append (Json.names_optionalMember _ _ _)
  · have hwritten : ∀ field ∈ fields, field.required = true →
        field.name ∈ ["name", "type", "mutable", "backing_field", "resolved"] := by decide
    intro field hfield hneeded
    rw [List.map_append]
    exact List.mem_append_left _ (hwritten field hfield hneeded)

/-! ## Declarations -/

namespace DeclarationDump

theorem lookup_word (kind : DeclarationKind) :
    (DeclarationKind.all.map fun kind => (kind.word, kind)).lookup kind.word = some kind := by
  cases kind <;> rfl

/-- The member that writes the source file, left out when there is none. -/
theorem fills_source (name : String) (kind : DeclarationKind) (source : Option String)
    (levels : Nat) :
    Json.Fills fields levels
      (match source with | some path => [("source", .string path)] | none => [])
        { name := name, kind := kind } { name := name, kind := kind, source := source } := by
  cases source with
  | none => exact .nil
  | some path => exact .cons rfl rfl .nil

theorem names_source (source : Option String) :
    ((match source with | some path => [("source", Json.string path)] | none => []).map
      Prod.fst).Sublist ["source"] := by
  cases source with
  | none => exact List.nil_sublist _
  | some path => exact List.Sublist.refl _

theorem readsBack : decode.ReadsBack toJson := by
  intro d levels hlevels
  obtain ⟨inside, rfl, hinside⟩ := Json.exists_inside_object hlevels
  simp only [Json.nestingMembers_append, Nat.max_le] at hinside
  obtain ⟨⟨⟨_, htypes⟩, hmarks⟩, hmembers⟩ := hinside
  have hplain : Json.Fills fields inside [("name", .string d.name), ("kind", .string d.kind.word)]
      {} { name := d.name, kind := d.kind } :=
    .cons rfl rfl
      (.cons rfl (Json.store_of (Json.decodeWord_string (lookup_word d.kind) inside) _ _ _) .nil)
  have hparameters : Json.Fills fields inside
      (if d.typeParameters.isEmpty then []
        else [("type_parameters", .array (d.typeParameters.map .string))])
      { name := d.name, kind := d.kind, source := d.source }
      { d with annotations := .empty, properties := [] } := by
    refine Json.fills_optionalMember rfl (fun hempty => ?_) (fun hnesting => ?_) htypes
    · rw [List.isEmpty_iff.mp hempty]
    · exact Json.store_of
        (Json.readsBack_list Json.readsBack_string d.typeParameters inside hnesting) _ _ _
  have hannotations : Json.Fills fields inside (Annotations.member d.annotations)
      { d with annotations := .empty, properties := [] } { d with properties := [] } :=
    Annotations.fills_member (fun a (d : DeclarationDump) => { d with annotations := a }) rfl rfl
      d.annotations hmarks
  have hproperties : Json.Fills fields inside
      [("properties", .array (d.properties.map PropertyDump.toJson))]
        { d with properties := [] } d := by
    have hnesting : (Json.array (d.properties.map PropertyDump.toJson)).nesting ≤ inside :=
      Nat.le_trans (Json.nesting_le_members List.mem_cons_self) hmembers
    exact .cons rfl (Json.store_of
      (Json.readsBack_list PropertyDump.readsBack d.properties inside hnesting) _ _ _) .nil
  -- the members come in the order of the fields, whichever of them are left out
  have hfilled :=
    (((hplain.append (fills_source d.name d.kind d.source inside)).append hparameters).append
    hannotations).append hproperties
  refine Json.decodeRecord_of_fills hfilled (by decide) ?_ ?_ "DeclarationDump"
  · simp only [List.map_append]
    exact ((((List.Sublist.refl _).append (names_source _)).append
      (Json.names_optionalMember _ _ _)).append (Json.names_optionalMember _ _ _)).append
      (List.Sublist.refl _)
  · have hwritten : ∀ field ∈ fields, field.required = true → field.name ∈ ["name", "kind"] := by
      decide
    intro field hfield hneeded
    simp only [List.map_append, List.append_assoc]
    exact List.mem_append_left _ (hwritten field hfield hneeded)

end DeclarationDump

/-! ## Dumps -/

namespace SymbolDump

theorem readsBack : decode.ReadsBack toJson := by
  intro d levels hlevels
  obtain ⟨inside, rfl, hinside⟩ := Json.exists_inside_object hlevels
  have hnesting : (Json.array (d.declarations.map DeclarationDump.toJson)).nesting ≤ inside :=
    Nat.le_trans (Json.nesting_le_members List.mem_cons_self) hinside
  have hfilled : Json.Fills fields inside
      [("declarations", .array (d.declarations.map DeclarationDump.toJson))] {} d :=
    .cons rfl (Json.store_of
      (Json.readsBack_list DeclarationDump.readsBack d.declarations inside hnesting) _ _ _) .nil
  have hwritten : ∀ field ∈ fields, field.required = true → field.name ∈ ["declarations"] := by
    decide
  exact Json.decodeRecord_of_fills hfilled (by decide) (List.Sublist.refl _) hwritten "SymbolDump"

/--
**A dump is read back from its text.**

Strings, integers and truth values come back as they are, also inside lists, and so does everything
that is left out of the text. The condition is the one that the reader itself has: no more levels of
arrays and objects than it enters.
-/
theorem read_write (d : SymbolDump) (h : d.toJson.nesting ≤ Json.maximalNesting) :
    read d.write = .ok d := by
  rw [read, Json.decode, write, Json.scan_compactText]
  dsimp only
  rw [readsBack d Json.maximalNesting h]
  rfl

/-- A dump with lists inside lists, the least integer, and strings that have to be escaped. -/
def escapedDump : SymbolDump where
  declarations := [
    { name := "dev/example.\"Model\""
      kind := .typeAlias
      source := some "C:\\src\tModel.kt"
      typeParameters := ["T", ""]
      annotations := .ofList [
        ("Config", .ofList [
          ("values", .list [.integer Int64.minValue, .list [.bool true, .list []],
            .string "\x00é\n\x7f"]),
          ("\x1b", .integer 0)])]
      properties := [
        { name := "größe", type := "T", mutable := true, backingField := false, resolved := false },
        { name := "", type := "\\u0041", annotations := .ofList [("Nest", .empty)] }] },
    {}]

theorem read_write_escapedDump :
    escapedDump.toJson.nesting ≤ Json.maximalNesting
      ∧ read escapedDump.write = .ok escapedDump := by
  have hnesting : escapedDump.toJson.nesting ≤ Json.maximalNesting := by decide
  exact ⟨hnesting, read_write escapedDump hnesting⟩

end SymbolDump

end WrapperGen
