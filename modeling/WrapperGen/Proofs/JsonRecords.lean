import Mathlib.Data.List.Nodup
import WrapperGen.Json.Decode

/-!
# Decoding what was written

A decoder reads back what a writer writes (`Decoder.ReadsBack`) if it gives the value for the
reading of its JSON value, as long as no more levels are entered than there are. Decoders of
lists and maps read back when those of their elements do. A record reads back when the
members that are written put every field in its place (`Fills`), and those left out have the
value that they start with.
-/

namespace WrapperGen.Json

/-! ## Nesting -/

mutual

/-- How many levels of arrays and objects there are inside each other. -/
def nesting : Json → Nat
  | array items => nestingItems items + 1
  | object members => nestingMembers members + 1
  | null | bool _ | integer _ | string _ => 0

/-- The levels inside array elements. -/
def nestingItems : List Json → Nat
  | [] => 0
  | item :: items => max item.nesting (nestingItems items)

/-- The levels inside object members. -/
def nestingMembers : List (String × Json) → Nat
  | [] => 0
  | (_, value) :: members => max value.nesting (nestingMembers members)

end

theorem nesting_le_members {key : String} {value : Json} {members : List (String × Json)}
    (h : (key, value) ∈ members) : value.nesting ≤ nestingMembers members := by
  induction members with
  | nil => exact absurd h List.not_mem_nil
  | cons first members ih =>
    obtain ⟨key', value'⟩ := first
    rw [nestingMembers]
    rcases List.mem_cons.mp h with heq | hlater
    · obtain rfl : value = value' := (Prod.mk.inj heq).2
      exact Nat.le_max_left _ _
    · exact Nat.le_trans (ih hlater) (Nat.le_max_right _ _)

/-- An array takes a level for itself. -/
theorem exists_inside_array {items : List Json} {levels : Nat}
    (h : (array items).nesting ≤ levels) :
    ∃ inside, levels = inside + 1 ∧ nestingItems items ≤ inside := by
  rw [nesting] at h
  exact ⟨levels - 1, by omega, by omega⟩

/-- So does an object. -/
theorem exists_inside_object {members : List (String × Json)} {levels : Nat}
    (h : (object members).nesting ≤ levels) :
    ∃ inside, levels = inside + 1 ∧ nestingMembers members ≤ inside := by
  rw [nesting] at h
  exact ⟨levels - 1, by omega, by omega⟩

theorem nestingMembers_append (members members' : List (String × Json)) :
    nestingMembers (members ++ members')
      = max (nestingMembers members) (nestingMembers members') := by
  induction members with
  | nil => simp [nestingMembers]
  | cons member members ih =>
      rw [List.cons_append, nestingMembers, nestingMembers, ih, Nat.max_assoc]

/-! ## Plain values, lists and maps -/

variable {α : Type}

/-- Whatever the writer writes is decoded again, if there are levels enough. -/
def Decoder.ReadsBack (decode : Decoder α) (write : α → Json) : Prop :=
  ∀ x levels, (write x).nesting ≤ levels → decode levels (Reading.ofJson (write x)) = .ok x

theorem readsBack_string : decodeString.ReadsBack .string := fun _ _ _ => rfl

theorem decodeItems_of_readsBack {decode : Decoder α} {write : α → Json}
    (h : decode.ReadsBack write) {levels : Nat} (xs : List α)
    (hlevels : nestingItems (xs.map write) ≤ levels) :
    decodeItems (decode levels) (Reading.ofItems (xs.map write)) = .ok xs := by
  induction xs with
  | nil => rfl
  | cons x xs ih =>
    rw [List.map_cons, nestingItems, Nat.max_le] at hlevels
    rw [List.map_cons, Reading.ofItems, decodeItems, h x levels hlevels.1, ih hlevels.2]
    rfl

theorem readsBack_list {decode : Decoder α} {write : α → Json} (h : decode.ReadsBack write) :
    (decodeList decode).ReadsBack fun xs => .array (xs.map write) := by
  intro xs levels hlevels
  obtain ⟨inside, rfl, hinside⟩ := exists_inside_array hlevels
  have hitems := decodeItems_of_readsBack h xs hinside
  simp only [Reading.ofJson, decodeList, enter, hitems]
  rfl

theorem decodeMembers_of_readsBack {decode : Decoder α} {write : α → Json}
    (h : decode.ReadsBack write) {levels : Nat} (entries : List (String × α))
    (hlevels : nestingMembers (entries.map fun (key, x) => (key, write x)) ≤ levels) :
    decodeMembers (decode levels) (Reading.ofMembers (entries.map fun (key, x) => (key, write x)))
      = .ok entries := by
  induction entries with
  | nil => rfl
  | cons entry entries ih =>
    obtain ⟨key, x⟩ := entry
    rw [List.map_cons, nestingMembers, Nat.max_le] at hlevels
    rw [List.map_cons, Reading.ofMembers, decodeMembers, h x levels hlevels.1, ih hlevels.2]
    rfl

theorem readsBack_map {decode : Decoder α} {write : α → Json} (h : decode.ReadsBack write) :
    (decodeMap decode).ReadsBack fun entries => .object
      (entries.map fun (key, x) => (key, write x)) := by
  intro entries levels hlevels
  obtain ⟨inside, rfl, hinside⟩ := exists_inside_object hlevels
  have hmembers := decodeMembers_of_readsBack h entries hinside
  simp only [Reading.ofJson, decodeMap, enter, hmembers]
  rfl

/-- A word that is known is decoded to what it stands for. -/
theorem decodeWord_string {known : List (String × α)} {word : String} {x : α}
    (h : known.lookup word = some x) (levels : Nat) :
    decodeWord known levels (Reading.ofJson (.string word)) = .ok x := by
  simp only [Reading.ofJson, decodeWord, h]

/-! ## Records -/

theorem store_of {β : Type} {decode : Decoder β} {set : β → α → α} {levels : Nat}
    {reading : Reading} {x : β} (h : decode levels reading = .ok x) (name : String)
    (required : Bool) (record : α) :
    (Field.of name required decode set).store levels reading record = .ok (set x record) := by
  change (do let y ← decode levels reading; return set y record) = _
  rw [h]
  rfl

/-- The members put their values into a record, one after the other. -/
inductive Fills (fields : List (Field α)) (levels : Nat) : List (String × Json) → α → α → Prop where
  | nil {x : α} : Fills fields levels [] x x
  | cons {name : String} {value : Json} {members : List (String × Json)}
      {field : Field α} {x y z : α} :
      fields.find? (·.name == name) = some field →
      field.store levels (Reading.ofJson value) x = .ok y →
      Fills fields levels members y z → Fills fields levels ((name, value) :: members) x z

variable {fields : List (Field α)} {levels : Nat}
    {members members' : List (String × Json)} {x y z : α}

theorem Fills.append (h : Fills fields levels members x y) (h' : Fills fields levels members' y z) :
    Fills fields levels (members ++ members') x z := by
  induction h with
  | nil => exact h'
  | cons hfind hstore _ ih => exact .cons hfind hstore (ih h')

/-- A field that was not seen before stores the value of its member. -/
theorem decodeFields_cons {name : String} {value : Reading} {field : Field α} {seen : List String}
    (hfind : fields.find? (·.name == name) = some field) (hunseen : seen.contains name = false)
    (hstore : field.store levels value x = .ok y) (rest : List (Key × Reading)) :
    decodeFields fields levels ((.string (.ok name), value) :: rest) seen x
      = decodeFields fields levels rest (name :: seen) y := by
  rw [decodeFields]
  simp only [Key.text, bind, Except.bind, hfind, hunseen, hstore]
  rfl

/-- Members with distinct names, none of them seen before, are decoded one after the other. -/
theorem decodeFields_of_fills (h : Fills fields levels members x y)
    (hdistinct : (members.map Prod.fst).Nodup) (seen : List String)
    (hnew : ∀ name ∈ members.map Prod.fst, name ∉ seen) :
    decodeFields fields levels (Reading.ofMembers members) seen x
      = .ok ((members.map Prod.fst).reverse ++ seen, y) := by
  -- a name counts as seen as soon as it is decoded, so the names seen grow along the members
  induction h generalizing seen with
  | nil => rfl
  | @cons name value members field x y z hfind hstore _ ih =>
    rw [List.map_cons, List.nodup_cons] at hdistinct
    have hunseen : seen.contains name = false := by
      simpa using hnew name (by simp)
    have hrest := ih hdistinct.2 (name :: seen) (by
      intro other hother
      rw [List.mem_cons, not_or]
      exact ⟨fun heq => hdistinct.1 (heq ▸ hother), hnew other (List.mem_cons_of_mem _ hother)⟩)
    rw [Reading.ofMembers, decodeFields_cons hfind hunseen hstore, hrest, List.map_cons,
      List.reverse_cons, List.append_assoc, List.singleton_append]

/-- **A record is decoded** from the members that fill it. They come in the order of the fields, and
the required fields are among them. -/
theorem decodeRecord_of_fills {blank record : α} (h : Fills fields levels members blank record)
    (hdistinct : (fields.map Field.name).Nodup)
    (horder : (members.map Prod.fst).Sublist (fields.map Field.name))
    (hrequired : ∀ field ∈ fields, field.required = true → field.name ∈ members.map Prod.fst)
    (name : String) :
    decodeRecord name fields blank (levels + 1) (Reading.ofJson (.object members))
      = .ok record := by
  have hfields := decodeFields_of_fills h (hdistinct.sublist horder) [] (by simp)
  -- no required field is left without a member
  have hmissing : fields.find?
      (fun field => field.required && !((members.map Prod.fst).reverse ++ []).contains field.name)
      = none := by
    rw [List.find?_eq_none]
    intro field hfield
    by_cases hneeded : field.required = true
    · simpa [hneeded] using hrequired field hfield hneeded
    · simp [hneeded]
  simp only [Reading.ofJson, decodeRecord, enter, hfields, bind, Except.bind,
    Ending.expectClosed, hmissing]
  rfl

/-! ## Members that are left out -/

/-- A member that is written only if its field has another value than it starts with. -/
def optionalMember (left : Bool) (name : String) (value : Json) : List (String × Json) :=
  if left then [] else [(name, value)]

theorem fills_optionalMember {left : Bool} {name : String} {value : Json} {field : Field α}
    (hfind : fields.find? (·.name == name) = some field) (hleft : left = true → y = x)
    (hstore : value.nesting ≤ levels → field.store levels (Reading.ofJson value) x = .ok y)
    (hlevels : nestingMembers (optionalMember left name value) ≤ levels) :
    Fills fields levels (optionalMember left name value) x y := by
  cases left with
  | true =>
    rw [hleft rfl]
    exact .nil
  | false =>
    have hnesting : value.nesting ≤ levels :=
      Nat.le_trans (nesting_le_members List.mem_cons_self) hlevels
    exact .cons hfind (hstore hnesting) .nil

theorem names_optionalMember (left : Bool) (name : String) (value : Json) :
    ((optionalMember left name value).map Prod.fst).Sublist [name] := by
  cases left with
  | true => exact List.nil_sublist _
  | false => exact List.Sublist.refl _

end WrapperGen.Json
