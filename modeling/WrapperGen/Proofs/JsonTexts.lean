import Mathlib.Data.List.DropRight
import WrapperGen.Proofs.JsonTokens

/-!
# Texts that spell a value

A value can be written with blanks between its tokens or without any. `Spells` is the relation
between a value and its texts, strings and integers being written the way the writer does. Reading a
text that spells a value gives the reading of that value, in which nothing is broken
(`scan_of_spells`); what the writer writes spells what it was given (`spells_compact`). So what is
written is read as it was meant.
-/

namespace WrapperGen.Json

open Text (skipBlanks isBlank)

/-! ## Texts -/

/-- Blanks, as they may stand between tokens. -/
def Blanks (cs : List Char) : Prop := ∀ c ∈ cs, isBlank c = true

mutual

/-- A text of a value, from its first token to its last. -/
inductive Spells : Json → List Char → Prop where
  | null : Spells .null (compact .null)
  | bool (b : Bool) : Spells (.bool b) (compact (.bool b))
  | integer (i : Int) : Spells (.integer i) (compact (.integer i))
  | string (s : String) : Spells (.string s) (compact (.string s))
  | noItems {bs : List Char} : Blanks bs → Spells (.array []) ('[' :: (bs ++ [']']))
  | array {items : List Json} {cs : List Char} :
      SpellsItems items cs → Spells (.array items) ('[' :: cs)
  | noMembers {bs : List Char} : Blanks bs → Spells (.object []) ('{' :: (bs ++ ['}']))
  | object {members : List (String × Json)} {cs : List Char} : SpellsMembers members cs →
      Spells (.object members) ('{' :: cs)

/-- A text of array elements, up to the bracket that closes the array. -/
inductive SpellsItems : List Json → List Char → Prop where
  | last {item : Json} {before cs after : List Char} :
      Blanks before → Spells item cs → Blanks after →
      SpellsItems [item] (before ++ (cs ++ (after ++ [']'])))
  | more {item : Json} {items : List Json} {before cs after rest : List Char} :
      Blanks before → Spells item cs →
      Blanks after → SpellsItems items rest →
      SpellsItems (item :: items) (before ++ (cs ++ (after ++ ',' :: rest)))

/-- A text of object members, up to the brace that closes the object. -/
inductive SpellsMembers : List (String × Json) → List Char → Prop where
  | last {key : String} {value : Json} {before gap gap' cs after : List Char} :
      Blanks before → Blanks gap →
      Blanks gap' → Spells value cs → Blanks after →
      SpellsMembers [(key, value)]
        (before ++ (quoted key ++ (gap ++ ':' :: (gap' ++ (cs ++ (after ++ ['}']))))))
  | more {key : String} {value : Json} {members : List (String × Json)}
      {before gap gap' cs after rest : List Char} :
      Blanks before → Blanks gap → Blanks gap' → Spells value cs → Blanks after →
      SpellsMembers members rest →
      SpellsMembers ((key, value) :: members)
        (before ++ (quoted key ++ (gap ++ ':' :: (gap' ++ (cs ++ (after ++ ',' :: rest))))))

end

/-! ## Blanks -/

theorem blanks_nil : Blanks [] := fun _ h => absurd h List.not_mem_nil

theorem skipBlanks_append {bs : List Char} (h : Blanks bs) (s : List Char) :
    skipBlanks (bs ++ s) = skipBlanks s :=
  List.dropWhile_append_of_pos h

theorem skipBlanks_cons {c : Char} (h : isBlank c = false) (s : List Char) :
    skipBlanks (c :: s) = c :: s := by
  rw [skipBlanks, List.dropWhile_cons, h]
  rfl

/-- Behind blanks comes the next token. -/
theorem skipBlanks_append_cons {bs : List Char} (h : Blanks bs) {c : Char} (hc : isBlank c = false)
    (s : List Char) :
    skipBlanks (bs ++ c :: s) = c :: s := by
  rw [skipBlanks_append h, skipBlanks_cons hc]

theorem skipBlanks_skipBlanks (s : List Char) : skipBlanks (skipBlanks s) = skipBlanks s :=
  List.dropWhile_idempotent ..

/-- Blanks in front make no difference to what is read. -/
theorem scanValue_congr {s s' : List Char} (h : skipBlanks s = skipBlanks s') (bound : Nat) :
    scanValue bound s = scanValue bound s' := by
  cases bound with
  | zero => rfl
  | succ bound => rw [scanValue, scanValue, h]

theorem scanItems_congr {s s' : List Char} (h : skipBlanks s = skipBlanks s') (bound : Nat) :
    scanItems bound s = scanItems bound s' := by
  cases bound with
  | zero => rfl
  | succ bound => rw [scanItems, scanItems, scanValue_congr h]

theorem scanMembers_congr {s s' : List Char} (h : skipBlanks s = skipBlanks s') (bound : Nat) :
    scanMembers bound s = scanMembers bound s' := by
  cases bound with
  | zero => rfl
  | succ bound => rw [scanMembers, scanMembers, scanKey, scanKey, h]

/-! ## First characters -/

theorem isBlank_iff {c : Char} : isBlank c = true ↔ c = ' ' ∨ c = '\t' ∨ c = '\r' ∨ c = '\n' := by
  simp [isBlank, or_assoc]

/-- A character that begins a value: no blank, and nothing that closes an array or an object. -/
structure Opens (c : Char) : Prop where
  notBlank : isBlank c = false
  notBracket : c ≠ ']'
  notBrace : c ≠ '}'

/-- A character that begins a value without others inside. -/
structure OpensScalar (c : Char) : Prop extends Opens c where
  notArray : c ≠ '['
  notObject : c ≠ '{'

theorem opensScalar_of_isDigit {c : Char} (h : c.isDigit = true) : OpensScalar c := by
  have hne : ∀ other : Char, other.isDigit = false → c ≠ other := by
    rintro other hother rfl
    exact absurd h (by simp [hother])
  refine ⟨⟨?_, hne ']' rfl, hne '}' rfl⟩, hne '[' rfl, hne '{' rfl⟩
  rw [Bool.eq_false_iff, ne_eq, isBlank_iff]
  rintro (heq | heq | heq | heq)
  · exact hne ' ' rfl heq
  · exact hne '\t' rfl heq
  · exact hne '\r' rfl heq
  · exact hne '\n' rfl heq

theorem opensScalar_of_literal {c : Char}
    (h : c ∈ ['n', 't', 'f', '"', '-']) : OpensScalar c := by
  simp only [List.mem_cons, List.not_mem_nil, or_false] at h
  rcases h with rfl | rfl | rfl | rfl | rfl <;> exact ⟨⟨rfl, by decide, by decide⟩,
    by decide, by decide⟩

theorem opensScalar_integer (i : Int) :
    ∃ c more, compact (.integer i) = c :: more ∧ OpensScalar c := by
  rw [compact]
  cases i with
  | ofNat n =>
    obtain ⟨c, cs, hcs⟩ := List.exists_cons_of_ne_nil (Nat.toDigits_ne_nil (n := n) (b := 10))
    have hdigit : c.isDigit = true :=
      isDigit_of_mem_toDigits (n := n) (by rw [hcs]; exact List.mem_cons_self)
    exact ⟨c, cs, Nat.toList_repr.trans hcs, opensScalar_of_isDigit hdigit⟩
  | negSucc n =>
      exact ⟨'-', (n + 1).repr.toList, String.toList_append, opensScalar_of_literal (by decide)⟩

theorem Spells.opens {j : Json} {cs : List Char} (h : Spells j cs) :
    ∃ c more, cs = c :: more ∧ Opens c := by
  have harray : Opens '[' := ⟨rfl, by decide, by decide⟩
  have hobject : Opens '{' := ⟨rfl, by decide, by decide⟩
  cases h with
  | null => exact ⟨_, _, rfl, (opensScalar_of_literal (by decide)).toOpens⟩
  | bool b => cases b <;> exact ⟨_, _, rfl, (opensScalar_of_literal (by decide)).toOpens⟩
  | integer i =>
    obtain ⟨c, more, hcs, hc⟩ := opensScalar_integer i
    exact ⟨c, more, hcs, hc.toOpens⟩
  | string s => exact ⟨_, _, rfl, (opensScalar_of_literal (by decide)).toOpens⟩
  | noItems _ => exact ⟨_, _, rfl, harray⟩
  | array _ => exact ⟨_, _, rfl, harray⟩
  | noMembers _ => exact ⟨_, _, rfl, hobject⟩
  | object _ => exact ⟨_, _, rfl, hobject⟩

/-- Behind a value inside an array or an object there is nothing that belongs to a number. -/
theorem endsNumber_append {bs : List Char} (h : Blanks bs) {c : Char} (hc : c ∈ [',', ']', '}'])
    (cs : List Char) : EndsNumber (bs ++ c :: cs) := by
  rintro _ _ heq
  cases bs with
  | nil =>
    obtain ⟨rfl, rfl⟩ := List.cons.inj heq
    simp only [List.mem_cons, List.not_mem_nil, or_false] at hc
    rcases hc with rfl | rfl | rfl <;> exact ⟨rfl, by decide, by decide, by decide⟩
  | cons b bs =>
    obtain ⟨rfl, rfl⟩ := List.cons.inj heq
    rcases isBlank_iff.mp (h b List.mem_cons_self) with rfl | rfl | rfl | rfl <;>
      exact ⟨rfl, by decide, by decide, by decide⟩

/-! ## One step of reading -/

theorem scanValue_scalar {c : Char} {cs rest : List Char} {value : Reading} (hc : OpensScalar c)
    (h : scanScalar (c :: cs) = (value, rest)) (hwhole : value.isBroken = false) (bound : Nat) :
    scanValue (bound + 1) (c :: cs) = (value, some rest) := by
  rw [scanValue, skipBlanks_cons hc.notBlank]
  split
  · rename_i heq
    exact absurd (List.cons.inj heq).1 hc.notArray
  · rename_i heq
    exact absurd (List.cons.inj heq).1 hc.notObject
  · rw [h]
    simp [hwhole]

theorem scanValue_noItems {s rest : List Char} (h : skipBlanks s = ']' :: rest) (bound : Nat) :
    scanValue (bound + 1) ('[' :: s) = (.array [] .closed, some rest) := by
  rw [scanValue, skipBlanks_cons (by decide)]
  simp only [h]

theorem scanValue_noMembers {s rest : List Char} (h : skipBlanks s = '}' :: rest) (bound : Nat) :
    scanValue (bound + 1) ('{' :: s) = (.object [] .closed, some rest) := by
  rw [scanValue, skipBlanks_cons (by decide)]
  simp only [h]

theorem scanValue_array {s more : List Char} {c : Char} {items : List Reading} {ending : Ending}
    {after : Option (List Char)} {bound : Nat} (hc : skipBlanks s = c :: more) (hopens : c ≠ ']')
    (h : scanItems bound s = (items, ending, after)) :
    scanValue (bound + 1) ('[' :: s) = (.array items ending, after) := by
  have hitems : scanItems bound (c :: more) = (items, ending, after) := by
    rw [← h, ← hc]
    exact scanItems_congr (skipBlanks_skipBlanks s) bound
  rw [scanValue, skipBlanks_cons (by decide)]
  simp only [hc]
  split
  · rename_i heq
    exact absurd heq (by simp)
  · rename_i heq
    exact absurd (List.cons.inj heq).1 hopens
  · rw [hitems]

theorem scanValue_object {s more : List Char} {c : Char} {members : List (Key × Reading)}
    {ending : Ending} {after : Option (List Char)} {bound : Nat} (hc : skipBlanks s = c :: more)
    (hopens : c ≠ '}') (h : scanMembers bound s = (members, ending, after)) :
    scanValue (bound + 1) ('{' :: s) = (.object members ending, after) := by
  have hmembers : scanMembers bound (c :: more) = (members, ending, after) := by
    rw [← h, ← hc]
    exact scanMembers_congr (skipBlanks_skipBlanks s) bound
  rw [scanValue, skipBlanks_cons (by decide)]
  simp only [hc]
  split
  · rename_i heq
    exact absurd heq (by simp)
  · rename_i heq
    exact absurd (List.cons.inj heq).1 hopens
  · rw [hmembers]

theorem scanItems_last {s rest after : List Char} {value : Reading} {bound : Nat}
    (h : scanValue bound s = (value, some rest)) (hclosed : skipBlanks rest = ']' :: after) :
    scanItems (bound + 1) s = ([value], .closed, some after) := by
  rw [scanItems, h]
  simp only [hclosed]

theorem scanItems_more {s rest next : List Char} {value : Reading} {items : List Reading}
    {ending : Ending} {after : Option (List Char)} {bound : Nat}
    (h : scanValue bound s = (value, some rest)) (hcomma : skipBlanks rest = ',' :: next)
    (hitems : scanItems bound next = (items, ending, after)) :
    scanItems (bound + 1) s = (value :: items, ending, after) := by
  rw [scanItems, h]
  simp only [hcomma, hitems]

theorem scanMembers_last {s inside rest after : List Char} {key : Key}
    {value : Reading} {bound : Nat} (hkey : scanKey s = (key, some inside)) {colon : List Char}
    (hcolon : skipBlanks inside = ':' :: colon) (h : scanValue bound colon = (value, some rest))
    (hclosed : skipBlanks rest = '}' :: after) :
    scanMembers (bound + 1) s = ([(key, value)], .closed, some after) := by
  rw [scanMembers, hkey]
  simp only [hcolon, h, hclosed]

theorem scanMembers_more {s inside rest next : List Char} {key : Key} {value : Reading}
    {members : List (Key × Reading)} {ending : Ending} {after : Option (List Char)} {bound : Nat}
    (hkey : scanKey s = (key, some inside)) {colon : List Char}
    (hcolon : skipBlanks inside = ':' :: colon) (h : scanValue bound colon = (value, some rest))
    (hcomma : skipBlanks rest = ',' :: next)
    (hmembers : scanMembers bound next = (members, ending, after)) :
    scanMembers (bound + 1) s = ((key, value) :: members, ending, after) := by
  rw [scanMembers, hkey]
  simp only [hcolon, h, hcomma, hmembers]

/-! ## Reading what spells a value -/

theorem SpellsItems.opens {items : List Json} {cs : List Char} (h : SpellsItems items cs)
    (rest : List Char) :
    ∃ c more, skipBlanks (cs ++ rest) = c :: more ∧ Opens c := by
  cases h with
  | last hbefore hitem _ =>
    obtain ⟨c, more, rfl, hc⟩ := hitem.opens
    exact ⟨c, _,
      by rw [List.append_assoc, skipBlanks_append hbefore]; exact skipBlanks_cons hc.notBlank _, hc⟩
  | more hbefore hitem _ _ =>
    obtain ⟨c, more, rfl, hc⟩ := hitem.opens
    exact ⟨c, _,
      by rw [List.append_assoc, skipBlanks_append hbefore]; exact skipBlanks_cons hc.notBlank _, hc⟩

theorem SpellsMembers.opens {members : List (String × Json)} {cs : List Char}
    (h : SpellsMembers members cs) (rest : List Char) :
    ∃ more, skipBlanks (cs ++ rest) = '"' :: more := by
  cases h with
  | last hbefore _ _ _ _ => exact ⟨_, by rw [List.append_assoc, skipBlanks_append hbefore]; rfl⟩
  | more hbefore _ _ _ _ _ => exact ⟨_, by rw [List.append_assoc, skipBlanks_append hbefore]; rfl⟩

theorem scanKey_append {before : List Char} (h : Blanks before) (key : String) (rest : List Char) :
    scanKey (before ++ (quoted key ++ rest)) = (.string (.ok key), some rest) := by
  rw [← scanKey_quoted key rest, scanKey, scanKey, skipBlanks_append h]

mutual

/--
**A text that spells a value is read as that value.**

The bound counts twice the characters: each step takes one character at least, and each level
has a step of its own.
-/
theorem scanValue_of_spells {j : Json} {cs : List Char} (h : Spells j cs) {bound : Nat}
    (hbound : 2 * cs.length ≤ bound) {rest : List Char} (hrest : EndsNumber rest) :
    scanValue bound (cs ++ rest) = (Reading.ofJson j, some rest) := by
  -- no text is empty, so there is a step left
  obtain ⟨bound, rfl⟩ : ∃ b, bound = b + 1 := by
    obtain ⟨c, more, hcs, _⟩ := h.opens
    have hlength : cs.length = more.length + 1 := congrArg List.length hcs
    exact ⟨bound - 1, by omega⟩
  cases h with
  | null => exact scanValue_scalar (opensScalar_of_literal (by decide)) rfl rfl bound
  | bool b =>
    cases b with
    | true => exact scanValue_scalar (opensScalar_of_literal (by decide)) rfl rfl bound
    | false => exact scanValue_scalar (opensScalar_of_literal (by decide)) rfl rfl bound
  | integer i =>
    obtain ⟨c, more, hcs, hc⟩ := opensScalar_integer i
    have hscan : scanScalar (compact (.integer i) ++ rest) = (.number (Number.ofInt i), rest) :=
      scanScalar_integer i hrest
    rw [hcs, List.cons_append] at hscan ⊢
    exact scanValue_scalar hc hscan rfl bound
  | string s =>
      exact scanValue_scalar (opensScalar_of_literal (by decide))
        (scanScalar_quoted s rest) rfl bound
  | noItems hblanks =>
    rw [List.cons_append, List.append_assoc]
    exact scanValue_noItems (skipBlanks_append_cons hblanks (by decide) rest) bound
  | array hitems =>
    obtain ⟨c, more, hc, hopens⟩ := hitems.opens rest
    rw [List.length_cons] at hbound
    exact scanValue_array hc hopens.notBracket (scanItems_of_spells hitems (by omega) rest)
  | noMembers hblanks =>
    rw [List.cons_append, List.append_assoc]
    exact scanValue_noMembers (skipBlanks_append_cons hblanks (by decide) rest) bound
  | object hmembers =>
    obtain ⟨more, hc⟩ := hmembers.opens rest
    rw [List.length_cons] at hbound
    exact scanValue_object hc (by decide) (scanMembers_of_spells hmembers (by omega) rest)

theorem scanItems_of_spells {items : List Json} {cs : List Char}
    (h : SpellsItems items cs) {bound : Nat} (hbound : 2 * cs.length + 1 ≤ bound)
    (rest : List Char) :
    scanItems bound (cs ++ rest) = (Reading.ofItems items, .closed, some rest) := by
  obtain ⟨bound, rfl⟩ : ∃ b, bound = b + 1 := ⟨bound - 1, by omega⟩
  cases h with
  | @last item before cs after hbefore hitem hafter =>
    simp only [List.length_append] at hbound
    simp only [List.append_assoc, List.singleton_append]
    have hvalue : scanValue bound (before ++ (cs ++ (after ++ ']' :: rest)))
        = (Reading.ofJson item, some (after ++ ']' :: rest)) := by
      rw [scanValue_congr (skipBlanks_append hbefore _)]
      exact scanValue_of_spells hitem (by omega) (endsNumber_append hafter (by decide) rest)
    exact scanItems_last hvalue (skipBlanks_append_cons hafter (by decide) rest)
  | @more item items before cs after next hbefore hitem hafter hitems =>
    simp only [List.length_append, List.length_cons] at hbound
    simp only [List.append_assoc, List.cons_append]
    have hvalue : scanValue bound (before ++ (cs ++ (after ++ ',' :: (next ++ rest))))
        = (Reading.ofJson item, some (after ++ ',' :: (next ++ rest))) := by
      rw [scanValue_congr (skipBlanks_append hbefore _)]
      exact scanValue_of_spells hitem (by omega) (endsNumber_append hafter (by decide) _)
    exact scanItems_more hvalue (skipBlanks_append_cons hafter (by decide) _)
      (scanItems_of_spells hitems (by omega) rest)

theorem scanMembers_of_spells {members : List (String × Json)} {cs : List Char}
    (h : SpellsMembers members cs) {bound : Nat} (hbound : 2 * cs.length + 1 ≤ bound)
    (rest : List Char) :
    scanMembers bound (cs ++ rest) = (Reading.ofMembers members, .closed, some rest) := by
  -- a member takes one step of the bound for itself and leaves enough for its value
  obtain ⟨bound, rfl⟩ : ∃ b, bound = b + 1 := ⟨bound - 1, by omega⟩
  cases h with
  | @last key value before gap gap' cs after hbefore hgap hgap' hspells hafter =>
    simp only [List.length_append, List.length_cons] at hbound
    simp only [List.append_assoc, List.cons_append, List.nil_append]
    have hvalue : scanValue bound (gap' ++ (cs ++ (after ++ '}' :: rest)))
        = (Reading.ofJson value, some (after ++ '}' :: rest)) := by
      rw [scanValue_congr (skipBlanks_append hgap' _)]
      exact scanValue_of_spells hspells (by omega) (endsNumber_append hafter (by decide) rest)
    exact scanMembers_last (scanKey_append hbefore key _)
      (skipBlanks_append_cons hgap (by decide) _) hvalue
        (skipBlanks_append_cons hafter (by decide) rest)
  | @more key value members before gap gap' cs after next hbefore hgap hgap' hspells
      hafter hmembers =>
    simp only [List.length_append, List.length_cons] at hbound
    simp only [List.append_assoc, List.cons_append]
    have hvalue : scanValue bound (gap' ++ (cs ++ (after ++ ',' :: (next ++ rest))))
        = (Reading.ofJson value, some (after ++ ',' :: (next ++ rest))) := by
      rw [scanValue_congr (skipBlanks_append hgap' _)]
      exact scanValue_of_spells hspells (by omega) (endsNumber_append hafter (by decide) _)
    exact scanMembers_more (scanKey_append hbefore key _)
      (skipBlanks_append_cons hgap (by decide) _) hvalue
        (skipBlanks_append_cons hafter (by decide) _)
          (scanMembers_of_spells hmembers (by omega) rest)

end

/-- A text that spells a value is read whole, and blanks may stand behind it. -/
theorem scan_of_spells {j : Json} {text : String} {cs bs : List Char} (h : Spells j cs)
    (hblanks : Blanks bs) (htext : text.toList = cs ++ bs) :
    scan text = (Reading.ofJson j, true) := by
  -- a number must not go on behind the value, and blanks do not let it
  have hends : EndsNumber bs := by
    rintro c more rfl
    rcases isBlank_iff.mp (hblanks c List.mem_cons_self) with rfl | rfl | rfl | rfl <;>
      exact ⟨rfl, by decide, by decide, by decide⟩
  have hbound : 2 * cs.length ≤ 2 * text.toList.length + 2 := by
    rw [htext, List.length_append]
    omega
  have hvalue := scanValue_of_spells h hbound hends
  rw [← htext] at hvalue
  have hnothing : skipBlanks bs = [] := by
    rw [← List.append_nil bs, skipBlanks_append hblanks]
    rfl
  simp only [scan, hvalue, hnothing]
  rfl

/-! ## What the writer writes -/

mutual

theorem spells_compact : ∀ j : Json, Spells j j.compact
  | .null => .null
  | .bool b => .bool b
  | .integer i => .integer i
  | .string s => .string s
  | .array [] => .noItems blanks_nil
  | .array (item :: items) => .array (spellsItems_compact (item :: items) (List.cons_ne_nil _ _))
  | .object [] => .noMembers blanks_nil
  | .object (member :: members) =>
      .object (spellsMembers_compact (member :: members) (List.cons_ne_nil _ _))

theorem spellsItems_compact :
    ∀ items : List Json, items ≠ [] → SpellsItems items (compactItems items ++ [']'])
  | [], h => absurd rfl h
  | [item], _ => .last blanks_nil (spells_compact item) blanks_nil
  | item :: next :: items, _ => by
    rw [compactItems, List.append_assoc]
    exact .more blanks_nil (spells_compact item) blanks_nil
      (spellsItems_compact (next :: items) (List.cons_ne_nil _ _))

theorem spellsMembers_compact :
    ∀ members : List (String × Json), members ≠ [] →
    SpellsMembers members (compactMembers members ++ ['}'])
  | [], h => absurd rfl h
  | [(key, value)], _ => by
    rw [compactMembers, List.append_assoc]
    exact .last blanks_nil blanks_nil blanks_nil (spells_compact value) blanks_nil
  | (key, value) :: next :: members, _ => by
    rw [compactMembers, List.append_assoc, List.cons_append, List.append_assoc]
    exact .more blanks_nil blanks_nil blanks_nil (spells_compact value) blanks_nil
      (spellsMembers_compact (next :: members) (List.cons_ne_nil _ _))

end

/-- **What is written without blanks is read as what was written.** -/
theorem scan_compactText (j : Json) : scan j.compactText = (Reading.ofJson j, true) :=
  scan_of_spells (spells_compact j) blanks_nil
    (by rw [compactText, String.toList_ofList, List.append_nil])

theorem blanks_lineBreak (depth : Nat) : Blanks (lineBreak depth) := by
  intro c hc
  rcases List.mem_cons.mp hc with rfl | hc
  · rfl
  · rw [List.eq_of_mem_replicate hc]
    rfl

theorem blanks_blank : Blanks [' '] := fun c hc => by
  rw [List.mem_singleton.mp hc]
  rfl

mutual

theorem spells_spread : ∀ (j : Json) (depth : Nat), Spells j (j.spread depth)
  | .null, _ => .null
  | .bool b, _ => .bool b
  | .integer i, _ => .integer i
  | .string s, _ => .string s
  | .array [], _ => .noItems blanks_nil
  | .array (item :: items), depth => by
    rw [spread, List.append_assoc]
    exact .array (spellsItems_spread (item :: items) (List.cons_ne_nil _ _) (depth + 1)
      (blanks_lineBreak depth))
  | .object [], _ => .noMembers blanks_nil
  | .object (member :: members), depth => by
    rw [spread, List.append_assoc]
    exact .object (spellsMembers_spread (member :: members) (List.cons_ne_nil _ _) (depth + 1)
      (blanks_lineBreak depth))

theorem spellsItems_spread :
    ∀ items : List Json, items ≠ [] → ∀ (depth : Nat) {after : List Char}, Blanks after →
      SpellsItems items (spreadItems depth items ++ (after ++ [']']))
  | [], h, _, _, _ => absurd rfl h
  | [item], _, depth, _, hafter => by
    rw [spreadItems, List.append_assoc]
    exact .last (blanks_lineBreak depth) (spells_spread item depth) hafter
  | item :: next :: items, _, depth, _, hafter => by
    rw [spreadItems, List.append_assoc, List.append_assoc]
    exact .more (blanks_lineBreak depth) (spells_spread item depth) blanks_nil
      (spellsItems_spread (next :: items) (List.cons_ne_nil _ _) depth hafter)

theorem spellsMembers_spread :
    ∀ members : List (String × Json), members ≠ [] →
      ∀ (depth : Nat) {after : List Char}, Blanks after →
        SpellsMembers members (spreadMembers depth members ++ (after ++ ['}']))
  | [], h, _, _, _ => absurd rfl h
  | [(key, value)], _, depth, _, hafter => by
    rw [spreadMembers, List.append_assoc, List.append_assoc]
    exact .last (blanks_lineBreak depth) blanks_nil blanks_blank (spells_spread value depth) hafter
  | (key, value) :: next :: members, _, depth, _, hafter => by
    rw [spreadMembers, List.append_assoc, List.append_assoc, List.cons_append, List.cons_append,
      List.append_assoc]
    exact .more (blanks_lineBreak depth) blanks_nil blanks_blank
      (spells_spread value depth) blanks_nil
        (spellsMembers_spread (next :: members) (List.cons_ne_nil _ _) depth hafter)

end

/-- **What is written over several lines**, a line feed behind it, is read as what was written. -/
theorem scan_spreadText (j : Json) : scan (j.spreadText ++ "\n") = (Reading.ofJson j, true) :=
  scan_of_spells (spells_spread j 0) (blanks_lineBreak 0)
    (by rw [spreadText, String.toList_append, String.toList_ofList]; rfl)

end WrapperGen.Json
