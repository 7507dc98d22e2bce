import WrapperGen.Proofs.Emitting
import WrapperGen.Unicode.Ranges

/-!
# The layout of a source

The lines of a source are read one after the other, each from the depth that the braces before it
lead to. A line either stays at its depth, ends with a brace that opens the next one, or is a
closing brace alone; a blank line never comes behind another (`LinesLead`). Lines that lead from
depth 0 back to it are laid out well (`laidOut_of_linesLead`), and the parts of a source do, one
behind the other: so the source of every wrapper is laid out well (`emit_wellLaidOut`), as long as
the texts in it hold no braces and no line feeds.
-/

namespace WrapperGen

open Text Block

/-! ## Braces and blanks -/

/-- How many braces a text opens, less those that it closes. -/
def braceBalance (text : String) : Int := text.toList.count '{' - text.toList.count '}'

theorem braceBalance_append (a b : String) :
    braceBalance (a ++ b) = braceBalance a + braceBalance b := by
  simp only [braceBalance, String.toList_append, List.count_append]
  omega

/-- The depth that some lines lead to. -/
def depthAfter : List String → Int
  | [] => 0
  | text :: rest => braceBalance text + depthAfter rest

/-- How many spaces a line begins with. -/
def indentation (line : String) : Nat := (line.toList.takeWhile (· = ' ')).length

/-- Behind the spaces that it begins with, a line is a closing brace alone. -/
def IsClosing (line : String) : Prop := line.toList.dropWhile (· = ' ') = ['}']

instance (line : String) : Decidable (IsClosing line) := inferInstanceAs (Decidable (_ = _))

/-- A text does not end with a character that is taken for a blank. -/
def Trim (white : Char → Prop) (text : String) : Prop := ∀ c ∈ text.toList.getLast?, ¬white c

/-- Lines that are laid out well: each is indented to the depth that the braces before it lead to,
and a closing brace to the depth that it leads back to. -/
structure LaidOut (white : Char → Prop) (lines : List String) : Prop where
  oneLine : ∀ line ∈ lines, OneLine line
  trim : ∀ line ∈ lines, Trim white line
  ends : ∃ line ∈ lines.getLast?, line ≠ ""
  deep : ∀ before after, lines = before ++ after → 0 ≤ depthAfter before
  closed : depthAfter lines = 0
  indented : ∀ before line after, lines = before ++ line :: after → line ≠ "" →
    (indentation line : Int) = 4 * depthAfter before - if IsClosing line then 4 else 0
  spaced : ∀ before after, lines ≠ before ++ "" :: "" :: after

/-- A text of lines that are laid out well, a line feed behind each. -/
def WellLaidOut (white : Char → Prop) (text : String) : Prop :=
  ∃ lines, text = String.join (lines.map (· ++ "\n")) ∧ LaidOut white lines

/-! ## Texts in a line -/

/-- A text without line feeds and braces. -/
structure Plain (text : String) : Prop where
  oneLine : OneLine text
  noOpening : '{' ∉ text.toList
  noClosing : '}' ∉ text.toList

instance (text : String) : Decidable (Plain text) :=
  decidable_of_iff (OneLine text ∧ '{' ∉ text.toList ∧ '}' ∉ text.toList)
    ⟨fun h => ⟨h.1, h.2.1, h.2.2⟩, fun h => ⟨h.oneLine, h.noOpening, h.noClosing⟩⟩

/-- A text of one line that closes the braces which it opens. -/
structure Balanced (text : String) : Prop where
  oneLine : OneLine text
  balance : braceBalance text = 0

/-- A text begins with another character than a space. -/
def Unindented (text : String) : Prop := ∃ c rest, text.toList = c :: rest ∧ c ≠ ' '

/-- A balanced text that can be indented. -/
structure Fit (text : String) : Prop extends Balanced text where
  unindented : Unindented text

theorem Plain.balanced {text : String} (h : Plain text) : Balanced text := by
  refine ⟨h.oneLine, ?_⟩
  rw [braceBalance, List.count_eq_zero_of_not_mem h.noOpening,
    List.count_eq_zero_of_not_mem h.noClosing]
  rfl

theorem plain_joined {separator : String} (hseparator : Plain separator) {texts : List String}
    (h : ∀ x ∈ texts, Plain x) : Plain (joined separator texts) where
  oneLine := oneLine_joined hseparator.oneLine fun x hx => (h x hx).oneLine
  noOpening := notMem_joined hseparator.noOpening fun x hx => (h x hx).noOpening
  noClosing := notMem_joined hseparator.noClosing fun x hx => (h x hx).noClosing

theorem balanced_ofList {s : List Char} (h : '\n' ∉ s ∧ s.count '{' = s.count '}') :
    Balanced (String.ofList s) := by
  refine ⟨oneLine_ofList h.1, ?_⟩
  rw [braceBalance, String.toList_ofList, h.2, Int.sub_self]

theorem Balanced.append {a b : String} (ha : Balanced a) (hb : Balanced b) : Balanced (a ++ b) := by
  refine ⟨oneLine_append.mpr ⟨ha.oneLine, hb.oneLine⟩, ?_⟩
  rw [braceBalance_append, ha.balance, hb.balance]
  rfl

theorem Unindented.append {a : String} (h : Unindented a) (b : String) : Unindented (a ++ b) := by
  obtain ⟨c, rest, htext, hc⟩ := h
  exact ⟨c, rest ++ b.toList, by rw [String.toList_append, htext, List.cons_append], hc⟩

theorem unindented_closing : Unindented "\x7d" := ⟨'}', [], rfl, by decide⟩

theorem fit_ofList {c : Char} {s : List Char}
    (h : '\n' ∉ c :: s ∧ (c :: s).count '{' = (c :: s).count '}') (hc : c ≠ ' ') :
    Fit (String.ofList (c :: s)) :=
  ⟨balanced_ofList h, c, s, String.toList_ofList, hc⟩

theorem Fit.append {a b : String} (ha : Fit a) (hb : Balanced b) : Fit (a ++ b) :=
  ⟨ha.toBalanced.append hb, ha.unindented.append b⟩

/-- Only the last part of a text matters at its end, if it is not empty. -/
theorem trim_append {white : Char → Prop} {b : String} (a : String) (hb : b ≠ "")
    (h : Trim white b) :
    Trim white (a ++ b) := by
  intro c hc
  have hlast : b.toList.getLast? ≠ none := fun hnone =>
    hb (String.toList_eq_nil_iff.mp (List.getLast?_eq_none_iff.mp hnone))
  rw [String.toList_append, List.getLast?_append,
    Option.or_of_isSome (Option.isSome_iff_ne_none.mpr hlast)] at hc
  exact h c hc

theorem trim_ofList {white : Char → Prop} (hwhite : ∀ c, white c → Unicode.isWhiteSpace c = true)
    {s : List Char} (h : s.getLast?.all (!Unicode.isWhiteSpace ·) = true) :
    Trim white (String.ofList s) := by
  intro c hc hblank
  rw [String.toList_ofList] at hc
  rw [hc, Option.all_some, hwhite c hblank] at h
  exact absurd h (by decide)

theorem trim_append_ofList {white : Char → Prop}
    (hwhite : ∀ c, white c → Unicode.isWhiteSpace c = true) {a : String} {s : List Char}
    (h : s.getLast?.any (!Unicode.isWhiteSpace ·) = true) : Trim white (a ++ String.ofList s) := by
  obtain ⟨c, hlast, hother⟩ := (Option.any_eq_true _ _).mp h
  refine trim_append a (fun hempty => ?_)
    (trim_ofList hwhite (by rw [hlast, Option.all_some]; exact hother))
  rw [String.ofList_eq_empty_iff.mp hempty] at hlast
  cases hlast

theorem Unicode.opening_notMem_capital {c : Char} (h : c ≠ '{') : '{' ∉ capital c :=
  notMem_capital_of_tables (by decide) (by decide) (by decide +kernel) (by decide +kernel) h

theorem Unicode.closing_notMem_capital {c : Char} (h : c ≠ '}') : '}' ∉ capital c :=
  notMem_capital_of_tables (by decide) (by decide) (by decide +kernel) (by decide +kernel) h

/-! ## Indented lines -/

section Indented

variable {depth : Nat} {text : String}

theorem braceBalance_indented : braceBalance (indented depth text) = braceBalance text := by
  have hspaces : Plain (String.ofList (List.replicate (4 * depth) ' ')) := by
    have hnone : ∀ c, c ≠ ' ' → c ∉ (String.ofList (List.replicate (4 * depth) ' ')).toList := by
      intro c hc hmem
      rw [String.toList_ofList] at hmem
      exact hc (List.eq_of_mem_replicate hmem)
    exact ⟨hnone _ (by decide), hnone _ (by decide), hnone _ (by decide)⟩
  rw [indented, braceBalance_append, hspaces.balanced.balance, Int.zero_add]

theorem indented_ne_empty (h : Unindented text) : indented depth text ≠ "" := by
  obtain ⟨c, rest, htext, _⟩ := h
  intro hempty
  have hlist := congrArg String.toList hempty
  rw [indented, String.toList_append, htext] at hlist
  exact List.append_ne_nil_of_right_ne_nil _ (List.cons_ne_nil c rest) hlist

theorem indentation_indented (h : Unindented text) :
    indentation (indented depth text) = 4 * depth := by
  obtain ⟨c, rest, htext, hc⟩ := h
  rw [indentation, indented, String.toList_append, String.toList_ofList, htext,
    List.takeWhile_append_of_pos, List.takeWhile_cons_of_neg, List.append_nil,
    List.length_replicate]
  · simpa using hc
  · exact fun d hd => by simpa using List.eq_of_mem_replicate hd

theorem isClosing_indented_iff (h : Unindented text) :
    IsClosing (indented depth text) ↔ text = "\x7d" := by
  obtain ⟨c, rest, htext, hc⟩ := h
  rw [IsClosing, indented, String.toList_append, String.toList_ofList, htext,
    List.dropWhile_append_of_pos, List.dropWhile_cons_of_neg, ← htext]
  · exact (String.toList_inj : text.toList = "\x7d".toList ↔ text = "\x7d")
  · simpa using hc
  · exact fun d hd => by simpa using List.eq_of_mem_replicate hd

/-- A line that closes nothing is indented to its depth. -/
theorem indentation_eq (h : Unindented text) (hbalance : 0 ≤ braceBalance text) :
    (indentation (indented depth text) : Int)
      = 4 * depth - if IsClosing (indented depth text) then 4 else 0 := by
  have hopen : ¬IsClosing (indented depth text) := by
    rw [isClosing_indented_iff h]
    rintro rfl
    exact absurd hbalance (by decide)
  rw [indentation_indented h, if_neg hopen, Int.natCast_mul, Int.sub_zero]
  rfl

theorem trim_indented {white : Char → Prop} (h : Unindented text) (ht : Trim white text) :
    Trim white (indented depth text) := by
  obtain ⟨c, rest, htext, _⟩ := h
  refine trim_append _ (fun hempty => ?_) ht
  rw [hempty] at htext
  exact absurd htext (List.cons_ne_nil c rest).symm

end Indented

/-! ## Lines from depth to depth -/

/-- Lines that lead from one depth to another. A flag tells whether the line before them is blank,
and another whether the last of them is. -/
inductive LinesLead (white : Char → Prop) : Nat → Bool → List String → Nat → Bool → Prop where
  | nil {d : Nat} {behind : Bool} : LinesLead white d behind [] d behind
  /-- A blank line is not behind another. -/
  | blank {d e : Nat} {last : Bool} {rest : List String} :
      LinesLead white d true rest e last → LinesLead white d false ("" :: rest) e last
  | line {d e : Nat} {behind last : Bool} {text : String} {rest : List String} :
      Fit text → Trim white text → LinesLead white d false rest e last →
      LinesLead white d behind (indented d text :: rest) e last
  | opens {d e : Nat} {behind last : Bool} {header : String} {rest : List String} :
      Fit header → LinesLead white (d + 1) false rest e last →
      LinesLead white d behind (indented d (header ++ " \x7b") :: rest) e last
  | closes {d e : Nat} {behind last : Bool} {rest : List String} :
      LinesLead white d false rest e last →
      LinesLead white (d + 1) behind (indented d "\x7d" :: rest) e last

namespace LinesLead

variable {white : Char → Prop} {d e f : Nat} {behind last more : Bool} {lines rest : List String}

theorem append (h : LinesLead white d behind lines e last)
    (hrest : LinesLead white e last rest f more) :
    LinesLead white d behind (lines ++ rest) f more := by
  induction h with
  | nil => exact hrest
  | blank _ ih => exact .blank (ih hrest)
  | line hfit htrim _ ih => exact .line hfit htrim (ih hrest)
  | opens hfit _ ih => exact .opens hfit (ih hrest)
  | closes _ ih => exact .closes (ih hrest)

/-- Lines that lead somewhere can be cut anywhere. -/
theorem split {before after : List String} (h : LinesLead white d behind (before ++ after) f more) :
    ∃ e last, LinesLead white d behind before e last ∧ LinesLead white e last after f more := by
  induction before generalizing d behind with
  | nil => exact ⟨d, behind, .nil, h⟩
  | cons line before ih =>
      cases h with
      | blank h =>
          obtain ⟨e, last, hbefore, hafter⟩ := ih h
          exact ⟨e, last, .blank hbefore, hafter⟩
      | line hfit htrim h =>
          obtain ⟨e, last, hbefore, hafter⟩ := ih h
          exact ⟨e, last, .line hfit htrim hbefore, hafter⟩
      | opens hfit h =>
          obtain ⟨e, last, hbefore, hafter⟩ := ih h
          exact ⟨e, last, .opens hfit hbefore, hafter⟩
      | closes h =>
          obtain ⟨e, last, hbefore, hafter⟩ := ih h
          exact ⟨e, last, .closes hbefore, hafter⟩

/-- The depth that lines lead to is the one that their braces lead to. -/
theorem depth (h : LinesLead white d behind lines e last) : d + depthAfter lines = e := by
  induction h with
  | nil => rfl
  | blank _ ih =>
      rw [depthAfter, show braceBalance "" = 0 from rfl, Int.zero_add]
      exact ih
  | line hfit _ _ ih =>
      rw [depthAfter, braceBalance_indented, hfit.balance, Int.zero_add]
      exact ih
  | opens hfit _ ih =>
      rw [depthAfter, braceBalance_indented, braceBalance_append, hfit.balance,
        show braceBalance " \x7b" = 1 from rfl]
      omega
  | closes _ ih =>
      rw [depthAfter, braceBalance_indented, show braceBalance "\x7d" = -1 from rfl]
      omega

theorem oneLine (h : LinesLead white d behind lines e last) : ∀ line ∈ lines, OneLine line := by
  induction h with
  | nil => exact List.forall_mem_nil _
  | blank _ ih => exact List.forall_mem_cons.mpr ⟨by decide, ih⟩
  | line hfit _ _ ih => exact List.forall_mem_cons.mpr ⟨oneLine_indented hfit.oneLine, ih⟩
  | opens hfit _ ih =>
      exact List.forall_mem_cons.mpr
        ⟨oneLine_indented (oneLine_append.mpr ⟨hfit.oneLine, by decide⟩), ih⟩
  | closes _ ih => exact List.forall_mem_cons.mpr ⟨oneLine_indented (by decide), ih⟩

theorem trim (hwhite : ∀ c, white c → Unicode.isWhiteSpace c = true)
    (h : LinesLead white d behind lines e last) :
    ∀ line ∈ lines, Trim white line := by
  have hempty : Trim white "" := trim_ofList hwhite (s := []) (by decide)
  have hopening : Trim white " \x7b" := trim_ofList hwhite (by decide)
  have hclosing : Trim white "\x7d" := trim_ofList hwhite (by decide)
  induction h with
  | nil => exact List.forall_mem_nil _
  | blank _ ih => exact List.forall_mem_cons.mpr ⟨hempty, ih⟩
  | line hfit htrim _ ih => exact List.forall_mem_cons.mpr ⟨trim_indented hfit.unindented htrim, ih⟩
  | opens hfit _ ih =>
      exact List.forall_mem_cons.mpr
        ⟨trim_indented (hfit.unindented.append _) (trim_append _ (by decide) hopening), ih⟩
  | closes _ ih => exact List.forall_mem_cons.mpr ⟨trim_indented unindented_closing hclosing, ih⟩

/-- A line is indented to the depth that it is read at, and a closing brace one depth less. -/
theorem indentation_head {line : String} (h : LinesLead white d behind (line :: rest) e last)
    (hne : line ≠ "") :
    (indentation line : Int) = 4 * d - if IsClosing line then 4 else 0 := by
  cases h with
  | blank => exact absurd rfl hne
  | line hfit => exact indentation_eq hfit.unindented (Int.le_of_eq hfit.balance.symm)
  | opens hfit =>
      refine indentation_eq (hfit.unindented.append _) ?_
      rw [braceBalance_append, hfit.balance]
      decide
  | closes =>
      rw [indentation_indented unindented_closing,
        if_pos ((isClosing_indented_iff unindented_closing).mpr rfl)]
      omega

/-- A line is empty only as a blank one. -/
theorem of_empty {line : String} (h : LinesLead white d behind (line :: rest) e last)
    (hempty : line = "") :
    behind = false ∧ LinesLead white d true rest e last := by
  cases h with
  | blank h => exact ⟨rfl, h⟩
  | line hfit => exact absurd hempty (indented_ne_empty hfit.unindented)
  | opens hfit => exact absurd hempty (indented_ne_empty (hfit.unindented.append _))
  | closes => exact absurd hempty (indented_ne_empty unindented_closing)

/-- The last line is not blank, where a flag says so. -/
theorem getLast_ne_empty (h : LinesLead white d behind lines e false) (hne : lines ≠ []) :
    ∃ line ∈ lines.getLast?, line ≠ "" := by
  refine ⟨lines.getLast hne, List.getLast?_eq_some_getLast hne, fun hempty => ?_⟩
  rw [← List.dropLast_concat_getLast hne] at h
  obtain ⟨_, _, _, hlast⟩ := h.split
  cases (hlast.of_empty hempty).2

end LinesLead

/-- **Lines that lead from depth 0 back to it are laid out well.** -/
theorem laidOut_of_linesLead {white : Char → Prop}
    (hwhite : ∀ c, white c → Unicode.isWhiteSpace c = true) {lines : List String}
    (h : LinesLead white 0 true lines 0 false) : LaidOut white lines where
  oneLine := h.oneLine
  trim := h.trim hwhite
  ends := h.getLast_ne_empty fun hnil => by
    rw [hnil] at h
    cases h
  deep before after heq := by
    obtain ⟨d, _, hbefore, _⟩ := (heq ▸ h).split
    have hdepth := hbefore.depth
    omega
  closed := by
    have hdepth := h.depth
    omega
  indented before line after heq hne := by
    obtain ⟨d, _, hbefore, hafter⟩ := (heq ▸ h).split
    have hdepth := hbefore.depth
    rw [hafter.indentation_head hne, ← hdepth, Int.natCast_zero, Int.zero_add]
  spaced before after heq := by
    obtain ⟨_, _, _, hafter⟩ := (heq ▸ h).split
    exact absurd ((hafter.of_empty rfl).2.of_empty rfl).1 (by decide)

namespace Block

variable {white : Char → Prop} {depth : Nat} {behind : Bool}

theorem linesLead_single {b : Block}
    (h : LinesLead white depth behind (b.lines depth) depth false) :
    LinesLead white depth behind (allLines depth [b]) depth false :=
  h.append .nil

theorem linesLead_append {bs cs : List Block}
    (hbs : LinesLead white depth behind (allLines depth bs) depth false)
    (hcs : LinesLead white depth false (allLines depth cs) depth false) :
    LinesLead white depth behind (allLines depth (bs ++ cs)) depth false := by
  rw [allLines_append]
  exact hbs.append hcs

theorem linesLead_line {text : String} (hfit : Fit text) (htrim : Trim white text) :
    LinesLead white depth behind ((line text).lines depth) depth false :=
  .line hfit htrim .nil

/-- A block leads back to the depth that it is opened at. -/
theorem linesLead_braces {header : String} {body : List Block} (hheader : Fit header)
    (hbody : LinesLead white (depth + 1) false (allLines (depth + 1) body) (depth + 1) false) :
    LinesLead white depth behind ((braces header body).lines depth) depth false :=
  .opens hheader (hbody.append (.closes .nil))

/-- Pieces stay at their depth, with a blank line before each. -/
theorem linesLead_rows {α : Type} {xs : List α} {f : α → List Block}
    (h : ∀ x ∈ xs, LinesLead white depth true (allLines depth (f x)) depth false) :
    LinesLead white depth false (allLines depth (xs.flatMap fun x => .blank :: f x))
      depth false := by
  induction xs with
  | nil => exact .nil
  | cons x xs ih =>
      rw [List.forall_mem_cons] at h
      exact linesLead_append (.blank h.1) (ih h.2)

end Block

/-! ## The parts of a source -/

/-- A member whose texts have no line feeds and braces. -/
def ConfigField.Plain : ConfigField → Prop
  | .value f => WrapperGen.Plain f.name ∧ WrapperGen.Plain f.key ∧ WrapperGen.Plain f.typeText
  | .nest f => WrapperGen.Plain f.name ∧ WrapperGen.Plain f.key ∧ WrapperGen.Plain f.className

instance : DecidablePred ConfigField.Plain
  | .value _ => inferInstanceAs (Decidable (_ ∧ _ ∧ _))
  | .nest _ => inferInstanceAs (Decidable (_ ∧ _ ∧ _))

namespace Wrapper

/-- A wrapper whose texts have no line feeds and braces. -/
structure Plain (m : ConfigModel) (fields : List ConfigField) (nested : NestedClassSet) : Prop where
  package : WrapperGen.Plain m.package
  wrapperName : WrapperGen.Plain m.wrapperName
  simpleNames : ∀ n ∈ m.name.simpleNames, WrapperGen.Plain n
  fields : ∀ f ∈ fields, f.Plain
  classNames : ∀ c ∈ nested.classes, WrapperGen.Plain c.name
  classFields : ∀ c ∈ nested.classes, ∀ f ∈ c.fields, f.Plain

theorem plain_capitalized {x : String} (h : WrapperGen.Plain x) :
    WrapperGen.Plain (capitalized x) where
  oneLine := notMem_capitalized_of_capital
    (fun _ => Unicode.notMem_capital (by decide) (by decide)) h.oneLine
  noOpening := notMem_capitalized_of_capital (fun _ => Unicode.opening_notMem_capital) h.noOpening
  noClosing := notMem_capitalized_of_capital (fun _ => Unicode.closing_notMem_capital) h.noClosing

theorem fit_optionLine {f : ValueField} (h : (ConfigField.value f).Plain) : Fit (optionLine f) := by
  obtain ⟨hname, hkey, htype⟩ := h
  have hkeyword : Fit (if f.mutable then "var " else "val ") := by
    split <;> exact fit_ofList (by decide) (by decide)
  exact hkeyword.append hname.balanced |>.append (balanced_ofList (by decide))
    |>.append htype.balanced
    |>.append (balanced_ofList (by decide)) |>.append hkey.balanced
    |>.append (balanced_ofList (by decide))

theorem fit_sectionLine {f : NestField} (h : (ConfigField.nest f).Plain) : Fit (sectionLine f) := by
  obtain ⟨hname, hkey, hclass⟩ := h
  have hkeyword : Fit "val " := fit_ofList (by decide) (by decide)
  exact hkeyword.append hname.balanced |>.append (balanced_ofList (by decide))
    |>.append hclass.balanced
    |>.append (balanced_ofList (by decide)) |>.append hkey.balanced
    |>.append (balanced_ofList (by decide))

section Pieces

variable {white : Char → Prop} (hwhite : ∀ c, white c → Unicode.isWhiteSpace c = true) {depth : Nat}
    {behind : Bool}

include hwhite

theorem linesLead_subscription {f : ValueField} (h : (ConfigField.value f).Plain) :
    LinesLead white depth behind ((subscription f).lines depth) depth false := by
  obtain ⟨hname, hkey, htype⟩ := h
  have hfunction : Fit "fun subscribeTo" := fit_ofList (by decide) (by decide)
  have hoption : Fit "optionForKey<" := fit_ofList (by decide) (by decide)
  refine linesLead_braces ?_ (linesLead_single (linesLead_line ?_ ?_))
  · exact hfunction.append (plain_capitalized hname).balanced
      |>.append (balanced_ofList (by decide))
      |>.append htype.balanced |>.append (balanced_ofList (by decide))
  · exact hoption.append htype.balanced |>.append (balanced_ofList (by decide))
      |>.append hkey.balanced
      |>.append (balanced_ofList (by decide))
  · exact trim_append_ofList hwhite (by decide)

/-- A member leads back to its depth. -/
theorem linesLead_member {f : ConfigField} (h : f.Plain) :
    LinesLead white depth behind (allLines depth (memberBlocks f)) depth false := by
  cases f with
  | value f =>
      rw [memberLines_value, subscriptionLines]
      refine .line (fit_optionLine h) (trim_append_ofList hwhite (by decide)) ?_
      split
      · exact .blank (linesLead_subscription hwhite h)
      · exact .nil
  | nest f =>
      exact linesLead_single
        (linesLead_line (fit_sectionLine h) (trim_append_ofList hwhite (by decide)))

/-- Members with blank lines between them lead back to their depth. -/
theorem linesLead_separatedMembers {f : ConfigField} {fields : List ConfigField}
    (h : ∀ g ∈ f :: fields, g.Plain) :
    LinesLead white depth behind (allLines depth (separatedMembers (f :: fields))) depth false := by
  induction fields generalizing f behind with
  | nil => exact linesLead_member hwhite (h f List.mem_cons_self)
  | cons g fields ih =>
      rw [List.forall_mem_cons] at h
      exact linesLead_append (linesLead_member hwhite h.1) (.blank (ih h.2))

theorem linesLead_innerClass {c : NestedClass} (hname : WrapperGen.Plain c.name)
    (hfields : ∀ f ∈ c.fields, f.Plain) :
    LinesLead white depth behind ((innerClass c).lines depth) depth false := by
  have hclass : Fit "inner class " := fit_ofList (by decide) (by decide)
  refine linesLead_braces (hclass.append hname.balanced |>.append (balanced_ofList (by decide))) ?_
  cases heq : c.fields with
  | nil => exact .nil
  | cons f fields => exact linesLead_separatedMembers hwhite (heq ▸ hfields)

theorem linesLead_companion {wrapper : String} (h : WrapperGen.Plain wrapper) :
    LinesLead white depth behind ((companion wrapper).lines depth) depth false := by
  have hcreate : Fit "fun createAndLoad(builder: BuilderConsumer = BuilderConsumer \x7b\x7d): " :=
    fit_ofList (by decide) (by decide)
  have hreturn : Fit "return " := fit_ofList (by decide) (by decide)
  refine linesLead_braces (fit_ofList (by decide) (by decide))
    (linesLead_single (linesLead_braces ?_
      (linesLead_single (linesLead_braces ?_ (linesLead_single (linesLead_line ?_ ?_))))))
  · exact hcreate.append h.balanced
  · exact hreturn.append h.balanced |>.append (balanced_ofList (by decide))
  · exact fit_ofList (by decide) (by decide)
  · exact trim_ofList hwhite (by decide)

variable {m : ConfigModel} {fields : List ConfigField} {nested : NestedClassSet}

theorem linesLead_wrapperClass (h : Plain m fields nested) :
    LinesLead white depth behind ((wrapperClass m fields nested).lines depth) depth false := by
  have hnested : WrapperGen.Plain m.name.nested :=
    plain_joined ⟨by decide, by decide, by decide⟩ h.simpleNames
  have hclass : Fit "class " := fit_ofList (by decide) (by decide)
  refine linesLead_braces ?_ (linesLead_append (linesLead_append ?_ ?_) ?_)
  · exact hclass.append h.wrapperName.balanced |>.append (balanced_ofList (by decide))
      |>.append hnested.balanced
      |>.append (balanced_ofList (by decide)) |>.append hnested.balanced
      |>.append (balanced_ofList (by decide))
  · exact .line (fit_ofList (by decide) (by decide)) (trim_ofList hwhite (by decide)) (.blank
      (.line (fit_ofList (by decide) (by decide)) (trim_ofList hwhite (by decide)) (.blank
        (linesLead_single (linesLead_companion hwhite h.wrapperName)))))
  · exact linesLead_rows fun f hf => linesLead_member hwhite (h.fields f hf)
  · exact linesLead_rows fun c hc =>
      linesLead_single (linesLead_innerClass hwhite (h.classNames c hc) (h.classFields c hc))

/-- The pieces of a source file lead from depth 0 back to it. -/
theorem linesLead_file (h : Plain m fields nested) (htrim : Trim white m.package) :
    LinesLead white 0 true (allLines 0 (file m fields nested)) 0 false := by
  have hpackage : LinesLead white 0 true
      (allLines 0 (if m.package = "" then [] else [.line ("package " ++ m.package), .blank])) 0
        true := by
    split
    · exact .nil
    · rename_i hne
      have hkeyword : Fit "package " := fit_ofList (by decide) (by decide)
      exact .line (hkeyword.append h.package.balanced) (trim_append _ hne htrim) (.blank .nil)
  have himport : Fit "import " := fit_ofList (by decide) (by decide)
  rw [file, allLines_append, allLines_append, allLines_append]
  refine ((hpackage.append ?_).append
    (.blank (linesLead_single (linesLead_wrapperClass hwhite h)))).append
    (linesLead_rows fun delegate hdelegate => linesLead_single (linesLead_line ?_ ?_))
  · -- one step for each of the three imports
    refine .line (himport.append (balanced_ofList (by decide)))
      (trim_append_ofList hwhite (by decide)) ?_
    refine .line (himport.append (balanced_ofList (by decide)))
      (trim_append_ofList hwhite (by decide)) ?_
    exact .line (himport.append (balanced_ofList (by decide)))
      (trim_append_ofList hwhite (by decide)) .nil
  · revert delegate
    rw [delegates, List.forall_mem_cons, List.forall_mem_singleton]
    exact ⟨fit_ofList (by decide) (by decide), fit_ofList (by decide) (by decide)⟩
  · revert delegate
    rw [delegates, List.forall_mem_cons, List.forall_mem_singleton]
    exact ⟨trim_ofList hwhite (by decide), trim_ofList hwhite (by decide)⟩

/-- **The source of a wrapper is laid out well.** A line that names the package ends with a
blank if the package does; there is no other way for a text to get out of line, if it holds no
line feed and no brace. -/
theorem emit_wellLaidOut (h : Plain m fields nested) (htrim : Trim white m.package) :
    WellLaidOut white (emit m fields nested) :=
  ⟨_, rfl, laidOut_of_linesLead hwhite (linesLead_file hwhite h htrim)⟩

end Pieces

theorem emit_wellLaidOut_gallery :
    Plain galleryModel galleryFields galleryClasses
      ∧ Trim (Unicode.isWhiteSpace · = true) galleryModel.package
      ∧ WellLaidOut (Unicode.isWhiteSpace · = true)
        (emit galleryModel galleryFields galleryClasses) := by
  have hplain : Plain galleryModel galleryFields galleryClasses :=
    ⟨by decide, by decide, by decide, by decide, by decide, by decide⟩
  have htrim : Trim (Unicode.isWhiteSpace · = true) galleryModel.package :=
    trim_ofList (fun _ hc => hc) (by decide)
  exact ⟨hplain, htrim, emit_wellLaidOut (fun _ hc => hc) hplain htrim⟩

end Wrapper

end WrapperGen
