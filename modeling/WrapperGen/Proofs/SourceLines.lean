import WrapperGen.Proofs.JoinedTexts
import WrapperGen.Wrapper.Block

/-!
# The lines of a source text

Nested blocks are written line by line. Where none of the texts that they are made of holds a line
feed, the lines are found again in the text (`parts_render`), so blocks that make the same text make
the same lines (`allLines_eq_of_render_eq`). How the lines were made is another question: a text may
look like the header of a block.
-/

namespace WrapperGen

open Text

/-! ## Texts of one line -/

/-- A text that holds no line feed. -/
def OneLine (text : String) : Prop := '\n' ∉ text.toList

instance (text : String) : Decidable (OneLine text) := inferInstanceAs (Decidable (_ ∉ _))

theorem oneLine_ofList {s : List Char} (h : '\n' ∉ s) : OneLine (String.ofList s) := by
  rw [OneLine, String.toList_ofList]
  exact h

theorem oneLine_append {a b : String} : OneLine (a ++ b) ↔ OneLine a ∧ OneLine b := by
  rw [OneLine, String.toList_append, List.mem_append, not_or]
  rfl

theorem oneLine_joined {separator : String} (hseparator : OneLine separator) {texts : List String}
    (h : ∀ x ∈ texts, OneLine x) : OneLine (joined separator texts) :=
  notMem_joined hseparator h

/-- Lines are the parts between the line feeds behind them. -/
theorem parts_join {lines : List String} (h : ∀ line ∈ lines, OneLine line) :
    parts '\n' (String.join (lines.map (· ++ "\n"))) = lines ++ [""] := by
  induction lines with
  | nil => rfl
  | cons line lines ih =>
      rw [List.forall_mem_cons] at h
      -- the first part ends at the line feed behind the line, which has none itself
      rw [List.map_cons, String.join_cons, parts, String.toList_append, String.toList_append,
        List.append_assoc,
        show "\n".toList = ['\n'] from rfl, List.singleton_append, splitAt_append h.1,
        List.map_cons, String.ofList_toList, ← parts, ih h.2]
      rfl

namespace Block

/-! ## The lines of blocks -/

mutual

/-- The texts that a piece is made of. -/
def texts : Block → List String
  | line text => [text]
  | blank => []
  | braces header body => header :: allTexts body

/-- The texts that several pieces are made of. -/
def allTexts : List Block → List String
  | [] => []
  | b :: bs => b.texts ++ allTexts bs

end

theorem allTexts_append (bs cs : List Block) :
    allTexts (bs ++ cs) = allTexts bs ++ allTexts cs := by
  induction bs with
  | nil => rfl
  | cons b bs ih => rw [List.cons_append, allTexts, allTexts, ih, List.append_assoc]

theorem allTexts_flatMap {α : Type} (xs : List α) (f : α → List Block) :
    allTexts (xs.flatMap f) = xs.flatMap fun x => allTexts (f x) := by
  induction xs with
  | nil => rfl
  | cons x xs ih => rw [List.flatMap_cons, List.flatMap_cons, allTexts_append, ih]

theorem allLines_append (depth : Nat) (bs cs : List Block) :
    allLines depth (bs ++ cs) = allLines depth bs ++ allLines depth cs := by
  induction bs with
  | nil => rfl
  | cons b bs ih => rw [List.cons_append, allLines, allLines, ih, List.append_assoc]

theorem allLines_flatMap {α : Type} (depth : Nat) (xs : List α) (f : α → List Block) :
    allLines depth (xs.flatMap f) = xs.flatMap fun x => allLines depth (f x) := by
  induction xs with
  | nil => rfl
  | cons x xs ih => rw [List.flatMap_cons, List.flatMap_cons, allLines_append, ih]

theorem indented_zero (text : String) : indented 0 text = text := String.empty_append

/-- Texts at the same depth are the same if their lines are. -/
theorem indented_inj {depth : Nat} {a b : String}
    (h : indented depth a = indented depth b) : a = b :=
  (String.append_right_inj _).mp h

theorem oneLine_indented {depth : Nat} {text : String} (h : OneLine text) :
    OneLine (indented depth text) := by
  refine oneLine_append.mpr ⟨?_, h⟩
  rw [OneLine, String.toList_ofList]
  exact fun hmem => absurd (List.eq_of_mem_replicate hmem) (by decide)

mutual

theorem oneLine_lines : ∀ (b : Block) (depth : Nat), (∀ text ∈ b.texts, OneLine text) →
    ∀ l ∈ b.lines depth, OneLine l
  | .line text, depth, h => by
    rw [lines, List.forall_mem_singleton]
    exact oneLine_indented (h text (by simp [texts]))
  | .blank, depth, _ => by
    rw [lines, List.forall_mem_singleton]
    decide
  | .braces header body, depth, h => by
    rw [texts, List.forall_mem_cons] at h
    rw [lines, List.forall_mem_cons, List.forall_mem_append, List.forall_mem_singleton]
    exact ⟨oneLine_indented (oneLine_append.mpr ⟨h.1, by decide⟩),
      oneLine_allLines body (depth + 1) h.2, oneLine_indented (by decide)⟩

/-- Blocks that are made of texts of one line have lines without line feeds. -/
theorem oneLine_allLines : ∀ (bs : List Block) (depth : Nat), (∀ text ∈ allTexts bs, OneLine text) →
    ∀ l ∈ allLines depth bs, OneLine l
  | [], depth, _ => List.forall_mem_nil _
  | b :: bs, depth, h => by
    rw [allTexts, List.forall_mem_append] at h
    rw [allLines, List.forall_mem_append]
    exact ⟨oneLine_lines b depth h.1, oneLine_allLines bs depth h.2⟩

end

/-- **The lines of blocks are found again in their text.** -/
theorem parts_render {bs : List Block} (h : ∀ text ∈ allTexts bs, OneLine text) :
    parts '\n' (render bs) = allLines 0 bs ++ [""] :=
  parts_join (oneLine_allLines bs 0 h)

theorem allLines_eq_of_render_eq {bs cs : List Block} (hbs : ∀ text ∈ allTexts bs, OneLine text)
    (hcs : ∀ text ∈ allTexts cs, OneLine text) (h : render bs = render cs) :
    allLines 0 bs = allLines 0 cs := by
  have hparts := congrArg (parts '\n') h
  rw [parts_render hbs, parts_render hcs] at hparts
  exact List.append_cancel_right hparts

end Block

end WrapperGen
