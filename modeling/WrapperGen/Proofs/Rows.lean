import WrapperGen.Proofs.JoinedTexts
import WrapperGen.Text.Reader

/-!
# Blanks and rows

The two things that stand between the parts of a grammar, said without the readers that take
them: `Blanks` is any run of blanks, `Row` is one item or more with a separator between them.
Both relate the characters at hand to those that are left, so that one stands behind the other
without any appending.

A reader is greedier than the grammar: it takes all blanks there are, and goes on with a row as long
as it can. That this loses nothing depends on what comes behind, which is what `Before` is about.
-/

namespace WrapperGen

open Text

/-! ## Blanks -/

theorem isBlank_cases {c : Char} (h : isBlank c = true) :
    c = ' ' ∨ c = '\t' ∨ c = '\r' ∨ c = '\n' := by
  simpa [isBlank, or_assoc] using h

/-- From `s` to `rest` there are only blanks. -/
def Blanks (s rest : List Char) : Prop :=
  ∃ blanks, (∀ c ∈ blanks, isBlank c = true) ∧ s = blanks ++ rest

theorem Blanks.refl (s : List Char) : Blanks s s := ⟨[], by simp, rfl⟩

theorem Blanks.one {c : Char} {s : List Char} (h : isBlank c = true) : Blanks (c :: s) s :=
  ⟨[c], by simpa using h, rfl⟩

theorem Blanks.trans {s s₁ rest : List Char} (h : Blanks s s₁) (hrest : Blanks s₁ rest) :
    Blanks s rest := by
  obtain ⟨blanks, hblanks, rfl⟩ := h
  obtain ⟨more, hmore, rfl⟩ := hrest
  refine ⟨blanks ++ more, fun c hc => ?_, (List.append_assoc _ _ _).symm⟩
  exact (List.mem_append.mp hc).elim (hblanks c) (hmore c)

theorem Blanks.length_le {s rest : List Char} (h : Blanks s rest) : rest.length ≤ s.length := by
  obtain ⟨blanks, _, rfl⟩ := h
  simp

theorem skipBlanks_cons_of_blank {c : Char} (s : List Char) (h : isBlank c = true) :
    skipBlanks (c :: s) = skipBlanks s := by
  rw [skipBlanks, List.dropWhile_cons_of_pos h, ← skipBlanks]

theorem skipBlanks_cons_of_not_blank {c : Char} (s : List Char) (h : isBlank c = false) :
    skipBlanks (c :: s) = c :: s :=
  List.dropWhile_cons_of_neg (by simp [h])

/-- Blanks may be taken or left before skipping them. -/
theorem Blanks.skip {s rest : List Char} (h : Blanks s rest) : skipBlanks s = skipBlanks rest := by
  obtain ⟨blanks, hblanks, rfl⟩ := h
  induction blanks with
  | nil => rfl
  | cons c blanks ih =>
      rw [List.forall_mem_cons] at hblanks
      rw [List.cons_append, skipBlanks_cons_of_blank _ hblanks.1, ih hblanks.2]

theorem Blanks.skip_cons {s rest : List Char} {c : Char} (h : Blanks s (c :: rest))
    (hc : isBlank c = false) :
    skipBlanks s = c :: rest := by
  rw [h.skip, skipBlanks_cons_of_not_blank rest hc]

theorem blanks_skipBlanks (s : List Char) : Blanks s (skipBlanks s) :=
  ⟨s.takeWhile isBlank, List.all_eq_true.mp List.all_takeWhile,
    List.takeWhile_append_dropWhile.symm⟩

/-! ## What comes behind -/

/-- The next character that is no blank is one of `stops`, if there is any. -/
def Before (stops : List Char) (s : List Char) : Prop :=
  ∀ c rest, skipBlanks s = c :: rest → c ∈ stops

theorem Before.mono {stops more : List Char} {s : List Char} (h : Before stops s)
    (hsub : stops ⊆ more) :
    Before more s := fun c rest hc => hsub (h c rest hc)

/-- Blanks may stand before what comes next. -/
theorem Before.of_blanks {stops s rest : List Char} (h : Before stops rest)
    (hblanks : Blanks s rest) :
    Before stops s := by
  intro c more hc
  exact h c more (hblanks.skip.symm.trans hc)

theorem Blanks.before {stops s rest : List Char} {c : Char} (h : Blanks s (c :: rest))
    (hblank : isBlank c = false) (hc : c ∈ stops) : Before stops s := by
  intro d more hd
  rw [h.skip_cons hblank] at hd
  rwa [← (List.cons.inj hd).1]

theorem before_of_blanks_nil {stops s : List Char} (h : Blanks s []) : Before stops s := by
  intro c rest hc
  rw [h.skip] at hc
  exact absurd hc (by simp [skipBlanks])

/-- The next character itself is a blank or one of `stops`. -/
theorem Before.next {stops s : List Char} {c : Char} (h : Before stops (c :: s)) :
    isBlank c = true ∨ c ∈ stops := by
  cases hc : isBlank c with
  | true => exact Or.inl rfl
  | false => exact Or.inr (h c s (skipBlanks_cons_of_not_blank s hc))

/-! ## Rows -/

variable {α : Type} {separator : Char} {item : List Char → α → List Char → Prop}

/-- One item or more with a separator between them, from the front of the
characters up to those left. -/
inductive Row (separator : Char) (item : List Char → α → List Char → Prop) :
    List Char → List α → List Char → Prop where
  | last {s rest : List Char} {x : α} : item s x rest → Row separator item s [x] rest
  | more {s s₁ rest : List Char} {x : α} {xs : List α} :
      item s x (separator :: s₁) → Row separator item s₁ xs rest →
      Row separator item s (x :: xs) rest

theorem Row.ne_nil {s rest : List Char} {xs : List α}
    (h : Row separator item s xs rest) : xs ≠ [] := by
  cases h <;> simp

/-- Items joined by the separator and the characters `gap` are a row, if each may
have the gap before it. -/
theorem row_of_joined {β : Type} (text : β → String) (value : β → α) {joint : String}
    {gap : List Char} {xs : List β} (hjoint : joint.toList = separator :: gap) (hne : xs ≠ [])
    (hfirst : ∀ x ∈ xs, ∀ rest, item ((text x).toList ++ rest) (value x) rest)
    (hfurther : ∀ x ∈ xs, ∀ rest, item (gap ++ ((text x).toList ++ rest)) (value x) rest)
    (rest : List Char) :
    Row separator item ((joined joint (xs.map text)).toList ++ rest) (xs.map value) rest := by
  -- the gap stands before every item but the first
  have hrow : ∀ front : List Char,
      (∀ x ∈ xs, ∀ rest, item (front ++ ((text x).toList ++ rest)) (value x) rest) →
      Row separator item (front ++ ((joined joint (xs.map text)).toList ++ rest))
        (xs.map value) rest := by
    clear hfirst
    induction xs with
    | nil => exact absurd rfl hne
    | cons x xs ih =>
        intro front hfront
        rw [List.forall_mem_cons] at hfront hfurther
        cases xs with
        | nil => exact .last (hfront.1 rest)
        | cons y xs =>
            refine .more ?_ (ih (by simp) hfurther.2 gap hfurther.2)
            rw [List.map_cons, List.map_cons, joined_cons_cons, String.toList_append,
              String.toList_append, hjoint, List.append_assoc, List.append_assoc, List.cons_append]
            exact hfront.1 _
  exact hrow [] hfirst

section Reading

variable {reader : Reader α}

/-- Nothing further is read where no separator comes. -/
theorem furtherItems_of_ne {s : List Char} (bound : Nat) (h : ∀ rest, s ≠ separator :: rest) :
    furtherItems reader separator bound s = ([], s) := by
  cases bound with
  | zero => rfl
  | succ bound =>
      cases s with
      | nil => rfl
      | cons c rest =>
          have hc : c ≠ separator := fun hc => h rest (by rw [hc])
          rw [furtherItems, if_neg hc]

/-- What is read as a row is one. -/
theorem row_of_furtherItems (hitem : ∀ s x rest, reader s = some (x, rest) → item s x rest)
    {bound : Nat} {s s₁ rest : List Char} {x : α} {xs : List α} (hx : item s x s₁)
    (h : furtherItems reader separator bound s₁ = (xs, rest)) :
    Row separator item s (x :: xs) rest := by
  -- wherever reading stops, the item at hand was the last
  induction bound generalizing s s₁ x xs with
  | zero =>
      obtain ⟨rfl, rfl⟩ := Prod.mk.inj h
      exact .last hx
  | succ bound ih =>
      cases s₁ with
      | nil =>
          obtain ⟨rfl, rfl⟩ := Prod.mk.inj h
          exact .last hx
      | cons c s₂ =>
          rw [furtherItems] at h
          by_cases hc : c = separator
          · rw [if_pos hc] at h
            subst hc
            cases hread : reader s₂ with
            | none =>
                rw [hread] at h
                obtain ⟨rfl, rfl⟩ := Prod.mk.inj h
                exact .last hx
            | some found =>
                obtain ⟨y, s₃⟩ := found
                rw [hread] at h
                obtain ⟨rfl, hrest⟩ := Prod.mk.inj h
                exact .more hx (ih (hitem _ _ _ hread) (Prod.ext rfl hrest))
          · rw [if_neg hc] at h
            obtain ⟨rfl, rfl⟩ := Prod.mk.inj h
            exact .last hx

theorem row_of_separatedBy (hitem : ∀ s x rest, reader s = some (x, rest) → item s x rest)
    {s rest : List Char} {xs : List α} (h : separatedBy separator reader s = some (xs, rest)) :
    Row separator item s xs rest := by
  rw [separatedBy] at h
  cases hread : reader s with
  | none =>
      rw [hread] at h
      exact absurd h (by simp)
  | some found =>
      obtain ⟨x, s₁⟩ := found
      rw [hread] at h
      obtain ⟨rfl, hrest⟩ := Prod.mk.inj (Option.some.inj h)
      exact row_of_furtherItems hitem (hitem _ _ _ hread) (Prod.ext rfl hrest)

section Complete

variable {s rest stop : List Char}

/--
**A row is read item by item**, if each item is read as far as the separator behind it, and the last
one as far as `stop`, where no separator comes.

The bound on the separators is never met, since every item takes a character at least.
-/
theorem exists_furtherItems_of_row {x : α} {xs : List α} (h : Row separator item s (x :: xs) rest)
    (hshort : ∀ s x rest, item s x rest → rest.length < s.length)
    (hmore : ∀ t y t₁, t.length ≤ s.length → item t y (separator :: t₁) →
      reader t = some (y, separator :: t₁))
    (hlast : ∀ t y, t.length ≤ s.length → item t y rest → reader t = some (y, stop))
    (hle : stop.length ≤ rest.length) (hstop : ∀ more, stop ≠ separator :: more) :
    ∃ s₁, reader s = some (x, s₁) ∧ s₁.length < s.length
      ∧ ∀ bound, s₁.length ≤ bound → furtherItems reader separator bound s₁ = (xs, stop) := by
  generalize hys : x :: xs = ys at h
  induction h generalizing x xs with
  | last hx =>
      obtain ⟨rfl, rfl⟩ := List.cons.inj hys
      have hlength := hshort _ _ _ hx
      exact ⟨stop, hlast _ _ (Nat.le_refl _) hx, by omega,
        fun bound _ => furtherItems_of_ne bound hstop⟩
  | @more s s₁ rest y ys hy hrow ih =>
      obtain ⟨rfl, rfl⟩ := List.cons.inj hys
      have hlength := hshort _ _ _ hy
      rw [List.length_cons] at hlength
      obtain ⟨z, zs, rfl⟩ := List.exists_cons_of_ne_nil hrow.ne_nil
      obtain ⟨s₂, hz, hless, hzs⟩ := ih (fun t y t₁ ht => hmore t y t₁ (by omega))
        (fun t y ht => hlast t y (by omega)) hle rfl
      refine ⟨separator :: s₁, hmore _ _ _ (Nat.le_refl _) hy, hshort _ _ _ hy,
        fun bound hbound => ?_⟩
      rw [List.length_cons] at hbound
      -- a separator was read, so the bound is not used up
      obtain ⟨bound, rfl⟩ : ∃ b, bound = b + 1 := ⟨bound - 1, by omega⟩
      rw [furtherItems, if_pos rfl, hz]
      dsimp only
      rw [hzs bound (by omega)]

theorem separatedBy_of_row {xs : List α} (h : Row separator item s xs rest)
    (hshort : ∀ s x rest, item s x rest → rest.length < s.length)
    (hmore : ∀ t y t₁, t.length ≤ s.length → item t y (separator :: t₁) →
      reader t = some (y, separator :: t₁))
    (hlast : ∀ t y, t.length ≤ s.length → item t y rest → reader t = some (y, stop))
    (hle : stop.length ≤ rest.length) (hstop : ∀ more, stop ≠ separator :: more) :
    separatedBy separator reader s = some (xs, stop) := by
  obtain ⟨x, xs, rfl⟩ := List.exists_cons_of_ne_nil h.ne_nil
  obtain ⟨s₁, hx, _, hxs⟩ := exists_furtherItems_of_row h hshort hmore hlast hle hstop
  rw [separatedBy, hx]
  dsimp only
  rw [hxs _ (Nat.le_refl _)]

end Complete

end Reading

end WrapperGen
