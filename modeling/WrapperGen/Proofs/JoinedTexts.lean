import WrapperGen.Text.Joined

/-!
# Joining and splitting

Texts joined by a separator are found again by splitting there, if none of them holds the separator,
and what splitting finds is joined to the same text again.
-/

namespace WrapperGen.Text

variable {separator : String} {c : Char}

/-! ## Joining -/

theorem joined_cons_cons (x y : String) (texts : List String) :
    joined separator (x :: y :: texts) = x ++ separator ++ joined separator (y :: texts) := rfl

theorem joined_append {xs ys : List String} (hxs : xs ≠ []) (hys : ys ≠ []) :
    joined separator (xs ++ ys) = joined separator xs ++ separator ++ joined separator ys := by
  obtain ⟨y, ys, rfl⟩ := List.exists_cons_of_ne_nil hys
  induction xs with
  | nil => exact absurd rfl hxs
  | cons x xs ih =>
      cases xs with
      | nil => rfl
      | cons x' xs =>
          rw [List.cons_append, List.cons_append, joined_cons_cons,
            ← List.cons_append, ih (by simp), joined_cons_cons]
          simp only [String.append_assoc]

/-- What stands behind a joined text stands behind the last of the texts. -/
theorem joined_concat_append (texts : List String) (x y : String) :
    joined separator (texts ++ [x]) ++ y = joined separator (texts ++ [x ++ y]) := by
  by_cases h : texts = []
  · rw [h]
    rfl
  · rw [joined_append h (List.cons_ne_nil _ _), joined_append h (List.cons_ne_nil _ _),
      joined, joined, String.append_assoc]

/-- A text joined of one or more that are not empty is not empty. -/
theorem joined_eq_empty_iff {texts : List String} (h : ∀ x ∈ texts, x ≠ "") :
    joined separator texts = "" ↔ texts = [] := by
  refine ⟨fun hempty => ?_, fun hnil => by rw [hnil]; rfl⟩
  cases texts with
  | nil => rfl
  | cons x texts =>
      have hx := h x List.mem_cons_self
      cases texts with
      | nil => exact absurd hempty hx
      | cons y texts =>
          rw [joined_cons_cons, String.append_eq_empty_iff, String.append_eq_empty_iff] at hempty
          exact absurd hempty.1.1 hx

/-- A character that is in none of the texts and not in the separator is not in the joined text. -/
theorem notMem_joined {texts : List String} (hseparator : c ∉ separator.toList)
    (h : ∀ x ∈ texts, c ∉ x.toList) :
    c ∉ (joined separator texts).toList := by
  induction texts with
  | nil => exact List.not_mem_nil
  | cons x texts ih =>
      rw [List.forall_mem_cons] at h
      cases texts with
      | nil => exact h.1
      | cons y texts =>
          rw [joined_cons_cons, String.toList_append, String.toList_append, List.mem_append,
            List.mem_append, not_or, not_or]
          exact ⟨⟨h.1, hseparator⟩, ih h.2⟩

/-! ## Texts that are no longer than others -/

/-- Two texts that are no longer than two others make the same text only if they are the same. -/
theorem append_inj_of_length_le {a b x y : String} (h : a ++ b = x ++ y) (ha : a.length ≤ x.length)
    (hb : b.length ≤ y.length) : a = x ∧ b = y := by
  have hlength := congrArg String.length h
  rw [String.length_append, String.length_append] at hlength
  have hlist := congrArg String.toList h
  rw [String.toList_append, String.toList_append] at hlist
  have hsame : a.toList.length = x.toList.length := by
    rw [String.length_toList, String.length_toList]
    omega
  obtain ⟨hleft, hright⟩ := List.append_inj hlist hsame
  exact ⟨String.toList_inj.mp hleft, String.toList_inj.mp hright⟩

section Shorter

variable {α : Type} {f g : α → String} {xs : List α}

theorem length_joined_le (h : ∀ x ∈ xs, (f x).length ≤ (g x).length) :
    (joined separator (xs.map f)).length ≤ (joined separator (xs.map g)).length := by
  induction xs with
  | nil => exact Nat.le_refl _
  | cons x xs ih =>
      rw [List.forall_mem_cons] at h
      cases xs with
      | nil => exact h.1
      | cons y xs =>
          have hrest := ih h.2
          simp only [List.map_cons, joined_cons_cons, String.length_append] at hrest ⊢
          have hx := h.1
          omega

/-- Texts that are no longer than others join to the same text only if they are the same. -/
theorem eq_of_joined_eq (h : ∀ x ∈ xs, (f x).length ≤ (g x).length)
    (heq : joined separator (xs.map f) = joined separator (xs.map g)) : ∀ x ∈ xs, f x = g x := by
  induction xs with
  | nil => exact List.forall_mem_nil _
  | cons x xs ih =>
      rw [List.forall_mem_cons] at h
      cases xs with
      | nil => exact List.forall_mem_singleton.mpr heq
      | cons y xs =>
          have hle : (f x ++ separator).length ≤ (g x ++ separator).length := by
            rw [String.length_append, String.length_append]
            exact Nat.add_le_add_right h.1 _
          have hothers : (joined separator ((y :: xs).map f)).length
              ≤ (joined separator ((y :: xs).map g)).length :=
            length_joined_le h.2
          simp only [List.map_cons, joined_cons_cons] at heq hothers
          obtain ⟨hfirst, hrest⟩ := append_inj_of_length_le heq hle hothers
          refine List.forall_mem_cons.mpr ⟨?_, ih h.2 hrest⟩
          exact (append_inj_of_length_le hfirst h.1 (Nat.le_refl _)).1

end Shorter

/-! ## Splitting -/

section Lists

variable {α : Type} [DecidableEq α] {a : α}

theorem splitAt_ne_nil (s : List α) : splitAt a s ≠ [] := by
  cases s with
  | nil => simp [splitAt]
  | cons b s =>
      rw [splitAt]
      split
      · simp
      · split <;> simp

theorem splitAt_of_not_mem {s : List α} (h : a ∉ s) : splitAt a s = [s] := by
  induction s with
  | nil => rfl
  | cons b s ih =>
      rw [List.mem_cons, not_or] at h
      rw [splitAt, if_neg (Ne.symm h.1), ih h.2]

theorem splitAt_append {x : List α} (h : a ∉ x) (s : List α) :
    splitAt a (x ++ a :: s) = x :: splitAt a s := by
  induction x with
  | nil => rw [List.nil_append, splitAt, if_pos rfl]
  | cons b x ih =>
      rw [List.mem_cons, not_or] at h
      rw [List.cons_append, splitAt, if_neg (Ne.symm h.1), ih h.2]

theorem splitAt_append_separator (a : α) (xs ys : List α) :
    splitAt a (xs ++ a :: ys) = splitAt a xs ++ splitAt a ys := by
  induction xs with
  | nil =>
      show splitAt a (a :: ys) = [] :: splitAt a ys
      simp only [splitAt, if_true]
  | cons x xs ih =>
      rw [List.cons_append, splitAt, splitAt]
      split
      · rw [ih, List.cons_append]
      · rw [ih]
        cases hs : splitAt a xs with
        | nil => exact absurd hs (splitAt_ne_nil xs)
        | cons part others => rfl

end Lists

theorem parts_ne_nil (text : String) : parts c text ≠ [] := by
  rw [parts, Ne, List.map_eq_nil_iff]
  exact splitAt_ne_nil _

/-- Two texts with the separator between them are split one after the other. -/
theorem parts_append (hsep : separator.toList = [c]) (x y : String) :
    parts c (x ++ separator ++ y) = parts c x ++ parts c y := by
  rw [parts, String.toList_append, String.toList_append, hsep, List.append_assoc,
    List.singleton_append, splitAt_append_separator, List.map_append, parts, parts]

/-- **Splitting finds the texts that were joined.** -/
theorem parts_joined {texts : List String} (hsep : separator.toList = [c]) (hne : texts ≠ [])
    (h : ∀ x ∈ texts, c ∉ x.toList) : parts c (joined separator texts) = texts := by
  induction texts with
  | nil => exact absurd rfl hne
  | cons x texts ih =>
      rw [List.forall_mem_cons] at h
      cases texts with
      | nil => rw [joined, parts, splitAt_of_not_mem h.1, List.map_singleton, String.ofList_toList]
      | cons y texts =>
          rw [joined_cons_cons, parts, String.toList_append, String.toList_append, hsep,
            List.append_assoc, List.singleton_append, splitAt_append h.1, List.map_cons,
            String.ofList_toList, ← parts, ih (by simp) h.2]

/-- **What splitting finds is joined again.** -/
theorem joined_parts (hsep : separator.toList = [c]) (text : String) :
    joined separator (parts c text) = text := by
  -- a character in front of the first part is one in front of the whole
  have hfront : ∀ (d : Char) (part : List Char) (others : List String),
      (joined separator (String.ofList (d :: part) :: others)).toList
        = d :: (joined separator (String.ofList part :: others)).toList := by
    intro d part others
    cases others with
    | nil => simp [joined]
    | cons y others => simp [joined]
  have hlist : ∀ s : List Char, (joined separator ((splitAt c s).map String.ofList)).toList
      = s := by
    intro s
    induction s with
    | nil => rfl
    | cons d s ih =>
        obtain ⟨part, others, hsplit⟩ := List.exists_cons_of_ne_nil (splitAt_ne_nil (a := c) s)
        rw [hsplit, List.map_cons] at ih
        by_cases hd : d = c
        · rw [splitAt, if_pos hd, hsplit, List.map_cons, List.map_cons, joined_cons_cons,
            String.toList_append, String.toList_append, hsep, ih, hd]
          rfl
        · rw [splitAt, if_neg hd, hsplit]
          dsimp only
          rw [List.map_cons, hfront, ih]
  rw [← String.toList_inj, parts, hlist]

/-- **The parts of a text are the first parts of another exactly if the other goes on behind it with
a separator**, or with nothing. -/
theorem parts_prefix_iff (hsep : separator.toList = [c]) {x y : String} :
    parts c x <+: parts c y ↔ y = x ∨ ∃ rest, y = x ++ separator ++ rest := by
  constructor
  · rintro ⟨others, hparts⟩
    have hy : joined separator (parts c x ++ others) = y := by rw [hparts, joined_parts hsep]
    by_cases hothers : others = []
    · left
      rw [← hy, hothers, List.append_nil, joined_parts hsep]
    · right
      refine ⟨joined separator others, ?_⟩
      rw [← hy, joined_append (parts_ne_nil x) hothers, joined_parts hsep]
  · rintro (rfl | ⟨rest, rfl⟩)
    · exact List.prefix_rfl
    · rw [parts_append hsep]
      exact List.prefix_append _ _

end WrapperGen.Text
