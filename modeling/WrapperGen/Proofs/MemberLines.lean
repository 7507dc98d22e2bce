import WrapperGen.Proofs.NameSpelling
import WrapperGen.Proofs.SourceLines
import WrapperGen.Wrapper.Emit

/-!
# The lines of members

A member of a wrapper is written in one line, with the subscription of an option behind it. Its
names are identifiers, so the character behind one tells where it ends. Its type may be any text of
one line: it ends where the key begins, and the key is found from the end of the line. Several
members can be told from each other, and from what stands behind them (`memberRow_append_inj`), by
the words that their lines begin with: behind an option only its own subscription is a function.
-/

namespace WrapperGen

open Text

/-! ## Characters -/

theorem Unicode.ofNat_ne {n : Nat} {d : Char} (hd : d ≠ Char.ofNat 0) (h : n ≠ d.toNat) :
    Char.ofNat n ≠ d := by
  intro heq
  by_cases hvalid : n.isValidChar
  · have hcode : (Char.ofNat n).toNat = n := by
      rw [Char.ofNat, dif_pos hvalid]
      rfl
    exact h (hcode.symm.trans (congrArg Char.toNat heq))
  · rw [Char.ofNat, dif_neg hvalid] at heq
    exact hd heq.symm

/-- A character is in no capital but its own if no small letter of ASCII is written as it,
and if it is in no table. -/
theorem Unicode.notMem_capital_of_tables {c d : Char} (hd : d ≠ Char.ofNat 0)
    (hascii : ∀ n < 0x80, (Char.ofNat n).toUpper = Char.ofNat n ∨ (Char.ofNat n).toUpper ≠ d)
    (hsequences : ∀ e ∈ capitalSequences, d.toNat ∉ e.2)
    (hruns : ∀ r ∈ capitalRuns, d.toNat < r.first + r.distance ∨ r.last + r.distance < d.toNat)
    (h : c ≠ d) :
    d ∉ capital c := by
  have hcode : d.toNat ≠ 0 := fun hzero => hd (by rw [← Char.ofNat_toNat d, hzero])
  -- below 0x80 the case decides, above it the sequences, then the runs
  unfold capital
  dsimp only
  split
  · rename_i hsmall
    have hupper := hascii c.toNat hsmall
    rw [Char.ofNat_toNat] at hupper
    intro hmem
    rw [← List.mem_singleton.mp hmem] at hupper
    rcases hupper with hsame | hother
    · exact h hsame.symm
    · exact hother rfl
  · split
    · rename_i codes hcodes
      obtain ⟨before, behind, heq, _⟩ := List.lookup_eq_some_iff.mp hcodes
      have hnone := hsequences (c.toNat, codes) (by rw [heq]; simp)
      intro hmem
      obtain ⟨n, hn, hsame⟩ := List.mem_map.mp hmem
      exact ofNat_ne hd (fun heq => hnone (heq ▸ hn)) hsame
    · split
      · rename_i r hr
        have hcovers := List.find?_some hr
        rw [CapitalRun.covers, Bool.and_eq_true, Bool.and_eq_true, decide_eq_true_eq,
          decide_eq_true_eq] at hcovers
        have hapart := hruns r (List.mem_of_find?_eq_some hr)
        exact fun hmem => ofNat_ne hd (by omega) (List.mem_singleton.mp hmem).symm
      · exact fun hmem => h (List.mem_singleton.mp hmem).symm

/-- A character that comes before all letters is in no capital but its own. -/
theorem Unicode.notMem_capital {c d : Char} (hd : d ≠ Char.ofNat 0)
    (hbefore : d.toNat < 0x41) (h : c ≠ d) :
    d ∉ capital c := by
  have hascii : ∀ n < 0x80, (Char.ofNat n).toUpper = Char.ofNat n
      ∨ 0x41 ≤ (Char.ofNat n).toUpper.toNat := by decide
  have hsequences : ∀ e ∈ capitalSequences, ∀ n ∈ e.2, 0x41 ≤ n := by decide +kernel
  have hruns : ∀ r ∈ capitalRuns, 0x41 ≤ (r.first : Int) + r.distance := by decide +kernel
  refine notMem_capital_of_tables hd (fun n hn => (hascii n hn).imp_right ?_) (fun e he hmem => ?_)
    (fun r hr => Or.inl ?_) h
  · rintro hletter rfl
    omega
  · have hletter := hsequences e he _ hmem
    omega
  · have hfirst := hruns r hr
    omega

/-- What stands before the last occurrence of a character is the same when all is. -/
theorem append_cons_inj_of_notMem {α : Type} {a : α} {x y s t : List α} (hs : a ∉ s) (ht : a ∉ t)
    (h : x ++ a :: s = y ++ a :: t) : x = y ∧ s = t := by
  rcases List.append_eq_append_iff.mp h with ⟨more, rfl, heq⟩ | ⟨more, rfl, heq⟩
  · cases more with
    | nil => exact ⟨(List.append_nil x).symm, (List.cons.inj heq).2⟩
    | cons b more => exact absurd (by rw [(List.cons.inj heq).2]; simp) hs
  · cases more with
    | nil => exact ⟨List.append_nil y, (List.cons.inj heq).2.symm⟩
    | cons b more => exact absurd (by rw [(List.cons.inj heq).2]; simp) ht

/-! ## Identifiers -/

section Identifiers

variable {x y : String} {s t : List Char}

/-- The next character cannot belong to an identifier. -/
def EndsWord (s : List Char) : Prop := ∀ c more, s = c :: more → isIdentifierPart c = false

theorem endsWord_cons {c : Char} (h : isIdentifierPart c = false) (s : List Char) :
    EndsWord (c :: s) :=
  fun _ _ heq => (List.cons.inj heq).1 ▸ h

theorem endsWord_append {c : Char} (hs : s.head? = some c) (h : isIdentifierPart c = false)
    (rest : List Char) :
    EndsWord (s ++ rest) := by
  obtain ⟨more, rfl⟩ := List.head?_eq_some_iff.mp hs
  exact endsWord_cons h (more ++ rest)

/-- An identifier can be told from what follows it. -/
theorem identifier_append_inj (hx : isIdentifier x = true) (hy : isIdentifier y = true)
    (hs : EndsWord s) (ht : EndsWord t) (h : x.toList ++ s = y.toList ++ t) : x = y ∧ s = t := by
  have hleft := readIdentifier_of_identifierAt ⟨hx, rfl⟩ hs
  have hright := readIdentifier_of_identifierAt ⟨hy, rfl⟩ ht
  rw [h, hright] at hleft
  obtain ⟨hname, hrest⟩ := Prod.mk.inj (Option.some.inj hleft)
  exact ⟨hname.symm, hrest.symm⟩

/-- Identifiers joined by dots can be told from what follows them. -/
theorem joined_append_inj {names others : List String} (hne : names ≠ []) (hne' : others ≠ [])
    (hnames : ∀ n ∈ names, isIdentifier n = true) (hothers : ∀ n ∈ others, isIdentifier n = true)
    (hs : ∀ c more, s = c :: more → isIdentifierPart c = false ∧ c ≠ '.')
    (ht : ∀ c more, t = c :: more → isIdentifierPart c = false ∧ c ≠ '.')
    (h : (joined "." names).toList ++ s = (joined "." others).toList ++ t) :
    names = others ∧ s = t := by
  have hread := readDotted_of_row (row_joined hne hnames s) hs
  have hread' := readDotted_of_row (row_joined hne' hothers t) ht
  rw [h, hread'] at hread
  obtain ⟨hsame, hrest⟩ := Prod.mk.inj (Option.some.inj hread)
  exact ⟨hsame.symm, hrest.symm⟩

theorem oneLine_of_isIdentifier (h : isIdentifier x = true) : OneLine x :=
  notMem_of_isIdentifier h (by decide)

end Identifiers

/-! ## Members that can be written -/

/-- A member with identifiers for names, and a type of one line. -/
def ConfigField.Legal : ConfigField → Prop
  | .value f => isIdentifier f.name = true ∧ isIdentifier f.key = true ∧ OneLine f.typeText
  | .nest f =>
      isIdentifier f.name = true ∧ isIdentifier f.key = true ∧ isIdentifier f.className = true

instance : DecidablePred ConfigField.Legal
  | .value _ => inferInstanceAs (Decidable (_ ∧ _ ∧ _))
  | .nest _ => inferInstanceAs (Decidable (_ ∧ _ ∧ _))

namespace Wrapper

open Block

/-! ## Single lines -/

theorem optionLine_toList (f : ValueField) : (optionLine f).toList
    = 'v' :: 'a' :: (if f.mutable then 'r' else 'l') :: ' '
      :: (f.name.toList ++ ':' :: ' ' :: (f.typeText.toList
      ++ " by optionForKey(parentKey.child(".toList ++ '"' :: f.key.toList
      ++ "\"))!!".toList)) := by
  cases hf : f.mutable <;> simp [optionLine, hf]

theorem sectionLine_toList (f : NestField) : (sectionLine f).toList
    = 'v' :: 'a' :: 'l' :: ' ' :: (f.name.toList ++ ' ' :: '=' :: ' ' :: (f.className.toList
      ++ '(' :: ("parentKey.child(\"".toList ++ (f.key.toList ++ "\"))".toList)))) := by
  simp [sectionLine]

/-- The line of an option tells all about it but whether it can be subscribed to. -/
theorem optionLine_inj {f g : ValueField} (hf : (ConfigField.value f).Legal)
    (hg : (ConfigField.value g).Legal) (h : optionLine f = optionLine g) :
    f = { g with subscribe := f.subscribe } := by
  have hlist := congrArg String.toList h
  rw [optionLine_toList, optionLine_toList] at hlist
  simp only [List.cons.injEq, true_and] at hlist
  obtain ⟨hkeyword, hlist⟩ := hlist
  have hmutable : f.mutable = g.mutable := by
    cases hfm : f.mutable <;> cases hgm : g.mutable <;> simp [hfm, hgm] at hkeyword ⊢
  obtain ⟨hname, hlist⟩ := identifier_append_inj hf.1 hg.1 (endsWord_cons (by decide) _)
    (endsWord_cons (by decide) _) hlist
  simp only [List.cons.injEq, true_and] at hlist
  -- the type ends where the last quote but one begins the key
  have hquote : ∀ {k : String}, isIdentifier k = true → '"' ∉ k.toList := fun hk =>
    notMem_of_isIdentifier hk (by decide)
  obtain ⟨htype, hkey⟩ :=
    append_cons_inj_of_notMem (hquote hf.2.1) (hquote hg.2.1) (List.append_cancel_right hlist)
  have htypeText := String.toList_inj.mp (List.append_cancel_right htype)
  cases f
  cases g
  simp_all [String.toList_inj]

/-- The line of a section tells all about it. -/
theorem sectionLine_inj {f g : NestField} (hf : (ConfigField.nest f).Legal)
    (hg : (ConfigField.nest g).Legal) (h : sectionLine f = sectionLine g) : f = g := by
  have hlist := congrArg String.toList h
  rw [sectionLine_toList, sectionLine_toList] at hlist
  simp only [List.cons.injEq, true_and] at hlist
  obtain ⟨hname, hlist⟩ := identifier_append_inj hf.1 hg.1 (endsWord_cons (by decide) _)
    (endsWord_cons (by decide) _) hlist
  simp only [List.cons.injEq, true_and] at hlist
  obtain ⟨hclass, hlist⟩ := identifier_append_inj hf.2.2 hg.2.2 (endsWord_cons (by decide) _)
    (endsWord_cons (by decide) _) hlist
  simp only [List.cons.injEq, true_and] at hlist
  have hkey := String.toList_inj.mp (List.append_cancel_right (List.append_cancel_left hlist))
  cases f
  cases g
  simp_all

/-- No option is written like a section. -/
theorem optionLine_ne_sectionLine {f : ValueField} {g : NestField}
    (hf : (ConfigField.value f).Legal) (hg : (ConfigField.nest g).Legal) :
    optionLine f ≠ sectionLine g := by
  intro h
  have hlist := congrArg String.toList h
  rw [optionLine_toList, sectionLine_toList] at hlist
  simp only [List.cons.injEq, true_and] at hlist
  -- one has a colon behind its name, the other a blank
  obtain ⟨_, hlist⟩ := identifier_append_inj hf.1 hg.1 (endsWord_cons (by decide) _)
    (endsWord_cons (by decide) _) hlist.2
  exact absurd (List.cons.inj hlist).1 (by decide)

/-! ## Members -/

/-- The lines that let an option be subscribed to. -/
def subscriptionLines (depth : Nat) (f : ValueField) : List String :=
  if f.subscribe then "" :: (subscription f).lines depth else []

theorem memberLines_value (depth : Nat) (f : ValueField) : allLines depth (memberBlocks (.value f))
    = indented depth (optionLine f) :: subscriptionLines depth f := by
  rw [memberBlocks, subscriptionLines]
  split <;> simp [allLines, lines]

theorem memberLines_nest (depth : Nat) (f : NestField) : allLines depth (memberBlocks (.nest f))
    = [indented depth (sectionLine f)] := rfl

/-- A line at some depth begins with a word. -/
def Begins (depth : Nat) (word line : String) : Prop := (indented depth word).toList <+: line.toList

instance (depth : Nat) (word line : String) : Decidable (Begins depth word line) :=
  inferInstanceAs (Decidable (_ <+: _))

theorem begins_indented (depth : Nat) (word rest : String) :
    Begins depth word (indented depth (word ++ rest)) := by
  rw [Begins, indented, indented, String.toList_append, String.toList_append, String.toList_append,
    ← List.append_assoc]
  exact List.prefix_append _ _

/-- A line begins with two words only if one of them begins with the other. -/
theorem Begins.comparable {depth : Nat} {word other line : String} (h : Begins depth word line)
    (h' : Begins depth other line) :
    word.toList <+: other.toList ∨ other.toList <+: word.toList := by
  have hprefix := List.prefix_or_prefix_of_prefix h h'
  simpa only [indented, String.toList_append, List.prefix_append_right_inj] using hprefix

/-- Lines go on with a blank one and one that begins with a word. -/
def GoesOn (depth : Nat) (word : String) (ls : List String) : Prop :=
  ∃ line rest, ls = "" :: line :: rest ∧ Begins depth word line

/-- Lines go on with one word at most. -/
theorem GoesOn.comparable {depth : Nat} {word other : String} {ls : List String}
    (h : GoesOn depth word ls) (h' : GoesOn depth other ls) :
    word.toList <+: other.toList ∨ other.toList <+: word.toList := by
  obtain ⟨line, rest, rfl, hword⟩ := h
  obtain ⟨line', rest', heq, hother⟩ := h'
  obtain ⟨rfl, _⟩ := List.cons.inj (List.cons.inj heq).2
  exact hword.comparable hother

theorem not_goesOn_of_ne {depth : Nat} {word line : String} (h : line ≠ "") (rest : List String) :
    ¬GoesOn depth word (line :: rest) :=
  fun ⟨_, _, heq, _⟩ => h (List.cons.inj heq).1

theorem goesOn_subscription {f : ValueField} (h : f.subscribe = true) (depth : Nat)
    (ls : List String) :
    GoesOn depth "fun " (subscriptionLines depth f ++ ls) := by
  rw [subscriptionLines, if_pos h, subscription, lines]
  refine ⟨_, _, rfl, ?_⟩
  rw [show "fun subscribeTo" = "fun " ++ "subscribeTo" from rfl, String.append_assoc,
    String.append_assoc, String.append_assoc, String.append_assoc, String.append_assoc]
  exact begins_indented _ _ _

/-- Every member begins with the declaration of a variable. -/
theorem goesOn_member (f : ConfigField) (depth : Nat) (ls : List String) :
    GoesOn depth "va" ("" :: (allLines depth (memberBlocks f) ++ ls)) := by
  cases f with
  | value f =>
      rw [memberLines_value]
      refine ⟨_, _, rfl, ?_⟩
      rw [Begins, indented, indented, String.toList_append, String.toList_append,
        List.prefix_append_right_inj, optionLine_toList]
      exact ⟨_, rfl⟩
  | nest f =>
      rw [memberLines_nest]
      refine ⟨_, _, rfl, ?_⟩
      rw [Begins, indented, indented, String.toList_append, String.toList_append,
        List.prefix_append_right_inj, sectionLine_toList]
      exact ⟨_, rfl⟩

/-- Whether a subscription follows tells whether the option can be subscribed to. -/
theorem goesOn_subscription_iff {f : ValueField} {depth : Nat} {ls : List String}
    (h : ¬GoesOn depth "fun " ls) :
    GoesOn depth "fun " (subscriptionLines depth f ++ ls) ↔ f.subscribe = true := by
  refine ⟨fun hgoes => ?_, fun hf => goesOn_subscription hf depth ls⟩
  rw [subscriptionLines] at hgoes
  split at hgoes
  · assumption
  · exact absurd hgoes h

/-- **A member can be told from what follows it**, if that is no subscription. -/
theorem memberLines_append_inj {f g : ConfigField} {depth : Nat} {ls ls' : List String}
    (hf : f.Legal) (hg : g.Legal) (hls : ¬GoesOn depth "fun " ls) (hls' : ¬GoesOn depth "fun " ls')
    (h : allLines depth (memberBlocks f) ++ ls = allLines depth (memberBlocks g) ++ ls') :
    f = g ∧ ls = ls' := by
  cases f with
  | value f =>
      cases g with
      | value g =>
          rw [memberLines_value, memberLines_value, List.cons_append, List.cons_append] at h
          obtain ⟨hline, hrest⟩ := List.cons.inj h
          -- the line does not tell it, but the subscription behind it does
          have hsubscribe : f.subscribe = g.subscribe := by
            rw [Bool.eq_iff_iff, ← goesOn_subscription_iff hls,
              ← goesOn_subscription_iff hls', hrest]
          have hsame : f = g := by
            rw [optionLine_inj hf hg (indented_inj hline), hsubscribe]
          rw [hsame] at hrest ⊢
          exact ⟨rfl, List.append_cancel_left hrest⟩
      | nest g =>
          rw [memberLines_value, memberLines_nest] at h
          exact absurd (indented_inj (List.cons.inj h).1) (optionLine_ne_sectionLine hf hg)
  | nest f =>
      cases g with
      | value g =>
          rw [memberLines_value, memberLines_nest] at h
          exact absurd (indented_inj (List.cons.inj h).1).symm (optionLine_ne_sectionLine hg hf)
      | nest g =>
          rw [memberLines_nest, memberLines_nest] at h
          obtain ⟨hline, hrest⟩ := List.cons.inj h
          rw [sectionLine_inj hf hg (indented_inj hline)]
          exact ⟨rfl, hrest⟩

/-! ## Rows of members -/

/-- The lines of members, a blank line before each. -/
def memberRow (depth : Nat) (fields : List ConfigField) : List String :=
  fields.flatMap fun f => "" :: allLines depth (memberBlocks f)

theorem memberRow_cons (depth : Nat) (f : ConfigField) (fields : List ConfigField) :
    memberRow depth (f :: fields)
      = "" :: (allLines depth (memberBlocks f) ++ memberRow depth fields) := by
  rw [memberRow, List.flatMap_cons, ← memberRow, List.cons_append]

/-- Lines that no member goes on with. -/
structure Ends (depth : Nat) (ls : List String) : Prop where
  no_subscription : ¬GoesOn depth "fun " ls
  no_member : ¬GoesOn depth "va" ls

theorem ends_cons {depth : Nat} {line : String} (h : line ≠ "") (rest : List String) :
    Ends depth (line :: rest) :=
  ⟨not_goesOn_of_ne h rest, not_goesOn_of_ne h rest⟩

theorem goesOn_memberRow (depth : Nat) (f : ConfigField) (fields : List ConfigField)
    (ls : List String) :
    GoesOn depth "va" (memberRow depth (f :: fields) ++ ls) := by
  rw [memberRow_cons, List.cons_append, List.append_assoc]
  exact goesOn_member f depth _

/-- What follows a member is no subscription of it. -/
theorem Ends.not_goesOn_memberRow {depth : Nat} {ls : List String} (h : Ends depth ls)
    (fields : List ConfigField) :
    ¬GoesOn depth "fun " (memberRow depth fields ++ ls) := by
  cases fields with
  | nil => exact h.no_subscription
  | cons f fields =>
      exact fun hgoes => absurd (hgoes.comparable (goesOn_memberRow depth f fields ls)) (by decide)

/-- **Members can be told from what follows them.** -/
theorem memberRow_append_inj {fields others : List ConfigField} {depth : Nat} {ls ls' : List String}
    (hfields : ∀ f ∈ fields, f.Legal) (hothers : ∀ f ∈ others, f.Legal) (hls : Ends depth ls)
    (hls' : Ends depth ls') (h : memberRow depth fields ++ ls = memberRow depth others ++ ls') :
    fields = others ∧ ls = ls' := by
  induction fields generalizing others with
  | nil =>
      cases others with
      | nil => exact ⟨rfl, h⟩
      | cons g others =>
          -- a member would go on where the lines end
          have hmember := goesOn_memberRow depth g others ls'
          rw [← h] at hmember
          exact absurd hmember hls.no_member
  | cons f fields ih =>
      cases others with
      | nil =>
          have hmember := goesOn_memberRow depth f fields ls
          rw [h] at hmember
          exact absurd hmember hls'.no_member
      | cons g others =>
          rw [List.forall_mem_cons] at hfields hothers
          rw [memberRow_cons, memberRow_cons, List.cons_append, List.cons_append, List.append_assoc,
            List.append_assoc] at h
          obtain ⟨rfl, hrest⟩ :=
            memberLines_append_inj hfields.1 hothers.1 (hls.not_goesOn_memberRow fields)
              (hls'.not_goesOn_memberRow others) (List.cons.inj h).2
          obtain ⟨rfl, htail⟩ := ih hfields.2 hothers.2 hrest
          exact ⟨rfl, htail⟩

end Wrapper

end WrapperGen
