import WrapperGen.Proofs.TypeGrammar

/-!
# The reader of types accepts exactly the grammar

The reader tries its alternatives in order, takes every option it can, and never goes back. The
grammar knows no order. That they agree has two halves.

What the reader finds is written there (`FindsTypes`): each of its steps is a production. The one
thing to watch is the question mark, which the reader gives to the innermost type that has none,
just as the grammar does.

What is written is found (`ReadsTypes`), if nothing behind it could be taken for more of it. An
alternative that is tried first and does not apply must refuse: a function without an arrow, a
projection whose keyword is the name of a class.
-/

namespace WrapperGen.TypeRef

open Text

/-! ## What is found is written -/

/-- What a reader finds is a type, and it does not leave a mark that could
have been the type's own. -/
def FindsTypes (inner : Reader TypeRef) : Prop :=
  ∀ s t rest, inner s = some (t, rest) →
    ∃ marked, Written (.type marked) s t rest
      ∧ (marked = false → ∀ more, skipBlanks rest ≠ '?' :: more)

section Found

variable {inner : Reader TypeRef} {s rest : List Char} {t : TypeRef}

theorem written_of_readPadded (hinner : FindsTypes inner)
    (h : readPadded inner s = some (t, rest)) :
    Written .padded s t rest := by
  rw [readPadded] at h
  split at h
  · exact absurd h (by simp)
  · rename_i hread
    obtain ⟨rfl, rfl⟩ := Prod.mk.inj (Option.some.inj h)
    obtain ⟨marked, hwritten, _⟩ := hinner _ _ _ hread
    exact .padded (blanks_skipBlanks s) hwritten (blanks_skipBlanks _)

/-- A keyword that is read stands there. -/
theorem readVariance_eq {variance : Variance} (h : readVariance s = some (variance, rest)) :
    s = variance.keyword.toList ++ rest := by
  unfold readVariance at h
  split at h
  · obtain ⟨rfl, rfl⟩ := Prod.mk.inj (Option.some.inj h)
    rfl
  · obtain ⟨rfl, rfl⟩ := Prod.mk.inj (Option.some.inj h)
    rfl
  · exact absurd h (by simp)

theorem written_of_readArgument (hinner : FindsTypes inner)
    (h : readPadded (readArgument inner) s = some (t, rest)) : Written .argument s t rest := by
  rw [readPadded] at h
  split at h
  · exact absurd h (by simp)
  · rename_i t rest hread
    obtain ⟨rfl, rfl⟩ := Prod.mk.inj (Option.some.inj h)
    unfold readArgument at hread
    split at hread
    · rename_i s₁ hstar
      obtain ⟨rfl, rfl⟩ := Prod.mk.inj (Option.some.inj hread)
      have hblanks := blanks_skipBlanks s
      rw [hstar] at hblanks
      exact .star hblanks (blanks_skipBlanks _)
    · split at hread
      · -- a projection
        rename_i found hprojection
        obtain rfl := Option.some.inj hread
        rw [readProjection] at hprojection
        split at hprojection
        · rename_i variance c s₁ hvariance
          split at hprojection
          · rename_i hc
            split at hprojection
            · rename_i u rest hu
              obtain ⟨rfl, rfl⟩ := Prod.mk.inj (Option.some.inj hprojection)
              obtain ⟨marked, hwritten, _⟩ := hinner _ _ _ hu
              have hblanks := blanks_skipBlanks s
              rw [readVariance_eq hvariance] at hblanks
              exact .projected hblanks hc (blanks_skipBlanks _) hwritten (blanks_skipBlanks _)
            · exact absurd hprojection (by simp)
          · exact absurd hprojection (by simp)
        · exact absurd hprojection (by simp)
      · -- a type
        obtain ⟨marked, hwritten, _⟩ := hinner _ _ _ hread
        exact .argument (.padded (blanks_skipBlanks s) hwritten (blanks_skipBlanks _))

theorem written_of_readArguments {arguments : List TypeRef} (hinner : FindsTypes inner)
    (h : readArguments inner s = some (arguments, rest)) :
    ∃ s₁, Blanks s ('<' :: s₁) ∧ Row ',' (Written .argument) s₁ arguments ('>' :: rest) := by
  rw [readArguments] at h
  split at h
  · rename_i s₁ hopen
    split at h
    · rename_i hrow
      obtain ⟨rfl, rfl⟩ := Prod.mk.inj (Option.some.inj h)
      have hblanks := blanks_skipBlanks s
      rw [hopen] at hblanks
      have hargument : ∀ s t rest, readPadded (readArgument inner) s = some (t, rest) →
          Written .argument s t rest := fun _ _ _ => written_of_readArgument hinner
      exact ⟨s₁, hblanks, row_of_separatedBy hargument hrow⟩
    · exact absurd h (by simp)
  · exact absurd h (by simp)

theorem written_of_readNamed (hinner : FindsTypes inner) (h : readNamed inner s = some (t, rest)) :
    Written (.core false) s t rest := by
  rw [readNamed] at h
  split at h
  · exact absurd h (by simp)
  · rename_i name s₁ hname
    have hname := nameAt_of_readClassName hname
    split at h
    · rename_i arguments s₂ harguments
      obtain ⟨rfl, rfl⟩ := Prod.mk.inj (Option.some.inj h)
      obtain ⟨s₃, hopen, hrow⟩ := written_of_readArguments hinner harguments
      exact .applied hname hopen hrow
    · obtain ⟨rfl, rfl⟩ := Prod.mk.inj (Option.some.inj h)
      exact .named hname

/-- What is read behind the parameters of a function is the arrow and the result. -/
theorem written_of_readResult {parameters : List TypeRef} (hinner : FindsTypes inner)
    (h : readResult inner parameters s = some (t, rest)) :
    ∃ marked s₁ result, t = .function parameters result ∧ Arrow s s₁
      ∧ Written (.type marked) s₁ result rest
      ∧ (marked = false → ∀ more, skipBlanks rest ≠ '?' :: more) := by
  rw [readResult] at h
  split at h
  · rename_i s₁ hclose
    split at h
    · rename_i s₂ harrow
      split at h
      · rename_i result rest hresult
        obtain ⟨rfl, rfl⟩ := Prod.mk.inj (Option.some.inj h)
        obtain ⟨marked, hwritten, hmark⟩ := hinner _ _ _ hresult
        have hblanks₁ := blanks_skipBlanks s
        have hblanks₂ := blanks_skipBlanks s₁
        rw [hclose] at hblanks₁
        rw [harrow] at hblanks₂
        exact ⟨marked, _, result, rfl, ⟨s₁, s₂, hblanks₁, hblanks₂, blanks_skipBlanks s₂⟩,
          hwritten, hmark⟩
      · exact absurd h (by simp)
    · exact absurd h (by simp)
  · exact absurd h (by simp)

/-- What is found up to a question mark is a type up to one, and yields no mark that comes next. -/
def FindsCores (core : Reader TypeRef) : Prop :=
  ∀ s t rest, core s = some (t, rest) →
    ∃ yields, Written (.core yields) s t rest
      ∧ (yields = true → ∀ more, skipBlanks rest ≠ '?' :: more)

theorem written_of_readParenthesised (hinner : FindsTypes inner)
    (h : readParenthesised inner s = some (t, rest)) :
    ∃ yields, Written (.core yields) ('(' :: s) t rest
      ∧ (yields = true → ∀ more, skipBlanks rest ≠ '?' :: more) := by
  rw [readParenthesised] at h
  split at h
  · obtain ⟨marked, s₁, result, rfl, harrow, hresult, hmark⟩ := written_of_readResult hinner h
    exact ⟨!marked, .nullary harrow hresult, by simpa using hmark⟩
  · rename_i first afterFirst hfirst
    have hfirst := written_of_readPadded hinner hfirst
    split at h
    rename_i others afterAll hothers
    split at h
    · rename_i found hfound
      obtain rfl := Option.some.inj h
      obtain ⟨marked, s₁, result, rfl, harrow, hresult,
          hmark⟩ := written_of_readResult hinner hfound
      have hpadded : ∀ s t rest, readPadded inner s = some (t, rest) → Written .padded s t rest :=
        fun _ _ _ => written_of_readPadded hinner
      have hrow := row_of_furtherItems hpadded hfirst hothers
      exact ⟨!marked, .function hrow harrow hresult, by simpa using hmark⟩
    · split at h
      · obtain ⟨rfl, rfl⟩ := Prod.mk.inj (Option.some.inj h)
        exact ⟨false, .grouped hfirst, by simp⟩
      · exact absurd h (by simp)

theorem findsCores_readCore (hinner : FindsTypes inner) : FindsCores (readCore inner) := by
  intro s t rest h
  unfold readCore at h
  split at h
  · exact written_of_readParenthesised hinner h
  · exact ⟨false, written_of_readNamed hinner h, by simp⟩

end Found

/-- **What the reader finds is written there**, however deep it may look. -/
theorem findsTypes_readNested (depth : Nat) : FindsTypes (readNested depth) := by
  induction depth with
  | zero => exact fun s t rest h => absurd h (by simp [readNested])
  | succ depth ih =>
      intro s t rest h
      rw [readNested] at h
      split at h
      · exact absurd h (by simp)
      · rename_i core s₁ hcore
        obtain ⟨yields, hwritten, hmark⟩ := findsCores_readCore ih _ _ _ hcore
        split at h
        · rename_i s₂ hquestion
          obtain ⟨rfl, rfl⟩ := Prod.mk.inj (Option.some.inj h)
          -- the mark is the type's own, since nothing inside took it
          obtain rfl : yields = false := Bool.eq_false_iff.mpr fun hy => hmark hy _ hquestion
          have hblanks := blanks_skipBlanks s₁
          rw [hquestion] at hblanks
          exact ⟨true, .marked hwritten hblanks, by simp⟩
        · rename_i hnone
          obtain ⟨rfl, rfl⟩ := Prod.mk.inj (Option.some.inj h)
          exact ⟨false, .unmarked hwritten, fun _ more => hnone more⟩

/-! ## What is written is found -/

/-- What may stand behind a type that is over. -/
def behindType : List Char := [',', ')', '>']

/-- What may stand behind a type up to its question mark. -/
def behindCore : List Char := '?' :: behindType

/-- What may stand behind the name of a class. -/
def behindName : List Char := '<' :: behindCore

theorem behindType_subset : behindType ⊆ behindCore := List.subset_cons_self _ _

theorem behindCore_subset : behindCore ⊆ behindName := List.subset_cons_self _ _

theorem behindName_cases {c : Char} (h : c ∈ behindName) :
    c = '<' ∨ c = '?' ∨ c = ',' ∨ c = ')' ∨ c = '>' := by
  simpa [behindName, behindCore, behindType] using h

theorem isBlank_of_mem_behindType {c : Char} (h : c ∈ behindType) : isBlank c = false := by
  rcases behindName_cases (behindCore_subset (behindType_subset h)) with rfl | rfl | rfl | rfl | rfl
  all_goals decide

theorem startsType_of_mem_behindName {c : Char} (h : c ∈ behindName) : startsType c = false := by
  rcases behindName_cases h with rfl | rfl | rfl | rfl | rfl
  all_goals decide

/-- What may stand behind a part: nothing that could be taken for more of it. A type with its own
mark is over whatever follows. -/
def Part.EndsBefore : Part → List Char → Prop
  | .type true, _ => True
  | .core false, s => Before behindCore s
  | .type false, s | .core true, s | .padded, s | .argument, s => Before behindType s

/-- A reader that finds every type written in at most `bound` characters, and
refuses what begins none. -/
structure ReadsTypes (inner : Reader TypeRef) (bound : Nat) : Prop where
  reads {marked : Bool} {s rest : List Char} {t : TypeRef} : Written (.type marked) s t rest →
    s.length ≤ bound → (Part.type marked).EndsBefore rest → inner s = some (t, rest)
  refuses {s : List Char} : (∀ c more, s = c :: more → startsType c = false) → inner s = none

theorem endsBefore_type {s : List Char} (marked : Bool) (h : Before behindType s) :
    (Part.type marked).EndsBefore s := by
  cases marked with
  | true => trivial
  | false => exact h

theorem endsBefore_core {s : List Char} (yields : Bool) (h : Before behindType s) :
    (Part.core yields).EndsBefore s := by
  cases yields with
  | true => exact h
  | false => exact h.mono behindType_subset

theorem endsName_of_blank {c : Char} (s : List Char) (h : isBlank c = true) :
    EndsName (c :: s) := by
  intro d more hd
  rw [← (List.cons.inj hd).1]
  rcases isBlank_cases h with rfl | rfl | rfl | rfl
  all_goals decide

theorem endsName_of_before {s : List Char} (h : Before behindName s) : EndsName s := by
  rintro c more rfl
  rcases h.next with hblank | hc
  · exact endsName_of_blank more hblank c more rfl
  · rcases behindName_cases hc with rfl | rfl | rfl | rfl | rfl
    all_goals decide

/-! ### Keywords -/

theorem readVariance_keyword (variance : Variance) (rest : List Char) :
    readVariance (variance.keyword.toList ++ rest) = some (variance, rest) := by
  cases variance with
  | input => rfl
  | output => rfl

theorem isIdentifier_keyword (variance : Variance) :
    isIdentifier variance.keyword = true ∧ startsWithCapital variance.keyword = false := by
  cases variance with
  | input => decide
  | output => decide

theorem keyword_head (variance : Variance) :
    ∃ c more, variance.keyword.toList = c :: more ∧ isIdentifierStart c = true := by
  obtain ⟨c, more, hkeyword, hc, _⟩ := isIdentifier_iff.mp (isIdentifier_keyword variance).1
  exact ⟨c, more, hkeyword, hc⟩

/-- A type that begins with a letter begins with a name, behind which
nothing begins another type. -/
theorem Written.name_of_core {yields : Bool} {s rest : List Char} {t : TypeRef} {c : Char}
    {more : List Char} (h : Written (.core yields) s t rest)
    (hend : (Part.core yields).EndsBefore rest) (hs : s = c :: more)
    (hc : isIdentifierStart c = true) : ∃ name s₁, NameAt s name s₁ ∧ Before behindName s₁ := by
  have hparenthesis : ∀ {s₁ : List Char}, '(' :: s₁ = c :: more → False := by
    intro s₁ heq
    rw [← (List.cons.inj heq).1] at hc
    exact absurd hc (by decide)
  cases h with
  | nullary _ _ => exact (hparenthesis hs).elim
  | function _ _ _ => exact (hparenthesis hs).elim
  | grouped _ => exact (hparenthesis hs).elim
  | named hname => exact ⟨_, _, hname, hend.mono behindCore_subset⟩
  | applied hname hopen _ => exact ⟨_, _, hname, hopen.before (by decide) List.mem_cons_self⟩

theorem Written.name_of_type {marked : Bool} {s rest : List Char} {t : TypeRef} {c : Char}
    {more : List Char} (h : Written (.type marked) s t rest)
    (hend : (Part.type marked).EndsBefore rest) (hs : s = c :: more)
    (hc : isIdentifierStart c = true) : ∃ name s₁, NameAt s name s₁ ∧ Before behindName s₁ := by
  cases h with
  | unmarked hcore => exact hcore.name_of_core (endsBefore_core _ hend) hs hc
  | marked hcore hmark =>
      exact hcore.name_of_core (hmark.before (by decide) List.mem_cons_self) hs hc

section Complete

variable {inner : Reader TypeRef} {bound : Nat} {s rest : List Char} {t : TypeRef}

/--
**A type is no projection.**

Where it begins with the keyword of one and a blank, the keyword is all of the name it begins with,
and behind a name no other type can begin.
-/
theorem readProjection_eq_none {marked : Bool} (hinner : ReadsTypes inner bound)
    (h : Written (.type marked) s t rest) (hend : (Part.type marked).EndsBefore rest) :
    readProjection inner s = none := by
  rw [readProjection]
  split
  · rename_i variance c s₁ hvariance
    split
    · rename_i hblank
      have hs := readVariance_eq hvariance
      obtain ⟨d, more, hkeyword, hd⟩ := keyword_head variance
      have hcons : s = d :: (more ++ c :: s₁) := by rw [hs, hkeyword, List.cons_append]
      obtain ⟨name, s₂, hname, hbehind⟩ := h.name_of_type hend hcons hd
      have hrow : Row '.' IdentifierAt s ([] ++ [variance.keyword]) (c :: s₁) :=
        .last ⟨(isIdentifier_keyword variance).1, hs⟩
      have hkey : NameAt s ⟨"", [variance.keyword]⟩ (c :: s₁) :=
        .guessed hrow (.last (by simp) (isIdentifier_keyword variance).2)
      have hsame := (readClassName_of_nameAt hname (endsName_of_before hbehind)).symm.trans
        (readClassName_of_nameAt hkey (endsName_of_blank s₁ hblank))
      -- both names end at the blank, so the type would have to begin with what stands behind a name
      obtain ⟨_, rfl⟩ := Prod.mk.inj (Option.some.inj hsame)
      rw [hinner.refuses fun e _ heq => startsType_of_mem_behindName
        (hbehind e _ ((skipBlanks_cons_of_blank s₁ hblank).trans heq))]
    · rfl
  · rfl

/-! ### Parts with blanks around them -/

theorem readPadded_of_written (hinner : ReadsTypes inner bound) (h : Written .padded s t rest)
    (hle : s.length ≤ bound) (hend : Before behindType rest) :
    readPadded inner s = some (t, skipBlanks rest) := by
  cases h with
  | padded hbefore hwritten hbehind =>
      have hless := hbefore.length_le
      rw [readPadded, hwritten.skip hbefore,
        hinner.reads hwritten (by omega) (endsBefore_type _ (hend.of_blanks hbehind))]
      dsimp only
      rw [hbehind.skip]

/-- What may stand behind a type is left where it is. -/
theorem readPadded_upTo {c : Char} (hinner : ReadsTypes inner bound)
    (h : Written .padded s t (c :: rest)) (hle : s.length ≤ bound) (hc : c ∈ behindType) :
    readPadded inner s = some (t, c :: rest) := by
  have hblank := isBlank_of_mem_behindType hc
  rw [readPadded_of_written hinner h hle ((Blanks.refl _).before hblank hc),
    skipBlanks_cons_of_not_blank rest hblank]

theorem readArgument_of_projection {found : TypeRef × List Char}
    (h : readProjection inner s = some found) :
    readArgument inner s = some found := by
  unfold readArgument
  split
  · exact absurd h (by simp [readProjection, readVariance])
  · rw [h]

theorem readArgument_of_type (hne : ∀ more, s ≠ '*' :: more) (h : readProjection inner s = none) :
    readArgument inner s = inner s := by
  unfold readArgument
  split
  · exact absurd rfl (hne _)
  · rw [h]

theorem readArgument_of_written (hinner : ReadsTypes inner bound) (h : Written .argument s t rest)
    (hle : s.length ≤ bound) (hend : Before behindType rest) :
    readPadded (readArgument inner) s = some (t, skipBlanks rest) := by
  cases h with
  | star hbefore hbehind =>
      rw [readPadded, hbefore.skip_cons (by decide)]
      simp only [readArgument, hbehind.skip]
  | @projected marked _ s₁ s₂ s₃ _ variance c t hbefore hblank hblanks hwritten hbehind =>
      have hskip : skipBlanks s = variance.keyword.toList ++ c :: s₁ := by
        obtain ⟨d, more, hkeyword, hd⟩ := keyword_head variance
        rw [hkeyword, List.cons_append] at hbefore ⊢
        exact hbefore.skip_cons (isBlank_of_startsType (by rw [startsType, hd, Bool.or_true]))
      have hless₁ := hbefore.length_le
      have hless₂ := hblanks.length_le
      rw [List.length_append, List.length_cons] at hless₁
      have hread : readProjection inner (skipBlanks s) = some (.projected variance t, s₃) := by
        rw [hskip, readProjection, readVariance_keyword]
        dsimp only
        rw [if_pos hblank, hwritten.skip hblanks,
          hinner.reads hwritten (by omega) (endsBefore_type _ (hend.of_blanks hbehind))]
      rw [readPadded, readArgument_of_projection hread]
      dsimp only
      rw [hbehind.skip]
  | argument hpadded =>
      cases hpadded with
      | @padded marked _ s₁ s₂ _ _ hbefore hwritten hbehind =>
          have hends := endsBefore_type marked (hend.of_blanks hbehind)
          have hless := hbefore.length_le
          -- no type begins with a star, so this is not taken for one
          have hne : ∀ more, s₁ ≠ '*' :: more := by
            rintro more rfl
            obtain ⟨c, _, hs, hc⟩ := hwritten.head
            rw [← (List.cons.inj hs).1] at hc
            exact absurd hc (by decide)
          rw [readPadded, hwritten.skip hbefore,
            readArgument_of_type hne (readProjection_eq_none hinner hwritten hends),
            hinner.reads hwritten (by omega) hends]
          dsimp only
          rw [hbehind.skip]

theorem readArgument_upTo {c : Char} (hinner : ReadsTypes inner bound)
    (h : Written .argument s t (c :: rest)) (hle : s.length ≤ bound) (hc : c ∈ behindType) :
    readPadded (readArgument inner) s = some (t, c :: rest) := by
  have hblank := isBlank_of_mem_behindType hc
  rw [readArgument_of_written hinner h hle ((Blanks.refl _).before hblank hc),
    skipBlanks_cons_of_not_blank rest hblank]

/-! ### Classes -/

theorem readArguments_of_written {s₁ : List Char} {arguments : List TypeRef}
    (hinner : ReadsTypes inner bound) (hopen : Blanks s ('<' :: s₁))
    (hrow : Row ',' (Written .argument) s₁ arguments ('>' :: rest)) (hle : s₁.length ≤ bound) :
    readArguments inner s = some (arguments, rest) := by
  have hread : separatedBy ',' (readPadded (readArgument inner)) s₁
      = some (arguments, '>' :: rest) := by
    refine separatedBy_of_row hrow (fun _ _ _ h => h.length_lt) ?_ ?_ (Nat.le_refl _) (by simp)
    · exact fun t u t₁ ht hu => readArgument_upTo hinner hu (by omega) (by decide)
    · exact fun t u ht hu => readArgument_upTo hinner hu (by omega) (by decide)
  rw [readArguments, hopen.skip_cons (by decide)]
  simp only [hread]

theorem readArguments_eq_none (hend : Before behindCore s) : readArguments inner s = none := by
  rw [readArguments]
  split
  · rename_i hopen
    exact absurd (hend _ _ hopen) (by decide)
  · rfl

/-! ### Functions and parentheses -/

theorem readResult_of_written {marked : Bool} {s₁ : List Char} {result : TypeRef}
    (parameters : List TypeRef) (hinner : ReadsTypes inner bound) (harrow : Arrow s s₁)
    (hresult : Written (.type marked) s₁ result rest) (hle : s.length ≤ bound)
    (hend : (Part.type marked).EndsBefore rest) :
    readResult inner parameters s = some (.function parameters result, rest) := by
  have hless := harrow.length_lt
  obtain ⟨s₂, s₃, hclose, hpoint, hblanks⟩ := harrow
  have hread : inner (skipBlanks s₃) = some (result, rest) := by
    rw [hresult.skip hblanks]
    exact hinner.reads hresult (by omega) hend
  simp only [readResult, hclose.skip_cons (by decide), hpoint.skip_cons (by decide), hread]

/-- Without an arrow parentheses only group. -/
theorem readResult_eq_none (parameters : List TypeRef) (hend : Before behindCore rest) :
    readResult inner parameters (')' :: rest) = none := by
  have hclose : skipBlanks (')' :: rest) = ')' :: rest :=
    skipBlanks_cons_of_not_blank rest (by decide)
  simp only [readResult, hclose]
  split
  · rename_i harrow
    exact absurd (hend _ _ harrow) (by decide)
  · rfl

theorem readParenthesised_nullary {marked : Bool} {s₁ : List Char} {result : TypeRef}
    (hinner : ReadsTypes inner bound) (harrow : Arrow s s₁)
    (hresult : Written (.type marked) s₁ result rest) (hle : s.length ≤ bound)
    (hend : (Part.type marked).EndsBefore rest) :
    readParenthesised inner s = some (.function [] result, rest) := by
  have hnone : readPadded inner s = none := by
    obtain ⟨s₂, _, hclose, _⟩ := harrow
    rw [readPadded, hclose.skip_cons (by decide), hinner.refuses]
    intro c _ hc
    rw [← (List.cons.inj hc).1]
    decide
  rw [readParenthesised, hnone]
  exact readResult_of_written [] hinner harrow hresult hle hend

theorem readParenthesised_function {marked : Bool} {s₁ s₂ : List Char} {parameters : List TypeRef}
    {result : TypeRef} (hinner : ReadsTypes inner bound)
    (hrow : Row ',' (Written .padded) s parameters s₁) (harrow : Arrow s₁ s₂)
    (hresult : Written (.type marked) s₂ result rest) (hle : s.length ≤ bound)
    (hend : (Part.type marked).EndsBefore rest) :
    readParenthesised inner s = some (.function parameters result, rest) := by
  have hless := paddedRow_length_lt hrow
  obtain ⟨first, others, rfl⟩ := List.exists_cons_of_ne_nil hrow.ne_nil
  obtain ⟨s₃, s₄, hclose, hpoint, hblanks⟩ := harrow
  have hclosed : skipBlanks s₁ = ')' :: s₃ := hclose.skip_cons (by decide)
  have hmore : ∀ t u t₁, t.length ≤ s.length → Written .padded t u (',' :: t₁) →
      readPadded inner t = some (u, ',' :: t₁) :=
    fun t u t₁ ht hu => readPadded_upTo hinner hu (by omega) (by decide)
  -- the last parameter is read as far as the parenthesis that closes them
  have hlast : ∀ t u, t.length ≤ s.length → Written .padded t u s₁ →
      readPadded inner t = some (u, ')' :: s₃) := by
    intro t u ht hu
    rw [readPadded_of_written hinner hu (by omega) (hclose.before (by decide) (by decide)), hclosed]
  obtain ⟨s₅, hfirst, _, hothers⟩ :=
    exists_furtherItems_of_row hrow (fun _ _ _ h => h.length_lt) hmore hlast
      hclose.length_le (by simp)
  have hread := readResult_of_written (first :: others) hinner
    ⟨s₃, s₄, Blanks.refl _, hpoint, hblanks⟩ hresult (by have := hclose.length_le; omega) hend
  simp only [readParenthesised, hfirst, hothers _ (Nat.le_refl _), hread]

theorem readParenthesised_grouped (hinner : ReadsTypes inner bound)
    (h : Written .padded s t (')' :: rest)) (hle : s.length ≤ bound)
    (hend : Before behindCore rest) :
    readParenthesised inner s = some (t, rest) := by
  have hread := readPadded_upTo hinner h hle (by decide)
  have hothers : furtherItems (readPadded inner) ',' (')' :: rest).length (')' :: rest)
      = ([], ')' :: rest) :=
    furtherItems_of_ne _ (by simp)
  simp only [readParenthesised, hread, hothers, readResult_eq_none _ hend]

/-! ### Up to a question mark, and with it -/

theorem readCore_of_name {name : ClassName} {s₁ : List Char} (h : NameAt s name s₁) :
    readCore inner s = readNamed inner s := by
  unfold readCore
  split
  · obtain ⟨c, _, hs, hc⟩ := h.head
    rw [← (List.cons.inj hs).1] at hc
    exact absurd hc (by decide)
  · rfl

theorem readCore_of_written {yields : Bool} (hinner : ReadsTypes inner bound)
    (h : Written (.core yields) s t rest) (hle : s.length ≤ bound + 1)
    (hend : (Part.core yields).EndsBefore rest) : readCore inner s = some (t, rest) := by
  -- what may stand behind a function may stand behind its result
  have hresult : ∀ marked : Bool, (Part.core (!marked)).EndsBefore rest →
      (Part.type marked).EndsBefore rest := by
    intro marked h
    cases marked with
    | true => trivial
    | false => exact h
  cases h with
  | nullary harrow hwritten =>
      rw [List.length_cons] at hle
      rw [readCore]
      exact readParenthesised_nullary hinner harrow hwritten (by omega) (hresult _ hend)
  | function hrow harrow hwritten =>
      rw [List.length_cons] at hle
      rw [readCore]
      exact readParenthesised_function hinner hrow harrow hwritten (by omega) (hresult _ hend)
  | grouped hwritten =>
      rw [List.length_cons] at hle
      rw [readCore]
      exact readParenthesised_grouped hinner hwritten (by omega) hend
  | named hname =>
      rw [readCore_of_name hname, readNamed,
        readClassName_of_nameAt hname (endsName_of_before (hend.mono behindCore_subset))]
      simp only [readArguments_eq_none hend]
  | applied hname hopen hrow =>
      have hless₁ := hname.length_lt
      have hless₂ := hopen.length_le
      rw [List.length_cons] at hless₂
      rw [readCore_of_name hname, readNamed,
        readClassName_of_nameAt hname
          (endsName_of_before (hopen.before (by decide) List.mem_cons_self))]
      simp only [readArguments_of_written hinner hopen hrow (by omega)]

end Complete

/-- A type takes a question mark of its own, and leaves others. -/
theorem readNested_of_written {depth : Nat} {marked : Bool} {s rest : List Char} {t : TypeRef}
    (hinner : ReadsTypes (readNested depth) depth) (h : Written (.type marked) s t rest)
    (hle : s.length ≤ depth + 1) (hend : (Part.type marked).EndsBefore rest) :
    readNested (depth + 1) s = some (t, rest) := by
  cases h with
  | unmarked hcore =>
      rw [readNested, readCore_of_written hinner hcore hle (endsBefore_core _ hend)]
      dsimp only
      split
      · -- a question mark is not among what may stand behind a type that has none
        rename_i hquestion
        exact absurd (hend _ _ hquestion) (by decide)
      · rfl
  | marked hcore hmark =>
      rw [readNested,
        readCore_of_written hinner hcore hle (hmark.before (by decide) List.mem_cons_self)]
      simp only [hmark.skip_cons (c := '?') (by decide)]

theorem readNested_eq_none {depth : Nat} {s : List Char}
    (h : ∀ c more, s = c :: more → startsType c = false) : readNested depth s = none := by
  cases depth with
  | zero => rfl
  | succ depth =>
      have hname : readClassName s = none :=
        readClassName_eq_none fun c more hs => (Bool.or_eq_false_iff.mp (h c more hs)).2
      have hcore : readCore (readNested depth) s = none := by
        unfold readCore
        split
        · exact absurd (h _ _ rfl) (by decide)
        · rw [readNamed, hname]
      rw [readNested, hcore]

/-- **What is written is found**, if it is no longer than the nesting that is allowed for. -/
theorem readsTypes_readNested (depth : Nat) : ReadsTypes (readNested depth) depth := by
  induction depth with
  | zero =>
      refine ⟨fun h hle _ => ?_, readNested_eq_none⟩
      have hless := h.length_lt
      omega
  | succ depth ih => exact ⟨readNested_of_written ih, readNested_eq_none⟩

/-! ## Whole texts -/

theorem writes_of_read {text : String} {t : TypeRef} (h : read text = .ok t) : Writes text t := by
  rw [read, Reader.readAll] at h
  split at h
  · exact absurd h (by simp)
  · rename_i t' rest hread
    split at h
    · rename_i hrest
      obtain rfl := Except.ok.inj h
      obtain ⟨marked, hwritten, _⟩ := findsTypes_readNested _ _ _ _ hread
      have hbehind := blanks_skipBlanks rest
      rw [hrest] at hbehind
      exact .padded (blanks_skipBlanks _) hwritten hbehind
    · exact absurd h (by simp)

theorem read_of_writes {text : String} {t : TypeRef} (h : Writes text t) : read text = .ok t := by
  cases h with
  | padded hbefore hwritten hbehind =>
      have hread : reader (skipBlanks text.toList) = some (t, _) :=
        (readsTypes_readNested _).reads (hwritten.skip hbefore ▸ hwritten) (Nat.le_succ _)
          (endsBefore_type _ (before_of_blanks_nil hbehind))
      rw [read, Reader.readAll, hread]
      simp only [hbehind.skip]
      rfl

/-- **The reader accepts exactly the grammar**: a text is read as a type just
if it writes that type. -/
theorem read_eq_ok_iff (text : String) (t : TypeRef) : read text = .ok t ↔ Writes text t :=
  ⟨writes_of_read, read_of_writes⟩

/-- The grammar is unambiguous. -/
theorem Writes.unique {text : String} {t u : TypeRef} (ht : Writes text t)
    (hu : Writes text u) : t = u :=
  Except.ok.inj ((read_of_writes ht).symm.trans (read_of_writes hu))

end WrapperGen.TypeRef
