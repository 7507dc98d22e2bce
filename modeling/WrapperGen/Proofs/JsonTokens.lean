import Mathlib.Tactic.SplitIfs
import WrapperGen.Json.Scan

/-!
# Strings and integers that are read back

The writer escapes few characters and writes integers without leading zeros. What it writes is read
as what was written, whatever stands behind it; behind an integer there must be nothing that could
belong to a number (`EndsNumber`).
-/

namespace WrapperGen.Json

/-! ## Strings -/

/-- The piece that is read stands for the character. -/
def Piece.StandsFor (piece : Piece) (c : Char) : Prop :=
  ∀ more, textOfPieces (piece :: more) = (c :: ·) <$> textOfPieces more

theorem pieces_plain {c : Char} (hquote : c ≠ '"') (hslash : c ≠ '\\') (hprint : ¬ c.toNat < 0x20)
    (rest : List Char) : pieces (c :: rest) = (.char c :: (pieces rest).1, (pieces rest).2) := by
  rw [pieces, if_neg hprint]
  · exact hquote
  · exact fun _ _ _ _ _ heq => absurd heq hslash
  · exact fun _ heq => absurd heq hslash
  · exact fun _ _ heq => absurd heq hslash
  · exact fun heq => absurd heq hslash

theorem pieces_letter {letter c : Char} (h : escapeLetter? letter = some c) (rest : List Char) :
    pieces ('\\' :: letter :: rest) = (.char c :: (pieces rest).1, (pieces rest).2) := by
  have hu : letter ≠ 'u' := by
    rintro rfl
    exact absurd h (by simp [escapeLetter?])
  rw [pieces, h]
  · exact fun _ _ _ _ _ heq => absurd heq hu
  · exact hu

theorem pieces_code {a b c d : Char} {n : Nat} (h : unitOf? a b c d = some n) (rest : List Char) :
    pieces ('\\' :: 'u' :: a :: b :: c :: d :: rest)
      = (.unit n :: (pieces rest).1, (pieces rest).2) := by
  rw [pieces, h]

/-- The code of a control character in hexadecimal digits. -/
theorem unitOf?_codeEscape {c : Char} (h : c.toNat < 0x20) :
    unitOf? '0' '0' (Nat.digitChar (c.toNat / 16)) (Nat.digitChar (c.toNat % 16))
      = some c.toNat := by
  generalize c.toNat = n at h
  revert n
  decide

theorem standsFor_char (c : Char) : (Piece.char c).StandsFor c := fun _ => by rw [textOfPieces]

/-- Units below the surrogates stand for themselves. -/
theorem standsFor_unit {c : Char} (h : c.toNat < 0x20) : (Piece.unit c.toNat).StandsFor c := by
  intro more
  have htrailing : isTrailing c.toNat = false := by
    rw [isTrailing, Bool.and_eq_false_iff, decide_eq_false_iff_not]
    exact .inl (by omega)
  have hleading : isLeading c.toNat = false := by
    rw [isLeading, Bool.and_eq_false_iff, decide_eq_false_iff_not]
    exact .inl (by omega)
  rw [textOfPieces.eq_def]
  simp only [htrailing, hleading, Char.ofNat_toNat]
  rfl

/-- An escaped character is read as one piece, which stands for the character. -/
theorem pieces_escaped (c : Char) : ∃ piece : Piece, piece.StandsFor c
    ∧ ∀ rest, pieces (escaped c ++ rest) = (piece :: (pieces rest).1, (pieces rest).2) := by
  have hletter : ∀ {letter : Char}, escapeLetter? letter = some c →
      ∃ piece : Piece, piece.StandsFor c
      ∧ ∀ rest, pieces (['\\', letter] ++ rest) = (piece :: (pieces rest).1, (pieces rest).2) :=
    fun h => ⟨.char c, standsFor_char c, pieces_letter h⟩
  unfold escaped
  -- the cases are those of the writer, in its order
  split_ifs with hquote hslash hprint hback hform hline hreturn htab
  · exact hletter (by rw [hquote]; rfl)
  · exact hletter (by rw [hslash]; rfl)
  · exact ⟨.char c, standsFor_char c, pieces_plain hquote hslash (by omega)⟩
  · exact hletter (by rw [hback]; rfl)
  · exact hletter (by rw [hform]; rfl)
  · exact hletter (by rw [hline]; rfl)
  · exact hletter (by rw [hreturn]; rfl)
  · exact hletter (by rw [htab]; rfl)
  · have hcode : c.toNat < 0x20 := by omega
    exact ⟨.unit c.toNat, standsFor_unit hcode, pieces_code (unitOf?_codeEscape hcode)⟩

theorem pieces_flatMap_escaped (s rest : List Char) :
    ∃ read, pieces (s.flatMap escaped ++ '"' :: rest) = (read, .ok rest)
      ∧ textOfPieces read = .ok s := by
  induction s with
  | nil => exact ⟨[], by rw [List.flatMap_nil, List.nil_append, pieces], by rw [textOfPieces]⟩
  | cons c s ih =>
    obtain ⟨read, hread, htext⟩ := ih
    obtain ⟨piece, hstands, hpiece⟩ := pieces_escaped c
    refine ⟨piece :: read, ?_, ?_⟩
    · rw [List.flatMap_cons, List.append_assoc, hpiece, hread]
    · rw [hstands, htext]
      rfl

/-- **A quoted string** is read up to its closing quote. -/
theorem pieces_quoted (s : String) (rest : List Char) :
    ∃ inside read, quoted s ++ rest = '"' :: inside ∧ pieces inside = (read, .ok rest)
      ∧ String.ofList <$> textOfPieces read = .ok s := by
  obtain ⟨read, hread, htext⟩ := pieces_flatMap_escaped s.toList rest
  refine ⟨_, read, ?_, hread, ?_⟩
  · rw [quoted, List.cons_append, List.append_assoc, List.singleton_append]
  · rw [htext]
    exact congrArg Except.ok String.ofList_toList

theorem scanScalar_quoted (s : String) (rest : List Char) :
    scanScalar (quoted s ++ rest) = (.string (.ok s), rest) := by
  obtain ⟨inside, read, hquoted, hread, htext⟩ := pieces_quoted s rest
  rw [hquoted, scanScalar, hread]
  simp only [htext]

theorem scanKey_quoted (s : String) (rest : List Char) :
    scanKey (quoted s ++ rest) = (.string (.ok s), some rest) := by
  obtain ⟨inside, read, hquoted, hread, htext⟩ := pieces_quoted s rest
  have hblank : Text.skipBlanks (quoted s ++ rest) = '"' :: inside := by
    rw [hquoted]
    rfl
  rw [scanKey, hblank]
  simp only [hread, htext]

/-! ## Integers -/

/-- Nothing in front could take part in a number. -/
def EndsNumber (rest : List Char) : Prop :=
  ∀ c more, rest = c :: more → c.isDigit = false ∧ c ≠ '.' ∧ c ≠ 'e' ∧ c ≠ 'E'

/-- The values of the digits of a number. -/
def digitValues (n : Nat) : List Nat := (Nat.toDigits 10 n).map digitValue

theorem isDigit_of_mem_toDigits {n : Nat} {c : Char} (h : c ∈ Nat.toDigits 10 n) :
    c.isDigit = true :=
  Nat.isDigit_of_mem_toDigits (by decide) (by decide) h

theorem digits_toDigits (n : Nat) {rest : List Char} (h : EndsNumber rest) :
    digits (Nat.toDigits 10 n ++ rest) = (digitValues n, rest) := by
  have htake : rest.takeWhile Char.isDigit = [] ∧ rest.dropWhile Char.isDigit = rest := by
    cases rest with
    | nil => exact ⟨rfl, rfl⟩
    | cons c more =>
      obtain ⟨hdigit, _⟩ := h c more rfl
      simp [hdigit]
  rw [digits, List.takeWhile_append_of_pos fun c hc => isDigit_of_mem_toDigits hc,
    List.dropWhile_append_of_pos fun c hc => isDigit_of_mem_toDigits hc, htake.1, htake.2,
    List.append_nil]
  rfl

/-- The digits of a positive number do not begin with a zero. -/
theorem head?_digitValues {n : Nat} (h : 0 < n) : (digitValues n).head? ≠ some 0 := by
  induction n using Nat.strongRecOn with
  | ind n ih =>
    unfold digitValues at ih ⊢
    rw [Nat.toDigits_eq_if (by decide)]
    split
    · rename_i hsmall
      rw [List.map_singleton, List.head?_singleton, digitValue,
        Nat.toNat_digitChar_sub_48_of_lt_ten hsmall]
      simp
      omega
    · -- the first digit is that of a tenth of the number
      have hfirst := ih (n / 10) (by omega) (by omega)
      have hsome : ((Nat.toDigits 10 (n / 10)).map digitValue).head?.isSome = true := by simp
      obtain ⟨d, hd⟩ := Option.isSome_iff_exists.mp hsome
      rw [hd] at hfirst
      rwa [List.map_append, List.head?_append, hd]

theorem digitValues_ne_leadingZero (n d : Nat) (more : List Nat) :
    digitValues n ≠ 0 :: d :: more := by
  intro h
  by_cases hn : 0 < n
  · exact head?_digitValues hn (by rw [h]; rfl)
  · obtain rfl : n = 0 := by omega
    simp [digitValues] at h

theorem scanExponent_of_endsNumber (n : Number) {rest : List Char} (h : EndsNumber rest) :
    scanExponent n rest = (.number n, rest) := by
  cases rest with
  | nil => rfl
  | cons c more =>
    obtain ⟨_, _, he, hE⟩ := h c more rfl
    simp [scanExponent, he, hE]

theorem scanFraction_of_endsNumber (n : Number) {rest : List Char} (h : EndsNumber rest) :
    scanFraction n rest = (.number n, rest) := by
  rw [scanFraction.eq_def]
  split
  · exact absurd rfl (h _ _ rfl).2.1
  · exact scanExponent_of_endsNumber n h

/-- **A natural number** behind a sign is read up to what ends it. -/
theorem scanNumber_toDigits (negative : Bool) (n : Nat) {rest : List Char} (h : EndsNumber rest) :
    scanNumber negative (Nat.toDigits 10 n ++ rest)
      = (.number ⟨negative, digitValues n, none, none⟩, rest) := by
  unfold scanNumber
  rw [digits_toDigits n h]
  split
  · rename_i heq
    have hempty : digitValues n = [] := congrArg Prod.fst heq
    exact absurd hempty (by simp [digitValues])
  · rename_i heq
    exact absurd (congrArg Prod.fst heq) (digitValues_ne_leadingZero n _ _)
  · rename_i heq
    obtain ⟨rfl, rfl⟩ := Prod.mk.inj heq
    exact scanFraction_of_endsNumber _ h

theorem scanScalar_of_isDigit {c : Char} (h : c.isDigit = true) (rest : List Char) :
    scanScalar (c :: rest) = scanNumber false (c :: rest) := by
  rw [scanScalar, if_pos h]
  all_goals
    rintro rfl
    exact absurd h (by decide)

/-- **An integer** is read up to what ends it. -/
theorem scanScalar_integer (i : Int) {rest : List Char} (h : EndsNumber rest) :
    scanScalar ((toString i).toList ++ rest) = (.number (Number.ofInt i), rest) := by
  cases i with
  | ofNat n =>
    have htext : (toString (Int.ofNat n)).toList = Nat.toDigits 10 n := Nat.toList_repr
    obtain ⟨c, cs, hcs⟩ := List.exists_cons_of_ne_nil (Nat.toDigits_ne_nil (n := n) (b := 10))
    have hdigit : c.isDigit = true :=
      isDigit_of_mem_toDigits (n := n) (by rw [hcs]; exact List.mem_cons_self)
    rw [htext, hcs, List.cons_append, scanScalar_of_isDigit hdigit, ← List.cons_append, ← hcs,
      scanNumber_toDigits false n h]
    rfl
  | negSucc n =>
    have htext : (toString (Int.negSucc n)).toList = '-' :: Nat.toDigits 10 (n + 1) := by
      change ("-" ++ (n + 1).repr).toList = _
      rw [String.toList_append, Nat.toList_repr]
      rfl
    have hnegative : decide (Int.negSucc n < 0) = true := decide_eq_true (Int.negSucc_lt_zero n)
    rw [htext, List.cons_append, scanScalar, scanNumber_toDigits true (n + 1) h,
      Number.ofInt, hnegative]
    rfl

end WrapperGen.Json
