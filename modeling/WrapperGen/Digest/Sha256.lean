/-!
# SHA-256

The digest that records keep of generated sources. A text is padded to blocks of 64 bytes, each
block is expanded to 64 words and mixed into eight words of state.
-/

namespace WrapperGen.Sha256

/-- The constants of the 64 rounds. -/
def roundConstants : List UInt32 := [
  0x428a2f98, 0x71374491, 0xb5c0fbcf, 0xe9b5dba5, 0x3956c25b, 0x59f111f1, 0x923f82a4, 0xab1c5ed5,
  0xd807aa98, 0x12835b01, 0x243185be, 0x550c7dc3, 0x72be5d74, 0x80deb1fe, 0x9bdc06a7, 0xc19bf174,
  0xe49b69c1, 0xefbe4786, 0x0fc19dc6, 0x240ca1cc, 0x2de92c6f, 0x4a7484aa, 0x5cb0a9dc, 0x76f988da,
  0x983e5152, 0xa831c66d, 0xb00327c8, 0xbf597fc7, 0xc6e00bf3, 0xd5a79147, 0x06ca6351, 0x14292967,
  0x27b70a85, 0x2e1b2138, 0x4d2c6dfc, 0x53380d13, 0x650a7354, 0x766a0abb, 0x81c2c92e, 0x92722c85,
  0xa2bfe8a1, 0xa81a664b, 0xc24b8b70, 0xc76c51a3, 0xd192e819, 0xd6990624, 0xf40e3585, 0x106aa070,
  0x19a4c116, 0x1e376c08, 0x2748774c, 0x34b0bcb5, 0x391c0cb3, 0x4ed8aa4a, 0x5b9cca4f, 0x682e6ff3,
  0x748f82ee, 0x78a5636f, 0x84c87814, 0x8cc70208, 0x90befffa, 0xa4506ceb, 0xbef9a3f7, 0xc67178f2]

/-- The eight words that mixing works on. -/
structure State where
  a : UInt32
  b : UInt32
  c : UInt32
  d : UInt32
  e : UInt32
  f : UInt32
  g : UInt32
  h : UInt32
deriving DecidableEq, Repr

namespace State

/-- The state before the first block. -/
def initial : State :=
  ⟨0x6a09e667, 0xbb67ae85, 0x3c6ef372, 0xa54ff53a, 0x510e527f, 0x9b05688c, 0x1f83d9ab, 0x5be0cd19⟩

/-- The states added word by word. -/
def add (x y : State) : State :=
  ⟨x.a + y.a, x.b + y.b, x.c + y.c, x.d + y.d, x.e + y.e, x.f + y.f, x.g + y.g, x.h + y.h⟩

/-- The words in order. -/
def toList (x : State) : List UInt32 := [x.a, x.b, x.c, x.d, x.e, x.f, x.g, x.h]

end State

/-- A word rotated to the right. -/
def rotated (n : UInt32) (x : UInt32) : UInt32 := (x >>> n) ||| (x <<< (32 - n))

/-- The next word of the expansion from the one 16, 15, 7 and 2 places back. -/
def expansion (w16 w15 w7 w2 : UInt32) : UInt32 :=
  let low := rotated 7 w15 ^^^ rotated 18 w15 ^^^ (w15 >>> 3)
  let high := rotated 17 w2 ^^^ rotated 19 w2 ^^^ (w2 >>> 10)
  w16 + low + w7 + high

/-- Appends words to the expansion of a block. -/
def expand : Nat → Array UInt32 → Array UInt32
  | 0, words => words
  | count + 1, words =>
    let n := words.size
    let word := expansion (words.getD (n - 16) 0) (words.getD (n - 15) 0) (words.getD (n - 7) 0)
      (words.getD (n - 2) 0)
    expand count (words.push word)

/-- One round. -/
def round (s : State) (constant word : UInt32) : State :=
  let choice := (s.e &&& s.f) ^^^ (~~~s.e &&& s.g)
  let majority := (s.a &&& s.b) ^^^ (s.a &&& s.c) ^^^ (s.b &&& s.c)
  let t := s.h + (rotated 6 s.e ^^^ rotated 11 s.e ^^^ rotated 25 s.e) + choice + constant + word
  let u := (rotated 2 s.a ^^^ rotated 13 s.a ^^^ rotated 22 s.a) + majority
  ⟨t + u, s.a, s.b, s.c, s.d + t, s.e, s.f, s.g⟩

/-- Mixes the sixteen words of a block into the state. -/
def mixBlock (s : State) (words : List UInt32) : State :=
  let expanded := (expand 48 words.toArray).toList
  s.add ((roundConstants.zip expanded).foldl (fun s (constant, word) => round s constant word) s)

/-- The word of four bytes, the first the most significant. -/
def wordOf (a b c d : UInt8) : UInt32 :=
  (a.toUInt32 <<< 24) ||| (b.toUInt32 <<< 16) ||| (c.toUInt32 <<< 8) ||| d.toUInt32

/-- The words of a row of bytes. -/
def wordsOf : List UInt8 → List UInt32
  | a :: b :: c :: d :: rest => wordOf a b c d :: wordsOf rest
  | _ => []

/-- The length of a message in bits, as eight bytes. -/
def lengthBytes (bytes : Nat) : List UInt8 :=
  (List.range 8).map fun i => ((8 * bytes) >>> (8 * (7 - i))).toUInt8

/-- A message with a single one, zeros and its length behind it, filling whole blocks. -/
def padded (message : List UInt8) : List UInt8 :=
  message ++ 0x80 :: (List.replicate ((119 - message.length % 64) % 64) 0
    ++ lengthBytes message.length)

/-- Mixes all blocks of a row of words into the state. -/
def mixAll : Nat → State → List UInt32 → State
  | 0, s, _ => s
  | blocks + 1, s, words => mixAll blocks (mixBlock s (words.take 16)) (words.drop 16)

/-- The digest of a message. -/
def digest (message : List UInt8) : State :=
  let words := wordsOf (padded message)
  mixAll (words.length / 16) State.initial words

/-- A word in eight hexadecimal digits. -/
def hexWord (w : UInt32) : List Char :=
  (List.range 8).map fun i => Nat.digitChar ((w.toNat >>> (4 * (7 - i))) % 16)

/-- The digest of a text, in small hexadecimal digits. -/
def hexDigest (text : String) : String :=
  String.ofList ((digest text.toUTF8.toList).toList.flatMap hexWord)

/-! ## The form of a digest -/

/-- Padding fills whole blocks. -/
theorem length_padded_mod (message : List UInt8) : (padded message).length % 64 = 0 := by
  have hlength : (lengthBytes message.length).length = 8 := by
    rw [lengthBytes, List.length_map, List.length_range]
  rw [padded, List.length_append, List.length_cons, List.length_append,
    List.length_replicate, hlength]
  omega

/-- The digits that digests are written in. -/
def hexDigits : List Char := "0123456789abcdef".toList

theorem digitChar_mem_hexDigits {n : Nat} (h : n < 16) : Nat.digitChar n ∈ hexDigits := by
  have hall : ∀ n : Fin 16, Nat.digitChar n ∈ hexDigits := by decide
  exact hall ⟨n, h⟩

theorem length_hexWord (w : UInt32) : (hexWord w).length = 8 := by
  rw [hexWord, List.length_map, List.length_range]

theorem mem_hexDigits_of_mem_hexWord {w : UInt32} {c : Char} (h : c ∈ hexWord w) :
    c ∈ hexDigits := by
  obtain ⟨i, _, rfl⟩ := List.mem_map.mp h
  exact digitChar_mem_hexDigits (Nat.mod_lt _ (by decide))

/-- **A digest is written in 64 small hexadecimal digits**, eight for each word. -/
theorem hexDigest_digits (text : String) :
    (hexDigest text).length = 64 ∧ ∀ c ∈ (hexDigest text).toList, c ∈ hexDigits := by
  rw [← String.length_toList, hexDigest, String.toList_ofList]
  constructor
  · rw [List.length_flatMap]
    simp only [length_hexWord]
    rfl
  · intro c hc
    obtain ⟨w, _, hw⟩ := List.mem_flatMap.mp hc
    exact mem_hexDigits_of_mem_hexWord hw

example : hexDigest "" = "e3b0c44298fc1c149afbf4c8996fb92427ae41e4649b934ca495991b7852b855" := by
  decide +kernel

end WrapperGen.Sha256
