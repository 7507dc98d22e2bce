import WrapperGen.Json.Scan
import WrapperGen.Text.Reader

/-!
# Quoted text in settings

Settings files and environment variables write text between double quotes on one line, with the same
escapes. Escaped code points have to be characters.
-/

namespace WrapperGen.Quoted

open Text (Reader)

/-- The character of so many hexadecimal digits. -/
def readCode (count : Nat) : Reader Char := fun s => do
  let digits ← (s.take count).mapM Json.hexValue?
  let code := digits.foldl (fun n d => n * 16 + d) 0
  if digits.length = count ∧ code.isValidChar then some (Char.ofNat code, s.drop count) else none

/-- What an escape stands for, behind its backslash. -/
def readEscape : Reader Char
  | 'b' :: rest => some ('\x08', rest)
  | 't' :: rest => some ('\t', rest)
  | 'n' :: rest => some ('\n', rest)
  | 'f' :: rest => some ('\x0c', rest)
  | 'r' :: rest => some ('\r', rest)
  | '"' :: rest => some ('"', rest)
  | '\\' :: rest => some ('\\', rest)
  | 'u' :: rest => readCode 4 rest
  | 'U' :: rest => readCode 8 rest
  | _ => none

/-- Whether a character may stand in text as it is: no control character but the tab may. -/
def isTextCharacter (c : Char) : Bool := c == '\t' || (0x20 ≤ c.toNat && c.toNat != 0x7F)

/-- The characters up to the closing quote. -/
def readCharacters : Nat → Reader (List Char)
  | 0, _ => none
  | _, [] => none
  | _, '"' :: rest => some ([], rest)
  | bound + 1, '\\' :: rest => do
    let (c, rest) ← readEscape rest
    let (cs, rest) ← readCharacters bound rest
    return (c :: cs, rest)
  | bound + 1, c :: rest => do
    if !isTextCharacter c then none
    let (cs, rest) ← readCharacters bound rest
    return (c :: cs, rest)

/-- Reads quoted text behind its opening quote. -/
def read : Reader String := fun s =>
  (readCharacters s.length.succ s).map fun (cs, rest) => (String.ofList cs, rest)

end WrapperGen.Quoted
