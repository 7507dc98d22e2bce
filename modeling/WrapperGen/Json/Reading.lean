import WrapperGen.Json
import WrapperGen.Json.Number

/-!
# What has been read of a JSON text

A faulty text is reported by its first fault in reading order, and a member of the wrong type
counts as a fault like a missing comma does. So a text is first read into a tree that is broken off
where it stops being JSON; whoever decodes the tree walks it in the same order and meets either a
mismatch or the break.

Members that nobody asks for are skipped by a more lenient reading: a lone half of a surrogate
pair, a number out of range or deep nesting is no fault there. Where the two readings differ, the
tree holds both outcomes.
-/

namespace WrapperGen.Json

/-- Why a text is not JSON: it ended too early, or something stands where it must not. -/
inductive Fault where
  | ended
  | malformed
deriving DecidableEq, Repr

/-- How a sequence of elements ends. -/
inductive Ending where
  | closed
  | cut (fault : Fault)
deriving DecidableEq, Repr

/-- What stands where an object needs a key: a string, with the outcome for a reader who wants its
text, or nothing of the kind. -/
inductive Key where
  | string (wanted : Except Fault String)
  | broken (skipped wanted : Fault)

/-- What has been read of a value. -/
inductive Reading where
  /-- No value can be read. The faults are those of skipping it, of wanting it, and of wanting a
  word, which only a quote or a brace can begin. -/
  | broken (skipped wanted word : Fault)
  | null
  | bool (b : Bool)
  | number (n : Number)
  /-- A string, with the outcome for a reader who wants its text. -/
  | string (wanted : Except Fault String)
  | array (items : List Reading) (ending : Ending)
  | object (members : List (Key × Reading)) (ending : Ending)

/-- The digits of an integer as it is written. -/
def Number.ofInt (i : Int) : Number where
  negative := i < 0
  whole := (Nat.toDigits 10 i.natAbs).map (·.toNat - 48)
  fraction := none
  exponent := none

/-- The fault at the end of a sequence, if it does not close. -/
def Ending.check : Ending → Except Fault Unit
  | .closed => .ok ()
  | .cut fault => .error fault

namespace Reading

mutual

/-- The reading of a text that holds this value and nothing is wrong with. -/
def ofJson : Json → Reading
  | .null => null
  | .bool b => bool b
  | .integer i => number (Number.ofInt i)
  | .string s => string (.ok s)
  | .array items => array (ofItems items) .closed
  | .object members => object (ofMembers members) .closed

/-- The readings of array elements. -/
def ofItems : List Json → List Reading
  | [] => []
  | item :: items => ofJson item :: ofItems items

/-- The readings of object members. -/
def ofMembers : List (String × Json) → List (Key × Reading)
  | [] => []
  | (key, value) :: members => (.string (.ok key), ofJson value) :: ofMembers members

end

/-! ## Skipping -/

mutual

/-- Passes over a value that nobody asks for. -/
def skip : Reading → Except Fault Unit
  | broken skipped _ _ => .error skipped
  | array items ending => do skipItems items; ending.check
  | object members ending => do skipMembers members; ending.check
  | null | bool _ | number _ | string _ => .ok ()

/-- Passes over array elements. -/
def skipItems : List Reading → Except Fault Unit
  | [] => .ok ()
  | item :: items => do item.skip; skipItems items

/-- Passes over object members. -/
def skipMembers : List (Key × Reading) → Except Fault Unit
  | [] => .ok ()
  | (.broken skipped _, _) :: _ => .error skipped
  | (.string _, value) :: members => do value.skip; skipMembers members

end

end Reading

end WrapperGen.Json
