import WrapperGen.Decimal.Binary64

/-!
# What a JSON number denotes

A number without point and exponent is an integer as long as it fits into 64 bits, signed when it is
negative; minus zero does not count as one. Everything else is a floating-point number. Its digits
are gathered while they fit into 64 bits, later ones only shift the point, and the power of ten is
applied in steps that the format can hold.
-/

namespace WrapperGen.Json

/-- A number as it is written: its digits before the point, after it, and in the exponent. -/
structure Number where
  negative : Bool
  whole : List Nat
  fraction : Option (List Nat)
  exponent : Option (Bool × List Nat)
deriving DecidableEq, Repr

/-- What a number denotes. -/
inductive Number.Meaning where
  | integer (i : Int)
  | real (negative : Bool) (magnitude : Binary64)
  | outOfRange
deriving DecidableEq, Repr

namespace Number

/-- The value of a row of decimal digits. -/
def ofDigits (digits : List Nat) : Nat :=
  digits.foldl (fun n d => n * 10 + d) 0

/-- Gathers digits as long as the number stays below 2^64; also says how many are left over. -/
def gather (n : Nat) : List Nat → Nat × Nat
  | [] => (n, 0)
  | d :: digits =>
      if n * 10 + d < UInt64.size then gather (n * 10 + d) digits else (n, (d :: digits).length)

/-- The number divided by the largest power of ten of the format. -/
def lowered (x : Binary64) : Option Binary64 :=
  match Binary64.powerOfTen? 308 with
  | some power => x.div? power
  | none => none

/-- Applies a power of ten, in steps that the format can hold. Two steps downwards turn any
significand of 64 bits into zero, so `steps` is never used up by one. -/
def applyExponent : Nat → Binary64 → Int → Option Binary64
  | 0, x, _ => some x
  | steps + 1, x, exponent =>
    if -308 ≤ exponent ∧ exponent ≤ 308 then
      match Binary64.powerOfTen? exponent.natAbs with
      | none => none
      | some power => if 0 ≤ exponent then x.mul? power else x.div? power
    else if x.mantissa = 0 then some x
    else if 0 < exponent then none
    else match lowered x with
      | none => none
      | some x => applyExponent steps x (exponent + 308)

/-- The floating-point number that is written, or nothing when it is too large. -/
def magnitude? (n : Number) : Option Binary64 :=
  let (significand, dropped) := gather 0 n.whole
  let (significand, shift) := match n.fraction with
    | none => (significand, (dropped : Int))
    | some digits =>
      let (significand, unread) := gather significand digits
      (significand, (dropped : Int) - (digits.length - unread))
  let power : Int := match n.exponent with
    | none => 0
    | some (negative, digits) => if negative then -(ofDigits digits : Int) else ofDigits digits
  (Binary64.ofRatio? significand 1).bind fun x => applyExponent 4 x (shift + power)

/-- The integer that is written, if the number is one. -/
def integer? (n : Number) : Option Int :=
  if n.fraction.isSome || n.exponent.isSome then none
  else
    let value := ofDigits n.whole
    if n.negative then
      if 0 < value ∧ value ≤ UInt64.size / 2 then some (-(value : Int)) else none
    else if value < UInt64.size then some value else none

/-- What the number denotes. -/
def meaning (n : Number) : Meaning :=
  match n.integer? with
  | some i => .integer i
  | none =>
    match n.magnitude? with
    | some x => .real n.negative x
    | none => .outOfRange

end Number

end WrapperGen.Json
