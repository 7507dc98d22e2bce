/-!
# Floating-point numbers in exact arithmetic

A finite non-negative number of the 64-bit binary format is a mantissa below 2^53 times a power of
two no smaller than 2^-1074. Rounding, products and quotients are computed on natural numbers, so
that which number a text denotes, and whether it is too large for the format, are facts that can
be evaluated and proved.
-/

namespace WrapperGen

/-- The number `mantissa * 2 ^ exponent`. -/
structure Binary64 where
  mantissa : Nat
  exponent : Int
deriving DecidableEq, Repr

namespace Binary64

/-- The least mantissa of 53 bits, 2^52. Only numbers close to zero have a smaller one. -/
def hiddenBit : Nat := 0x10000000000000

/-- The number as a ratio of natural numbers. -/
def ratio (x : Binary64) : Nat × Nat :=
  if 0 ≤ x.exponent then (x.mantissa * Nat.pow 2 x.exponent.toNat, 1)
  else (x.mantissa, Nat.pow 2 (-x.exponent).toNat)

/-- `num / den` to the nearest natural number, a half to the even one. -/
def roundHalfEven (num den : Nat) : Nat :=
  let q := num / den
  let twice := 2 * (num % den)
  if den < twice || (twice == den && q % 2 == 1) then q + 1 else q

/-- The exponent that gives `num / den` a mantissa of 53 bits, or the least
exponent of the format. -/
def exponentOf (num den : Nat) : Int :=
  let e : Int := num.log2 - den.log2 - 53
  let fits := if 0 ≤ e then num < den * Nat.pow 2 e.toNat * (2 * hiddenBit)
    else num * Nat.pow 2 (-e).toNat < den * (2 * hiddenBit)
  max (if fits then e else e + 1) (-1074)

/-- The number nearest to `num / den`, or nothing when that is beyond the format. -/
def ofRatio? (num den : Nat) : Option Binary64 :=
  if num = 0 then some ⟨0, 0⟩
  else
    let e := exponentOf num den
    let m :=
      if 0 ≤ e then roundHalfEven num (den * Nat.pow 2 e.toNat)
      else roundHalfEven (num * Nat.pow 2 (-e).toNat) den
    let (m, e) := if m = 2 * hiddenBit then (hiddenBit, e + 1) else (m, e)
    if 971 < e then none else some ⟨m, e⟩

/-- The rounded product. -/
def mul? (x y : Binary64) : Option Binary64 :=
  ofRatio? (x.ratio.1 * y.ratio.1) (x.ratio.2 * y.ratio.2)

/-- The rounded quotient. -/
def div? (x y : Binary64) : Option Binary64 :=
  ofRatio? (x.ratio.1 * y.ratio.2) (x.ratio.2 * y.ratio.1)

/-- The number nearest to a power of ten. -/
def powerOfTen? (n : Nat) : Option Binary64 :=
  ofRatio? (Nat.pow 10 n) 1

/-- Whether `digits * 10 ^ power` rounds to a number of the format. Where the first digit stands
settles this for very large and very small numbers, so no great power is computed. -/
def holdsDecimal (digits : Nat) (power : Int) : Bool :=
  let places := (Nat.toDigits 10 digits).length + power
  if digits = 0 ∨ places < 0 then true
  else if 310 < places then false
  else if 0 ≤ power then (ofRatio? (digits * Nat.pow 10 power.toNat) 1).isSome
  else (ofRatio? digits (Nat.pow 10 (-power).toNat)).isSome

/-! ## The shortest decimal that reads back -/

/-- Half the distance from the number down to its lower neighbour, in quarters of the last place;
the neighbour below a power of two is nearer. -/
def halfGapBelow (x : Binary64) : Nat :=
  if x.mantissa = hiddenBit && -1074 < x.exponent then 1 else 2

/-- Whether the decimal `num / den` rounds to the number. -/
def readsBack (x : Binary64) (num den : Nat) : Bool :=
  let quarter : Binary64 := ⟨1, x.exponent - 2⟩
  let (qn, qd) := quarter.ratio
  let low := (4 * x.mantissa - x.halfGapBelow) * qn
  let high := (4 * x.mantissa + 2) * qn
  if x.mantissa % 2 = 0 then low * den ≤ num * qd && num * qd ≤ high * den
  else low * den < num * qd && num * qd < high * den

/-- The multiple of ten to the `scale` that is nearest to the number, if it reads back. -/
def onGrid? (x : Binary64) (scale : Int) : Option (Nat × Int) :=
  let (vn, vd) := x.ratio
  let (gn, gd) := if 0 ≤ scale then (Nat.pow 10 scale.toNat, 1) else (1, Nat.pow 10 (-scale).toNat)
  let below := vn * gd / (vd * gn)
  let fits := fun (n : Nat) => x.readsBack (n * gn) gd
  let belowNearer := 2 * (vn * gd) ≤ (2 * below + 1) * (vd * gn)
  if fits below && (belowNearer || !fits (below + 1)) then some (below, scale)
  else if fits (below + 1) then some (below + 1, scale)
  else none

/-- The first scale, from `scale` downwards, on whose grid a decimal reads back. -/
def shortestFrom (x : Binary64) : Nat → Int → Nat × Int
  | 0, scale => (x.mantissa, scale)
  | tries + 1, scale =>
    match x.onGrid? scale with
    | some found => found
    | none => shortestFrom x tries (scale - 1)

/-- Digits and power of ten of the shortest decimal that reads back as the number. -/
def shortest (x : Binary64) : Nat × Int :=
  if x.mantissa = 0 then (0, 0) else shortestFrom x 700 309

/-- The shortest decimal written out with all its places, and at least one
of them after the point. -/
def positional (x : Binary64) : String :=
  let (digits, scale) := x.shortest
  let written := Nat.toDigits 10 digits
  let (whole, fraction) :=
    if 0 ≤ scale then (written ++ List.replicate scale.toNat '0', ['0'])
    else
      let places := (-scale).toNat
      let padded := List.replicate (places + 1 - written.length) '0' ++ written
      (padded.take (padded.length - places), padded.drop (padded.length - places))
  String.ofList (if x.mantissa = 0 then ['0', '.', '0'] else whole ++ '.' :: fraction)

end Binary64

end WrapperGen
