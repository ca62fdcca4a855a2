import Gemtext.Number.Decimal

/-!
# Binary floating point numbers, exactly

A finite number of the binary64 format is kept as `(-1)^negative · mantissa · 2^exponent`, and
everything that is written about it is computed from that value in natural numbers.

* `ofRatio?` is the number nearest to a quotient, with ties to the even mantissa; a quotient that
  rounds beyond the largest number has none.
* `fixed` and `scientific` write the exact value, rounded once with ties to even, with a given
  number of places.
* `shortest` writes the fewest digits that read back as the same number.
-/

namespace Gemtext

/-- The quotient rounded to the nearest natural number, a tie going to the even one. -/
def roundDiv (num den : Nat) : Nat :=
  let q := num / den
  let r := num % den
  if den < 2 * r || (2 * r == den && q % 2 == 1) then q + 1 else q

/-- A finite binary64 number. -/
structure Binary64 where
  negative : Bool
  mantissa : Nat
  exponent : Int
  deriving DecidableEq, Repr

namespace Binary64

/-- The numerator of the magnitude as a quotient of natural numbers. -/
def num (x : Binary64) : Nat :=
  x.mantissa * twoTo x.exponent.toNat

/-- The denominator of the magnitude as a quotient of natural numbers. -/
def den (x : Binary64) : Nat :=
  twoTo (-x.exponent).toNat

/-- Whether the number is zero, of either sign. -/
def isZero (x : Binary64) : Bool :=
  x.mantissa == 0

/-- Whether the number is an integer. -/
def isIntegral (x : Binary64) : Bool :=
  x.num % x.den == 0

/-- The number nearest to `num / den`, unless that lies beyond the largest one. -/
def ofRatio? (negative : Bool) (num den : Nat) : Option Binary64 :=
  if num = 0 then some ⟨negative, 0, 0⟩
  else
    let guess : Int := (num.log2 : Int) - den.log2 - 52
    -- `num / (den · 2^guess)` lies between `2^51` and `2^53`
    let scale (e : Int) : Nat × Nat := (num * twoTo (-e).toNat, den * twoTo e.toNat)
    let fits := twoTo 52 * (scale guess).2 ≤ (scale guess).1
    let exponent := max (if fits then guess else guess - 1) (-1074)
    let mantissa := roundDiv (scale exponent).1 (scale exponent).2
    if 971 < exponent || (exponent == 971 && mantissa == twoTo 53) then none
    else some ⟨negative, mantissa, exponent⟩

/-- The number nearest to a decimal, unless that lies beyond the largest one.  Decimals far
outside of the range are settled without computing their power of ten. -/
def ofDecimal? (d : Decimal) : Option Binary64 :=
  let magnitude : Int := (Text.ofNat d.coefficient).length + d.exponent
  if d.coefficient = 0 || magnitude < -400 then some ⟨d.negative, 0, 0⟩
  else if 400 < magnitude then none
  else ofRatio? d.negative (d.coefficient * tenTo d.exponent.toNat) (tenTo (-d.exponent).toNat)

/-- The sign as it is written. -/
def signText (x : Binary64) : Text :=
  if x.negative then ['-'] else []

/-- The nearest integer to the magnitude, a tie going to the even one. -/
def roundedMagnitude (x : Binary64) : Nat :=
  roundDiv x.num x.den

/-- The nearest integer to the magnitude, a tie going away from zero. -/
def roundedAwayMagnitude (x : Binary64) : Nat :=
  (2 * x.num + x.den) / (2 * x.den)

/-- The number with `places` digits after the point. -/
def fixed (x : Binary64) (places : Nat) : Text :=
  x.signText ++ fixedText (roundDiv (x.num * tenTo places) x.den) places

/-- The exponent of the leading decimal digit of a nonzero quotient. -/
def leadingExponent (num den : Nat) : Int :=
  let guess : Int := (Text.ofNat num).length - (Text.ofNat den).length
  -- the quotient lies between `10^(guess-1)` and `10^(guess+1)`
  if den * tenTo guess.toNat ≤ num * tenTo (-guess).toNat then guess else guess - 1

/-- The nearest multiple of `10^scale` to a quotient, as a count of that unit. -/
def roundAt (num den : Nat) (scale : Int) : Nat :=
  roundDiv (num * tenTo (-scale).toNat) (den * tenTo scale.toNat)

/-- The number in scientific form as its digits, one more than `places`, and its exponent. -/
def scientificParts (x : Binary64) (places : Nat) : Nat × Int :=
  if x.isZero then (0, 0)
  else
    let lead := leadingExponent x.num x.den
    let digits := roundAt x.num x.den (lead - places)
    -- rounding up may reach the next power of ten
    if digits = tenTo (places + 1) then (tenTo places, lead + 1) else (digits, lead)

/-- The number in scientific form with `places` digits after the point; the exponent has a sign
and at least two digits. -/
def scientific (x : Binary64) (places : Nat) : Text :=
  let (digits, exponent) := x.scientificParts places
  let exponentDigits := Text.ofNat exponent.natAbs
  x.signText ++ fixedText digits places ++ 'e' :: (if exponent < 0 then '-' else '+') ::
    List.replicate (2 - exponentDigits.length) '0' ++ exponentDigits

/-- Whether `count · 10^scale` reads back as the magnitude of `x`. -/
def readsBack (x : Binary64) (count : Nat) (scale : Int) : Bool :=
  match ofRatio? false (count * tenTo scale.toNat) (tenTo (-scale).toNat) with
  | some y => y.num * x.den == x.num * y.den
  | none => false

/-- A count of `10^scale` that reads back as `x`, the nearer one of the two neighbours on that
grid if both do. -/
def neighbour? (x : Binary64) (scale : Int) : Option Nat :=
  let nearest := roundAt x.num x.den scale
  let below := (x.num * tenTo (-scale).toNat) / (x.den * tenTo scale.toNat)
  let other := if nearest = below then below + 1 else below
  if x.readsBack nearest scale then some nearest
  else if x.readsBack other scale then some other
  else none

/-- The first of the grids, from coarse to fine, that has a point reading back as `x`. -/
def firstNeighbour (x : Binary64) : List Int → Nat × Int
  | [] => (0, 0)
  | scale :: finer =>
    match x.neighbour? scale with
    | some count => (count, scale)
    | none => x.firstNeighbour finer

/-- The number with the fewest digits that read back as it, in positional notation. -/
def shortest (x : Binary64) : Text :=
  if x.isZero then x.signText ++ ['0']
  else
    let coarsest := leadingExponent x.num x.den + 1
    let (count, scale) :=
      x.firstNeighbour ((List.range 19).map fun (n : Nat) => coarsest - (n : Int))
    x.signText ++ fixedText (count * tenTo scale.toNat) (-scale).toNat

end Binary64

end Gemtext
