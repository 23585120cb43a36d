/-!
# Binary floating point numbers of 64 bits

A finite number is a sign, a whole significand below `2 ^ 53` and a power of two.  Every operation
here first forms the exact quotient of two natural numbers and then rounds it once, to the nearest
number of the format and to the even significand when two are equally near.

## Main definitions

* `Binary64` : a finite number of the format.
* `Binary64.ofRatio?` : the nearest finite number to a quotient, if the quotient is not too large.
* `Binary64.mul?`, `Binary64.div?` : product and quotient of magnitudes, rounded once.
* `Binary64.scaleByTen?` : a significand times a power of ten, by one or more rounded steps.
-/

namespace OutageWatch

/-- A finite binary floating point number: `significand * 2 ^ exponent`, negated if `negative`. -/
structure Binary64 where
  negative : Bool
  significand : Nat
  exponent : Int
  deriving DecidableEq, Repr

namespace Binary64

/-- The least power of two of the format. -/
def minExponent : Int := -1074

/-- The greatest power of two of a finite number with a full significand. -/
def maxExponent : Int := 971

/-- The number zero, of either sign. -/
def zero (negative : Bool) : Binary64 := ⟨negative, 0, minExponent⟩

/-- The number with its sign replaced. -/
def withSign (x : Binary64) (negative : Bool) : Binary64 := { x with negative }

/-- Whether the number is a zero. -/
def isZero (x : Binary64) : Bool := x.significand = 0

/-! ### Rounding -/

/-- The quotient of `num` and `den` to the nearest whole number, ties to the even one. -/
def roundQuotient (num den : Nat) : Nat :=
  let q := num / den
  let twice := 2 * (num % den)
  if twice < den then q
  else if den < twice then q + 1
  else if q % 2 = 0 then q else q + 1

/-- The quotient `num / (den * 2 ^ e)` as a pair of natural numbers. -/
def scaled (num den : Nat) (e : Int) : Nat × Nat :=
  if 0 ≤ e then (num, den * Nat.pow 2 e.toNat) else (num * Nat.pow 2 (-e).toNat, den)

/-- The power of two under which the quotient has a significand of 53 bits, or the least power. -/
def exponentFor (num den : Nat) : Int :=
  let guess : Int := (num.log2 : Int) - (den.log2 : Int) - 52
  let (n, d) := scaled num den guess
  max minExponent (if n / d < Nat.pow 2 52 then guess - 1 else guess)

/-- The nearest finite number to `num / den`; `none` if it is beyond the format's range. -/
def ofRatio? (negative : Bool) (num den : Nat) : Option Binary64 :=
  if num = 0 then some (zero negative) else
  let e := exponentFor num den
  let (n, d) := scaled num den e
  let q := roundQuotient n d
  let (m, e) := if q = Nat.pow 2 53 then (Nat.pow 2 52, e + 1) else (q, e)
  if maxExponent < e then none else some ⟨negative, m, e⟩

/-- The magnitude of a number as an exact quotient. -/
def ratio (x : Binary64) : Nat × Nat :=
  if 0 ≤ x.exponent then (x.significand * Nat.pow 2 x.exponent.toNat, 1)
  else (x.significand, Nat.pow 2 (-x.exponent).toNat)

/-- The product of two magnitudes, rounded. -/
def mul? (x y : Binary64) : Option Binary64 :=
  let (a, b) := x.ratio
  let (c, d) := y.ratio
  ofRatio? x.negative (a * c) (b * d)

/-- The quotient of two magnitudes, rounded. -/
def div? (x y : Binary64) : Option Binary64 :=
  let (a, b) := x.ratio
  let (c, d) := y.ratio
  ofRatio? x.negative (a * d) (b * c)

/-! ### Powers of ten -/

/-- The greatest power of ten of the format. -/
def maxTenPower : Nat := 308

/-- Multiplies by `10 ^ power`, dividing by the greatest power of ten as long as the given power is
below its negative; `none` if the result is beyond the range. -/
def timesTenPower? : Nat → Binary64 → Int → Option Binary64
  | 0, x, _ => some x
  | fuel + 1, x, power =>
    if power.natAbs ≤ maxTenPower then
      (ofRatio? false (Nat.pow 10 power.natAbs) 1).bind fun p =>
        if 0 ≤ power then x.mul? p else x.div? p
    else if x.isZero then some x
    else if 0 ≤ power then none
    else
      (ofRatio? false (Nat.pow 10 maxTenPower) 1).bind fun p =>
        (x.div? p).bind fun y => timesTenPower? fuel y (power + maxTenPower)

/-- The number `significand * 10 ^ power`, by rounded steps; the fourth division by the greatest
power of ten can only meet a zero. -/
def scaleByTen? (negative : Bool) (significand : Nat) (power : Int) : Option Binary64 :=
  (ofRatio? false significand 1).bind fun x =>
    (timesTenPower? 8 x power).map (·.withSign negative)

end Binary64

end OutageWatch
