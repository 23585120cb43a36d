import OutageWatch.Binary64.Shortest

/-!
# Decimal numbers

A decimal number with a power of ten stands for the number nearest to it.  Beside the text that
turns to powers of ten for long numbers there is one that never does.

## Main definitions

* `Binary64.ofDecimal?` : the number nearest to a decimal one, if that is not too large.
* `Binary64.positionalText` : the decimal text without powers of ten.
-/

namespace OutageWatch.Binary64

/-- Numbers whose first digit has a greater power of ten are too large, and those where the power
is below its negative are zero. -/
def farthestTenPower : Int := 400

/-- The number nearest to `significand * 10 ^ power`. -/
def ofDecimal? (negative : Bool) (significand : Nat) (power : Int) : Option Binary64 :=
  let top := (Digits.decimal significand).length + power
  if significand = 0 ∨ top < -farthestTenPower then some (zero negative)
  else if farthestTenPower < top then none
  else if 0 ≤ power then ofRatio? negative (significand * Nat.pow 10 power.toNat) 1
  else ofRatio? negative significand (Nat.pow 10 (-power).toNat)

/-- The decimal text without powers of ten. -/
def positionalText (x : Binary64) : List Char :=
  let (ds, e) := x.shortest
  if x.negative then '-' :: positional ds e else positional ds e

end OutageWatch.Binary64
