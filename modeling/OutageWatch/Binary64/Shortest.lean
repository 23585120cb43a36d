import OutageWatch.Text.Digits
import OutageWatch.Binary64.Basic

/-!
# The shortest decimal text of a floating point number

The text has the fewest significant digits that still read back as the number, and among those the
digits nearest to it.  Numbers from `10 ^ -5` up to below `10 ^ 16` are written positionally, with
at least one digit on either side of the point; all others with a signed power of ten.

## Main definitions

* `Binary64.shortest` : the significant digits and the power of ten of the first of them.
* `Binary64.text` : the decimal text.
-/

namespace OutageWatch.Binary64

/-! ### The digits -/

/-- The exact bounds of the numbers that round to `x`, and `x`, over one denominator: twice the
significand lies between its neighbours' midpoints. -/
structure Range where
  low : Nat
  mid : Nat
  high : Nat
  den : Nat
  closed : Bool

/-- The rounding range of a number that is not zero. -/
def range (x : Binary64) : Range :=
  let m := x.significand
  let narrow := m = Nat.pow 2 52 ∧ minExponent < x.exponent
  let low := if narrow then 4 * m - 1 else 4 * m - 2
  let up := if 0 ≤ x.exponent then Nat.pow 2 x.exponent.toNat else 1
  let den := if 0 ≤ x.exponent then 4 else 4 * Nat.pow 2 (-x.exponent).toNat
  ⟨low * up, 4 * m * up, (4 * m + 2) * up, den, m % 2 = 0⟩

/-- The greatest power of ten that is at most `num / den`, searched downwards from `10 ^ 309`. -/
def tenExponent (num den : Nat) : Int :=
  let rec go : Nat → Int → Int
    | 0, e => e
    | fuel + 1, e =>
      let reached := if 0 ≤ e then den * Nat.pow 10 e.toNat ≤ num else den ≤ num * Nat.pow 10 (-e).toNat
      if reached then e else go fuel (e - 1)
  go 640 309

/-- The nearest multiple of `10 ^ k` to the number that lies in its rounding range. -/
def onGrid? (r : Range) (k : Int) : Option Nat :=
  let up := if 0 ≤ k then 1 else Nat.pow 10 (-k).toNat
  let step := r.den * (if 0 ≤ k then Nat.pow 10 k.toNat else 1)
  let inside (c : Nat) : Bool :=
    if r.closed then r.low * up ≤ c * step ∧ c * step ≤ r.high * up
    else r.low * up < c * step ∧ c * step < r.high * up
  let below := r.mid * up / step
  let above := below + 1
  let nearer := 2 * (r.mid * up) ≤ (below + above) * step
  match inside below, inside above with
  | true, true => some (if nearer then below else above)
  | true, false => some below
  | false, true => some above
  | false, false => none

/-- The shortest digits, tried from one digit to seventeen, with the power of ten of the last. -/
def search (r : Range) (top : Int) : Nat → Nat → Nat × Int
  | 0, _ => (0, 0)
  | fuel + 1, n =>
    let k := top - n
    match onGrid? r k with
    | some c => (c, k)
    | none => search r top fuel (n + 1)

/-- The significant digits of a number, without trailing zeros, and the power of ten of the first
digit. -/
def shortest (x : Binary64) : List Char × Int :=
  if x.isZero then (['0'], 0) else
  let r := x.range
  let (c, k) := search r (tenExponent r.mid r.den) 18 0
  let ds := Digits.decimal c
  let trimmed := (ds.reverse.dropWhile (· = '0')).reverse
  (trimmed, k + ds.length - 1)

/-! ### The text -/

/-- The least power of ten of the first digit that is still written positionally. -/
def leastPositional : Int := -5

/-- The greatest power of ten of the first digit that is still written positionally. -/
def greatestPositional : Int := 15

/-- Positional text of digits whose first has the power `e` of ten. -/
def positional (ds : List Char) (e : Int) : List Char :=
  if e < 0 then '0' :: '.' :: (List.replicate (-e - 1).toNat '0' ++ ds)
  else
    let n := e.toNat + 1
    let whole := ds.take n ++ List.replicate (n - ds.length) '0'
    let rest := ds.drop n
    whole ++ '.' :: (if rest.isEmpty then ['0'] else rest)

/-- Text with a signed power of ten, and a point after the first of several digits. -/
def scientific (ds : List Char) (e : Int) : List Char :=
  let head := match ds with
    | d :: r@(_ :: _) => d :: '.' :: r
    | _ => ds
  head ++ 'e' :: (if e < 0 then '-' else '+') :: Digits.decimal e.natAbs

/-- The shortest decimal text of a number. -/
def text (x : Binary64) : List Char :=
  let (ds, e) := x.shortest
  let body :=
    if leastPositional ≤ e ∧ e ≤ greatestPositional then positional ds e else scientific ds e
  if x.negative then '-' :: body else body

end OutageWatch.Binary64
