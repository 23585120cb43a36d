/-!
# Decimal and hexadecimal digits

Whole numbers are written with the fewest decimal digits, a minus sign in front of a negative one;
hexadecimal digits are lower case.  Reading works on runs of digits that are already cut out of
the text.

## Main definitions

* `Digits.decimal`, `Digits.int` : the decimal text of a natural number and of an integer.
* `Digits.value` : the number that a run of decimal digits stands for.
* `Digits.hex`, `Digits.hexFixed`, `Digits.hexValue?` : hexadecimal text, free or of fixed width,
  and its value.

## Main results

* `Digits.value_decimal` : reading what was written gives the number back.
-/

namespace OutageWatch.Digits

/-! ### Single digits -/

/-- The character of a digit below sixteen. -/
def digitChar (d : Nat) : Char :=
  if d < 10 then Char.ofNat (48 + d) else Char.ofNat (87 + d)

/-- A decimal digit of ASCII. -/
def isDecimal (c : Char) : Bool := '0' ≤ c && c ≤ '9'

/-- The number that a decimal digit stands for. -/
def digitValue (c : Char) : Nat := c.toNat - 48

/-- The number that a hexadecimal digit of either case stands for. -/
def hexDigit? (c : Char) : Option Nat :=
  if '0' ≤ c ∧ c ≤ '9' then some (c.toNat - 48)
  else if 'a' ≤ c ∧ c ≤ 'f' then some (c.toNat - 87)
  else if 'A' ≤ c ∧ c ≤ 'F' then some (c.toNat - 55)
  else none

/-! ### Decimal text -/

/-- The digits of `n` in front of `tail`, at most `fuel` of them. -/
def decimalOnto : Nat → Nat → List Char → List Char
  | 0, _, tail => tail
  | fuel + 1, n, tail =>
    if n < 10 then digitChar n :: tail
    else decimalOnto fuel (n / 10) (digitChar (n % 10) :: tail)

/-- The decimal text of a natural number. -/
def decimal (n : Nat) : List Char := decimalOnto (n + 1) n []

/-- The decimal text of an integer. -/
def int (n : Int) : List Char :=
  match n with
  | .ofNat m => decimal m
  | .negSucc m => '-' :: decimal (m + 1)

/-- The number that a run of decimal digits stands for. -/
def value (ds : List Char) : Nat := ds.foldl (fun n c => 10 * n + digitValue c) 0

theorem digitValue_digitChar {d : Nat} (h : d < 10) : digitValue (digitChar d) = d := by
  revert h; revert d; decide

theorem isDecimal_digitChar {d : Nat} (h : d < 10) : isDecimal (digitChar d) = true := by
  revert h; revert d; decide

theorem foldl_decimalOnto (fuel n : Nat) (tail : List Char) (h : n < fuel) :
    (decimalOnto fuel n tail).foldl (fun n c => 10 * n + digitValue c) 0 =
      tail.foldl (fun n c => 10 * n + digitValue c) n := by
  induction fuel generalizing n tail with
  | zero => omega
  | succ fuel ih =>
    rw [decimalOnto]
    split
    next hn => simp [digitValue_digitChar hn]
    next hn =>
      rw [ih _ _ (by omega), List.foldl_cons, digitValue_digitChar (by omega)]
      congr 1; omega

/-- Reading the decimal text of a number gives the number. -/
@[simp] theorem value_decimal (n : Nat) : value (decimal n) = n := by
  rw [value, decimal, foldl_decimalOnto _ _ _ (by omega)]; rfl

theorem all_isDecimal_decimalOnto (fuel n : Nat) (tail : List Char)
    (h : tail.all isDecimal = true) : (decimalOnto fuel n tail).all isDecimal = true := by
  induction fuel generalizing n tail with
  | zero => exact h
  | succ fuel ih =>
    rw [decimalOnto]
    split
    next hn => simp [isDecimal_digitChar hn, h]
    next hn => exact ih _ _ (by simp [isDecimal_digitChar (Nat.mod_lt n (by omega)), h])

/-- Decimal text consists of decimal digits. -/
theorem all_isDecimal_decimal (n : Nat) : (decimal n).all isDecimal = true :=
  all_isDecimal_decimalOnto _ _ _ rfl

/-! ### Hexadecimal text -/

/-- The hexadecimal digits of `n` in front of `tail`, at most `fuel` of them. -/
def hexOnto : Nat → Nat → List Char → List Char
  | 0, _, tail => tail
  | fuel + 1, n, tail =>
    if n < 16 then digitChar n :: tail
    else hexOnto fuel (n / 16) (digitChar (n % 16) :: tail)

/-- The hexadecimal text of a natural number, without leading zeros. -/
def hex (n : Nat) : List Char := hexOnto (n + 1) n []

/-- The last `width` hexadecimal digits of a number. -/
def hexFixed : Nat → Nat → List Char
  | 0, _ => []
  | width + 1, n => hexFixed width (n / 16) ++ [digitChar (n % 16)]

/-- The number that hexadecimal digits stand for, unless some character is none. -/
def hexValue? (ds : List Char) : Option Nat :=
  ds.foldlM (fun n c => (hexDigit? c).map (16 * n + ·)) 0

end OutageWatch.Digits
