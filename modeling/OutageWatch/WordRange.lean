/-!
# Whole numbers of 64 bits

Clock readings and lengths in seconds are integers that fit the signed range of 64 bits.  A
difference or sum that leaves the range is an overflow, which ends whatever was being computed.

## Main definitions

* `leastInt`, `greatestInt`, `greatestNat` : the ends of the signed and the unsigned range.
* `Overflow`, `Overflow.message` : an operation that left the range, and its text.
* `checkedSub`, `checkedAdd` : difference and sum within the range.

## Main results

* `checkedSub_eq_ok_iff`, `checkedAdd_eq_ok_iff` : they give the exact result, and fail exactly
  when it does not fit.
-/

namespace OutageWatch

/-- The least whole number of the signed range. -/
abbrev leastInt : Int := -9223372036854775808

/-- The greatest whole number of the signed range. -/
abbrev greatestInt : Int := 9223372036854775807

/-- The greatest whole number of the unsigned range. -/
abbrev greatestNat : Nat := 18446744073709551615

/-- A number fits if it lies in the signed range. -/
def Fits (n : Int) : Prop := leastInt ≤ n ∧ n ≤ greatestInt

instance (n : Int) : Decidable (Fits n) := inferInstanceAs (Decidable (_ ∧ _))

theorem fits_of_nonneg {n : Int} (h : 0 ≤ n) (hn : n ≤ greatestInt) : Fits n :=
  ⟨Int.le_trans (by decide) h, hn⟩

/-- An operation whose result left the signed range. -/
inductive Overflow where
  | difference
  | sum
  deriving DecidableEq, Repr

/-- The text of an overflow. -/
def Overflow.message : Overflow → String
  | .difference => "attempt to subtract with overflow"
  | .sum => "attempt to add with overflow"

/-- The difference of two numbers, if it fits. -/
def checkedSub (a b : Int) : Except Overflow Int :=
  if Fits (a - b) then .ok (a - b) else .error .difference

/-- The sum of two numbers, if it fits. -/
def checkedAdd (a b : Int) : Except Overflow Int :=
  if Fits (a + b) then .ok (a + b) else .error .sum

theorem checkedSub_eq_ok_iff {a b n : Int} : checkedSub a b = .ok n ↔ Fits (a - b) ∧ n = a - b := by
  unfold checkedSub
  split <;> simp_all [eq_comm]

theorem checkedAdd_eq_ok_iff {a b n : Int} : checkedAdd a b = .ok n ↔ Fits (a + b) ∧ n = a + b := by
  unfold checkedAdd
  split <;> simp_all [eq_comm]

end OutageWatch
