import OutageWatch.Text.Digits

/-!
# Durations

A duration is a number of whole seconds and of nanoseconds below one second.  Written out, it is
the list of its parts that are not zero, from years down to nanoseconds, where a year has 365.25
days and a month a twelfth of that.

## Main definitions

* `Duration`, `Duration.zero` : a duration.
* `Duration.milliseconds` : its length in whole milliseconds, rounded up.
* `Duration.parts`, `Duration.text` : its parts, and its text.

## Main results

* `Duration.le_milliseconds` : rounding up never makes it shorter.
-/

namespace OutageWatch

/-- A length of time. -/
structure Duration where
  seconds : Nat
  nanoseconds : Nat
  deriving DecidableEq, Repr

namespace Duration

/-- No time at all. -/
def zero : Duration := ⟨0, 0⟩

/-- The seconds of a minute. -/
def minute : Nat := 60

/-- The seconds of an hour. -/
def hour : Nat := 3600

/-- The seconds of a day. -/
def day : Nat := 86400

/-- The seconds of a week. -/
def week : Nat := 7 * day

/-- The seconds of a month of 30.44 days. -/
def month : Nat := 2630016

/-- The seconds of a year of 365.25 days. -/
def year : Nat := 31557600

/-- The nanoseconds of a second. -/
def second : Nat := 1000000000

/-- The length in whole milliseconds, rounded up. -/
def milliseconds (d : Duration) : Nat := d.seconds * 1000 + (d.nanoseconds + 999999) / 1000000

theorem le_milliseconds (d : Duration) :
    d.seconds * second + d.nanoseconds ≤ d.milliseconds * 1000000 := by
  simp only [milliseconds, second]
  omega

/-! ### Written durations -/

/-- The parts of a duration with their units, from years down; the first three have a plural. -/
def parts (d : Duration) : List (Nat × String × Bool) :=
  let inYear := d.seconds % year
  let inMonth := inYear % month
  let inDay := inMonth % day
  [(d.seconds / year, "year", true),
    (inYear / month, "month", true),
    (inMonth / day, "day", true),
    (inDay / hour, "h", false),
    (inDay % hour / minute, "m", false),
    (inDay % minute, "s", false),
    (d.nanoseconds / 1000000, "ms", false),
    (d.nanoseconds / 1000 % 1000, "us", false),
    (d.nanoseconds % 1000, "ns", false)]

/-- The text of one part. -/
def partText (n : Nat) (unit : String) (plural : Bool) : String :=
  String.ofList (Digits.decimal n) ++ unit ++ (if plural && n ≠ 1 then "s" else "")

/-- The text of a duration. -/
def text (d : Duration) : String :=
  if d = zero then "0s"
  else " ".intercalate ((d.parts.filter (·.1 ≠ 0)).map fun p => partText p.1 p.2.1 p.2.2)

end Duration

end OutageWatch
