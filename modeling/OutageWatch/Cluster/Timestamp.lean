import OutageWatch.Text.Blank
import OutageWatch.Text.Digits

/-!
# Points in time

The cluster tells a point in time by a date, a time of day, and how far the clocks that show them
are ahead.  Blanks may stand before each of the numbers and marks, and a year may have a sign and
then any number of digits.  A second of 60 is the one by which some minutes are longer.

## Main definitions

* `Timestamp`, `Timestamp.IsValid` : a point in time, and whether there is such a point.
* `Timestamp.parse?` : reading a point in time.
* `Timestamp.isText` : whether a text tells a point in time.
-/

namespace OutageWatch

/-- A date and a time of day, and by how many seconds clocks that show them are ahead. -/
structure Timestamp where
  year : Int
  month : Nat
  day : Nat
  hour : Nat
  minute : Nat
  second : Nat
  ahead : Int
  deriving DecidableEq, Repr

namespace Timestamp

/-! ### The calendar -/

/-- The first year that can be told. -/
def firstYear : Int := -262143

/-- The last year that can be told. -/
def lastYear : Int := 262142

/-- The number of seconds of a day. -/
def secondsOfDay : Int := 86400

/-- Whether February has a 29th. -/
def isLeapYear (year : Int) : Bool := year % 4 = 0 && (year % 100 ≠ 0 || year % 400 = 0)

/-- How many days a month has. -/
def daysOfMonth (year : Int) : Nat → Nat
  | 2 => if isLeapYear year then 29 else 28
  | 4 | 6 | 9 | 11 => 30
  | _ => 31

/-- The time of day at Greenwich in seconds, counted from the beginning of the day that is told.  A
second of 60 counts as the one before it. -/
def secondAtGreenwich (t : Timestamp) : Int :=
  3600 * t.hour + 60 * t.minute + min t.second 59 - t.ahead

/-- There is such a point in time, at Greenwich as well. -/
def IsValid (t : Timestamp) : Prop :=
  (firstYear ≤ t.year ∧ t.year ≤ lastYear) ∧ (1 ≤ t.month ∧ t.month ≤ 12) ∧
  (1 ≤ t.day ∧ t.day ≤ daysOfMonth t.year t.month) ∧
  t.hour ≤ 23 ∧ t.minute ≤ 59 ∧ t.second ≤ 60 ∧
  (-secondsOfDay < t.ahead ∧ t.ahead < secondsOfDay) ∧
  (t.year = firstYear → t.month = 1 → t.day = 1 → 0 ≤ t.secondAtGreenwich) ∧
  (t.year = lastYear → t.month = 12 → t.day = 31 → t.secondAtGreenwich < secondsOfDay)

instance (t : Timestamp) : Decidable t.IsValid := inferInstanceAs (Decidable (_ ∧ _))

/-! ### Parts of a text -/

/-- Takes a part off the front of a text, if it is there. -/
abbrev Scan := StateT (List Char) Option

/-- Passes over blanks. -/
def blanks : Scan Unit := modify (·.dropWhile isBlank)

/-- A number of at least one and at most `width` digits. -/
def digits (width : Nat) : Scan Nat := do
  let ds := ((← get).take width).takeWhile Digits.isDecimal
  guard (ds ≠ [])
  modify (·.drop ds.length)
  return Digits.value ds

/-- One of the given characters. -/
def oneOf (cs : List Char) : Scan Unit := do
  match ← get with
  | [] => failure
  | c :: rest =>
    guard (c ∈ cs)
    set rest

/-- A mark, behind blanks. -/
def mark (c : Char) : Scan Unit := do
  blanks
  oneOf [c]

/-- A number of one or two digits, behind blanks. -/
def number : Scan Nat := do
  blanks
  digits 2

/-- A year, behind blanks: up to four digits, or a sign and any number of them. -/
def yearNumber : Scan Int := do
  blanks
  match ← get with
  | '-' :: rest => do
    set rest
    return -(← digits rest.length)
  | '+' :: rest => do
    set rest
    return (← digits rest.length)
  | _ => return (← digits 4)

/-- The fraction of a second, if there is one. -/
def fraction : Scan Unit := do
  match ← get with
  | '.' :: rest => do
    set rest
    discard (digits rest.length)
  | _ => return

/-- A number of two digits. -/
def twoDigits : Scan Nat := do
  match ← get with
  | a :: b :: rest =>
    guard (Digits.isDecimal a ∧ Digits.isDecimal b)
    set rest
    return Digits.value [a, b]
  | _ => failure

/-- Hours and minutes, as seconds. -/
def hoursAndMinutes : Scan Int := do
  let hours ← twoDigits
  modify (·.dropWhile fun c => c = ':' || isBlank c)
  let minutes ← twoDigits
  guard (minutes ≤ 59)
  return 3600 * hours + 60 * minutes

/-- How far clocks are ahead: not at all at Greenwich, else by hours and minutes with a sign. -/
def aheadNumber : Scan Int := do
  match ← get with
  | 'Z' :: rest | 'z' :: rest => do
    set rest
    return 0
  | '+' :: rest => do
    set rest
    hoursAndMinutes
  | '-' :: rest | '\u2212' :: rest => do
    set rest
    return -(← hoursAndMinutes)
  | a :: b :: c :: rest => do
    guard ([a, b, c].map Char.toUpper = ['U', 'T', 'C'])
    set rest
    return 0
  | _ => failure

/-! ### Whole texts -/

/-- The parts of a point in time. -/
def scan : Scan Timestamp := do
  let year ← yearNumber
  mark '-'
  let month ← number
  mark '-'
  let day ← number
  oneOf ['T', 't', ' ']
  let hour ← number
  mark ':'
  let minute ← number
  mark ':'
  let second ← number
  fraction
  blanks
  let ahead ← aheadNumber
  blanks
  return ⟨year, month, day, hour, minute, second, ahead⟩

/-- The point in time that a text tells, if there is one. -/
def parse? (text : List Char) : Option Timestamp :=
  match scan.run text with
  | some (t, []) => if t.IsValid then some t else none
  | _ => none

/-- Whether a text tells a point in time. -/
def isText (text : String) : Bool := (parse? text.toList).isSome

end Timestamp

end OutageWatch
