import OutageWatch.Duration.Basic
import OutageWatch.Text.Blank
import OutageWatch.Text.Quoted
import OutageWatch.WordRange

/-!
# Reading durations

A written duration is a sequence of spans, each a number, with or without a fraction, and a unit:
`1h 30m`, `1.5s`, `2 days`.  Blanks may stand between the digits, in front of the unit and between
the spans.  The text is read character by character; a fault names the byte where it arose.

Every number along the way has to fit the unsigned range, and a fraction has to come out in whole
nanoseconds, or in whole seconds where the unit is an hour or more.  The text `0` alone needs no
unit.

## Main definitions

* `TimeUnit` : the units, their names and sizes.
* `Duration.Fault`, `Duration.Fault.message` : why a text is no duration.
* `Duration.add` : a duration made longer.
* `Duration.Reading` : how far the reading has come; `Duration.Reading.step` reads a character.
* `Duration.parse` : the duration that a text stands for.
-/

namespace OutageWatch

/-! ### Units -/

/-- A unit of time. -/
inductive TimeUnit where
  | nanosecond
  | microsecond
  | millisecond
  | second
  | minute
  | hour
  | day
  | week
  | month
  | year
  deriving DecidableEq, Repr

namespace TimeUnit

/-- All units, the short ones first. -/
def all : List TimeUnit :=
  [nanosecond, microsecond, millisecond, second, minute, hour, day, week, month, year]

/-- The names of a unit; case matters. -/
def names : TimeUnit → List String
  | nanosecond => ["nanos", "nsec", "ns"]
  | microsecond => ["usec", "us", "µs"]
  | millisecond => ["millis", "msec", "ms"]
  | second => ["seconds", "second", "secs", "sec", "s"]
  | minute => ["minutes", "minute", "min", "mins", "m"]
  | hour => ["hours", "hour", "hrs", "hr", "h"]
  | day => ["days", "day", "d"]
  | week => ["weeks", "week", "wks", "wk", "w"]
  | month => ["months", "month", "M"]
  | year => ["years", "year", "yrs", "yr", "y"]

/-- The unit of a name. -/
def ofName? (name : String) : Option TimeUnit := all.find? (·.names.contains name)

/-- The seconds of one unit of a second or more, else its nanoseconds. -/
def size : TimeUnit → Nat × Nat
  | nanosecond => (0, 1)
  | microsecond => (0, 1000)
  | millisecond => (0, 1000000)
  | second => (1, 0)
  | minute => (Duration.minute, 0)
  | hour => (Duration.hour, 0)
  | day => (Duration.day, 0)
  | week => (Duration.week, 0)
  | month => (Duration.month, 0)
  | year => (Duration.year, 0)

/-- The size of a unit for its fractions: in nanoseconds up to a minute, in seconds from an hour
on.  A nanosecond has no fractions. -/
def divisibleSize? : TimeUnit → Option (Nat × Nat)
  | nanosecond => none
  | second => some (0, Duration.second)
  | minute => some (0, Duration.minute * Duration.second)
  | u => some u.size

end TimeUnit

namespace Duration

/-! ### Faults -/

/-- Why a text is no duration.  Offsets count bytes. -/
inductive Fault where
  | empty
  | numberExpected (offset : Nat)
  | invalidCharacter (offset : Nat)
  | unitMissing (number : Nat)
  | unitUnknown (name : String)
  | inexact
  | unbounded
  deriving DecidableEq, Repr

/-- The units that the text on an unknown one recommends. -/
def Fault.knownUnits : String :=
  "ns, us/µs, ms, sec, min, hours, days, weeks, months, years (and few variations)"

/-- The text of a fault. -/
def Fault.message : Fault → String
  | empty => "value was empty"
  | numberExpected offset => "expected number at " ++ String.ofList (Digits.decimal offset)
  | invalidCharacter offset => "invalid character at " ++ String.ofList (Digits.decimal offset)
  | unitMissing n =>
    let digits := String.ofList (Digits.decimal n)
    "time unit needed, for example " ++ digits ++ "sec or " ++ digits ++ "ms"
  | unitUnknown name =>
    "unknown time unit " ++ Text.quoted name ++ ", supported units: " ++ knownUnits
  | inexact => "number is too large or cannot be represented without a lack of precision " ++
      "(values below 1ns are not supported)"
  | unbounded => "overflow in Duration::new"

/-- A faulty text is the user's mistake, except where the seconds run over at the very last
carry. -/
def Fault.isCrash : Fault → Bool
  | unbounded => true
  | _ => false

/-! ### Exact arithmetic -/

/-- A number that has to fit the unsigned range. -/
def bounded (n : Nat) : Except Fault Nat :=
  if n ≤ greatestNat then .ok n else .error .inexact

/-- A quotient that has to be exact. -/
def exactQuotient (n d : Nat) : Except Fault Nat :=
  if n % d = 0 then .ok (n / d) else .error .inexact

/-- A duration made longer by seconds and nanoseconds.  More nanoseconds than a second are carried
before the seconds are added, exactly a second of them afterwards. -/
def add (d : Duration) (seconds nanoseconds : Nat) : Except Fault Duration := do
  let n ← bounded (d.nanoseconds + nanoseconds)
  let carried := if n > second then n / second else 0
  let rest := if n > second then n % second else n
  let s ← bounded (d.seconds + (← bounded (seconds + carried)))
  if rest < second then return ⟨s, rest⟩
  if s + 1 ≤ greatestNat then return ⟨s + 1, 0⟩
  throw .unbounded

/-! ### Spans -/

/-- The digits behind a point as a quotient; without digits the denominator is one. -/
structure Fraction where
  numerator : Nat
  denominator : Nat
  deriving DecidableEq, Repr

/-- A fraction with one more digit. -/
def Fraction.push (f : Fraction) (digit : Char) : Except Fault Fraction := do
  return ⟨← bounded (10 * f.numerator + Digits.digitValue digit), ← bounded (10 * f.denominator)⟩

/-- A duration made longer by a number of units and a fraction of one. -/
def addSpan (d : Duration) (n : Nat) (f? : Option Fraction) (unit : String) :
    Except Fault Duration := do
  if unit.isEmpty then throw (.unitMissing n)
  let some u := TimeUnit.ofName? unit | throw (.unitUnknown unit)
  let d ← d.add (← bounded (n * u.size.1)) (← bounded (n * u.size.2))
  let some f := f? | return d
  let some size := u.divisibleSize? | throw .inexact
  let part (k : Nat) : Except Fault Nat := do
    exactQuotient (← bounded (f.numerator * k)) f.denominator
  d.add (← part size.1) (← part size.2)

/-! ### Character by character -/

/-- What has been read of the span at hand. -/
inductive Stage where
  | first
  | waiting (since : Nat)
  | whole (n : Nat)
  | fraction (n : Nat) (f : Fraction) (reached : Nat)
  | unit (n : Nat) (f? : Option Fraction) (name : String)

/-- How far the reading has come: the spans read in full, the bytes read, and the span at hand. -/
structure Reading where
  total : Duration
  offset : Nat
  stage : Stage

/-- A character of a unit's name. -/
def isUnitLetter (c : Char) : Bool :=
  ('a' ≤ c && c ≤ 'z') || ('A' ≤ c && c ≤ 'Z') || c == 'µ'

namespace Reading

/-- Nothing read yet. -/
def start : Reading := ⟨zero, 0, .first⟩

/-- Reads a character where a number is due. -/
def stepNumber (r : Reading) (since : Nat) (c : Char) : Except Fault Stage :=
  if Digits.isDecimal c then .ok (.whole (Digits.digitValue c))
  else if isBlank c then .ok r.stage
  else .error (.numberExpected since)

/-- Reads one character. -/
def step (r : Reading) (c : Char) : Except Fault Reading := do
  let next := r.offset + c.utf8Size
  match r.stage with
  | .first => return { r with offset := next, stage := ← r.stepNumber 0 c }
  | .waiting since => return { r with offset := next, stage := ← r.stepNumber since c }
  | .whole n =>
    let stage : Stage ←
      if Digits.isDecimal c then pure (.whole (← bounded (10 * n + Digits.digitValue c)))
      else if isBlank c then pure (.whole n)
      else if isUnitLetter c then pure (.unit n none c.toString)
      else if c == '.' then pure (.fraction n ⟨0, 1⟩ r.offset)
      else throw (.invalidCharacter r.offset)
    return { r with offset := next, stage }
  | .fraction n f reached =>
    let stage : Stage ←
      if Digits.isDecimal c then pure (.fraction n (← f.push c) next)
      else if isBlank c then pure (.fraction n f next)
      else if isUnitLetter c ∧ f.denominator ≠ 1 then pure (.unit n (some f) c.toString)
      else throw (.invalidCharacter reached)
    return { r with offset := next, stage }
  | .unit n f? name =>
    if Digits.isDecimal c then
      return ⟨← r.total.addSpan n f? name, next, .whole (Digits.digitValue c)⟩
    else if isBlank c then return ⟨← r.total.addSpan n f? name, next, .waiting next⟩
    else if isUnitLetter c then return { r with offset := next, stage := .unit n f? (name.push c) }
    else throw (.invalidCharacter r.offset)

/-- The duration at the end of the text. -/
def finish (r : Reading) : Except Fault Duration :=
  match r.stage with
  | .first => .error .empty
  | .waiting _ => .ok r.total
  | .whole n => r.total.addSpan n none ""
  | .fraction n f reached =>
    if f.denominator = 1 then .error (.invalidCharacter reached)
    else r.total.addSpan n (some f) ""
  | .unit n f? name => r.total.addSpan n f? name

end Reading

/-- The duration that a text stands for. -/
def parse (text : String) : Except Fault Duration :=
  if text = "0" then .ok zero else do (← text.toList.foldlM Reading.step Reading.start).finish

end Duration

end OutageWatch
