import OutageWatch.Binary64.Decimal
import OutageWatch.Text.Quoted
import OutageWatch.WordRange
import OutageWatch.Yaml.Node

/-!
# What a scalar means

A scalar without quotes may stand for nothing, for a truth value or for a number; all other scalars
are texts.  A tag may ask for one of these meanings.

## Main definitions

* `Yaml.Meaning` : what a scalar means; `Yaml.Meaning.describe` names it.
* `Yaml.Meaning.integer?`, `Yaml.Meaning.real?` : numbers as they are written.
* `Yaml.Scalar.meaning` : what a scalar means, or what its tag asks for in vain.
-/

namespace OutageWatch.Yaml

/-- What a scalar means. -/
inductive Meaning where
  | nothing
  | bool (b : Bool)
  | integer (n : Int)
  | real (x : Binary64)
  | infinity (negative : Bool)
  | notANumber
  | text (s : String)
  deriving DecidableEq, Repr

namespace Meaning

/-- The name of a meaning in messages. -/
def describe : Meaning → String
  | nothing => "unit value"
  | bool b => s!"boolean `{b}`"
  | integer n =>
    let quoted := "integer `" ++ String.ofList (Digits.int n) ++ "`"
    if (greatestNat : Int) < n then quoted ++ " as u128"
    else if n < leastInt then quoted ++ " as i128"
    else quoted
  | real x => "floating point `" ++ String.ofList x.positionalText ++ "`"
  | infinity negative => if negative then "floating point `-inf.0`" else "floating point `inf.0`"
  | notANumber => "floating point `NaN.0`"
  | text s => "string " ++ Text.quoted s

/-! ### Single words -/

/-- Whether a word stands for nothing. -/
def isNothing (s : String) : Bool := ["null", "Null", "NULL", "~"].contains s

/-- The truth value of a word. -/
def bool? (s : String) : Option Bool :=
  if ["true", "True", "TRUE"].contains s then some true
  else if ["false", "False", "FALSE"].contains s then some false
  else none

/-! ### Numbers -/

/-- Whether a number starts with a minus sign, and the number without its sign. -/
def sign : List Char → Bool × List Char
  | '-' :: cs => (true, cs)
  | '+' :: cs => (false, cs)
  | cs => (false, cs)

/-- Digits of which the first, but not the only one, is a zero are no number. -/
def isPadded (cs : List Char) : Bool :=
  match cs with
  | '0' :: rest => !rest.isEmpty && rest.all Digits.isDecimal
  | _ => false

/-- The number of digits in base `base`. -/
def ofDigits? (base : Nat) (cs : List Char) : Option Nat :=
  if cs.isEmpty then none
  else cs.foldlM (fun n c => do
    let d ← Digits.hexDigit? c
    if d < base then some (base * n + d) else none) 0

/-- The magnitude of an integer. -/
def magnitude? : List Char → Option Nat
  | '0' :: 'x' :: ds => ofDigits? 16 ds
  | '0' :: 'o' :: ds => ofDigits? 8 ds
  | '0' :: 'b' :: ds => ofDigits? 2 ds
  | ds => if isPadded ds then none else ofDigits? 10 ds

/-- The integer of at most 128 bits that is written. -/
def integer? (s : String) : Option Int := do
  let (negative, cs) := sign s.toList
  let n ← magnitude? cs
  if negative then (if n ≤ Nat.pow 2 127 then some (-(n : Int)) else none)
  else if n < Nat.pow 2 128 then some n
  else none

/-- The power of ten behind a number. -/
def power? : List Char → Option Int
  | [] => some 0
  | c :: cs =>
    if c = 'e' ∨ c = 'E' then do
      let (negative, ds) := sign cs
      if ds.isEmpty || !ds.all Digits.isDecimal then none
      return if negative then -(Digits.value ds : Int) else Digits.value ds
    else none

/-- The finite number without a sign that is written. -/
def finite? (negative : Bool) (cs : List Char) : Option Binary64 := do
  let whole := cs.takeWhile Digits.isDecimal
  let (part, rest) := match cs.dropWhile Digits.isDecimal with
    | '.' :: rest => (rest.takeWhile Digits.isDecimal, rest.dropWhile Digits.isDecimal)
    | rest => ([], rest)
  if whole.isEmpty && part.isEmpty then none
  Binary64.ofDecimal? negative (Digits.value (whole ++ part)) ((← power? rest) - part.length)

/-- The real number, infinity or lack of a number that is written. -/
def real? (s : String) : Option Meaning :=
  let (negative, cs) := sign s.toList
  if [".inf", ".Inf", ".INF"].contains (String.ofList cs) then some (infinity negative)
  else if [".nan", ".NaN", ".NAN"].contains s then some notANumber
  else (finite? negative cs).map real

/-- What a scalar without quotes means. -/
def ofPlain (s : String) : Meaning :=
  if s.isEmpty || isNothing s then nothing
  else
    match bool? s, integer? s with
    | some b, _ => bool b
    | none, some n => integer n
    | none, none => if isPadded (sign s.toList).2 then text s else (real? s).getD (text s)

end Meaning

/-! ### Tagged scalars -/

/-- The full text of a standard tag. -/
def standardTag (name : String) : String := "tag:yaml.org,2002:" ++ name

/-- What a scalar means, or the name of what its tag asks for if it is not that. -/
def Scalar.meaning (s : Scalar) : Except String Meaning :=
  let asked (m : Option Meaning) (name : String) : Except String Meaning :=
    match m with
    | some m => .ok m
    | none => .error name
  if s.tag = standardTag "bool" then asked ((Meaning.bool? s.text).map .bool) "a boolean"
  else if s.tag = standardTag "int" then
    asked ((Meaning.integer? s.text).map .integer) "an integer"
  else if s.tag = standardTag "float" then asked (Meaning.real? s.text) "a float"
  else if s.tag = standardTag "null" then
    asked (if Meaning.isNothing s.text then some .nothing else none) "null"
  else if s.isPlain && (s.tag.isEmpty || s.tag.startsWith "!") then .ok (.ofPlain s.text)
  else .ok (.text s.text)

end OutageWatch.Yaml
