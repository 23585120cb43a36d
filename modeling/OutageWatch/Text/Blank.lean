/-!
# Blank characters

The characters with the White_Space property of Unicode, by which durations and points in time are
spaced out.

## Main definitions

* `isBlank` : the property.
-/

namespace OutageWatch

/-- Whether a character is blank: a space, a control that moves the print position, or one of the
spaces and separators beyond ASCII. -/
def isBlank (c : Char) : Bool :=
  c == ' ' || ('\t' ≤ c && c ≤ '\r') || c == '\u0085' || c == '\u00a0' || c == '\u1680' ||
    ('\u2000' ≤ c && c ≤ '\u200a') || c == '\u2028' || c == '\u2029' || c == '\u202f' ||
    c == '\u205f' || c == '\u3000'

end OutageWatch
