import OutageWatch.Yaml.Folding

/-!
# Plain scalars

A plain scalar is a text without quotes.  It ends before a colon that ends a word, before a hash
mark that starts a word, where a document starts or ends, at a line with too little indentation
and, inside brackets, at a bracket or comma.

## Main definitions

* `Yaml.Plain.read` : the text of a plain scalar and what follows it.
-/

namespace OutageWatch.Yaml.Plain

/-- The brackets and the comma of collections inside brackets. -/
def isFlowMark (c : Char) : Bool := ",[]\x7b\x7d".toList.contains c

/-- Whether a scalar ends at its character here, whatever stood before. -/
def isEnd (inFlow : Bool) : Source → Bool
  | [] => true
  | g :: rest => (g.char = ':' && Source.endsWord rest) || (inFlow && isFlowMark g.char)

/-- Whether a colon stands here in front of a mark that it must not touch inside brackets. -/
def isMisplacedColon (inFlow : Bool) : Source → Bool
  | ⟨':', _, _⟩ :: g :: _ => inFlow && (isFlowMark g.char || g.char = '?')
  | _ => false

/-- Whether a scalar ends at the word that starts here behind a gap. -/
def isEndOfWords (inFlow : Bool) (indent : Nat) (s : Source) : Bool :=
  match s with
  | [] => true
  | g :: _ => g.char = '#' || s.atDivider || (!inFlow && g.column < indent)

/-- The rest of a scalar behind a gap: its text, what follows it, and whether it was left behind a
line break.  Lines after the first need `indent` columns in front of them, in which no tab may
stand. -/
def read (inFlow : Bool) (indent : Nat) : Source → Source → Option (List Char × Source × Bool)
  | [], gap => some ([], [], gap.any Glyph.isBreak)
  | g :: rest, gap =>
    if g.isGap then
      if g.char = '\t' && gap.any Glyph.isBreak && g.column < indent then none
      else read inFlow indent rest (gap ++ [g])
    else if !gap.isEmpty && isEndOfWords inFlow indent (g :: rest) then
      some ([], g :: rest, gap.any Glyph.isBreak)
    else if isMisplacedColon inFlow (g :: rest) then none
    else if isEnd inFlow (g :: rest) then some ([], g :: rest, gap.any Glyph.isBreak)
    else do
      let (text, tail) ← read inFlow indent rest []
      return (gapText gap ++ g.char :: text, tail)

end OutageWatch.Yaml.Plain
