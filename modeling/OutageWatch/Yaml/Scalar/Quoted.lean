import OutageWatch.Text.Digits
import OutageWatch.Yaml.Folding

/-!
# Quoted scalars

Between single quotes a quote is written twice and nothing else has a special meaning.  Between
double quotes a backslash starts an escape: a letter for a control character, or hexadecimal
digits for any character; in front of a line break it joins the lines.

## Main definitions

* `Yaml.SingleQuoted.read` : the text up to the closing single quote.
* `Yaml.DoubleQuoted.read` : the text up to the closing double quote.
-/

namespace OutageWatch.Yaml

namespace SingleQuoted

/-- The text up to the closing quote, behind a gap, and what follows the quote. -/
def read : Source → Source → Option (List Char × Source)
  | [], _ => none
  | g :: rest, gap =>
    if g.isGap then read rest (gap ++ [g])
    else if Source.atDivider (g :: rest) then none
    else if g.char = '\'' then
      match rest with
      | ⟨'\'', _, _⟩ :: more => do
        let (text, tail) ← read more []
        return (gapText gap ++ '\'' :: text, tail)
      | _ => some (gapText gap, rest)
    else do
      let (text, tail) ← read rest []
      return (gapText gap ++ g.char :: text, tail)

end SingleQuoted

namespace DoubleQuoted

/-- The character of an escape by one letter. -/
def escaped? : Char → Option Char
  | '0' => some '\x00'
  | 'a' => some '\x07'
  | 'b' => some '\x08'
  | 't' => some '\t'
  | '\t' => some '\t'
  | 'n' => some '\n'
  | 'v' => some '\x0b'
  | 'f' => some '\x0c'
  | 'r' => some '\r'
  | 'e' => some '\x1b'
  | ' ' => some ' '
  | '"' => some '"'
  | '/' => some '/'
  | '\\' => some '\\'
  | 'N' => some '\u0085'
  | '_' => some '\u00a0'
  | 'L' => some '\u2028'
  | 'P' => some '\u2029'
  | _ => none

/-- The number of hexadecimal digits behind a letter. -/
def digitCount? : Char → Option Nat
  | 'x' => some 2
  | 'u' => some 4
  | 'U' => some 8
  | _ => none

/-- The character of a code. -/
def charOfCode? (n : Nat) : Option Char := if n.isValidChar then some (Char.ofNat n) else none

/-- What was read right before. -/
inductive Stage where
  /-- Blanks and line breaks, possibly none. -/
  | words (gap : Source)
  /-- Line breaks behind one that joins its lines. -/
  | joined (breaks : List Char)
  | backslash
  /-- The first digits of a code of which `left` more are due. -/
  | code (left value : Nat)

/-- The text up to the closing quote, and what follows the quote. -/
def read : Source → Stage → Option (List Char × Source)
  | [], _ => none
  | g :: rest, stage =>
    let word (before : List Char) : Option (List Char × Source) := do
      if Source.atDivider (g :: rest) then none
      else if g.char = '"' then some (before, rest)
      else if g.char = '\\' then
        let (text, tail) ← read rest .backslash
        return (before ++ text, tail)
      else
        let (text, tail) ← read rest (.words [])
        return (before ++ g.char :: text, tail)
    match stage with
    | .words gap => if g.isGap then read rest (.words (gap ++ [g])) else word (gapText gap)
    | .joined breaks =>
      if g.isBreak then read rest (.joined (breaks ++ [g.char]))
      else if g.isBlank then read rest (.joined breaks)
      else word breaks
    | .backslash =>
      if g.isBreak then read rest (.joined [])
      else
        match digitCount? g.char with
        | some n => read rest (.code n 0)
        | none => do
          let c ← escaped? g.char
          let (text, tail) ← read rest (.words [])
          return (c :: text, tail)
    | .code left value => do
      let value := 16 * value + (← Digits.hexDigit? g.char)
      if left ≤ 1 then
        let c ← charOfCode? value
        let (text, tail) ← read rest (.words [])
        return (c :: text, tail)
      else read rest (.code (left - 1) value)

end DoubleQuoted

end OutageWatch.Yaml
