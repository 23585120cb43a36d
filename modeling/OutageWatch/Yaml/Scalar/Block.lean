import OutageWatch.Text.Digits
import OutageWatch.Yaml.Folding

/-!
# Block scalars

A block scalar is a text of whole lines, indented below a header.  The header says whether the
lines are kept as they are or folded, whether the line breaks at the end are stripped, clipped to
one or kept, and how far the lines are indented; without a number the first line that is not empty
settles the indentation.  Lines that start with a blank are never folded.

## Main definitions

* `Yaml.Block.Header`, `Yaml.Block.header?` : what the header says.
* `Yaml.Block.Lines` : the lines read so far.
* `Yaml.Block.read` : the text of a block scalar and what follows it.
-/

namespace OutageWatch.Yaml.Block

/-! ### The header -/

/-- What happens to the line breaks at the end. -/
inductive Ending where
  | strip
  | clip
  | keep
  deriving DecidableEq, Repr

/-- What the header says. -/
structure Header where
  isFolded : Bool
  ending : Ending := .clip
  /-- How many columns deeper than the surrounding collection the lines are. -/
  depth : Option Nat := none

/-- The ending of a mark. -/
def ending? (c : Char) : Option Ending :=
  if c = '+' then some .keep else if c = '-' then some .strip else none

/-- The depth of a digit; it must not be zero. -/
def depth? (c : Char) : Option Nat :=
  if Digits.isDecimal c ∧ c ≠ '0' then some (Digits.digitValue c) else none

/-- The header with the mark of an ending, if one stands here. -/
def Header.withEnding (h : Header) : Source → Header × Source
  | g :: rest =>
    match ending? g.char with
    | some e => ({ h with ending := e }, rest)
    | none => (h, g :: rest)
  | [] => (h, [])

/-- The header with the digit of a depth, if one stands here. -/
def Header.withDepth (h : Header) : Source → Header × Source
  | g :: rest =>
    match depth? g.char with
    | some n => ({ h with depth := some n }, rest)
    | none => (h, g :: rest)
  | [] => (h, [])

/-- What the rest of the first line amounts to: nothing but blanks and a comment. -/
def afterHeader? (s : Source) : Option Source :=
  let s := s.dropWhile Glyph.isBlank
  let s := match s with
    | ⟨'#', _, _⟩ :: _ => Source.dropLine s
    | _ => s
  match s with
  | [] => some []
  | g :: rest => if g.isBreak then some rest else none

/-- The header behind its first mark, and the lines below it. -/
def header? (isFolded : Bool) (s : Source) : Option (Header × Source) := do
  let h : Header := { isFolded }
  let (h, s) := match s with
    | g :: _ =>
      if (ending? g.char).isSome then
        let (h, s) := h.withEnding s
        h.withDepth s
      else
        let (h', s') := h.withDepth s
        if h'.depth.isSome then h'.withEnding s' else (h', s')
    | [] => (h, s)
  return (h, ← afterHeader? s)

/-! ### The lines -/

/-- The lines read so far. -/
structure Lines where
  /-- The text without the line breaks at its end. -/
  text : List Char := []
  /-- The break of the last line that is not empty. -/
  lastBreak : List Char := []
  /-- The breaks of the empty lines behind it. -/
  emptyBreaks : List Char := []
  /-- Whether the last line that is not empty starts with a blank. -/
  isBlankLed : Bool := false
  /-- The columns in front of each line, if that is settled. -/
  indent : Option Nat
  /-- The most columns found in front of a line. -/
  widest : Nat := 0
  /-- Whether the reading is inside a line. -/
  isInside : Bool := false

namespace Lines

/-- The lines at the first character of the next one, which is not empty. -/
def startLine (l : Lines) (isFolded isBlank : Bool) : Lines :=
  let breaks := l.lastBreak ++ l.emptyBreaks
  let joins := isFolded && l.lastBreak == ['\n'] && !l.isBlankLed && !isBlank
  { l with
    text := l.text ++ (if joins then folded breaks else breaks)
    lastBreak := []
    emptyBreaks := []
    isBlankLed := isBlank
    isInside := true }

/-- The text of the lines, ended as the header says. -/
def close (l : Lines) : Ending → List Char
  | .strip => l.text
  | .clip => l.text ++ l.lastBreak
  | .keep => l.text ++ l.lastBreak ++ l.emptyBreaks

end Lines

/-- The text of the lines and what follows them.  The lines are indented by at least `least`
columns. -/
def lines (h : Header) (least : Nat) : Source → Lines → Option (List Char × Source)
  | [], l => some (l.close h.ending, [])
  | g :: rest, l =>
    if l.isInside then
      if g.isBreak then lines h least rest { l with lastBreak := [g.char], isInside := false }
      else lines h least rest { l with text := l.text ++ [g.char] }
    else
      let isIndent := match l.indent with
        | some n => decide (g.column < n)
        | none => true
      if isIndent && g.char = ' ' then lines h least rest l
      else if isIndent && g.char = '\t' then none
      else
        let l := { l with widest := max l.widest g.column }
        if g.isBreak then lines h least rest { l with emptyBreaks := l.emptyBreaks ++ [g.char] }
        else
          let indent := l.indent.getD (max l.widest least)
          if g.column = indent then
            let l := { l with indent := some indent }.startLine h.isFolded g.isBlank
            lines h least rest { l with text := l.text ++ [g.char] }
          else some (l.close h.ending, g :: rest)

/-- The text of a block scalar behind its first mark, and what follows it.  The surrounding
collection asks for `indent` columns. -/
def read (isFolded : Bool) (indent : Nat) (s : Source) : Option (List Char × Source) := do
  let (h, s) ← header? isFolded s
  let depth := h.depth.map fun n => if indent = 0 then n else indent - 1 + n
  lines h (max indent 1) s { indent := depth }

end OutageWatch.Yaml.Block
