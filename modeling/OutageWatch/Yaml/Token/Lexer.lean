import OutageWatch.Yaml.Scalar.Block
import OutageWatch.Yaml.Scalar.Plain
import OutageWatch.Yaml.Scalar.Quoted
import OutageWatch.Yaml.Token.Words

/-!
# From characters to tokens

Indentation opens and closes collections.  A colon makes what stands before it on its line the key
of a mapping, so the place where a key may have started is remembered, one for every pair of
brackets around; the marks of the key and of its mapping are put there once the colon is found.

## Main definitions

* `Yaml.Lexer` : the tokens so far, the open collections and the places of possible keys.
* `Yaml.Lexer.step` : reads a token.
* `Yaml.Token.scan` : the tokens of a document.
-/

namespace OutageWatch.Yaml

/-- A place where a key may have started. -/
structure KeyPlace where
  /-- The number of tokens before it. -/
  position : Nat
  line : Nat
  column : Nat
  /-- Whether anything but a key is a mistake there. -/
  isRequired : Bool

/-- The tokens so far and what is needed to read the next one. -/
structure Lexer where
  tokens : Array Token := #[]
  /-- The columns of the collections that are open by indentation, the inner ones first. -/
  columns : List Nat := []
  /-- Whether a key may start at the next token. -/
  mayStartKey : Bool := true
  key : Option KeyPlace := none
  /-- The places of possible keys outside of each pair of brackets around. -/
  outerKeys : List (Option KeyPlace) := []

namespace Lexer

/-- Whether brackets are open. -/
def inFlow (l : Lexer) : Bool := !l.outerKeys.isEmpty

/-- How many columns a line needs to belong to the innermost collection's items. -/
def indent (l : Lexer) : Nat :=
  match l.columns with
  | [] => 0
  | c :: _ => c + 1

/-- One token more. -/
def push (l : Lexer) (t : Token) : Lexer := { l with tokens := l.tokens.push t }

/-! ### Possible keys -/

/-- How far behind its start the colon of a key may stand. -/
def longestKey : Nat := 1024

/-- A possible key, unless the colon can no longer follow at the character `g`. -/
def liveKey? (g : Glyph) : Option KeyPlace → Option (Option KeyPlace)
  | none => some none
  | some k =>
    if k.line < g.line ∨ k.column + longestKey < g.column then
      if k.isRequired then none else some none
    else some (some k)

/-- The possible keys to which the colon can still follow at the character `g`. -/
def dropStaleKeys (l : Lexer) (g : Glyph) : Option Lexer := do
  return { l with key := ← liveKey? g l.key, outerKeys := ← l.outerKeys.mapM (liveKey? g) }

/-- Gives up the possible key. -/
def dropKey (l : Lexer) : Option Lexer :=
  match l.key with
  | some k => if k.isRequired then none else some { l with key := none }
  | none => some l

/-- Remembers the character `g` as the start of a possible key. -/
def saveKey (l : Lexer) (g : Glyph) : Option Lexer :=
  if l.mayStartKey then do
    let l ← l.dropKey
    let isRequired := !l.inFlow && l.indent = g.column + 1
    return { l with key := some ⟨l.tokens.size, g.line, g.column, isRequired⟩ }
  else some l

/-! ### Indentation -/

/-- Opens a collection at a column that is deeper than the innermost one's; its mark is put in
front of the token at `position`. -/
def openAt (l : Lexer) (column position : Nat) (mark : Token) : Lexer :=
  if !l.inFlow && l.indent ≤ column then
    { l with
      columns := column :: l.columns
      tokens := l.tokens.insertIdxIfInBounds position mark }
  else l

/-- Opens a collection in front of the next token. -/
def openHere (l : Lexer) (column : Nat) (mark : Token) : Lexer :=
  l.openAt column l.tokens.size mark

/-- Closes collections until the innermost one needs at most `width` columns. -/
def closeTo (l : Lexer) (width : Nat) : Lexer :=
  if l.inFlow then l
  else
    let closed := l.columns.takeWhile (width ≤ ·)
    { l with
      columns := l.columns.drop closed.length
      tokens := l.tokens ++ (closed.map fun _ => Token.blockEnd) }

/-! ### Blanks and comments -/

/-- What follows the blanks, line breaks and comments here, and whether a key may start there. -/
def skip (inFlow : Bool) : Source → (mayStartKey isComment : Bool) → Source × Bool
  | [], k, _ => ([], k)
  | g :: rest, k, isComment =>
    if g.isBreak then skip inFlow rest (k || !inFlow) false
    else if isComment then skip inFlow rest k true
    else if g.char = ' ' || (g.char = '\t' && (inFlow || !k)) then skip inFlow rest k false
    else if g.char = '#' then skip inFlow rest k true
    else (g :: rest, k)

/-! ### Tokens -/

/-- The start or end of a document, or a directive, closes everything. -/
def closeAll (l : Lexer) : Option Lexer := do
  return { ← (l.closeTo 0).dropKey with mayStartKey := false }

/-- Reads an opening bracket or brace. -/
def openBracket (l : Lexer) (g : Glyph) (mark : Token) : Option Lexer := do
  let l ← l.saveKey g
  return { l.push mark with
    outerKeys := l.key :: l.outerKeys
    key := none
    mayStartKey := true }

/-- Reads a closing bracket or brace. -/
def closeBracket (l : Lexer) (mark : Token) : Option Lexer := do
  let l ← l.dropKey
  let l := match l.outerKeys with
    | key :: outerKeys => { l with key, outerKeys }
    | [] => l
  return { l.push mark with mayStartKey := false }

/-- Reads a comma. -/
def comma (l : Lexer) : Option Lexer := do
  return { (← l.dropKey).push .comma with mayStartKey := true }

/-- Reads the dash in front of an item. -/
def item (l : Lexer) (g : Glyph) : Option Lexer := do
  if !l.inFlow && !l.mayStartKey then none
  let l ← (l.openHere g.column .listStart).dropKey
  return { l.push .item with mayStartKey := true }

/-- Reads the mark in front of a key. -/
def keyMark (l : Lexer) (g : Glyph) : Option Lexer := do
  if !l.inFlow && !l.mayStartKey then none
  let l ← (l.openHere g.column .mappingStart).dropKey
  return { l.push .key with mayStartKey := !l.inFlow }

/-- Reads the colon in front of a value. -/
def valueMark (l : Lexer) (g : Glyph) : Option Lexer :=
  match l.key with
  | some k =>
    let l := { l with
      tokens := l.tokens.insertIdxIfInBounds k.position .key
      key := none
      mayStartKey := false }
    some ((l.openAt k.column k.position .mappingStart).push .value)
  | none =>
    if !l.inFlow && !l.mayStartKey then none
    else
      let l := l.openHere g.column .mappingStart
      some { l.push .value with mayStartKey := !l.inFlow }

/-- Takes up a word that may be a key: a scalar, or what stands in front of one. -/
def word (l : Lexer) (g : Glyph) (read : Option (Token × Source)) : Option (Lexer × Source) := do
  let l ← l.saveKey g
  let (t, rest) ← read
  return ({ l.push t with mayStartKey := false }, rest)

/-- The scalar of some characters. -/
def scalar (isPlain : Bool) (read : Option (List Char × Source)) : Option (Token × Source) := do
  let (cs, rest) ← read
  return (.scalar (String.ofList cs) isPlain, rest)

/-- Takes up a scalar of whole lines. -/
def block (l : Lexer) (isFolded : Bool) (rest : Source) : Option (Lexer × Source) := do
  let l ← l.dropKey
  let (t, rest) ← scalar false (Block.read isFolded l.indent rest)
  return ({ l.push t with mayStartKey := true }, rest)

/-- Takes up a scalar without quotes. -/
def plain (l : Lexer) (g : Glyph) (s : Source) : Option (Lexer × Source) := do
  let l ← l.saveKey g
  let (cs, rest, isBroken) ← Plain.read l.inFlow l.indent s []
  return ({ l.push (.scalar (String.ofList cs) true) with mayStartKey := isBroken }, rest)

/-- Whether a scalar without quotes may start here. -/
def mayStartPlain (inFlow : Bool) (g : Glyph) (rest : Source) : Bool :=
  !(g.isGap || "-?:,[]\x7b\x7d#&*!|>'\"%@`".toList.contains g.char) ||
    (g.char = '-' && !Source.endsWord rest) ||
    (!inFlow && (g.char = '?' || g.char = ':') && !Source.endsWord rest)

/-- Reads the token that starts with the character `g`. -/
def token (l : Lexer) (g : Glyph) (rest : Source) : Option (Lexer × Source) := do
  let s := g :: rest
  let isMark := l.inFlow || Source.endsWord rest
  if g.column = 0 && g.char = '%' then
    let (t, rest) ← Source.directive? rest
    return ((← l.closeAll).push t, rest)
  else if Source.atThrice '-' s then return ((← l.closeAll).push .documentStart, rest.drop 2)
  else if Source.atThrice '.' s then return ((← l.closeAll).push .documentEnd, rest.drop 2)
  else if g.char = '[' then return (← l.openBracket g .bracketStart, rest)
  else if g.char = '\x7b' then return (← l.openBracket g .braceStart, rest)
  else if g.char = ']' then return (← l.closeBracket .bracketEnd, rest)
  else if g.char = '\x7d' then return (← l.closeBracket .braceEnd, rest)
  else if g.char = ',' then return (← l.comma, rest)
  else if g.char = '-' && Source.endsWord rest then return (← l.item g, rest)
  else if g.char = '?' && isMark then return (← l.keyMark g, rest)
  else if g.char = ':' && isMark then return (← l.valueMark g, rest)
  else if g.char = '*' then l.word g ((Source.name? rest).map fun r => (.alias r.1, r.2))
  else if g.char = '&' then l.word g ((Source.name? rest).map fun r => (.anchor r.1, r.2))
  else if g.char = '!' then l.word g (Source.tag? l.inFlow s)
  else if g.char = '|' && !l.inFlow then l.block false rest
  else if g.char = '>' && !l.inFlow then l.block true rest
  else if g.char = '\'' then l.word g (scalar false (SingleQuoted.read rest []))
  else if g.char = '"' then l.word g (scalar false (DoubleQuoted.read rest (.words [])))
  else if mayStartPlain l.inFlow g rest then l.plain g s
  else none

/-- Reads the next token, or closes everything at the end of the text. -/
def step (l : Lexer) (s : Source) : Option (Lexer × Source) :=
  let (s, mayStartKey) := skip l.inFlow s l.mayStartKey false
  let l := { l with mayStartKey }
  match s with
  | [] => do return (← l.closeAll, [])
  | g :: rest => do (← l.dropStaleKeys g).closeTo (g.column + 1) |>.token g rest

/-- Reads at most `fuel` tokens. -/
def run : Nat → Lexer → Source → Option Lexer
  | 0, l, _ => some l
  | fuel + 1, l, s => do
    let (l, rest) ← l.step s
    if rest.isEmpty then l.closeAll else run fuel l rest

end Lexer

/-- The tokens of a document.  Each takes at least one character. -/
def Token.scan (s : Source) : Option (List Token) := do
  return (← Lexer.run (s.length + 1) {} s).tokens.toList

end OutageWatch.Yaml
