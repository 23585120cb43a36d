import OutageWatch.Text.Digits
import OutageWatch.Text.Utf8
import OutageWatch.Yaml.Source
import OutageWatch.Yaml.Token

/-!
# Names, tags and directives

The names of anchors and aliases, the parts of a tag, and the lines that start with a percent
sign.

## Main definitions

* `Yaml.Source.name?` : the name of an anchor or alias.
* `Yaml.Source.tag?` : a tag.
* `Yaml.Source.directive?` : a directive.
-/

namespace OutageWatch.Yaml.Source

/-- The text of some characters. -/
def text (s : Source) : String := String.ofList (s.map Glyph.char)

/-- The characters in front that satisfy `p`, and those behind them. -/
def span (p : Char → Bool) (s : Source) : Source × Source :=
  (s.takeWhile fun g => p g.char, s.dropWhile fun g => p g.char)

/-- Leaves out a character that has to stand here. -/
def expect (c : Char) : Source → Option Source
  | [] => none
  | g :: rest => if g.char = c then some rest else none

/-- A letter, a digit, an underscore or a hyphen. -/
def isNameChar (c : Char) : Bool := c.isAlphanum || c = '_' || c = '-'

/-! ### Names -/

/-- The marks that may follow a name directly. -/
def mayFollowName (s : Source) : Bool :=
  match s with
  | [] => true
  | g :: _ => g.isGap || "?:,]\x7d%@`".toList.contains g.char

/-- The name of an anchor or alias behind its mark, and what follows it. -/
def name? (s : Source) : Option (String × Source) :=
  let (name, rest) := span isNameChar s
  if name.isEmpty || !mayFollowName rest then none else some (text name, rest)

/-! ### Tags -/

/-- A character of a tag; some more are allowed where `isLong`. -/
def isTagChar (isLong : Bool) (c : Char) : Bool :=
  isNameChar c || ";/?:@&=+$.%!~*'()".toList.contains c || (isLong && ",[]".toList.contains c)

/-- The bytes of a run of characters, where a percent sign stands in front of the hexadecimal
digits of a byte. -/
def unescape : List Char → Option (List UInt8)
  | [] => some []
  | '%' :: a :: b :: rest => do
    let n ← Digits.hexValue? [a, b]
    return UInt8.ofNat n :: (← unescape rest)
  | '%' :: _ => none
  | c :: rest => do return Utf8.encode [c] ++ (← unescape rest)

/-- The part of a tag behind its handle, and what follows it. -/
def tagRest? (isLong : Bool) (s : Source) : Option (String × Source) := do
  let (cs, rest) := span (isTagChar isLong) s
  let bytes ← unescape (cs.map Glyph.char)
  return (String.ofList (← (Utf8.decode bytes).toOption), rest)

/-- A name between exclamation marks, and what follows it; the second mark may be missing. -/
def handle? (s : Source) : Option (String × Source) := do
  let s ← expect '!' s
  let (name, rest) := span isNameChar s
  match rest with
  | ⟨'!', _, _⟩ :: rest => return ("!" ++ (text name) ++ "!", rest)
  | _ => return ("!" ++ (text name), rest)

/-- Whether a tag may end here. -/
def endsTag (inFlow : Bool) (s : Source) : Bool :=
  endsWord s || (inFlow && (match s with
    | g :: _ => g.char = ','
    | [] => true))

/-- A tag as its handle and the rest, and what follows it. -/
def tag? (inFlow : Bool) (s : Source) : Option (Token × Source) := do
  let (token, s) ← (match s with
    | ⟨'!', _, _⟩ :: ⟨'<', _, _⟩ :: s => do
      let (rest, s) ← tagRest? true s
      if rest.isEmpty then none
      return (Token.tag "" rest, ← expect '>' s)
    | s => do
      let (handle, after) ← handle? s
      if handle.endsWith "!" && handle ≠ "!" then
        let (rest, s) ← tagRest? false after
        if rest.isEmpty then none
        return (Token.tag handle rest, s)
      else
        let (rest, s) ← tagRest? false (s.drop 1)
        return (if rest.isEmpty then Token.tag "" "!" else Token.tag "!" rest, s))
  if endsTag inFlow s then some (token, s) else none

/-! ### Directives -/

/-- A number of at most nine digits, and what follows it. -/
def number? (s : Source) : Option (Nat × Source) :=
  let (ds, rest) := span Digits.isDecimal s
  if ds.isEmpty || 9 < ds.length then none else some (Digits.value (ds.map Glyph.char), rest)

/-- Leaves out the blanks in front. -/
def skipBlanks (s : Source) : Source := s.dropWhile Glyph.isBlank

/-- What follows a line of which only blanks and a comment are left. -/
def endLine? (s : Source) : Option Source :=
  match skipBlanks s with
  | ⟨'#', _, _⟩ :: rest => some ((dropLine rest).drop 1)
  | [] => some []
  | g :: rest => if g.isBreak then some rest else none

/-- A directive behind its percent sign, and what follows its line. -/
def directive? (s : Source) : Option (Token × Source) := do
  let (name, s) := span isNameChar s
  if !endsWord s then none
  let (token, s) ← (match text name with
    | "YAML" => do
      let (major, s) ← number? (skipBlanks s)
      let (minor, s) ← number? (← expect '.' s)
      return (Token.version major minor, s)
    | "TAG" => do
      let (handle, s) ← handle? (skipBlanks s)
      if handle ≠ "!" && !handle.endsWith "!" then none
      let after := skipBlanks s
      if after.length = s.length then none
      let (meaning, s) ← tagRest? true after
      if meaning.isEmpty || !endsWord s then none
      return (Token.handle handle meaning, s)
    | _ => none)
  return (token, ← endLine? s)

end OutageWatch.Yaml.Source
