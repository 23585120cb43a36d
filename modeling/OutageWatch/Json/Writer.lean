import OutageWatch.Json.Value
import OutageWatch.Binary64.Shortest

/-!
# Writing JSON

A value is written without blanks, members in their order.  In a string only the double quote, the
backslash and the control characters below the blank are escaped, those with a letter of their own
by that letter.

## Main definitions

* `Json.escapedChar`, `Json.stringText` : a character inside a string, and a string.
* `Json.chars`, `Json.text` : a value.
-/

namespace OutageWatch.Json

/-- How a character is written inside a string. -/
def escapedChar (c : Char) : List Char :=
  if c = '"' then ['\\', '"']
  else if c = '\\' then ['\\', '\\']
  else if c = '\x08' then ['\\', 'b']
  else if c = '\x0c' then ['\\', 'f']
  else if c = '\n' then ['\\', 'n']
  else if c = '\r' then ['\\', 'r']
  else if c = '\t' then ['\\', 't']
  else if c.toNat < 0x20 then '\\' :: 'u' :: Digits.hexFixed 4 c.toNat
  else [c]

/-- A string between its quotes. -/
def stringText (s : String) : List Char := '"' :: (s.toList.flatMap escapedChar ++ ['"'])

/-- The text of a number. -/
def numberText : Number → List Char
  | .integer n => Digits.int n
  | .real x => x.text

mutual

/-- The text of a value. -/
def chars : Json → List Char
  | .null => ['n', 'u', 'l', 'l']
  | .bool true => ['t', 'r', 'u', 'e']
  | .bool false => ['f', 'a', 'l', 's', 'e']
  | .number n => numberText n
  | .string s => stringText s
  | .array items => '[' :: (itemChars items ++ [']'])
  | .object members => '\x7b' :: (memberChars members ++ ['\x7d'])

/-- The texts of items, with commas between them. -/
def itemChars : List Json → List Char
  | [] => []
  | [j] => chars j
  | j :: k :: rest => chars j ++ ',' :: itemChars (k :: rest)

/-- The texts of members, with commas between them. -/
def memberChars : List (String × Json) → List Char
  | [] => []
  | [(name, j)] => stringText name ++ ':' :: chars j
  | (name, j) :: m :: rest => stringText name ++ ':' :: chars j ++ ',' :: memberChars (m :: rest)

end

/-- The text of a value, as a string. -/
def text (j : Json) : String := String.ofList j.chars

end OutageWatch.Json
