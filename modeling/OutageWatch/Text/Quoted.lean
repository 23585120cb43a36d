import OutageWatch.Text.Digits
import OutageWatch.Text.Hidden

/-!
# Quoted text in messages

Messages show a text between double quotes.  Inside, a double quote and a backslash follow a
backslash, the end of text, tab, line feed and carriage return have letters of their own, and any
other character that does not show by itself is given by its hexadecimal code in braces.

## Main definitions

* `Text.quotedChar` : how one character is shown.
* `Text.quoted` : the quoted text.
-/

namespace OutageWatch.Text

/-- How one character is shown between quotes. -/
def quotedChar (c : Char) : List Char :=
  if c = '"' then ['\\', '"']
  else if c = '\\' then ['\\', '\\']
  else if c = '\x00' then ['\\', '0']
  else if c = '\t' then ['\\', 't']
  else if c = '\n' then ['\\', 'n']
  else if c = '\r' then ['\\', 'r']
  else if isHidden c then ['\\', 'u', '\x7b'] ++ Digits.hex c.toNat ++ ['\x7d']
  else [c]

/-- The text between double quotes, with the characters that need it escaped. -/
def quoted (s : String) : String :=
  String.ofList ('"' :: (s.toList.flatMap quotedChar ++ ['"']))

end OutageWatch.Text
