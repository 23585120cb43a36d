import OutageWatch.Text.Percent
import OutageWatch.Text.Split

/-!
# Hosts

The host of an address is a name or a number.  Under the schemes of the web a name does not depend
on case, its bytes may be given by percent signs, and a name that ends in a number has to be a
number of 32 bits, whole or in parts.  Under all others the name is left as it is.  A number of
128 bits stands between brackets.

## Main definitions

* `Url.Host`, `Url.Host.text` : a host and its text.
* `Url.Fault`, `Url.Fault.message` : why a text is no address.
* `Url.Host.ofWeb`, `Url.Host.ofOther` : the host that a text stands for.
-/

namespace OutageWatch.Url

/-- Why a text is no address. -/
inductive Fault where
  /-- There is no scheme in front. -/
  | relative
  | emptyHost
  | invalidName
  | invalidHostCharacter
  | invalidShortNumber
  | invalidLongNumber
  | invalidPort
  deriving DecidableEq, Repr

/-- The text of a fault. -/
def Fault.message : Fault → String
  | relative => "relative URL without a base"
  | emptyHost => "empty host"
  | invalidName => "invalid international domain name"
  | invalidHostCharacter => "invalid domain character"
  | invalidShortNumber => "invalid IPv4 address"
  | invalidLongNumber => "invalid IPv6 address"
  | invalidPort => "invalid port number"

/-- The host of an address. -/
inductive Host where
  | name (s : String)
  /-- A number of 32 bits. -/
  | short (n : Nat)
  /-- A number of 128 bits as eight groups of 16. -/
  | long (groups : List Nat)
  deriving DecidableEq, Repr

/-- The control characters, as far as ASCII goes. -/
def isControl (c : Char) : Bool := c < ' ' || c = '\x7f'

namespace Host

/-! ### Numbers of 32 bits -/

/-- A part of a number: decimal, octal behind a zero, hexadecimal behind `0x`. -/
def part? (cs : List Char) : Option Nat :=
  let inBase (base : Nat) (ds : List Char) : Option Nat :=
    ds.foldlM (fun n c => do
      let d ← Digits.hexDigit? c
      if d < base then some (base * n + d) else none) 0
  match cs with
  | [] => none
  | '0' :: 'x' :: ds => inBase 16 ds
  | '0' :: 'X' :: ds => inBase 16 ds
  | '0' :: d :: ds => inBase 8 (d :: ds)
  | ds => inBase 10 ds

/-- The parts of a name between its points; a point at the end does not count. -/
def pointParts (cs : List Char) : List (List Char) :=
  let parts := Text.split '.' cs
  if 1 < parts.length && parts.getLast? == some [] then parts.dropLast else parts

/-- Whether the last part of a name is a number. -/
def endsInNumber (cs : List Char) : Bool :=
  match (pointParts cs).getLast? with
  | some part => (!part.isEmpty && part.all Digits.isDecimal) || (part? part).isSome
  | none => false

/-- The number of its parts, each of one byte except the last, which fills up. -/
def short? (cs : List Char) : Option Nat := do
  let parts ← (pointParts cs).mapM part?
  let last ← parts.getLast?
  let firsts := parts.dropLast
  if 3 < firsts.length || firsts.any (255 < ·) || Nat.pow 256 (4 - firsts.length) ≤ last then none
  return firsts.foldl (fun n p => 256 * n + p) 0 * Nat.pow 256 (4 - firsts.length) + last

/-- The decimal bytes of a number with points between them. -/
def shortText (n : Nat) : String :=
  ".".intercalate ([n / 16777216, n / 65536 % 256, n / 256 % 256, n % 256].map toString)

/-! ### Numbers of 128 bits -/

/-- One to four hexadecimal digits. -/
def group? (cs : List Char) : Option Nat :=
  if cs.isEmpty || 4 < cs.length then none else Digits.hexValue? cs

/-- A decimal byte without leading zeros. -/
def byte? (cs : List Char) : Option Nat :=
  if cs.isEmpty || 3 < cs.length || !cs.all Digits.isDecimal ||
      (1 < cs.length && cs.head? == some '0') then none
  else
    let n := Digits.value cs
    if n ≤ 255 then some n else none

/-- Four decimal bytes as two groups. -/
def byteGroups? (cs : List Char) : Option (List Nat) := do
  match ← (Text.split '.' cs).mapM byte? with
  | [a, b, c, d] => return [256 * a + b, 256 * c + d]
  | _ => none

/-- Groups with colons between them; in the last place decimal bytes may stand if `mayEnd`. -/
def groups? (mayEnd : Bool) : List (List Char) → Option (List Nat)
  | [] => some []
  | [last] =>
    if mayEnd && last.contains '.' then byteGroups? last else (group? last).map ([·])
  | g :: gs => do return (← group? g) :: (← groups? mayEnd gs)

/-- The groups of a text that may be empty. -/
def groupsOf? (mayEnd : Bool) (cs : List Char) : Option (List Nat) :=
  if cs.isEmpty then some [] else groups? mayEnd (Text.split ':' cs)

/-- The text up to the first pair of colons and behind it. -/
def splitPair : List Char → Option (List Char × List Char)
  | ':' :: ':' :: rest => some ([], rest)
  | c :: rest => (splitPair rest).map fun p => (c :: p.1, p.2)
  | [] => none

/-- The eight groups of a number; a pair of colons stands for one or more groups of zeros. -/
def long? (cs : List Char) : Option (List Nat) := do
  match splitPair cs with
  | none =>
    let gs ← groupsOf? true cs
    if gs.length = 8 then return gs else none
  | some (before, after) =>
    let front ← groupsOf? false before
    let back ← groupsOf? true after
    if front.length + back.length < 8 then
      return front ++ List.replicate (8 - front.length - back.length) 0 ++ back
    else none

/-- How many zeros stand in front. -/
def zeros (gs : List Nat) : Nat := (gs.takeWhile (· == 0)).length

/-- Where the first of the longest runs of zeros starts, and how long it is. -/
def longestZeros (gs : List Nat) : Nat × Nat :=
  (List.range gs.length).foldl (fun best i =>
    let n := zeros (gs.drop i)
    if best.2 < n then (i, n) else best) (0, 0)

/-- The groups in hexadecimal digits; of several zeros in a row the longest run is left out. -/
def longText (gs : List Nat) : String :=
  let text (gs : List Nat) : String := ":".intercalate (gs.map fun g => String.ofList (Digits.hex g))
  let (start, n) := longestZeros gs
  if n < 2 then text gs else text (gs.take start) ++ "::" ++ text (gs.drop (start + n))

/-! ### Hosts -/

/-- The text of a host. -/
def text : Host → String
  | name s => s
  | short n => shortText n
  | long gs => "[" ++ longText gs ++ "]"

/-- The number between brackets. -/
def ofBrackets (cs : List Char) : Except Fault Host :=
  match cs.getLast?, long? cs.dropLast with
  | some ']', some gs => .ok (long gs)
  | _, _ => .error .invalidLongNumber

/-- What no name under a scheme of the web may contain. -/
def isForbiddenInName (c : Char) : Bool :=
  isControl c || " #/:<>?@[\\]^|%".toList.contains c

/-- The host of a text under a scheme of the web. -/
def ofWeb (cs : List Char) : Except Fault Host :=
  match cs with
  | '[' :: rest => ofBrackets rest
  | _ =>
    match Utf8.decode (Percent.decode cs) with
    | .error _ => .error .invalidName
    | .ok cs =>
      let cs := cs.map Char.toLower
      if cs.any isForbiddenInName then .error .invalidName
      else if cs.isEmpty then .error .emptyHost
      else if endsInNumber cs then
        match short? cs with
        | some n => .ok (short n)
        | none => .error .invalidShortNumber
      else .ok (name (String.ofList cs))

/-- What no name under another scheme may contain. -/
def isForbiddenInOther (c : Char) : Bool := "\x00\t\n\r #/:<>?@[\\]^|".toList.contains c

/-- The host of a text under another scheme. -/
def ofOther (cs : List Char) : Except Fault Host :=
  match cs with
  | '[' :: rest => ofBrackets rest
  | _ =>
    if cs.any isForbiddenInOther then .error .invalidHostCharacter
    else .ok (name (String.ofList (Percent.encode isControl cs)))

end Host

end OutageWatch.Url
