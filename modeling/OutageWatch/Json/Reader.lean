import OutageWatch.Json.Value
import OutageWatch.Json.Fault
import OutageWatch.Text.Utf8

/-!
# Reading JSON

A reader takes a value off the front of a text and leaves the rest, so a text is judged from left
to right: of two faults the one that comes first counts.  Structures are read member by member
with `moreItems`, `moreMembers` and `key`, which stop in front of the next item, and closed with
`endArray` and `endObject`.

## Main definitions

* `Json.Reader` : a reader, with its failures.
* `Json.Reader.string`, `Json.Reader.bool`, `Json.Reader.number`, `Json.Reader.int64`,
  `Json.Reader.listOf`, `Json.Reader.structured` : typed readers.
* `Json.Reader.value`, `Json.Reader.skip` : any value, kept or passed over.
* `Json.Reader.readAll`, `Json.parse` : reading a whole text.
-/

namespace OutageWatch.Json

/-- Takes a value off the front of a text, or fails. -/
abbrev Reader := StateT (List Char) (Except Fault)

namespace Reader

/-- Fails because the text is no JSON. -/
def malformed {α : Type} : Reader α := throw .malformed

/-- Fails because the text ends too early. -/
def truncated {α : Type} : Reader α := throw .truncated

/-- Fails because the value has another shape. -/
def mismatch {α : Type} (m : Mismatch) : Reader α := throw (.mismatch m)

/-! ### Characters -/

/-- A blank between tokens. -/
def isBlank (c : Char) : Bool := c = ' ' || c = '\n' || c = '\t' || c = '\r'

/-- The next character, left in place. -/
def peek? : Reader (Option Char) := do return (← get).head?

/-- Drops the next character. -/
def advance : Reader Unit := modify List.tail

/-- Skips blanks and gives the next character, left in place. -/
def token? : Reader (Option Char) := do
  modify (·.dropWhile isBlank)
  peek?

/-- Takes the given characters off the text. -/
def word : List Char → Reader Unit
  | [] => pure ()
  | c :: cs => do
    match ← peek? with
    | none => truncated
    | some d => if d = c then advance; word cs else malformed

/-! ### Strings -/

/-- The character of an escape of one letter. -/
def escapedChar? : Char → Option Char
  | '"' => some '"'
  | '\\' => some '\\'
  | '/' => some '/'
  | 'b' => some '\x08'
  | 'f' => some '\x0c'
  | 'n' => some '\n'
  | 'r' => some '\r'
  | 't' => some '\t'
  | _ => none

/-- The fault of a code escape that is followed by fewer than four characters: it is cut short
unless the rest of the text has four bytes all the same. -/
def shortCode (rest : List Char) : Fault :=
  if Utf8.size rest < 4 then .truncated else .malformed

/-- Reads a string after its opening quote.  `high` is the first half of a surrogate pair that
waits for the second; a lenient reading does not pair halves at all.  The characters read so far
come last to first. -/
def stringBody (lenient : Bool) :
    Option Nat → List Char → List Char → Except Fault (List Char × List Char)
  | _, _, [] => .error .truncated
  | some high, done, c :: rest =>
    if c ≠ '\\' then .error .malformed else
    match rest with
    | [] => .error .truncated
    | 'u' :: a :: b :: c :: d :: rest =>
      match Digits.hexValue? [a, b, c, d] with
      | none => .error .malformed
      | some low =>
        if 0xDC00 ≤ low ∧ low ≤ 0xDFFF then
          stringBody lenient none
            (Char.ofNat ((high - 0xD800) * 1024 + (low - 0xDC00) + 0x10000) :: done) rest
        else .error .malformed
    | 'u' :: rest => .error (shortCode rest)
    | _ :: _ => .error .malformed
  | none, done, '"' :: rest => .ok (done.reverse, rest)
  | none, _, '\\' :: [] => .error .truncated
  | none, done, '\\' :: 'u' :: a :: b :: c :: d :: rest =>
    match Digits.hexValue? [a, b, c, d] with
    | none => .error .malformed
    | some code =>
      if lenient then stringBody lenient none done rest
      else if 0xDC00 ≤ code ∧ code ≤ 0xDFFF then .error .malformed
      else if 0xD800 ≤ code ∧ code ≤ 0xDBFF then stringBody lenient (some code) done rest
      else stringBody lenient none (Char.ofNat code :: done) rest
  | none, _, '\\' :: 'u' :: rest => .error (shortCode rest)
  | none, done, '\\' :: e :: rest =>
    match escapedChar? e with
    | some c => stringBody lenient none (c :: done) rest
    | none => .error .malformed
  | none, done, c :: rest =>
    if c.toNat < 0x20 then .error .malformed else stringBody lenient none (c :: done) rest

/-- Reads a string of which the opening quote comes next. -/
def quotedString (lenient : Bool) : Reader String := do
  advance
  match stringBody lenient none [] (← get) with
  | .ok (s, rest) => set rest; return String.ofList s
  | .error e => throw e

/-! ### Numbers -/

/-- The parts of a number as it is written. -/
structure Numeral where
  negative : Bool
  whole : List Char
  fraction : Option (List Char)
  /-- Whether the exponent is negative, and its digits. -/
  exponent : Option (Bool × List Char)
  deriving DecidableEq, Repr

/-- Takes a run of digits, possibly empty. -/
def digits : Reader (List Char) := do
  let cs ← get
  set (cs.dropWhile Digits.isDecimal)
  return cs.takeWhile Digits.isDecimal

/-- Takes a run of digits that must not be empty; `early` is the fault if the text ends instead. -/
def someDigits (early : Fault) : Reader (List Char) := do
  match ← digits with
  | [] => if (← get).isEmpty then throw early else malformed
  | ds => return ds

/-- Reads the parts of a number, of which the sign or the first digit comes next. -/
def numeral (early : Fault) : Reader Numeral := do
  let negative := decide ((← peek?) = some '-')
  if negative then advance
  let whole ← someDigits early
  if whole.length > 1 ∧ whole.head? = some '0' then malformed
  let mut fraction := none
  if (← peek?) = some '.' then
    advance
    fraction := some (← someDigits early)
  let mut exponent := none
  if (← peek?) = some 'e' ∨ (← peek?) = some 'E' then
    advance
    let sign ← peek?
    if sign = some '+' ∨ sign = some '-' then advance
    exponent := some (decide (sign = some '-'), ← someDigits early)
  return ⟨negative, whole, fraction, exponent⟩

/-- The leading digits of a run that still give a significand of at most 64 bits, taken up into
`n`, and the number of digits left over. -/
def significandOf : Nat → List Char → Nat × Nat
  | n, [] => (n, 0)
  | n, c :: cs =>
    let m := 10 * n + Digits.digitValue c
    if greatestNat < m then (n, cs.length + 1) else significandOf m cs

/-- The value of a number: an integer if it is written as one and fits, else a floating point
number; `none` if it is beyond the range of those.  Minus zero is no integer. -/
def Numeral.value? (s : Numeral) : Option Number :=
  let (n, dropped) := significandOf 0 s.whole
  match s.fraction, s.exponent with
  | none, none =>
    if dropped = 0 ∧ ¬ s.negative then some (.integer n)
    else if dropped = 0 ∧ 0 < n ∧ leastInt ≤ -n then some (.integer (-n))
    else (Binary64.scaleByTen? s.negative n dropped).map .real
  | fraction, exponent =>
    let places := fraction.getD []
    let (m, unread) := significandOf n places
    let shift : Int := dropped - (places.length - unread : Nat)
    let (down, power) := match exponent with
      | none => (false, 0)
      | some (down, ds) => (down, Digits.value ds)
    if 2147483648 ≤ power then
      if m = 0 ∨ down then some (.real (Binary64.zero s.negative)) else none
    else
      (Binary64.scaleByTen? s.negative m (if down then shift - power else shift + power)).map .real

/-- Reads a number, of which the sign or the first digit comes next. -/
def number : Reader Number := do
  match (← numeral .truncated).value? with
  | some n => return n
  | none => malformed

/-! ### Other types -/

/-- What a number is described as where it was not expected. -/
def foundNumber : Number → Found
  | .integer n => .integer n
  | .real x => .real x

/-- Whether a character begins a number. -/
def isNumberStart (c : Char) : Bool := c = '-' || Digits.isDecimal c

/-- Reads so much of the next value as its description takes. -/
def found : Reader Found := do
  match ← peek? with
  | some 'n' => word ['n', 'u', 'l', 'l']; return .null
  | some 't' => word ['t', 'r', 'u', 'e']; return .bool true
  | some 'f' => word ['f', 'a', 'l', 's', 'e']; return .bool false
  | some '"' => return .string (← quotedString false)
  | some '[' => return .array
  | some '\x7b' => return .object
  | some c => if isNumberStart c then return foundNumber (← number) else malformed
  | none => malformed

/-- Fails because the next value is not of the expected type. -/
def unexpected {α : Type} (expected : String) : Reader α := do
  mismatch (.wrongType (← found) expected)

/-- Reads a string; `expected` is what a value of another type is told. -/
def string (expected : String) : Reader String := do
  match ← token? with
  | none => truncated
  | some '"' => quotedString false
  | some _ => unexpected expected

/-- Reads a truth value. -/
def bool : Reader Bool := do
  match ← token? with
  | none => truncated
  | some 't' => word ['t', 'r', 'u', 'e']; return true
  | some 'f' => word ['f', 'a', 'l', 's', 'e']; return false
  | some _ => unexpected "a boolean"

/-- Reads a number as an integer between the given bounds. -/
def intBetween (low high : Int) (expected : String) : Reader Int := do
  match ← token? with
  | none => truncated
  | some c =>
    if isNumberStart c then
      match ← number with
      | .integer n =>
        if low ≤ n ∧ n ≤ high then return n
        else mismatch (.wrongValue (.integer n) expected)
      | .real x => mismatch (.wrongType (.real x) expected)
    else unexpected expected

/-- Reads a signed integer of 64 bits. -/
def int64 : Reader Int := intBetween leastInt greatestInt "i64"

/-- Reads `null` as nothing and anything else with the given reader. -/
def orNull {α : Type} (r : Reader α) : Reader (Option α) := do
  if (← token?) = some 'n' then
    word ['n', 'u', 'l', 'l']
    return none
  else return some (← r)

/-! ### Arrays and objects -/

/-- Whether another item follows; stops in front of it or of the closing bracket. -/
def moreItems (first : Bool) : Reader Bool := do
  match ← token? with
  | none => truncated
  | some ']' => return false
  | some c =>
    if first then return true
    else if c = ',' then
      advance
      match ← token? with
      | none => truncated
      | some ']' => malformed
      | some _ => return true
    else malformed

/-- Closes an array. -/
def endArray : Reader Unit := do
  match ← token? with
  | none => truncated
  | some ']' => advance
  | some _ => malformed

/-- Whether another member follows; stops in front of its name or of the closing brace. -/
def moreMembers (first : Bool) : Reader Bool := do
  match ← token? with
  | none => truncated
  | some '\x7d' => return false
  | some c =>
    if first then
      if c = '"' then return true else malformed
    else if c = ',' then
      advance
      match ← token? with
      | none => truncated
      | some '"' => return true
      | some _ => malformed
    else malformed

/-- Reads the colon between a name and its value. -/
def colon : Reader Unit := do
  match ← token? with
  | none => truncated
  | some ':' => advance
  | some _ => malformed

/-- Closes an object. -/
def endObject : Reader Unit := do
  match ← token? with
  | none => truncated
  | some '\x7d' => advance
  | some _ => malformed

/-- Reads items up to the closing bracket and takes each up into a state.  Every item has at least
one character, so the length of the text bounds their number. -/
def foldItems {σ : Type} (step : σ → Reader σ) : Nat → Bool → σ → Reader σ
  | 0, _, _ => malformed
  | fuel + 1, first, s => do
    if ← moreItems first then foldItems step fuel false (← step s) else return s

/-- Reads members up to the closing brace and takes each up into a state; `step` is given the name
and stands in front of the colon. -/
def foldMembers {σ : Type} (lenient : Bool) (step : σ → String → Reader σ) :
    Nat → Bool → σ → Reader σ
  | 0, _, _ => malformed
  | fuel + 1, first, s => do
    if ← moreMembers first then
      let name ← quotedString lenient
      foldMembers lenient step fuel false (← step s name)
    else return s

/-- A bound on the number of items and members in the rest of the text. -/
def bound : Reader Nat := do return (← get).length + 1

/-- Reads the items of an array that has been opened, and closes it. -/
def items {α : Type} (item : Reader α) : Reader (List α) := do
  let rev ← foldItems (fun s => do return (← item) :: s) (← bound) true []
  endArray
  return rev.reverse

/-- Reads an array whose items are read by the given reader. -/
def listOf {α : Type} (item : Reader α) : Reader (List α) := do
  match ← token? with
  | none => truncated
  | some '[' => advance; items item
  | some _ => unexpected "a sequence"

/-- Reads a structure, either as an array of its fields in order or as an object. -/
def structured {α : Type} (expected : String) (ofItems ofMembers : Reader α) : Reader α := do
  match ← token? with
  | none => truncated
  | some '[' => do
    advance
    let a ← ofItems
    endArray
    return a
  | some '\x7b' => do
    advance
    let a ← ofMembers
    endObject
    return a
  | some _ => unexpected expected

/-- Reads the next field of a structure that is written as an array; `index` counts from zero. -/
def itemAt {α : Type} (index : Nat) (expected : String) (r : Reader α) : Reader α := do
  if ← moreItems (index = 0) then r else mismatch (.wrongLength index expected)

/-! ### Any value -/

/-- The greatest number of arrays and objects one inside the other. -/
def maxDepth : Nat := 127

/-- Reads any value with at most `depth` arrays and objects one inside the other. -/
def value (depth : Nat) : Reader Json := do
  match ← token? with
  | none => truncated
  | some 'n' => word ['n', 'u', 'l', 'l']; return .null
  | some 't' => word ['t', 'r', 'u', 'e']; return .bool true
  | some 'f' => word ['f', 'a', 'l', 's', 'e']; return .bool false
  | some '"' => return .string (← quotedString false)
  | some '[' =>
    match depth with
    | 0 => malformed
    | depth + 1 => advance; return .array (← items (value depth))
  | some '\x7b' =>
    match depth with
    | 0 => malformed
    | depth + 1 => do
      advance
      let rev ← foldMembers false
        (fun s name => do colon; return (name, ← value depth) :: s) (← bound) true []
      endObject
      return .object rev.reverse
  | some c => if isNumberStart c then return .number (← number) else malformed

/-- Passes over a value.  It must be JSON, but halves of surrogate pairs may stand alone, numbers
may have any size and nesting any depth up to the given one. -/
def skipWithin (depth : Nat) : Reader Unit := do
  match ← token? with
  | none => truncated
  | some 'n' => word ['n', 'u', 'l', 'l']
  | some 't' => word ['t', 'r', 'u', 'e']
  | some 'f' => word ['f', 'a', 'l', 's', 'e']
  | some '"' => let _ ← quotedString true
  | some '[' =>
    match depth with
    | 0 => malformed
    | depth + 1 => do
      advance
      foldItems (fun _ => skipWithin depth) (← bound) true ()
      endArray
  | some '\x7b' =>
    match depth with
    | 0 => malformed
    | depth + 1 => do
      advance
      foldMembers true (fun _ _ => do colon; skipWithin depth) (← bound) true ()
      endObject
  | some c => if isNumberStart c then let _ ← numeral .malformed else malformed

/-- Passes over a value of any depth: each level takes a character of the text. -/
def skip : Reader Unit := do skipWithin (← bound)

/-! ### Members by name -/

/-- Reads the value of a member that must not have come before. -/
def once {α : Type} (name : String) (slot : Option α) (r : Reader α) : Reader (Option α) :=
  if slot.isSome then mismatch (.duplicateField name)
  else do
    colon
    return some (← r)

/-- The value of a member that must have come. -/
def required {α : Type} (name : String) (slot : Option α) : Reader α :=
  match slot with
  | some a => return a
  | none => mismatch (.missingField name)

/-- Passes over a member. -/
def ignore : Reader Unit := do
  colon
  skip

/-- Reads an object by its members; nothing but an object will do. -/
def objectOf {σ : Type} (start : σ) (step : σ → String → Reader σ) : Reader σ := do
  match ← token? with
  | none => truncated
  | some '\x7b' =>
    advance
    let s ← foldMembers false step (← bound) true start
    endObject
    return s
  | some _ => unexpected "a map"

/-! ### Whole texts -/

/-- Reads a whole text: after the value only blanks may follow. -/
def readAll {α : Type} (r : Reader α) (text : List Char) : Except Fault α := do
  let (a, rest) ← r.run text
  if (rest.dropWhile isBlank).isEmpty then return a else throw .malformed

end Reader

/-- The JSON value that a text is. -/
def parse (text : String) : Except Fault Json :=
  Reader.readAll (Reader.value Reader.maxDepth) text.toList

end OutageWatch.Json
