import OutageWatch.Text.Digits

/-!
# Base64

Bytes are written in quads of letters, digits, plus signs and slashes; the last quad is filled up
with equals signs, and its bits that belong to no byte are zero.  Here only the faults of a text
are of interest.

## Main definitions

* `Base64.Fault`, `Base64.Fault.message` : why bytes are no such text.
* `Base64.fault?` : the first fault of a text.
-/

namespace OutageWatch.Base64

/-- Why bytes are no such text. -/
inductive Fault where
  | symbol (offset : Nat) (byte : UInt8)
  | lastSymbol (offset : Nat) (byte : UInt8)
  | length (n : Nat)
  | padding
  deriving DecidableEq, Repr

/-- The text of a fault. -/
def Fault.message : Fault → String
  | symbol offset byte => s!"Invalid symbol {byte}, offset {offset}."
  | lastSymbol offset byte => s!"Invalid last symbol {byte}, offset {offset}."
  | length n => s!"Invalid input length: {n}"
  | padding => "Invalid padding"

/-- The six bits of a symbol. -/
def bits? (b : UInt8) : Option Nat :=
  let c := Char.ofNat b.toNat
  if 128 ≤ b.toNat then none
  else if c.isUpper then some (b.toNat - 65)
  else if c.isLower then some (b.toNat - 71)
  else if c.isDigit then some (b.toNat + 4)
  else if c = '+' then some 62
  else if c = '/' then some 63
  else none

/-- The byte that fills up the last quad. -/
def filler : UInt8 := 61

/-- The first byte that is no symbol. -/
def foreign? (offset : Nat) (bytes : List UInt8) : Option Fault :=
  (bytes.zipIdx offset).findSome? fun b =>
    if (bits? b.1).isNone then some (.symbol b.2 b.1) else none

/-- The fault of the last quad: its symbols come first, at least two of them, then the fillers. -/
def lastFault? (offset : Nat) (bytes : List UInt8) : Option Fault :=
  let symbols := bytes.takeWhile (· ≠ filler)
  let fillers := bytes.drop symbols.length
  match foreign? offset symbols with
  | some fault => some fault
  | none =>
    if !fillers.isEmpty && (symbols.length < 2 || fillers.any (· ≠ filler)) then
      some (.symbol (offset + symbols.length) filler)
    else if symbols.length < 2 then some (.length (offset + symbols.length))
    else if bytes.length ≠ 4 then some .padding
    else
      let value := symbols.foldl (fun n b => 64 * n + (bits? b).getD 0) 0
      let spare := Nat.pow 2 (6 * symbols.length % 8)
      if value % spare ≠ 0 then
        some (.lastSymbol (offset + symbols.length - 1) (symbols.getLast?.getD 0))
      else none

/-- The first fault of a text.  A last byte that is no symbol and starts a quad is noticed before
all others. -/
def fault? (bytes : List UInt8) : Option Fault :=
  let rest := bytes.length % 4
  let start := bytes.length - (if rest = 0 then min 4 bytes.length else rest)
  let last := bytes.drop start
  let early := if rest = 1 && last.any (· ≠ filler) then foreign? start last else none
  match early, foreign? 0 (bytes.take start) with
  | some fault, _ => some fault
  | none, some fault => some fault
  | none, none => if bytes.isEmpty then none else lastFault? start last

end OutageWatch.Base64
