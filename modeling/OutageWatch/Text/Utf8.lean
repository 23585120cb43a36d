/-!
# UTF-8

A byte sequence is decoded character by character.  The first byte of a character settles how many
bytes it has and, for the least and greatest codes of each length, the range of its second byte;
so neither overlong forms nor surrogates nor codes past the last one are accepted.

## Main definitions

* `Utf8.decode` : the characters of a byte sequence, or the first place where it is not UTF-8.
* `Utf8.Fault` : such a place; `Utf8.Fault.message` is its text.
* `Utf8.encode`, `Utf8.size` : the bytes of a text and their number.
-/

namespace OutageWatch.Utf8

/-- Where and how bytes are not UTF-8. -/
structure Fault where
  /-- The number of bytes before the faulty character. -/
  index : Nat
  /-- The number of bytes that cannot be continued, or `none` if the bytes end too early. -/
  length : Option Nat
  deriving DecidableEq, Repr

/-- The text that describes a fault. -/
def Fault.message (e : Fault) : String :=
  match e.length with
  | some n => s!"invalid utf-8 sequence of {n} bytes from index {e.index}"
  | none => s!"incomplete utf-8 byte sequence from index {e.index}"

/-- A byte that continues a character. -/
def isTail (b : UInt8) : Bool := 0x80 ≤ b && b ≤ 0xBF

/-- The second byte of a character of three bytes, given the first. -/
def isSecondOfThree (a b : UInt8) : Bool :=
  if a = 0xE0 then 0xA0 ≤ b && b ≤ 0xBF
  else if a = 0xED then 0x80 ≤ b && b ≤ 0x9F
  else isTail b

/-- The second byte of a character of four bytes, given the first. -/
def isSecondOfFour (a b : UInt8) : Bool :=
  if a = 0xF0 then 0x90 ≤ b && b ≤ 0xBF
  else if a = 0xF4 then 0x80 ≤ b && b ≤ 0x8F
  else isTail b

/-- The low six bits of a continuing byte. -/
def tailBits (b : UInt8) : Nat := b.toNat % 64

/-- How many bytes of a character begin at a byte; `0` if none does. -/
def width (a : UInt8) : Nat :=
  if a < 0x80 then 1
  else if 0xC2 ≤ a ∧ a ≤ 0xDF then 2
  else if 0xE0 ≤ a ∧ a ≤ 0xEF then 3
  else if 0xF0 ≤ a ∧ a ≤ 0xF4 then 4
  else 0

/-- The first character of bytes that are not empty, with its width, or the number of bytes that
cannot be continued. -/
def first (a : UInt8) (rest : List UInt8) : Except (Option Nat) (Char × Nat) :=
  match width a, rest with
  | 1, _ => .ok (Char.ofNat a.toNat, 1)
  | 2, [] => .error none
  | 2, b :: _ =>
    if isTail b then .ok (Char.ofNat (a.toNat % 32 * 64 + tailBits b), 2) else .error (some 1)
  | 3, [] => .error none
  | 3, b :: r =>
    if isSecondOfThree a b then
      match r with
      | [] => .error none
      | c :: _ =>
        if isTail c then
          .ok (Char.ofNat ((a.toNat % 16 * 64 + tailBits b) * 64 + tailBits c), 3)
        else .error (some 2)
    else .error (some 1)
  | 4, [] => .error none
  | 4, b :: r =>
    if isSecondOfFour a b then
      match r with
      | [] => .error none
      | c :: r =>
        if isTail c then
          match r with
          | [] => .error none
          | d :: _ =>
            if isTail d then
              .ok (Char.ofNat
                (((a.toNat % 8 * 64 + tailBits b) * 64 + tailBits c) * 64 + tailBits d), 4)
            else .error (some 3)
        else .error (some 2)
    else .error (some 1)
  | _, _ => .error (some 1)

/-- Decodes from byte `index` on, in front of the characters read so far, of which the last comes
first; `skip` bytes belong to the character before. -/
def decodeFrom : Nat → Nat → List Char → List UInt8 → Except Fault (List Char)
  | _, _, done, [] => .ok done.reverse
  | index, skip + 1, done, _ :: rest => decodeFrom (index + 1) skip done rest
  | index, 0, done, a :: rest =>
    match first a rest with
    | .ok (c, n) => decodeFrom (index + 1) (n - 1) (c :: done) rest
    | .error length => .error ⟨index, length⟩

/-- The characters of a byte sequence, or the first place where it is not UTF-8. -/
def decode (bytes : List UInt8) : Except Fault (List Char) := decodeFrom 0 0 [] bytes

/-- The bytes of a text. -/
def encode (cs : List Char) : List UInt8 := cs.flatMap String.utf8EncodeChar

/-- The number of bytes of a text. -/
def size (cs : List Char) : Nat := cs.foldr (fun c n => c.utf8Size + n) 0

end OutageWatch.Utf8
