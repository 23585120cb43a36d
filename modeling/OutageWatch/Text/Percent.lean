import OutageWatch.Text.Digits
import OutageWatch.Text.Utf8

/-!
# Percent signs

In an address a byte may be given by a percent sign and two hexadecimal digits.  Characters beyond
ASCII are always given that way, those of ASCII where the place asks for it.

## Main definitions

* `Percent.encode` : a text with some of its characters given as bytes.
* `Percent.decode` : the bytes that a text stands for.
-/

namespace OutageWatch.Percent

/-- A percent sign and the digits of a byte. -/
def byteText (b : UInt8) : List Char := '%' :: (Digits.hexFixed 2 b.toNat).map Char.toUpper

/-- A character as it is, or as its bytes. -/
def encodeChar (mustEncode : Char → Bool) (c : Char) : List Char :=
  if c.toNat < 128 && !mustEncode c then [c] else (Utf8.encode [c]).flatMap byteText

/-- A text with some of its characters given as bytes. -/
def encode (mustEncode : Char → Bool) (cs : List Char) : List Char :=
  cs.flatMap (encodeChar mustEncode)

/-- The bytes that a text stands for.  A percent sign without two digits stands for itself. -/
def decode : List Char → List UInt8
  | [] => []
  | '%' :: a :: b :: rest =>
    match Digits.hexValue? [a, b] with
    | some n => UInt8.ofNat n :: decode rest
    | none => Utf8.encode ['%'] ++ decode (a :: b :: rest)
  | c :: rest => Utf8.encode [c] ++ decode rest

end OutageWatch.Percent
