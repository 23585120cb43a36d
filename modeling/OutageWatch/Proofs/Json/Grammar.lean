import OutageWatch.Json.Reader

/-!
# The grammar of JSON texts

A JSON text is described by a tree, which keeps all of the text but its blanks: of a number the
parts as they are written, of a string each escaped code, of an object every member, repeated or
not.  The grammar relates a tree to a text that begins with it and to the rest of that text, and
knows nothing of how a text is read.

What a text *means* is told from its tree.  A string may contain halves of surrogate pairs that do
not belong together, and a number may be out of range; then the tree has no value.

## Main definitions

* `Json.Piece`, `Json.Piece.chars?` : a piece of a string as it is written, and the characters that
  pieces mean.
* `Json.Tree`, `Json.Tree.Spans` : a text as a tree, and where it ends.
* `Json.Tree.IsText` : a whole text, with blanks around it.
* `Json.Tree.value?`, `Json.Tree.fields?` : the value that a tree means, and its members by name.
-/

namespace OutageWatch.Json

open Reader (escapedChar? Numeral)

/-! ### Blanks -/

/-- The rest of a text comes after any number of blanks. -/
inductive Gap : List Char → List Char → Prop
  | nil (text : List Char) : Gap text text
  | cons {c : Char} {text rest : List Char} (hc : Reader.isBlank c = true) (h : Gap text rest) :
      Gap (c :: text) rest

/-- The rest of a text comes after a colon with blanks around it. -/
def Colon (text rest : List Char) : Prop := ∃ mid, Gap text (':' :: mid) ∧ Gap mid rest

/-- What an array or object consists of comes after blanks, and all but the first after a comma with
blanks around it. -/
inductive Lead : Bool → List Char → List Char → Prop
  | first {text rest : List Char} (h : Gap text rest) : Lead true text rest
  | next {text mid rest : List Char} (h : Gap text (',' :: mid)) (h' : Gap mid rest) :
      Lead false text rest

/-! ### Strings -/

/-- A piece of a string as it is written. -/
inductive Piece where
  /-- A character, which may be escaped by a letter. -/
  | char (c : Char)
  /-- A code of sixteen bits, escaped by its digits. -/
  | code (n : Nat)
  deriving DecidableEq, Repr

namespace Piece

/-- A text begins with a piece. -/
inductive Spans : Piece → List Char → List Char → Prop
  | plain {c : Char} {rest : List Char} (hquote : c ≠ '"') (hslash : c ≠ '\\')
      (hc : 0x20 ≤ c.toNat) : Spans (.char c) (c :: rest) rest
  | letter {e c : Char} {rest : List Char} (h : escapedChar? e = some c) :
      Spans (.char c) ('\\' :: e :: rest) rest
  | code {a b c d : Char} {n : Nat} {rest : List Char}
      (h : Digits.hexValue? [a, b, c, d] = some n) :
      Spans (.code n) ('\\' :: 'u' :: a :: b :: c :: d :: rest) rest

/-- A text begins with pieces. -/
inductive ListSpans : List Piece → List Char → List Char → Prop
  | nil (text : List Char) : ListSpans [] text text
  | cons {p : Piece} {ps : List Piece} {text mid rest : List Char} (hp : p.Spans text mid)
      (hps : ListSpans ps mid rest) : ListSpans (p :: ps) text rest

/-- The first half of a surrogate pair. -/
def IsHigh (n : Nat) : Prop := 0xD800 ≤ n ∧ n ≤ 0xDBFF

/-- The second half of a surrogate pair. -/
def IsLow (n : Nat) : Prop := 0xDC00 ≤ n ∧ n ≤ 0xDFFF

instance (n : Nat) : Decidable (IsHigh n) := inferInstanceAs (Decidable (_ ∧ _))

instance (n : Nat) : Decidable (IsLow n) := inferInstanceAs (Decidable (_ ∧ _))

/-- The character of a surrogate pair. -/
def paired (high low : Nat) : Char :=
  Char.ofNat ((high - 0xD800) * 1024 + (low - 0xDC00) + 0x10000)

/-- The characters that pieces mean.  Halves of surrogate pairs must belong together; a lenient
reading passes over all codes instead. -/
def chars? (lenient : Bool) : List Piece → Option (List Char)
  | [] => some []
  | .char c :: ps => (chars? lenient ps).map (c :: ·)
  | .code n :: ps =>
    if lenient then chars? lenient ps
    else if IsLow n then none
    else if IsHigh n then
      match ps with
      | .code m :: ps => if IsLow m then (chars? lenient ps).map (paired n m :: ·) else none
      | _ => none
    else (chars? lenient ps).map (Char.ofNat n :: ·)
termination_by ps => ps.length

@[simp] theorem chars?_nil (lenient : Bool) : chars? lenient [] = some [] := by rw [chars?]

@[simp] theorem chars?_char (lenient : Bool) (c : Char) (ps : List Piece) :
    chars? lenient (.char c :: ps) = (chars? lenient ps).map (c :: ·) := by rw [chars?]

@[simp] theorem chars?_code_of_lenient (n : Nat) (ps : List Piece) :
    chars? true (.code n :: ps) = chars? true ps := by
  rw [chars?.eq_def]
  rfl

theorem chars?_code {n : Nat} (hhigh : ¬ IsHigh n) (hlow : ¬ IsLow n) (ps : List Piece) :
    chars? false (.code n :: ps) = (chars? false ps).map (Char.ofNat n :: ·) := by
  rw [chars?.eq_def]
  simp [hhigh, hlow]

theorem chars?_pair {n m : Nat} (hn : IsHigh n) (hm : IsLow m) (ps : List Piece) :
    chars? false (.code n :: .code m :: ps) = (chars? false ps).map (paired n m :: ·) := by
  have hlow : ¬ IsLow n := fun h => absurd h.1 (by have := hn.2; omega)
  rw [chars?.eq_def]
  simp [hn, hm, hlow]

/-- The string that pieces mean. -/
def name? (lenient : Bool) (ps : List Piece) : Option String :=
  (chars? lenient ps).map String.ofList

/-- A text begins with pieces between quotes. -/
inductive Quoted : List Piece → List Char → List Char → Prop
  | mk {ps : List Piece} {text rest : List Char} (h : ListSpans ps text ('"' :: rest)) :
      Quoted ps ('"' :: text) rest

end Piece

/-! ### Numbers -/

/-- A run of decimal digits that is not empty. -/
structure DigitRun (ds : List Char) : Prop where
  ne_nil : ds ≠ []
  isDecimal : ∀ c ∈ ds, Digits.isDecimal c = true

/-- How an exponent may be written. -/
inductive ExponentText : Option (Bool × List Char) → List Char → Prop
  | absent : ExponentText none []
  | plain {e : Char} {ds : List Char} (he : e = 'e' ∨ e = 'E') (h : DigitRun ds) :
      ExponentText (some (false, ds)) (e :: ds)
  | plus {e : Char} {ds : List Char} (he : e = 'e' ∨ e = 'E') (h : DigitRun ds) :
      ExponentText (some (false, ds)) (e :: '+' :: ds)
  | minus {e : Char} {ds : List Char} (he : e = 'e' ∨ e = 'E') (h : DigitRun ds) :
      ExponentText (some (true, ds)) (e :: '-' :: ds)

/-- How a fraction may be written. -/
inductive FractionText : Option (List Char) → List Char → Prop
  | absent : FractionText none []
  | point {ds : List Char} (h : DigitRun ds) : FractionText (some ds) ('.' :: ds)

/-- The sign of a number as it is written. -/
def signText (negative : Bool) : List Char := if negative then ['-'] else []

/-- A text begins with a number. -/
inductive Reader.Numeral.Spans : Numeral → List Char → List Char → Prop
  | mk {s : Numeral} {fraction exponent rest : List Char} (hwhole : DigitRun s.whole)
      (hzero : ¬ (s.whole.length > 1 ∧ s.whole.head? = some '0'))
      (hfraction : FractionText s.fraction fraction)
      (hexponent : ExponentText s.exponent exponent) :
      Spans s (signText s.negative ++ (s.whole ++ (fraction ++ (exponent ++ rest)))) rest

/-! ### Trees -/

/-- A JSON text without its blanks. -/
inductive Tree where
  | null
  | bool (b : Bool)
  | number (s : Numeral)
  | string (ps : List Piece)
  | array (items : List Tree)
  | object (members : List (List Piece × Tree))

namespace Tree

mutual

/-- A text begins with a tree. -/
inductive Spans : Tree → List Char → List Char → Prop
  | null (rest : List Char) : Spans .null ('n' :: 'u' :: 'l' :: 'l' :: rest) rest
  | boolTrue (rest : List Char) : Spans (.bool true) ('t' :: 'r' :: 'u' :: 'e' :: rest) rest
  | boolFalse (rest : List Char) :
      Spans (.bool false) ('f' :: 'a' :: 'l' :: 's' :: 'e' :: rest) rest
  | number {s : Numeral} {text rest : List Char} (h : s.Spans text rest) :
      Spans (.number s) text rest
  | string {ps : List Piece} {text rest : List Char} (h : Piece.Quoted ps text rest) :
      Spans (.string ps) text rest
  | array {ts : List Tree} {text rest : List Char} (h : ItemsSpan true ts text (']' :: rest)) :
      Spans (.array ts) ('[' :: text) rest
  | object {ms : List (List Piece × Tree)} {text rest : List Char}
      (h : MembersSpan true ms text ('\x7d' :: rest)) : Spans (.object ms) ('\x7b' :: text) rest

/-- A text begins with items, and whether the first of them is the first of its array. -/
inductive ItemsSpan : Bool → List Tree → List Char → List Char → Prop
  | nil {first : Bool} {text rest : List Char} (h : Gap text rest) : ItemsSpan first [] text rest
  | cons {first : Bool} {t : Tree} {ts : List Tree} {text start mid rest : List Char}
      (hlead : Lead first text start) (ht : Spans t start mid)
      (hts : ItemsSpan false ts mid rest) : ItemsSpan first (t :: ts) text rest

/-- A text begins with members, and whether the first of them is the first of its object. -/
inductive MembersSpan : Bool → List (List Piece × Tree) → List Char → List Char → Prop
  | nil {first : Bool} {text rest : List Char} (h : Gap text rest) : MembersSpan first [] text rest
  | cons {first : Bool} {ps : List Piece} {t : Tree} {ms : List (List Piece × Tree)}
      {text start name value mid rest : List Char} (hlead : Lead first text start)
      (hname : Piece.Quoted ps start name) (hcolon : Colon name value) (ht : Spans t value mid)
      (hms : MembersSpan false ms mid rest) : MembersSpan first ((ps, t) :: ms) text rest

end

/-- A whole text is a tree with blanks around it. -/
def IsText (t : Tree) (text : List Char) : Prop :=
  ∃ start tail, Gap text start ∧ t.Spans start tail ∧ Gap tail []

/-! ### Meaning -/

/-- The string that a tree is. -/
def string? : Tree → Option String
  | .string ps => Piece.name? false ps
  | _ => none

/-- The number that a tree is. -/
def number? : Tree → Option Number
  | .number s => s.value?
  | _ => none

/-- What a tree means unless it is `null`. -/
def orNull? {α : Type} (f : Tree → Option α) : Tree → Option (Option α)
  | .null => some none
  | t => (f t).map some

theorem orNull?_of_ne {α : Type} (f : Tree → Option α) {t : Tree} (h : t ≠ .null) :
    orNull? f t = (f t).map some := by
  cases t with
  | null => contradiction
  | _ => rfl

/-- What the items of an array mean. -/
def items? {α : Type} (f : Tree → Option α) : Tree → Option (List α)
  | .array ts => ts.mapM f
  | _ => none

/-- The members of an object by their names. -/
def fields? : Tree → Option (List (String × Tree))
  | .object ms => ms.mapM fun m => (Piece.name? false m.1).map (·, m.2)
  | _ => none

/-- The value that a tree means, if it has at most `depth` arrays and objects one inside the
other. -/
def value? : Nat → Tree → Option Json
  | _, .null => some .null
  | _, .bool b => some (.bool b)
  | _, .number s => s.value?.map .number
  | _, .string ps => (Piece.name? false ps).map .string
  | 0, .array _ => none
  | depth + 1, .array ts => (ts.mapM (value? depth)).map .array
  | 0, .object _ => none
  | depth + 1, .object ms =>
    (ms.mapM fun m => (Piece.name? false m.1).bind fun name =>
      (value? depth m.2).map (name, ·)).map .object

end Tree

end OutageWatch.Json
