import OutageWatch.Binary64.Shortest
import OutageWatch.Text.Quoted

/-!
# Why a text cannot be read

A text can end too early, it can fail to be JSON, or it can be JSON of another shape than the
reader asks for.  The last case names what was found and what was expected.

## Main definitions

* `Json.Fault` : the three cases.
* `Json.Mismatch`, `Json.Mismatch.message` : the ways a shape is wrong, and their texts.
-/

namespace OutageWatch.Json

/-- What stands at a place of the text where something else was expected. -/
inductive Found where
  | null
  | bool (b : Bool)
  | integer (n : Int)
  | real (x : Binary64)
  | string (s : String)
  | array
  | object
  deriving DecidableEq, Repr

/-- The text that describes what was found. -/
def Found.describe : Found → String
  | .null => "null"
  | .bool b => s!"boolean `{b}`"
  | .integer n => "integer `" ++ String.ofList (Digits.int n) ++ "`"
  | .real x => "floating point `" ++ String.ofList x.text ++ "`"
  | .string s => "string " ++ Text.quoted s
  | .array => "sequence"
  | .object => "map"

/-- How JSON has another shape than the reader asks for. -/
inductive Mismatch where
  /-- A value of another type than `expected`. -/
  | wrongType (found : Found) (expected : String)
  /-- A value of the right type that `expected` does not admit. -/
  | wrongValue (found : Found) (expected : String)
  /-- An array with fewer items than the structure has fields. -/
  | wrongLength (length : Nat) (expected : String)
  | missingField (name : String)
  | duplicateField (name : String)
  /-- A name that is none of the listed variants. -/
  | unknownVariant (name : String) (variants : List String)
  deriving DecidableEq, Repr

/-- The text of a mismatch. -/
def Mismatch.message : Mismatch → String
  | .wrongType found expected => "invalid type: " ++ found.describe ++ ", expected " ++ expected
  | .wrongValue found expected => "invalid value: " ++ found.describe ++ ", expected " ++ expected
  | .wrongLength length expected => s!"invalid length {length}, expected " ++ expected
  | .missingField name => "missing field `" ++ name ++ "`"
  | .duplicateField name => "duplicate field `" ++ name ++ "`"
  | .unknownVariant name variants =>
    "unknown variant `" ++ name ++ "`, expected one of " ++
      ", ".intercalate (variants.map fun v => "`" ++ v ++ "`")

/-- Why a text cannot be read. -/
inductive Fault where
  | truncated
  | malformed
  | mismatch (m : Mismatch)
  deriving DecidableEq, Repr

end OutageWatch.Json
