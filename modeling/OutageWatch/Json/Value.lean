import OutageWatch.WordRange
import OutageWatch.Binary64.Basic

/-!
# JSON values

A number keeps whether it is an integer of at most 64 bits or anything else; the members of an
object keep their order, and of several members with one name the last one counts.

## Main definitions

* `Json`, `Json.Number` : the values.
* `Json.field?`, `Json.at?` : the member of a name, and the value along a path of names.
* `Json.asInt?` : the integer that a value is, if it fits the signed range.
-/

namespace OutageWatch

/-- A JSON number: an integer written without fraction and exponent, or a floating point number. -/
inductive Json.Number where
  | integer (n : Int)
  | real (x : Binary64)
  deriving DecidableEq, Repr

/-- A JSON value. -/
inductive Json where
  | null
  | bool (b : Bool)
  | number (n : Json.Number)
  | string (s : String)
  | array (items : List Json)
  | object (members : List (String × Json))
  deriving Repr, BEq, Inhabited

namespace Json

/-- An integer as a JSON value. -/
abbrev ofInt (n : Int) : Json := .number (.integer n)

/-- The value of the last member of a name. -/
def lookup? (key : String) (members : List (String × Json)) : Option Json :=
  members.foldl (fun found m => if m.1 = key then some m.2 else found) none

/-- The member of a name, if the value is an object that has it. -/
def field? (key : String) : Json → Option Json
  | .object members => lookup? key members
  | _ => none

/-- The value along a path of member names. -/
def at? : List String → Json → Option Json
  | [], j => some j
  | key :: path, j => (j.field? key).bind (at? path)

@[simp] theorem at?_nil (j : Json) : j.at? [] = some j := rfl

@[simp] theorem at?_cons (key : String) (path : List String) (j : Json) :
    j.at? (key :: path) = (j.field? key).bind (at? path) := rfl

/-- The integer that a value is, if it fits the signed range of 64 bits. -/
def asInt? : Json → Option Int
  | .number (.integer n) => if Fits n then some n else none
  | _ => none

end Json

end OutageWatch
