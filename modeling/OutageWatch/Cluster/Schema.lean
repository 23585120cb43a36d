import OutageWatch.Cluster.Timestamp
import OutageWatch.Json.Reader

/-!
# Shapes of values

Much of what the cluster tells is not kept, but it must have the shape that is agreed on all the
same: a document with a value of another shape cannot be read at all.  A member that is not agreed
on may be anything.

## Main definitions

* `Schema` : the shape that a value must have.
* `Schema.reader`, `Schema.memberReader` : reading a value and a member of a shape.
-/

namespace OutageWatch

open Json Json.Reader

/-- The shape that a value must have. -/
inductive Schema where
  | text
  | boolean
  /-- A signed integer of 64 bits. -/
  | integer
  | timestamp
  | anything
  | list (item : Schema)
  /-- An object of which all members have one shape. -/
  | map (value : Schema)
  /-- An object of which the members of these names have these shapes, or are `null`. -/
  | record (members : List (String × Schema))

namespace Schema

mutual

/-- Reads a value of a shape, with at most `depth` arrays and objects one inside the other. -/
def reader : Schema → Nat → Reader Unit
  | text, _ => discard (Reader.string "a string")
  | boolean, _ => discard bool
  | integer, _ => discard int64
  | timestamp, _ => do
    let s ← Reader.string "a string"
    if !Timestamp.isText s then mismatch (.wrongValue (.string s) "a time")
  | anything, depth => discard (value depth)
  | list item, depth => discard (listOf (item.reader (depth - 1)))
  | map value, depth => objectOf () fun _ _ => do
    colon
    value.reader (depth - 1)
  | record members, depth => objectOf () fun _ name => memberReader members name (depth - 1)

/-- Reads the member of a name, which may be repeated. -/
def memberReader : List (String × Schema) → String → Nat → Reader Unit
  | [], _, _ => ignore
  | (key, s) :: rest, name, depth =>
    if name = key then do
      colon
      discard (orNull (s.reader depth))
    else memberReader rest name depth

end

end Schema

end OutageWatch
