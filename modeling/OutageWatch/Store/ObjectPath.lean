import OutageWatch.Text.Percent
import OutageWatch.Text.Split
import OutageWatch.Url.Host

/-!
# Object paths

In a store an object has a path of segments.  No segment is empty, a dot or two dots, and none
holds a control character; one slash in front and one behind do not count.

## Main definitions

* `ObjectPath`, `ObjectPath.text` : a path and its text.
* `ObjectPath.Fault`, `ObjectPath.Fault.message` : why a text is no path.
* `ObjectPath.parse`, `ObjectPath.ofEncoded` : the path of a text, as it is or with bytes behind
  percent signs.

## Main results

* `ObjectPath.parse_empty` : the empty text is the path of no segments.
-/

namespace OutageWatch

/-- The path of an object in a store. -/
structure ObjectPath where
  segments : List String
  deriving DecidableEq, Repr

namespace ObjectPath

/-- The text of a path. -/
def text (p : ObjectPath) : String := "/".intercalate p.segments

/-- Why a text is no path. -/
inductive Fault where
  | emptySegment (path : String)
  | badSegment (path segment illegal : String)
  | notUnicode (path : String) (fault : Utf8.Fault)
  deriving DecidableEq, Repr

/-- The text of a fault. -/
def Fault.message : Fault → String
  | emptySegment path => "Path \"" ++ path ++ "\" contained empty path segment"
  | badSegment path segment illegal =>
    "Error parsing Path \"" ++ path ++ "\": Encountered illegal character sequence \"" ++ illegal ++
      "\" whilst parsing path segment \"" ++ segment ++ "\""
  | notUnicode path fault =>
    "Path \"" ++ path ++ "\" contained non-unicode characters: " ++ fault.message

/-- What a segment must not hold, if it holds such a thing. -/
def illegal? (segment : List Char) : Option String :=
  if segment = ['.'] ∨ segment = ['.', '.'] then some (String.ofList segment)
  else (segment.find? Url.isControl).map Char.toString

/-- A segment of the path `path`. -/
def segment (path : String) (cs : List Char) : Except Fault String :=
  if cs.isEmpty then .error (.emptySegment path)
  else
    match illegal? cs with
    | some illegal => .error (.badSegment path (String.ofList cs) illegal)
    | none => .ok (String.ofList cs)

/-- The characters without a slash in front. -/
def dropSlash : List Char → List Char
  | '/' :: cs => cs
  | cs => cs

/-- The path of a text. -/
def parse (path : String) : Except Fault ObjectPath :=
  let cs := dropSlash path.toList
  if cs.isEmpty then .ok ⟨[]⟩
  else do
    let cs := (dropSlash cs.reverse).reverse
    return ⟨← (Text.split '/' cs).mapM (segment path)⟩

/-- The path of a text in which bytes may stand behind percent signs. -/
def ofEncoded (path : String) : Except Fault ObjectPath :=
  match Utf8.decode (Percent.decode path.toList) with
  | .ok cs => parse (String.ofList cs)
  | .error fault => .error (.notUnicode path fault)

/-- The empty text is the path of no segments. -/
theorem parse_empty : parse "" = .ok ⟨[]⟩ := rfl

end ObjectPath

end OutageWatch
