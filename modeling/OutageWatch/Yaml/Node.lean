/-!
# YAML nodes

A document is a tree of scalars, lists and mappings.  A node may be anchored under a number, and an
alias stands for the node that is anchored under its number.

## Main definitions

* `Yaml.Scalar`, `Yaml.Node`, `Yaml.Document` : the parts of a document.
* `Yaml.Shape`, `Yaml.Document.shape?` : a node without what is in it, aliases followed.
-/

namespace OutageWatch.Yaml

/-- A text with its tag, which is empty if there is none. -/
structure Scalar where
  text : String
  isPlain : Bool
  tag : String
  deriving DecidableEq, Repr

/-- A node of a document. -/
inductive Node where
  | scalar (s : Scalar)
  | list (items : List Node)
  | mapping (entries : List (Node × Node))
  | alias (number : Nat)

/-- A node without what is in it. -/
inductive Shape where
  | scalar (s : Scalar)
  | list
  | mapping
  deriving DecidableEq, Repr

/-- A document.  An empty text has no root. -/
structure Document where
  root : Option Node
  /-- What is anchored under each number; of several nodes the last counts. -/
  anchored : List (Nat × Shape)

/-- The scalar where a node is left out. -/
def Scalar.empty : Scalar := ⟨"", true, ""⟩

/-- The shape of a node of a document. -/
def Document.shape? (d : Document) : Node → Option Shape
  | .scalar s => some (.scalar s)
  | .list _ => some .list
  | .mapping _ => some .mapping
  | .alias number => (d.anchored.reverse.find? (·.1 == number)).map (·.2)

end OutageWatch.Yaml
