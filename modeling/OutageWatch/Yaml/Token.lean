/-!
# The tokens of a YAML document

Tokens are the marks and words of a document.  Where indentation opens or closes a collection, the
list of tokens says so with a token of its own.

## Main definitions

* `Yaml.Token` : the tokens.
-/

namespace OutageWatch.Yaml

/-- A mark or word of a document. -/
inductive Token where
  /-- The version that the document claims. -/
  | version (major minor : Nat)
  /-- What a short handle in tags stands for. -/
  | handle (name meaning : String)
  | documentStart
  | documentEnd
  /-- A list opened by indentation. -/
  | listStart
  /-- A mapping opened by indentation. -/
  | mappingStart
  /-- The end of a collection opened by indentation. -/
  | blockEnd
  | bracketStart
  | bracketEnd
  | braceStart
  | braceEnd
  /-- The dash in front of a list's item. -/
  | item
  | comma
  | key
  | value
  | alias (name : String)
  | anchor (name : String)
  | tag (handle rest : String)
  | scalar (text : String) (isPlain : Bool)
  deriving DecidableEq, Repr

end OutageWatch.Yaml
