import OutageWatch.Yaml.Node
import OutageWatch.Yaml.Token.Lexer

/-!
# From tokens to a document

The tokens are read from left to right; what is left out where a node is due is an empty scalar.
A text holds one document: either its content alone, or directives, a line of dashes and the
content, and then any number of document ends.

## Main definitions

* `Yaml.Composing` : reading tokens, with what the tags' handles stand for and what is anchored.
* `Yaml.node` : reads a node.
* `Yaml.parse` : the document of a text.

## Main results

* `Yaml.parse_empty` : an empty text is a document without a root.
-/

namespace OutageWatch.Yaml

/-- The tokens left, and what the nodes read so far have settled. -/
structure Composer where
  tokens : List Token
  /-- What the handles of tags stand for; the first entry of a handle counts. -/
  handles : List (String × String) := [("!", "!"), ("!!", "tag:yaml.org,2002:")]
  /-- The number of each anchor's name. -/
  anchors : List (String × Nat) := []
  anchored : List (Nat × Shape) := []

/-- Reading tokens. -/
abbrev Composing := StateT Composer Option

/-! ### Single tokens -/

/-- The next token, which stays where it is. -/
def peek? : Composing (Option Token) := do return (← get).tokens.head?

/-- Leaves out the next token. -/
def advance : Composing Unit := modify fun c => { c with tokens := c.tokens.drop 1 }

/-- Leaves out the next token if it is `t`, and says whether it is. -/
def accept (t : Token) : Composing Bool := do
  if (← peek?) = some t then
    advance
    return true
  else return false

/-- Leaves out the next token, which has to be `t`. -/
def demand (t : Token) : Composing Unit := do
  if !(← accept t) then failure

/-- Whether the next token is one of some. -/
def isNext (ts : List Token) : Composing Bool := do
  return match ← peek? with
    | some t => ts.contains t
    | none => false

/-! ### Tags and anchors -/

/-- The full text of a tag. -/
def tagText (handle rest : String) : Composing String := do
  if handle.isEmpty then return rest
  match (← get).handles.find? (·.1 == handle) with
  | some h => return h.2 ++ rest
  | none => failure

/-- Reads a tag if one is next. -/
def tag? : Composing (Option String) := do
  match ← peek? with
  | some (.tag handle rest) => do
    advance
    return some (← tagText handle rest)
  | _ => return none

/-- Reads an anchor if one is next. -/
def anchor? : Composing (Option String) := do
  match ← peek? with
  | some (.anchor name) => do
    advance
    return some name
  | _ => return none

/-- Anchors a node under the number of names anchored before it. -/
def anchorNode (name : Option String) (shape : Shape) : Composing Unit :=
  modify fun c =>
    match name with
    | none => c
    | some name =>
      let number := c.anchors.length
      { c with
        anchors := (name, number) :: c.anchors.filter (·.1 ≠ name)
        anchored := c.anchored ++ [(number, shape)] }

/-- The number of an anchor's name. -/
def anchorNumber (name : String) : Composing Nat := do
  match (← get).anchors.find? (·.1 == name) with
  | some a => return a.2
  | none => failure

/-! ### Nodes -/

/-- The node that is left out. -/
def omitted : Node := .scalar .empty

mutual

/-- Reads a node.  Only outside of brackets may it be indented; an unindented list may continue a
mapping's line. -/
def node : Nat → (mayIndent mayContinue : Bool) → Composing Node
  | 0, _, _ => failure
  | fuel + 1, mayIndent, mayContinue => do
    if let some (.alias name) ← peek? then
      advance
      return .alias (← anchorNumber name)
    let first ← anchor?
    let tag ← tag?
    let anchor ← if first.isSome then pure first else anchor?
    let scalar (text : String) (isPlain : Bool) : Composing Node := do
      let s : Scalar := ⟨text, isPlain, tag.getD ""⟩
      anchorNode anchor (.scalar s)
      return .scalar s
    let list (items : Composing (List Node)) : Composing Node := do
      anchorNode anchor .list
      return .list (← items)
    let mapping (entries : Composing (List (Node × Node))) : Composing Node := do
      anchorNode anchor .mapping
      return .mapping (← entries)
    match ← peek?, mayIndent, mayContinue with
    | some .item, _, true => list (looseItems fuel)
    | some (.scalar text isPlain), _, _ => do
      advance
      scalar text isPlain
    | some .bracketStart, _, _ => do
      advance
      list (bracketItems fuel true)
    | some .braceStart, _, _ => do
      advance
      mapping (braceEntries fuel true)
    | some .listStart, true, _ => do
      advance
      list (indentedItems fuel)
    | some .mappingStart, true, _ => do
      advance
      mapping (indentedEntries fuel)
    | _, _, _ => if anchor.isSome || tag.isSome then scalar "" true else failure

/-- Reads the items of an indented list. -/
def indentedItems : Nat → Composing (List Node)
  | 0 => failure
  | fuel + 1 => do
    if ← accept .item then
      let n ← if ← isNext [.item, .blockEnd] then pure omitted else node fuel true false
      return n :: (← indentedItems fuel)
    else
      demand .blockEnd
      return []

/-- Reads the items of a list that is not indented. -/
def looseItems : Nat → Composing (List Node)
  | 0 => failure
  | fuel + 1 => do
    if ← accept .item then
      let n ← if ← isNext [.item, .key, .value, .blockEnd] then pure omitted
        else node fuel true false
      return n :: (← looseItems fuel)
    else return []

/-- Reads the entries of an indented mapping. -/
def indentedEntries : Nat → Composing (List (Node × Node))
  | 0 => failure
  | fuel + 1 => do
    if ← accept .key then
      let part : Composing Node := do
        if ← isNext [.key, .value, .blockEnd] then return omitted else node fuel true true
      let k ← part
      let v ← if ← accept .value then part else pure omitted
      return (k, v) :: (← indentedEntries fuel)
    else
      demand .blockEnd
      return []

/-- Reads the items between brackets; a key with its value is a mapping of its own. -/
def bracketItems : Nat → (isFirst : Bool) → Composing (List Node)
  | 0, _ => failure
  | fuel + 1, isFirst => do
    if ← accept .bracketEnd then return []
    if !isFirst then
      demand .comma
      if ← accept .bracketEnd then return []
    let n ← if ← accept .key then do
        let k ← if ← isNext [.value, .comma, .bracketEnd] then pure omitted
          else node fuel false false
        let v ← if ← accept .value then
            (do if ← isNext [.comma, .bracketEnd] then return omitted else node fuel false false)
          else pure omitted
        pure (.mapping [(k, v)])
      else node fuel false false
    return n :: (← bracketItems fuel false)

/-- Reads the entries between braces; a node without a colon is a key without a value. -/
def braceEntries : Nat → (isFirst : Bool) → Composing (List (Node × Node))
  | 0, _ => failure
  | fuel + 1, isFirst => do
    if ← accept .braceEnd then return []
    if !isFirst then
      demand .comma
      if ← accept .braceEnd then return []
    let entry ← if ← accept .key then do
        let k ← if ← isNext [.value, .comma, .braceEnd] then pure omitted
          else node fuel false false
        let v ← if ← accept .value then
            (do if ← isNext [.comma, .braceEnd] then return omitted else node fuel false false)
          else pure omitted
        pure (k, v)
      else do pure (← node fuel false false, omitted)
    return entry :: (← braceEntries fuel false)

end

/-! ### Documents -/

/-- The versions of the format that are understood. -/
def isKnownVersion (major minor : Nat) : Bool := major = 1 && (minor = 1 || minor = 2)

/-- Reads the directives in front of a document, at most `fuel` of them. -/
def directives : Nat → (hasVersion : Bool) → (own : List String) → Composing Unit
  | 0, _, _ => return
  | fuel + 1, hasVersion, own => do
    match ← peek? with
    | some (.version major minor) => do
      if hasVersion || !isKnownVersion major minor then failure
      advance
      directives fuel true own
    | some (.handle name meaning) => do
      if own.contains name then failure
      advance
      modify fun c => { c with handles := (name, meaning) :: c.handles }
      directives fuel hasVersion (name :: own)
    | _ => return

/-- Whether the next token starts or ends a document, or is none. -/
def isBoundary : Option Token → Bool
  | none | some (.version _ _) | some (.handle _ _) | some .documentStart | some .documentEnd => true
  | _ => false

/-- Reads the document's root, if it has one. -/
def rootNode (fuel : Nat) : Composing (Option Node) := do
  match ← peek? with
  | none => return none
  | some (.version _ _) | some (.handle _ _) | some .documentStart => do
    directives fuel false []
    demand .documentStart
    if isBoundary (← peek?) then return some omitted else some <$> node fuel true false
  | some _ => some <$> node fuel true false

/-- The document of some tokens. -/
def Document.ofTokens? (tokens : List Token) : Option Document := do
  let (root, c) ← (rootNode (2 * tokens.length + 2)).run { tokens }
  if c.tokens.all (· == .documentEnd) then return ⟨root, c.anchored⟩ else none

/-- The document of a text. -/
def parse (text : String) : Option Document := do
  Document.ofTokens? (← Token.scan (← Source.ofText? text))

/-- An empty text is a document without a root. -/
theorem parse_empty : parse "" = some ⟨none, []⟩ := rfl

end OutageWatch.Yaml
