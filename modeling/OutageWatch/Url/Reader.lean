import OutageWatch.Url.Basic

/-!
# Reading addresses

An address starts with a scheme.  Under the schemes of the web and for files, backslashes count as
slashes, there is always a path, and ports that go without saying are left out.  The path of a
file may start with the letter of a drive, which stays in front.

In a path the segments `.` and `..` are resolved; other characters than those a place admits are
given as bytes.

## Main definitions

* `Url.Scheme` : the kinds of schemes.
* `Url.resolve` : the segments of a path without dots.
* `Url.parse` : the address that a text stands for.
-/

namespace OutageWatch.Url

/-! ### Schemes -/

/-- How addresses of a scheme are read. -/
inductive Scheme where
  | file
  | web
  | other
  deriving DecidableEq, Repr

/-- The kind of a scheme. -/
def Scheme.ofName (name : String) : Scheme :=
  if name = "file" then .file
  else if ["http", "https", "ws", "wss", "ftp"].contains name then .web
  else .other

/-- Whether a scheme is one of files or of the web. -/
def Scheme.isSpecial (s : Scheme) : Bool := s ≠ .other

/-- The port that goes without saying. -/
def defaultPort? (scheme : String) : Option Nat :=
  if scheme = "http" ∨ scheme = "ws" then some 80
  else if scheme = "https" ∨ scheme = "wss" then some 443
  else if scheme = "ftp" then some 21
  else none

/-- A character of a scheme. -/
def isSchemeChar (c : Char) : Bool := c.isAlphanum || c = '+' || c = '-' || c = '.'

/-- The scheme in front of a colon, in lower case, and what follows. -/
def scheme? (cs : List Char) : Option (String × List Char) :=
  match cs, cs.dropWhile isSchemeChar with
  | c :: _, ':' :: rest =>
    if c.isAlpha then some (String.ofList ((cs.takeWhile isSchemeChar).map Char.toLower), rest)
    else none
  | _, _ => none

/-! ### What is given as bytes -/

/-- In a fragment. -/
def isEncodedInFragment (c : Char) : Bool := isControl c || " \"<>`".toList.contains c

/-- In a path. -/
def isEncodedInPath (c : Char) : Bool := isEncodedInFragment c || "#?\x7b\x7d".toList.contains c

/-- In the name or password of a user. -/
def isEncodedInUser (c : Char) : Bool := isEncodedInPath c || "/:;=@[\\]^|".toList.contains c

/-- In a query. -/
def isEncodedInQuery (scheme : Scheme) (c : Char) : Bool :=
  isControl c || " \"#<>".toList.contains c || (scheme.isSpecial && c = '\'')

/-- A text where some characters are given as bytes. -/
def encoded (mustEncode : Char → Bool) (cs : List Char) : String :=
  String.ofList (Percent.encode mustEncode cs)

/-! ### Paths -/

/-- A character that separates segments. -/
def isSlash (scheme : Scheme) (c : Char) : Bool := c = '/' || (scheme.isSpecial && c = '\\')

/-- The letter of a drive with a colon or bar. -/
def isDrive (s : String) : Bool :=
  match s.toList with
  | [c, d] => c.isAlpha && (d = ':' || d = '|')
  | _ => false

/-- A segment that stays where it is. -/
def isDot (s : String) : Bool := [".", "%2e"].contains s.toLower

/-- A segment that leads to the one above. -/
def isDoubleDot (s : String) : Bool := ["..", ".%2e", "%2e.", "%2e%2e"].contains s.toLower

/-- The segments without the last, unless that is the letter of a file's drive. -/
def parent (scheme : Scheme) : List String → List String
  | [] => []
  | s :: above => if scheme = .file ∧ isDrive s then s :: above else above

/-- A segment on top of those above it; a bar behind the letter of a drive becomes a colon. -/
def place (scheme : Scheme) (above : List String) (s : String) : List String :=
  if scheme = .file ∧ above.isEmpty ∧ isDrive s then String.ofList (s.toList.take 1 ++ [':']) :: above
  else s :: above

/-- The segments without dots, on top of those above, of which the last comes first. -/
def resolveOnto (scheme : Scheme) : List String → List String → List String
  | above, [] => above.reverse
  | above, [s] =>
    if isDoubleDot s then ("" :: parent scheme above).reverse
    else if isDot s then ("" :: above).reverse
    else (place scheme above s).reverse
  | above, s :: rest =>
    if isDoubleDot s then resolveOnto scheme (parent scheme above) rest
    else if isDot s then resolveOnto scheme above rest
    else resolveOnto scheme (place scheme above s) rest

/-- The segments of a path without dots. -/
def resolve (scheme : Scheme) (names : List String) : List String := resolveOnto scheme [] names

/-- The segments without empty ones in front, the last excepted. -/
def dropEmpty : List String → List String
  | "" :: s :: rest => dropEmpty (s :: rest)
  | names => names

/-- The segments of the text behind a path's first slash. -/
def segments (scheme : Scheme) (cs : List Char) : List String :=
  let parts := Text.split '/' (cs.map fun c => if isSlash scheme c then '/' else c)
  let parts := match scheme, parts with
    | .file, (c :: ':' :: d :: rest) :: more =>
      if c.isAlpha then [c, ':'] :: (d :: rest) :: more else parts
    | _, parts => parts
  let names := resolve scheme (parts.map (encoded isEncodedInPath))
  if scheme = .file then dropEmpty names else names

/-- The path behind a host: its first slash may be left out where there is always a path. -/
def pathBehindHost (scheme : Scheme) (cs : List Char) : Path :=
  match cs with
  | [] => if scheme.isSpecial then .segments [""] else .segments []
  | c :: rest => .segments (segments scheme (if isSlash scheme c then rest else c :: rest))

/-! ### Hosts and ports -/

/-- The text before the last `@`, if there is one, and the text behind it. -/
def splitUser (cs : List Char) : Option (List Char) × List Char :=
  if cs.contains '@' then
    let behind := (cs.reverse.takeWhile (· ≠ '@')).reverse
    (some (cs.take (cs.length - behind.length - 1)), behind)
  else (none, cs)

/-- The text up to the first colon outside of brackets, and from there on. -/
def splitPort : (isInside : Bool) → List Char → List Char × List Char
  | _, [] => ([], [])
  | isInside, c :: rest =>
    if c = ':' ∧ !isInside then ([], c :: rest)
    else
      let (host, port) := splitPort (if c = '[' then true else if c = ']' then false else isInside) rest
      (c :: host, port)

/-- The port that some digits stand for, if there are any. -/
def port? (scheme : String) (cs : List Char) : Except Fault (Option Nat) :=
  if cs.all Digits.isDecimal ∧ Digits.value cs ≤ 65535 then
    let n := Digits.value cs
    .ok (if cs.isEmpty ∨ defaultPort? scheme = some n then none else some n)
  else .error .invalidPort

/-- The user, host and port that a text stands for. -/
def authorityOf (name : String) (cs : List Char) : Except Fault Authority := do
  let scheme := Scheme.ofName name
  let (user?, rest) := splitUser cs
  let user := (user?.getD []).takeWhile (· ≠ ':')
  let password := ((user?.getD []).dropWhile (· ≠ ':')).drop 1
  let (host, port) := splitPort false rest
  if host.isEmpty then
    if scheme = .web ∨ !port.isEmpty ∨ !user.isEmpty ∨ !password.isEmpty then throw .emptyHost
  let host ← if host.isEmpty then pure none
    else some <$> (if scheme = .web then Host.ofWeb host else Host.ofOther host)
  return {
    user := encoded isEncodedInUser user
    password := encoded isEncodedInUser password
    host
    port := ← port? name (port.drop 1) }

/-- The host and path of an address behind two slashes. -/
def behindSlashes (name : String) (cs : List Char) : Except Fault (Option Authority × Path) := do
  let scheme := Scheme.ofName name
  let isHost (c : Char) : Bool := !isSlash scheme c
  return (some (← authorityOf name (cs.takeWhile isHost)),
    pathBehindHost scheme (cs.dropWhile isHost))

/-! ### Files -/

/-- The host of a file; the machine itself is none. -/
def fileHost (cs : List Char) : Except Fault (Option Host) := do
  if cs.isEmpty then return none
  let h ← Host.ofWeb cs
  return if h = .name "localhost" then none else some h

/-- The host and path of a file's address behind the scheme.  The letter of a drive leaves no
host. -/
def fileParts (cs : List Char) : Except Fault (Option Authority × Path) := do
  let isHost (c : Char) : Bool := !isSlash .file c
  match cs with
  | a :: b :: rest =>
    if isSlash .file a && isSlash .file b then
      let text := rest.takeWhile isHost
      if isDrive (String.ofList text) then return (some {}, pathBehindHost .file rest)
      let host ← fileHost text
      let path := pathBehindHost .file (rest.dropWhile isHost)
      let hasDrive := match path with
        | .segments (s :: _) => isDrive s
        | _ => false
      return (some { host := if hasDrive then none else host }, path)
    else return (some {}, pathBehindHost .file cs)
  | _ => return (some {}, pathBehindHost .file cs)

/-! ### Addresses -/

/-- The host and path of an address behind the scheme. -/
def parts (name : String) (cs : List Char) : Except Fault (Option Authority × Path) :=
  match Scheme.ofName name, cs with
  | .file, _ => fileParts cs
  | .web, _ => behindSlashes name (cs.dropWhile (isSlash .web))
  | .other, '/' :: '/' :: rest => behindSlashes name rest
  | .other, '/' :: rest => .ok (none, .segments (segments .other rest))
  | .other, _ => .ok (none, .whole (encoded isControl cs))

/-- A control character or a space. -/
def isMargin (c : Char) : Bool := c ≤ ' '

/-- The text without controls and spaces around it, and without tabs and line breaks inside. -/
def trim (cs : List Char) : List Char :=
  (((cs.dropWhile isMargin).reverse.dropWhile isMargin).reverse).filter
    fun c => !("\t\n\r".toList.contains c)

/-- The text before a mark, and the text behind it if there is one. -/
def splitMark (mark : Char) (cs : List Char) : List Char × Option (List Char) :=
  (cs.takeWhile (· ≠ mark),
    match cs.dropWhile (· ≠ mark) with
    | [] => none
    | _ :: rest => some rest)

/-- The address that a text stands for. -/
def parse (text : String) : Except Fault Url := do
  let some (name, rest) := scheme? (trim text.toList) | throw .relative
  let (rest, fragment) := splitMark '#' rest
  let (rest, query) := splitMark '?' rest
  let (authority, path) ← parts name rest
  return {
    scheme := name
    authority
    path
    query := query.map (encoded (isEncodedInQuery (Scheme.ofName name)))
    fragment := fragment.map (encoded isEncodedInFragment) }

end OutageWatch.Url
