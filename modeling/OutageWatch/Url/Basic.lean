import OutageWatch.Url.Host

/-!
# Addresses

An address has a scheme, mostly a host and a path.  Its path is a list of segments or, where no
slash follows the scheme, a text that is not taken apart.

## Main definitions

* `Url`, `Url.Authority`, `Url.Path` : an address and its parts.
* `Url.text` : the text of an address.
* `Url.hostText?`, `Url.pathText` : the texts of its host and path.
-/

namespace OutageWatch

namespace Url

/-- Who is asked, and where; texts are as they are written in the address. -/
structure Authority where
  user : String := ""
  password : String := ""
  host : Option Host := none
  port : Option Nat := none
  deriving DecidableEq, Repr

/-- The path of an address. -/
inductive Path where
  | segments (names : List String)
  /-- A path that is not taken apart. -/
  | whole (text : String)
  deriving DecidableEq, Repr

/-- The text of a path. -/
def Path.text : Path → String
  | segments names => String.join (names.map ("/" ++ ·))
  | whole text => text

/-- The text of what stands between the slashes and the path. -/
def Authority.text (a : Authority) : String :=
  let user := if a.user.isEmpty && a.password.isEmpty then ""
    else a.user ++ (if a.password.isEmpty then "" else ":" ++ a.password) ++ "@"
  user ++ (a.host.map Host.text).getD "" ++
    match a.port with
    | some port => ":" ++ toString port
    | none => ""

end Url

/-- An address. -/
structure Url where
  scheme : String
  authority : Option Url.Authority
  path : Url.Path
  query : Option String := none
  fragment : Option String := none
  deriving DecidableEq, Repr

namespace Url

/-- The text of the host, if there is one. -/
def hostText? (u : Url) : Option String := do
  let a ← u.authority
  return (← a.host).text

/-- The text of the path. -/
def pathText (u : Url) : String := u.path.text

/-- The user's name. -/
def user (u : Url) : String := (u.authority.map Authority.user).getD ""

/-- A text behind a mark, if there is one. -/
def behind (mark : String) : Option String → String
  | some s => mark ++ s
  | none => ""

/-- The text of an address.  Two slashes that start a path must not look like those in front of a
host. -/
def text (u : Url) : String :=
  let authority := match u.authority with
    | some a => "//" ++ a.text
    | none => if u.pathText.startsWith "//" then "/." else ""
  u.scheme ++ ":" ++ authority ++ u.pathText ++ behind "?" u.query ++ behind "#" u.fragment

end Url

end OutageWatch
