import OutageWatch.FilePath
import OutageWatch.Store.ObjectPath
import OutageWatch.Url.Reader

/-!
# Locations of reports

A location is an address, or else a path of a file.  The scheme of the address and, on the web, the
host settle in what kind of store the report is kept; some addresses have the name of a container
in front of the object's path.

## Main definitions

* `Backend` : the kinds of stores.
* `Location.Fault`, `Location.Fault.message` : why a text is no location.
* `Location.backend?` : the kind of store of an address.
* `Location.parse` : the kind of store and the object's path that a text stands for.
-/

namespace OutageWatch

/-- A kind of store. -/
inductive Backend where
  | localFiles
  | memory
  | amazon
  | azure
  | google
  /-- Any other place on the web, where reports cannot be kept. -/
  | web
  deriving DecidableEq, Repr

namespace Location

/-- Why a text is no location. -/
inductive Fault where
  | emptyPath
  /-- A path of a file that leads above the root. -/
  | aboveRoot (path : String)
  | address (fault : Url.Fault)
  | unrecognised (address : String)
  | object (fault : ObjectPath.Fault)
  deriving DecidableEq, Repr

/-- The text of a fault. -/
def Fault.message : Fault → String
  | emptyPath => "cannot make an empty path absolute"
  | aboveRoot path => "malformed relative path: " ++ path
  | address fault => fault.message
  | unrecognised text => "Unable to recognise URL \"" ++ text ++ "\""
  | object fault => fault.message

/-! ### Addresses -/

/-- A text without its first segment, where a slash stands in front of it and behind it. -/
def withoutContainer (path : String) : String :=
  match path.toList with
  | '/' :: cs => String.ofList ((cs.dropWhile (· ≠ '/')).drop 1)
  | _ => ""

/-- The ends of the hosts of stores at Azure. -/
def azureHosts : List String :=
  ["dfs.core.windows.net", "blob.core.windows.net", "dfs.fabric.microsoft.com",
    "blob.fabric.microsoft.com"]

/-- The kind of store of a host on the web, and the object's path in it. -/
def webBackend (host path : String) : Backend × String :=
  if azureHosts.any fun suffix => host.endsWith suffix then (.azure, withoutContainer path)
  else if host.endsWith "amazonaws.com" then
    (.amazon, if host.startsWith "s3" then withoutContainer path else path)
  else if host.endsWith "r2.cloudflarestorage.com" then (.amazon, withoutContainer path)
  else (.web, path)

/-- The kind of store of an address, and the object's path in it. -/
def backend? (u : Url) : Option (Backend × String) :=
  match u.hostText? with
  | none =>
    if u.scheme = "file" then some (.localFiles, u.pathText)
    else if u.scheme = "memory" then some (.memory, u.pathText)
    else none
  | some host =>
    if ["s3", "s3a"].contains u.scheme then some (.amazon, u.pathText)
    else if u.scheme = "gs" then some (.google, u.pathText)
    else if u.scheme = "az" then some (.azure, withoutContainer u.pathText)
    else if ["adl", "azure", "abfs", "abfss"].contains u.scheme then some (.azure, u.pathText)
    else if u.scheme = "http" then some (.web, u.pathText)
    else if u.scheme = "https" then some (webBackend host u.pathText)
    else none

/-- The kind of store and the object's path of an address. -/
def ofUrl (u : Url) : Except Fault (Backend × ObjectPath) := do
  let some (backend, path) := backend? u | throw (.unrecognised u.text)
  return (backend, ← (ObjectPath.ofEncoded path).mapError .object)

/-! ### Paths of files -/

/-- The object's path of a file, seen from a directory. -/
def ofFile (directory : List String) (path : String) : Except Fault (Backend × ObjectPath) := do
  if path.isEmpty then throw .emptyPath
  let some parts := FilePath.normalise? directory path | throw (.aboveRoot path)
  return (.localFiles, ← (ObjectPath.parse (FilePath.text parts)).mapError .object)

/-- The kind of store and the object's path that a text stands for. -/
def parse (directory : List String) (text : String) : Except Fault (Backend × ObjectPath) :=
  match Url.parse text with
  | .ok u => ofUrl u
  | .error .relative => ofFile directory text
  | .error fault => .error (.address fault)

end Location

end OutageWatch
