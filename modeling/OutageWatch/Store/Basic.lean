import OutageWatch.Store.Access

/-!
# Stores for reports

A store keeps one object, the report, which every write replaces as a whole.

A local file is written beside its place under a name with a number, and takes its place when it is
complete; directories on the way are made.  So a name that ends in a hash mark and a number is kept
back for files that are not complete.

## Main definitions

* `Store` : a store with the place of its object.
* `Store.Fault`, `Store.Fault.message` : why there is no store at a location.
* `Store.connect` : the store at a location.
* `Store.Problem`, `Store.Problem.message` : why a local file could not be written.
* `Store.write` : what comes of replacing the object.
-/

namespace OutageWatch

/-- A store with the place of its object. -/
structure Store where
  location : String
  backend : Backend
  path : ObjectPath
  deriving DecidableEq, Repr

namespace Store

/-! ### Opening -/

/-- Why there is no store at a location. -/
inductive Fault where
  | location (fault : Location.Fault)
  | access (fault : Access.Fault)
  /-- A place on the web where reports cannot be kept. -/
  | unsupported (location : String)
  deriving DecidableEq, Repr

/-- The text of a fault. -/
def Fault.message : Fault → String
  | location fault => fault.message
  | access fault => fault.message
  | unsupported place => "unsupported report location scheme Http: " ++ place

/-- The store at a location, seen from a directory. -/
def connect (e : Environment) (fs : Files) (directory : List String) (location : String) :
    Except Fault Store := do
  let (backend, path) ← (Location.parse directory location).mapError .location
  let access (check : Url → Except Access.Fault Unit) : Except Fault Unit :=
    match Url.parse location with
    | .ok u => (check u).mapError .access
    | .error fault => .error (.location (.address fault))
  match backend with
  | .localFiles | .memory => pure ()
  | .amazon => access fun u => Access.amazon e u location
  | .azure => access fun u => Access.azure e u location
  | .google => access fun _ => Access.google e fs directory
  | .web => throw (.unsupported location)
  return { location, backend, path }

/-! ### Local files -/

/-- Why a local file could not be written. -/
inductive Problem where
  | reservedName (path : String)
  | unopened (path : String) (fault : Files.Fault)
  | noDirectory (path : String) (fault : Files.Fault)
  | unmoved (fault : Files.Fault)
  deriving DecidableEq, Repr

/-- The text of a problem. -/
def Problem.message (p : Problem) : String :=
  Access.about "LocalFileSystem" <| match p with
    | reservedName path =>
      "Filenames containing trailing '/#\\d+/' are not supported: " ++ path
    | unopened path fault => "Unable to open file " ++ path ++ ": " ++ fault.message
    | noDirectory path fault => "Unable to create dir " ++ path ++ ": " ++ fault.message
    | unmoved fault => "Unable to rename file: " ++ fault.message

/-- Whether a name may be given to a file: it does not look like that of an incomplete one. -/
def mayName (name : String) : Bool :=
  match (name.toList.dropWhile (· ≠ '#')).drop 1 with
  | [] => true
  | suffix => !suffix.all Char.isDigit

/-- The path of an incomplete file. -/
def stagePath (path : List String) (n : Nat) : List String :=
  match path.getLast? with
  | some name => path.dropLast ++ [name ++ "#" ++ toString n]
  | none => []

/-- The number of an incomplete file, counted from one, that no file has yet. -/
def freeNumber (fs : Files) (path : List String) : Nat :=
  ((List.range fs.entries.length).find? fun i => (fs.get? (stagePath path (i + 1))).isNone).getD
    fs.entries.length + 1

/-- The tree with an incomplete file in it, and the path of that. -/
def stage (fs : Files) (path : List String) (text : String) :
    Except Problem (Files × List String) := do
  let staged := stagePath path (freeNumber fs path)
  let unopened (fs : Files) : Except Problem (Files × List String) :=
    match fs.create staged text with
    | .ok fs => .ok (fs, staged)
    | .error fault => .error (.unopened (FilePath.text staged) fault)
  match fs.create staged text with
  | .error .missing =>
    match fs.makeDirectories path.dropLast with
    | .ok fs => unopened fs
    | .error fault => .error (.noDirectory (FilePath.text path.dropLast) fault)
  | _ => unopened fs

/-- The tree after a local file was replaced, or why it could not be. -/
def writeLocal (fs : Files) (path : List String) (text : String) : Files × Option Problem :=
  match path.getLast? with
  | none => (fs, some (.reservedName ""))
  | some name =>
    if !mayName name then (fs, some (.reservedName ("/".intercalate path)))
    else
      match stage fs path text with
      | .error problem => (fs, some problem)
      | .ok (fs, staged) =>
        let after := fs.remove staged
        match fs.get? path with
        | some .directory => (after, some (.unmoved .isDirectory))
        | _ => (after.put path (.file text), none)

/-! ### Any store -/

/-- The local files after the object was replaced, and what problem there was.  What a service
answers is not known here but given. -/
def write (s : Store) (fs : Files) (answer : Option String) (text : String) :
    Files × Option String :=
  match s.backend with
  | .localFiles =>
    let (fs, problem) := writeLocal fs s.path.segments text
    (fs, problem.map Problem.message)
  | .memory => (fs, none)
  | _ => (fs, answer)

end Store

end OutageWatch
