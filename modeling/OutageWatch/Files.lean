import OutageWatch.FilePath
import OutageWatch.Text.Utf8

/-!
# Directories and files

A tree of directories and files is kept as a list of paths from the root with what is there; the
root is always a directory.  Going along a path asks for a directory at every step.

## Main definitions

* `Files`, `Files.Entry` : a tree, and what is at a path.
* `Files.Fault`, `Files.Fault.message` : why there is nothing to go to.
* `Files.locate`, `Files.read` : what is at a path, and the text of a file.
* `Files.put`, `Files.remove`, `Files.makeDirectories`, `Files.create` : the changes of a tree.

## Main results

* `Files.get?_put_self`, `Files.get?_put_of_ne` : a change is found where it was made, and nowhere
  else.
-/

namespace OutageWatch

/-- What is at a path. -/
inductive Files.Entry where
  | file (text : String)
  | directory
  deriving DecidableEq, Repr

/-- A tree of directories and files. -/
structure Files where
  entries : List (List String × Files.Entry)
  deriving Repr

namespace Files

/-! ### Faults -/

/-- Why there is nothing to go to. -/
inductive Fault where
  | missing
  | occupied
  | notDirectory
  | isDirectory
  | nameTooLong
  | badName
  deriving DecidableEq, Repr

/-- The text of a fault. -/
def Fault.message : Fault → String
  | missing => "No such file or directory (os error 2)"
  | occupied => "File exists (os error 17)"
  | notDirectory => "Not a directory (os error 20)"
  | isDirectory => "Is a directory (os error 21)"
  | nameTooLong => "File name too long (os error 36)"
  | badName => "file name contained an unexpected NUL byte"

/-- How many bytes a name may have. -/
def longestName : Nat := 255

/-- How many bytes a path may have. -/
def longestPath : Nat := 4095

/-! ### Looking up -/

/-- The tree of the root alone. -/
def empty : Files := ⟨[]⟩

/-- What is at a path. -/
def get? (fs : Files) (path : List String) : Option Entry :=
  if path.isEmpty then some .directory else (fs.entries.find? (·.1 == path)).map (·.2)

/-- What is at a path behind the directory `place`. -/
def locateFrom (fs : Files) (place : List String) : List String → Except Fault Entry
  | [] =>
    match fs.get? place with
    | some e => .ok e
    | none => .error .missing
  | name :: rest =>
    match fs.get? place with
    | none => .error .missing
    | some (.file _) => .error .notDirectory
    | some .directory =>
      if name = FilePath.up then locateFrom fs place.dropLast rest
      else if longestName < Utf8.size name.toList then .error .nameTooLong
      else locateFrom fs (place ++ [name]) rest

/-- What is at a path from the root on. -/
def locate (fs : Files) (path : List String) : Except Fault Entry :=
  if longestPath < Utf8.size (FilePath.text path).toList then .error .nameTooLong
  else fs.locateFrom [] path

/-- The text of the file at a written path, seen from a directory. -/
def read (fs : Files) (directory : List String) (path : String) : Except Fault String := do
  if path.toList.contains '\x00' then throw .badName
  if path.isEmpty then throw .missing
  match ← fs.locate (FilePath.absolute directory path) with
  | .directory => throw .isDirectory
  | .file text => if path.toList.getLast? = some '/' then throw .notDirectory else return text

/-! ### Changes -/

/-- The tree with an entry at a path, in place of what was there. -/
def put (fs : Files) (path : List String) (e : Entry) : Files :=
  ⟨(path, e) :: fs.entries.filter (·.1 != path)⟩

/-- The tree without the entry at a path. -/
def remove (fs : Files) (path : List String) : Files := ⟨fs.entries.filter (·.1 != path)⟩

@[simp] theorem get?_put_self (fs : Files) {path : List String} (e : Entry) (h : path ≠ []) :
    (fs.put path e).get? path = some e := by
  simp [get?, put, h]

theorem get?_put_of_ne (fs : Files) {path other : List String} (e : Entry) (h : other ≠ path) :
    (fs.put path e).get? other = fs.get? other := by
  unfold get? put
  split
  · rfl
  · rw [List.find?_cons_of_neg (by simpa using Ne.symm h), List.find?_filter]
    congr 2
    funext x
    by_cases hx : x.1 = other <;> simp_all

/-- The tree with directories along a path, behind the directory `place`. -/
def makeDirectoriesFrom (fs : Files) (place : List String) : List String → Except Fault Files
  | [] => .ok fs
  | name :: rest =>
    let next := place ++ [name]
    if longestName < Utf8.size name.toList then .error .nameTooLong
    else
      match fs.get? next with
      | some .directory => makeDirectoriesFrom fs next rest
      | some (.file _) => .error (if rest.isEmpty then .occupied else .notDirectory)
      | none => makeDirectoriesFrom (fs.put next .directory) next rest

/-- The tree with directories along a path from the root on. -/
def makeDirectories (fs : Files) (path : List String) : Except Fault Files :=
  fs.makeDirectoriesFrom [] path

/-- The tree with a new file, where nothing was before. -/
def create (fs : Files) (path : List String) (text : String) : Except Fault Files :=
  match fs.locate path with
  | .ok _ => .error .occupied
  | .error .missing =>
    match fs.get? path.dropLast with
    | some .directory => .ok (fs.put path (.file text))
    | _ => .error .missing
  | .error e => .error e

end Files

end OutageWatch
