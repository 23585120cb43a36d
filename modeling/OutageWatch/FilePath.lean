import OutageWatch.Text.Split

/-!
# File paths

A path is a list of parts between slashes; empty parts and single dots do not count.  A path that
does not start with a slash continues the working directory.  Two dots take back the nearest name
in front of them that is not taken back yet, whether or not there is such a directory; above the
root there is nothing to take back.

## Main definitions

* `FilePath.parts`, `FilePath.absolute` : the parts of a path, and those from the root on.
* `FilePath.cancel?` : the parts without two dots.
* `FilePath.normalise?` : the parts from the root on, without two dots.
* `FilePath.text` : the text of a path from the root on.

## Main results

* `FilePath.not_mem_of_cancel?` : no two dots are left.
* `FilePath.cancel?_of_not_mem` : without two dots nothing changes.
-/

namespace OutageWatch.FilePath

/-- Two dots. -/
def up : String := ".."

/-- The parts of a path that count. -/
def parts (path : String) : List String :=
  ((Text.split '/' path.toList).map String.ofList).filter fun part => part ≠ "" && part ≠ "."

/-- Whether a path starts at the root. -/
def isAbsolute (path : String) : Bool := path.toList.head? == some '/'

/-- The parts of a path from the root on. -/
def absolute (directory : List String) (path : String) : List String :=
  if isAbsolute path then parts path else directory ++ parts path

/-- The parts without two dots, behind those kept so far, of which the last comes first. -/
def cancelOnto : List String → List String → Option (List String)
  | kept, [] => some kept.reverse
  | kept, part :: rest =>
    if part = up then (if kept.isEmpty then none else cancelOnto kept.tail rest)
    else cancelOnto (part :: kept) rest

/-- The parts without two dots, unless these lead above the root. -/
def cancel? (path : List String) : Option (List String) := cancelOnto [] path

/-- The parts of a path from the root on, without two dots. -/
def normalise? (directory : List String) (path : String) : Option (List String) :=
  cancel? (absolute directory path)

/-- The text of a path from the root on. -/
def text (path : List String) : String :=
  if path.isEmpty then "/" else String.join (path.map ("/" ++ ·))

/-! ### Two dots -/

theorem not_mem_of_cancelOnto {kept path result : List String} (hk : up ∉ kept)
    (h : cancelOnto kept path = some result) : up ∉ result := by
  induction path generalizing kept with
  | nil =>
    simp only [cancelOnto, Option.some.injEq] at h
    subst h
    simpa using hk
  | cons part rest ih =>
    rw [cancelOnto] at h
    split at h
    · split at h
      · simp at h
      · exact ih (fun hm => hk (List.mem_of_mem_tail hm)) h
    · exact ih (by simp_all [eq_comm]) h

/-- No two dots are left. -/
theorem not_mem_of_cancel? {path result : List String} (h : cancel? path = some result) :
    up ∉ result :=
  not_mem_of_cancelOnto (by simp) h

theorem cancelOnto_of_not_mem {path : List String} (h : up ∉ path) (kept : List String) :
    cancelOnto kept path = some (kept.reverse ++ path) := by
  induction path generalizing kept with
  | nil => simp [cancelOnto]
  | cons part rest ih =>
    simp only [List.mem_cons, not_or] at h
    rw [cancelOnto, if_neg (Ne.symm h.1), ih h.2]
    simp

/-- Without two dots nothing changes. -/
theorem cancel?_of_not_mem {path : List String} (h : up ∉ path) : cancel? path = some path := by
  simpa [cancel?] using cancelOnto_of_not_mem h []

end OutageWatch.FilePath
