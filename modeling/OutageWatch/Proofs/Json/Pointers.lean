import OutageWatch.Proofs.Json.Fields
import OutageWatch.Proofs.Json.Writing

/-!
# Following names into trees

A path of names leads from one object into another, and of several members of a name it takes the
last one.  It ends where there is no such member or no object at all.  A value and a tree that
means it are left by a path at the same place.

## Main definitions

* `Json.Tree.field?`, `Json.Tree.at?` : the member of a name, and the tree along a path of names.
* `Json.Tree.integer?` : the integer that a tree is, if it fits the signed range.
* `Json.Tree.Means` : a tree means a value.

## Main results

* `Json.Tree.Means.at?` : a tree and its value along one path.
* `Json.Tree.Means.asInt?_eq` : a tree and its value as integers.
-/

namespace OutageWatch.Json

/-- The value of the last member of a name is that of the later members, if there is one. -/
theorem lookup?_cons (key name : String) (j : Json) (members : List (String × Json)) :
    lookup? key ((name, j) :: members) =
      (lookup? key members).or (if name = key then some j else none) := by
  suffices h : ∀ (members : List (String × Json)) (found : Option Json),
      members.foldl (fun found m => if m.1 = key then some m.2 else found) found =
        (lookup? key members).or found from h members _
  intro members
  induction members with
  | nil => exact fun _ => rfl
  | cons m members ih =>
    intro found
    rw [lookup?, List.foldl_cons, List.foldl_cons, ih, ih (if m.1 = key then some m.2 else none)]
    split
    next => cases lookup? key members <;> rfl
    next => rw [Option.or_none]

namespace Tree

/-- The member of a name, the last one of several, if the tree is an object that has it. -/
def field? (key : String) (t : Tree) : Option Tree :=
  t.fields?.bind fun fs => (valuesOf key fs).getLast?

/-- The tree along a path of member names. -/
def at? : List String → Tree → Option Tree
  | [], t => some t
  | key :: path, t => (t.field? key).bind (at? path)

@[simp] theorem at?_nil : at? [] = some := rfl

@[simp] theorem at?_cons (key : String) (path : List String) (t : Tree) :
    t.at? (key :: path) = (t.field? key).bind (at? path) := rfl

/-- The integer that a tree is, if it fits the signed range of 64 bits. -/
def integer? : Tree → Option Int
  | .number s => s.integer?
  | _ => none

/-- A tree means a value. -/
def Means (t : Tree) (j : Json) : Prop := ∃ depth, t.value? depth = some j

/-- An object means what its members mean. -/
theorem value?_object (depth : Nat) (ms : List (List Piece × Tree)) :
    value? (depth + 1) (.object ms) =
      ((fields? (.object ms)).bind (values? depth)).map .object := by
  rw [value?, fields?]
  congr 1
  induction ms with
  | nil => rfl
  | cons m ms ih =>
    rw [List.mapM_cons, List.mapM_cons, ih]
    cases Piece.name? false m.1 with
    | none => rfl
    | some name =>
      cases hms : ms.mapM fun m => (Piece.name? false m.1).map (·, m.2) with
      | none => cases value? depth m.2 <;> simp
      | some fs =>
        rw [Option.bind_some]
        cases hv : value? depth m.2 with
        | none => simp [hv]
        | some v =>
          simp only [Option.bind_some, Option.pure_def, Option.bind_eq_bind, values?_cons, hv,
            Option.map_eq_bind, Function.comp_def]

/-- Of the members of a name and of what they mean the last one is taken. -/
theorem rel_getLast?_lookup? {depth : Nat} (key : String) {fs : List (String × Tree)}
    {vs : List (String × Json)} (h : values? depth fs = some vs) :
    Option.Rel Means (valuesOf key fs).getLast? (lookup? key vs) := by
  induction fs generalizing vs with
  | nil =>
    obtain rfl := Option.some.inj h
    exact .none
  | cons m fs ih =>
    obtain ⟨name, t⟩ := m
    rw [values?_cons] at h
    obtain ⟨v, hv, h⟩ := Option.bind_eq_some_iff.mp h
    obtain ⟨vs, hvs, rfl⟩ := Option.map_eq_some_iff.mp h
    have ih := ih hvs
    rw [lookup?_cons]
    by_cases hname : name = key
    · subst hname
      rw [valuesOf_cons_self, List.getLast?_cons, if_pos rfl]
      generalize (valuesOf name fs).getLast? = later at ih ⊢
      generalize lookup? name vs = found at ih ⊢
      cases ih with
      | some hlast => exact .some hlast
      | none => exact .some ⟨_, hv⟩
    · rw [valuesOf_cons_of_ne hname, if_neg hname, Option.or_none]
      exact ih

theorem valuesOf_others {key : String} {keys : List String} (h : key ∉ keys)
    (fs : List (String × Tree)) : valuesOf key (others keys fs) = valuesOf key fs := by
  induction fs with
  | nil => rfl
  | cons m fs ih =>
    obtain ⟨name, t⟩ := m
    by_cases hname : name = key
    · subst hname
      rw [others_cons_of_not_mem h, valuesOf_cons_self, valuesOf_cons_self, ih]
    · rw [valuesOf_cons_of_ne hname, ← ih]
      by_cases hmem : name ∈ keys
      · rw [others_cons_of_mem hmem]
      · rw [others_cons_of_not_mem hmem, valuesOf_cons_of_ne hname]

namespace Means

variable {t : Tree} {j : Json}

/-- A tree that means a value is a number, an object, or neither, and so is the value. -/
theorem cases (h : t.Means j) :
    (∃ s n, t = .number s ∧ s.value? = some n ∧ j = .number n) ∨
    (∃ fs depth vs, t.fields? = some fs ∧ values? depth fs = some vs ∧ j = .object vs ∧
      t.integer? = none) ∨
    (t.fields? = none ∧ t.integer? = none ∧ (∀ key, j.field? key = none) ∧ j.asInt? = none) := by
  obtain ⟨depth, h⟩ := h
  cases t with
  | number s =>
    rw [value?] at h
    obtain ⟨n, hn, rfl⟩ := Option.map_eq_some_iff.mp h
    exact .inl ⟨s, n, rfl, hn, rfl⟩
  | object ms =>
    cases depth with
    | zero => rw [value?] at h; contradiction
    | succ depth =>
      rw [value?_object] at h
      obtain ⟨vs, hvs, rfl⟩ := Option.map_eq_some_iff.mp h
      obtain ⟨fs, hfs, hvs⟩ := Option.bind_eq_some_iff.mp hvs
      exact .inr (.inl ⟨fs, depth, vs, hfs, hvs, rfl, rfl⟩)
  | array ts =>
    cases depth with
    | zero => rw [value?] at h; contradiction
    | succ depth =>
      rw [value?] at h
      obtain ⟨items, -, rfl⟩ := Option.map_eq_some_iff.mp h
      exact .inr (.inr ⟨rfl, rfl, fun _ => rfl, rfl⟩)
  | string ps =>
    rw [value?] at h
    obtain ⟨s, -, rfl⟩ := Option.map_eq_some_iff.mp h
    exact .inr (.inr ⟨rfl, rfl, fun _ => rfl, rfl⟩)
  | null =>
    rw [value?] at h
    obtain rfl := Option.some.inj h
    exact .inr (.inr ⟨rfl, rfl, fun _ => rfl, rfl⟩)
  | bool b =>
    rw [value?] at h
    obtain rfl := Option.some.inj h
    exact .inr (.inr ⟨rfl, rfl, fun _ => rfl, rfl⟩)

/-- A tree and its value have the same member of a name. -/
theorem field? (h : t.Means j) (key : String) :
    Option.Rel Means (t.field? key) (j.field? key) := by
  rcases h.cases with ⟨s, n, rfl, -, rfl⟩ | ⟨fs, depth, vs, hfs, hvs, rfl, -⟩ | ⟨hfs, -, hj, -⟩
  · exact .none
  · rw [Tree.field?, hfs]
    exact rel_getLast?_lookup? key hvs
  · rw [Tree.field?, hfs, hj]
    exact .none

/-- A tree and its value are left by a path at the same place. -/
theorem at? (h : t.Means j) (path : List String) : Option.Rel Means (t.at? path) (j.at? path) := by
  induction path generalizing t j with
  | nil => exact .some h
  | cons key path ih =>
    have hfield := h.field? key
    rw [Tree.at?_cons, Json.at?_cons]
    generalize t.field? key = u at hfield ⊢
    generalize j.field? key = v at hfield ⊢
    cases hfield with
    | some hfield => exact ih hfield
    | none => exact .none

/-- A tree and its value are the same integer, or none. -/
theorem asInt?_eq (h : t.Means j) : j.asInt? = t.integer? := by
  rcases h.cases with ⟨s, n, rfl, hn, rfl⟩ | ⟨fs, depth, vs, -, -, rfl, ht⟩ | ⟨-, ht, -, hj⟩
  · exact Reader.Numeral.asInt?_of_value? hn
  · exact ht.symm
  · rw [ht, hj]

end Means

/-- Members that mean something lead to the same places as what they mean. -/
theorem rel_bind_at? {u : Option Tree} {v : Option Json} (h : Option.Rel Means u v)
    (path : List String) : Option.Rel Means (u.bind (at? path)) (v.bind (Json.at? path)) := by
  cases h with
  | some h => exact h.at? path
  | none => exact .none

@[simp] theorem field?_ofMembers (key : String) (ms : List (String × Tree)) :
    (ofMembers ms).field? key = (valuesOf key ms).getLast? := by
  rw [field?, fields?_ofMembers, Option.bind_some]

theorem integer?_ofInt {n : Int} (h : Fits n) : (ofInt n).integer? = some n :=
  (Reader.Numeral.asInt?_of_value? (value?_ofInt h)).symm.trans (if_pos h)

end Tree

end OutageWatch.Json
