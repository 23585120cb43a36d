import OutageWatch.Proofs.Json.Values

/-!
# Members by name

Readers take up the members of an object one after the other.  What they arrive at is told here
name by name: a member that may come only once is read from the values of its name, of which there
may be no second one; of a member that may be repeated the last value counts, but all of them must
mean something.

## Main definitions

* `Json.Tree.valuesOf`, `Json.Tree.others` : the values of the members of a name, and the members
  of other names.
* `Json.Tree.values?` : the values that members mean.
* `Json.Tree.single?`, `Json.Tree.last?`, `Json.Tree.all?` : what the only value means, what the
  last one means, and whether all of them mean something.

## Main results

* `Json.Tree.foldlM_once?`, `Json.Tree.foldlM_last` : taking up the values of a name one by one.
* `Json.Tree.cases_of_last?`, `Json.Tree.join_of_last?` : the last value by itself.
-/

namespace OutageWatch.Json.Tree

variable {α : Type}

/-- The values of the members of a name, in their order. -/
def valuesOf (key : String) (fs : List (String × Tree)) : List Tree :=
  fs.filterMap fun m => if m.1 = key then some m.2 else none

@[simp] theorem valuesOf_nil (key : String) : valuesOf key [] = [] := rfl

@[simp] theorem valuesOf_cons_self (key : String) (t : Tree) (fs : List (String × Tree)) :
    valuesOf key ((key, t) :: fs) = t :: valuesOf key fs := by
  simp [valuesOf]

@[simp] theorem valuesOf_cons_of_ne {key name : String} (h : name ≠ key) (t : Tree)
    (fs : List (String × Tree)) : valuesOf key ((name, t) :: fs) = valuesOf key fs := by
  simp [valuesOf, h]

/-- The members of other names than the given ones, in their order. -/
def others (keys : List String) (fs : List (String × Tree)) : List (String × Tree) :=
  fs.filter fun m => m.1 ∉ keys

@[simp] theorem others_nil (keys : List String) : others keys [] = [] := rfl

theorem others_cons_of_mem {keys : List String} {name : String} (h : name ∈ keys) (t : Tree)
    (fs : List (String × Tree)) : others keys ((name, t) :: fs) = others keys fs := by
  simp [others, h]

theorem others_cons_of_not_mem {keys : List String} {name : String} (h : name ∉ keys) (t : Tree)
    (fs : List (String × Tree)) : others keys ((name, t) :: fs) = (name, t) :: others keys fs := by
  simp [others, h]

/-- The values that members mean. -/
def values? (depth : Nat) (fs : List (String × Tree)) : Option (List (String × Json)) :=
  fs.mapM fun m => (m.2.value? depth).map (m.1, ·)

@[simp] theorem values?_nil (depth : Nat) : values? depth [] = some [] := rfl

@[simp] theorem values?_cons (depth : Nat) (name : String) (t : Tree)
    (fs : List (String × Tree)) :
    values? depth ((name, t) :: fs) =
      (t.value? depth).bind fun v => (values? depth fs).map ((name, v) :: ·) := by
  rw [values?, List.mapM_cons]
  cases t.value? depth with
  | none => rfl
  | some v =>
    show ((values? depth fs).bind fun vs => some ((name, v) :: vs)) = _
    rw [Option.bind_some, Option.map_eq_bind]
    rfl

/-- What the only value means, if there is one; there must be no second one. -/
def single? (f : Tree → Option α) : List Tree → Option (Option α)
  | [] => some none
  | [t] => (f t).map some
  | _ => none

theorem single?_eq_some {f : Tree → Option α} {ts : List Tree} {slot : Option α} :
    single? f ts = some slot ↔
      (ts = [] ∧ slot = none) ∨ ∃ t a, ts = [t] ∧ f t = some a ∧ slot = some a := by
  match ts with
  | [] => simp [single?, eq_comm]
  | [t] => simp [single?, Option.map_eq_some_iff, eq_comm]
  | t :: u :: ts => simp [single?]

/-- What the last value means, if there is one; all of them must mean something. -/
def last? (f : Tree → Option α) (ts : List Tree) : Option (Option α) :=
  (ts.mapM f).map List.getLast?

/-- Whether all values mean something. -/
def all? (f : Tree → Option α) (ts : List Tree) : Option Unit :=
  if ∀ t ∈ ts, (f t).isSome then some () else none

@[simp] theorem all?_nil (f : Tree → Option α) : all? f [] = some () := rfl

@[simp] theorem all?_cons (f : Tree → Option α) (t : Tree) (ts : List Tree) :
    all? f (t :: ts) = (f t).bind fun _ => all? f ts := by
  cases h : f t <;> simp [all?, h]

/-- Taking up values of which only one may come. -/
theorem foldlM_once? (f : Tree → Option α) (ts : List Tree) :
    ts.foldlM (once? f) none = single? f ts := by
  match ts with
  | [] => rfl
  | [t] => cases h : f t <;> simp [single?, h]
  | t :: u :: ts => cases h : f t <;> simp [single?, once?, h]

/-- Taking up values of which the last one counts. -/
theorem foldlM_last (f : Tree → Option α) (ts : List Tree) (a : α) :
    ts.foldlM (fun _ t => f t) a = (last? f ts).map (·.getD a) := by
  induction ts generalizing a with
  | nil => rfl
  | cons t ts ih =>
    rw [List.foldlM_cons, last?, List.mapM_cons]
    cases f t with
    | none => rfl
    | some b =>
      refine (ih b).trans ?_
      rw [last?]
      cases ts.mapM f with
      | none => rfl
      | some bs => cases bs <;> simp [List.getLast?_cons]

theorem foldlM_last_none (f : Tree → Option (Option α)) (ts : List Tree) :
    ts.foldlM (fun _ t => f t) none = (last? f ts).map Option.join := by
  rw [foldlM_last]
  congr 1
  funext a
  cases a <;> rfl

/-- There is no value, or the last one means something. -/
theorem cases_of_last? {f : Tree → Option α} {ts : List Tree} {slot : Option α}
    (h : last? f ts = some slot) :
    (ts.getLast? = none ∧ slot = none) ∨
      ∃ t a, ts.getLast? = some t ∧ f t = some a ∧ slot = some a := by
  obtain ⟨as, has, rfl⟩ := Option.map_eq_some_iff.mp h
  rcases ts.eq_nil_or_concat with rfl | ⟨init, t, rfl⟩
  · obtain rfl := Option.some.inj has
    exact .inl ⟨rfl, rfl⟩
  · rw [List.concat_eq_append, List.mapM_append] at has
    obtain ⟨bs, -, has⟩ := Option.bind_eq_some_iff.mp has
    obtain ⟨cs, hcs, has⟩ := Option.bind_eq_some_iff.mp has
    rw [List.mapM_cons] at hcs
    obtain ⟨a, ha, hcs⟩ := Option.bind_eq_some_iff.mp hcs
    obtain rfl := Option.some.inj hcs
    obtain rfl := Option.some.inj has
    exact .inr ⟨t, a, by simp, ha, by simp⟩

/-- What the last value means is what it means unless it is `null`. -/
theorem join_of_last? {f : Tree → Option α} (hnull : f .null = none) {ts : List Tree}
    {a : Option (Option α)} (h : last? (orNull? f) ts = some a) :
    a.join = ts.getLast?.bind f := by
  rcases cases_of_last? h with ⟨hts, rfl⟩ | ⟨t, b, hts, hb, rfl⟩
  · rw [hts]
    rfl
  · rw [hts, Option.bind_some, Option.join_some]
    by_cases ht : t = .null
    · subst ht
      obtain rfl := Option.some.inj hb
      exact hnull.symm
    · rw [orNull?_of_ne f ht] at hb
      obtain ⟨c, hc, rfl⟩ := Option.map_eq_some_iff.mp hb
      exact hc.symm

end OutageWatch.Json.Tree
