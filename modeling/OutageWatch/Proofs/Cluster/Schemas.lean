import OutageWatch.Cluster.Schema
import OutageWatch.Proofs.Json.Fields

/-!
# Trees of a shape

A value of a shape is read from exactly the trees that have it.  Both are told by recursion on the
shape, so the reader of a shape is followed through all of them at once.

## Main definitions

* `Schema.check?`, `Schema.memberCheck?` : whether a tree has a shape, as a value and as a member.

## Main results

* `Schema.check?_record_eq_some_iff` : the trees that have the shape of a record.
* `Schema.decodes_reader`, `Schema.decodes_memberReader` : the readers of shapes.
-/

namespace OutageWatch

open Json Json.Reader

namespace Schema

mutual

/-- Whether a tree has a shape, with at most `depth` arrays and objects one inside the other. -/
def check? : Schema → Nat → Tree → Option Unit
  | text, _, t => t.string?.map fun _ => ()
  | boolean, _, t => t.bool?.map fun _ => ()
  | integer, _, t => (t.int? leastInt greatestInt).map fun _ => ()
  | timestamp, _, t => t.string?.bind fun s => if Timestamp.isText s then some () else none
  | anything, depth, t => (t.value? depth).map fun _ => ()
  | list item, depth, t => (t.items? (item.check? (depth - 1))).map fun _ => ()
  | map value, depth, t => t.fold? (fun _ _ u => value.check? (depth - 1) u) ()
  | record members, depth, t => t.fold? (fun _ name u => memberCheck? members name (depth - 1) u) ()

/-- Whether a tree has the shape of the member of a name. -/
def memberCheck? : List (String × Schema) → String → Nat → Tree → Option Unit
  | [], _, _, _ => some ()
  | (key, s) :: rest, name, depth, t =>
    if name = key then (t.orNull? (s.check? depth)).map fun _ => ()
    else memberCheck? rest name depth t

end

/-- Whether all members of an object have the shapes of their names. -/
def fieldsCheck? (members : List (String × Schema)) (depth : Nat)
    (fs : List (String × Tree)) : Option Unit :=
  fs.foldlM (fun _ f => memberCheck? members f.1 depth f.2) ()

@[simp] theorem fieldsCheck?_nil (members : List (String × Schema)) (depth : Nat) :
    fieldsCheck? members depth [] = some () := rfl

@[simp] theorem fieldsCheck?_cons (members : List (String × Schema)) (depth : Nat) (name : String)
    (t : Tree) (fs : List (String × Tree)) :
    fieldsCheck? members depth ((name, t) :: fs) =
      (memberCheck? members name depth t).bind fun _ => fieldsCheck? members depth fs := rfl

/-- A member of another name may be anything. -/
theorem memberCheck?_of_forall_ne {members : List (String × Schema)} {name : String}
    (h : ∀ m ∈ members, m.1 ≠ name) (depth : Nat) (t : Tree) :
    memberCheck? members name depth t = some () := by
  induction members with
  | nil => rfl
  | cons m members ih =>
    rw [memberCheck?, if_neg (h m List.mem_cons_self).symm]
    exact ih fun m hm => h m (List.mem_cons_of_mem _ hm)

/-- A member of a name that is agreed on must have the shape of that name, or be `null`. -/
theorem memberCheck?_eq_some_iff {members : List (String × Schema)}
    (hnodup : (members.map Prod.fst).Nodup) {name : String} {depth : Nat} {t : Tree} :
    memberCheck? members name depth t = some () ↔
      ∀ s, (name, s) ∈ members → (t.orNull? (s.check? depth)).isSome := by
  induction members with
  | nil => simp [memberCheck?]
  | cons m members ih =>
    obtain ⟨key, s⟩ := m
    obtain ⟨hkey, hnodup⟩ := List.nodup_cons.mp hnodup
    rw [memberCheck?]
    by_cases hname : name = key
    · subst hname
      have hnone (s' : Schema) : (name, s') ∉ members := fun h =>
        hkey (List.mem_map.mpr ⟨_, h, rfl⟩)
      rw [if_pos rfl]
      cases h : t.orNull? (s.check? depth) <;> simp [hnone, h]
    · rw [if_neg hname, ih hnodup]
      simp [hname]

theorem fieldsCheck?_eq_some_iff {members : List (String × Schema)} {depth : Nat}
    {fs : List (String × Tree)} :
    fieldsCheck? members depth fs = some () ↔
      ∀ f ∈ fs, memberCheck? members f.1 depth f.2 = some () := by
  induction fs with
  | nil => simp
  | cons f fs ih =>
    rw [fieldsCheck?_cons, Option.bind_eq_some_iff, List.forall_mem_cons, ← ih]
    constructor
    · rintro ⟨_, hf, hfs⟩
      exact ⟨hf, hfs⟩
    · rintro ⟨hf, hfs⟩
      exact ⟨(), hf, hfs⟩

/-- A tree has the shape of a record iff it is an object of which every member of a name that is
agreed on has the shape of that name or is `null`. -/
theorem check?_record_eq_some_iff {members : List (String × Schema)}
    (hnodup : (members.map Prod.fst).Nodup) {depth : Nat} {t : Tree} :
    (record members).check? depth t = some () ↔
      ∃ fs, t.fields? = some fs ∧ ∀ f ∈ fs, ∀ s, (f.1, s) ∈ members →
        (f.2.orNull? (s.check? (depth - 1))).isSome := by
  rw [check?, Tree.fold?, Option.bind_eq_some_iff]
  simp only [← memberCheck?_eq_some_iff hnodup, ← fieldsCheck?_eq_some_iff]
  rfl

theorem settles_isText (s : String) :
    Settles (if !Timestamp.isText s then mismatch (.wrongValue (.string s) "a time") else pure ())
      (if Timestamp.isText s then some () else none) := by
  cases Timestamp.isText s with
  | false => simp [Settles]
  | true => exact settles_pure ()

mutual

/-- A value of a shape is read from the trees that have it. -/
theorem decodes_reader : ∀ (s : Schema) (depth : Nat),
    Decodes Gap (s.reader depth) (s.check? depth)
  | text, _ => decodes_discard (decodes_string _)
  | boolean, _ => decodes_discard decodes_bool
  | integer, _ => decodes_discard decodes_int64
  | timestamp, _ => decodes_bind_settles (decodes_string _) settles_isText
  | anything, _ => decodes_discard (decodes_value _)
  | list item, _ => decodes_discard (decodes_listOf (decodes_reader item _))
  | map value, _ => decodes_objectOf (fun _ _ => decodes_colon (decodes_reader value _)) ()
  | record members, _ => decodes_objectOf (fun _ name => decodes_memberReader members name _) ()

/-- A member of a shape is read from the trees that have it. -/
theorem decodes_memberReader : ∀ (members : List (String × Schema)) (name : String) (depth : Nat),
    Decodes Colon (memberReader members name depth) (memberCheck? members name depth)
  | [], _, _ => decodes_ignore
  | (key, s) :: rest, name, depth => by
    by_cases hname : name = key
    · simp only [memberReader, memberCheck?, if_pos hname]
      exact decodes_colon (decodes_discard (decodes_orNull (decodes_reader s depth)))
    · simp only [memberReader, memberCheck?, if_neg hname]
      exact decodes_memberReader rest name depth

end

end Schema

end OutageWatch
