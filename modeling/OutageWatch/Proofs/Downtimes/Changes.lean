import Mathlib.Algebra.Ring.Parity
import OutageWatch.Proofs.Downtimes.Boundaries

/-!
# What a history records

An entity is sighted again and again, up or down.  A sighting is a *change* if the entity is not as
it was at the sighting before it; before the first one it counts as up.  A history that was empty
at first records exactly the changes: it has one boundary for each, and the boundary is the latest
time of any change so far.  As long as the clock does not go back that is the time of the change
itself.

## Main definitions

* `Sighting`, `Downtimes.sighted` : one sighting, and a history after it.
* `Sighting.changes` : the times of the changes among sightings.
* `Downtimes.Records` : how a history records changes.

## Main results

* `Downtimes.records_foldl` : an empty history that sightings are added to records their changes.
* `Downtimes.Records.boundaries_eq` : under a clock that does not go back, the boundaries are the
  times of the changes.
-/

namespace OutageWatch

/-- One sighting of an entity: whether it was up, and when. -/
structure Sighting where
  up : Bool
  now : Int
  deriving DecidableEq, Repr

namespace Sighting

/-- The times of those sightings that differ from the one before; `up` is how the entity was
before the first one. -/
def changes (up : Bool) : List Sighting → List Int
  | [] => []
  | s :: rest => if s.up = up then changes up rest else s.now :: changes s.up rest

/-- The times of changes are times of sightings, in their order. -/
theorem changes_sublist (up : Bool) (l : List Sighting) :
    (changes up l).Sublist (l.map Sighting.now) := by
  induction l generalizing up with
  | nil => exact List.Sublist.slnil
  | cons s rest ih =>
    rw [changes, List.map_cons]
    split
    · exact (ih up).cons s.now
    · exact (ih s.up).cons_cons s.now

end Sighting

/-- The latest of some times and one more. -/
theorem max?_concat (l : List Int) (now : Int) :
    (l ++ [now]).max? = some (l.max?.elim now (max now)) := by
  cases hm : l.max? with
  | none =>
    rw [List.max?_eq_none_iff.mp hm]
    rfl
  | some m =>
    obtain ⟨hmem, hle⟩ := List.max?_eq_some_iff.mp hm
    rw [List.max?_eq_some_iff, Option.elim_some]
    constructor
    · rcases Int.le_total now m with h | h
      · rw [Int.max_eq_right h]
        exact List.mem_append_left _ hmem
      · rw [Int.max_eq_left h]
        exact List.mem_append_right _ (List.mem_singleton.mpr rfl)
    · intro b hb
      rcases List.mem_append.mp hb with hb | hb
      · exact Int.le_trans (hle b hb) (Int.le_max_right ..)
      · rw [List.mem_singleton.mp hb]
        exact Int.le_max_left ..

namespace Downtimes

/-- A history after a sighting. -/
def sighted (d : Downtimes) (s : Sighting) : Downtimes := d.observe s.up s.now

/-- An orderly history stays so under sightings. -/
theorem Orderly.foldl_sighted {d : Downtimes} (hd : d.Orderly) (l : List Sighting) :
    (l.foldl sighted d).Orderly := by
  induction l generalizing d with
  | nil => exact hd
  | cons s rest ih => exact ih (hd.observe s.up s.now)

/-- A history records changes at the given times if it has one boundary for each change, the
latest time of any change so far, and ends with an open interval iff the last change was one
from up to down. -/
structure Records (d : Downtimes) (changes : List Int) : Prop where
  length_eq : d.boundaries.length = changes.length
  getElem?_eq : ∀ k < changes.length, d.boundaries[k]? = (changes.take (k + 1)).max?
  isOpen_iff : d.isOpen = true ↔ Odd changes.length

namespace Records

variable {d : Downtimes} {changes : List Int}

theorem empty : empty.Records [] := ⟨rfl, by simp, by simp⟩

/-- The last boundary is the latest time of all. -/
theorem getLast?_eq (hd : d.Records changes) : d.boundaries.getLast? = changes.max? := by
  rw [List.getLast?_eq_getElem?, hd.length_eq]
  rcases Nat.eq_zero_or_pos changes.length with h | h
  · have hb : d.boundaries = [] := List.length_eq_zero_iff.mp (hd.length_eq.trans h)
    rw [List.length_eq_zero_iff.mp h, hb]
    rfl
  · rw [hd.getElem?_eq _ (by omega), Nat.sub_add_cancel h, List.take_length]

/-- One more change is recorded by one more boundary. -/
theorem observe (hd : d.Records changes) (now : Int) :
    (d.observe d.isOpen now).Records (changes ++ [now]) := by
  have hb : (d.observe d.isOpen now).boundaries = d.boundaries ++ [d.nextBoundary now] := by
    rw [boundaries_observe, if_pos rfl]
  refine ⟨by simp [hb, hd.length_eq], ?_, ?_⟩
  · intro k hk
    rw [List.length_append, List.length_singleton] at hk
    rw [hb]
    rcases Nat.lt_or_ge k changes.length with h | h
    · rw [List.getElem?_append_left (by rw [hd.length_eq]; exact h), hd.getElem?_eq k h,
        List.take_append_of_le_length h]
    · have hk' : k = changes.length := by omega
      subst hk'
      have hall : (changes ++ [now]).take (changes.length + 1) = changes ++ [now] :=
        List.take_of_length_le (by simp)
      rw [hall, max?_concat, ← hd.getLast?_eq, ← hd.length_eq, List.getElem?_concat_length]
      rfl
  · rw [isOpen_observe, Bool.not_eq_true', List.length_append, List.length_singleton,
      Nat.odd_add_one, ← hd.isOpen_iff, Bool.not_eq_true]

/-- What is recorded after some more sightings. -/
theorem foldl (hd : d.Records changes) (l : List Sighting) :
    (l.foldl sighted d).Records (changes ++ Sighting.changes (!d.isOpen) l) := by
  induction l generalizing d changes with
  | nil => simpa [Sighting.changes] using hd
  | cons s rest ih =>
    rw [List.foldl_cons, Sighting.changes]
    by_cases h : d.isOpen = s.up
    · -- the entity is not as it was
      have hs : d.sighted s = d.observe d.isOpen s.now := by rw [sighted, h]
      have hopen : (!(d.sighted s).isOpen) = s.up := by simp [sighted]
      rw [if_neg (by simp [h]), hs]
      have := ih (hd.observe s.now)
      rwa [← hs, hopen, List.append_assoc, List.singleton_append, hs] at this
    · rw [if_pos (Bool.eq_not.mpr (Ne.symm h))]
      have hs : d.sighted s = d := observe_of_isOpen_ne h s.now
      rw [hs]
      exact ih hd

/-- Under a clock that does not go back, the boundaries are the times of the changes. -/
theorem boundaries_eq (hd : d.Records changes) (hc : changes.Pairwise (· ≤ ·)) :
    d.boundaries = changes := by
  apply List.ext_getElem?
  intro k
  rcases Nat.lt_or_ge k changes.length with h | h
  · rw [hd.getElem?_eq k h, List.getElem?_eq_getElem h, List.max?_eq_some_iff]
    constructor
    · exact List.mem_take_iff_getElem.mpr ⟨k, by omega, rfl⟩
    · intro b hb
      obtain ⟨i, hi, rfl⟩ := List.mem_take_iff_getElem.mp hb
      exact hc.rel_get_of_le (a := ⟨i, by omega⟩) (b := ⟨k, h⟩) (by simp; omega)
  · have hb : d.boundaries.length ≤ k := by rw [hd.length_eq]; exact h
    rw [List.getElem?_eq_none h, List.getElem?_eq_none hb]

end Records

/-- An empty history that sightings are added to records their changes. -/
theorem records_foldl (l : List Sighting) :
    (l.foldl sighted empty).Records (Sighting.changes true l) := Records.empty.foldl l

end Downtimes

end OutageWatch
