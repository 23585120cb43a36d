import Mathlib.Algebra.Ring.Int.Defs
import Mathlib.Data.Finset.Card
import Mathlib.Data.Finset.Union
import OutageWatch.Proofs.Downtimes.Boundaries

/-!
# The time that a history covers

An ended interval covers the times from its start up to its end, and an open one all times from its
start on.  Seen this way, an observation cuts a history at its time: before that nothing changes,
and from then on the history covers everything or nothing, as the entity was seen down or up.  For
this the history must be orderly and must not reach beyond the observation.

If it is orderly and not open, a history covers finitely many times, and their number is its total.
So totals are compared by comparing what is covered.

## Main definitions

* `Downtimes.Covers` : a time lies in some interval.
* `Downtimes.points` : the times that the ended intervals cover.

## Main results

* `Downtimes.covers_observe_of_lt`, `Downtimes.covers_iff_isOpen` : what is covered before an
  observation, and from then on.
* `Downtimes.card_points` : the total of an orderly history is the number of times it covers.
* `Downtimes.total_le_total`, `Downtimes.total_le_sum` : totals of histories that cover less than
  another one, or than some others together.
-/

namespace OutageWatch

/-- A time lies in an interval: not before its start, and before its end if it has one. -/
def Interval.Covers (i : Interval) (x : Int) : Prop := i.start ≤ x ∧ ∀ finish ∈ i.finish, x < finish

namespace Interval

@[simp] theorem covers_none {start x : Int} : Covers ⟨start, none⟩ x ↔ start ≤ x := by
  simp [Covers]

@[simp] theorem covers_some {start finish x : Int} :
    Covers ⟨start, some finish⟩ x ↔ start ≤ x ∧ x < finish := by
  simp [Covers]

end Interval

namespace Downtimes

/-- A time lies in some interval of a history. -/
def Covers (d : Downtimes) (x : Int) : Prop := ∃ i ∈ d.intervals, i.Covers x

@[simp] theorem not_covers_empty (x : Int) : ¬empty.Covers x := by simp [Covers, empty]

@[simp] theorem covers_append {l m : List Interval} {x : Int} :
    Covers ⟨l ++ m⟩ x ↔ Covers ⟨l⟩ x ∨ Covers ⟨m⟩ x := by
  simp only [Covers, List.mem_append, or_and_right, exists_or]

@[simp] theorem covers_singleton {i : Interval} {x : Int} : Covers ⟨[i]⟩ x ↔ i.Covers x := by
  simp [Covers]

/-! ### Observations -/

/-- An observation does not change what was covered before it. -/
theorem covers_observe_of_lt {now x : Int} (hx : x < now) (up : Bool) (d : Downtimes) :
    (d.observe up now).Covers x ↔ d.Covers x := by
  induction d using casesLast with
  | empty =>
    cases up with
    | true => rfl
    | false =>
      rw [observe_false, markDown_empty, covers_singleton, Interval.covers_none]
      exact iff_of_false (by omega) (not_covers_empty x)
  | opened l start =>
    cases up with
    | true =>
      rw [observe_true, markUp_opened, covers_append, covers_append, covers_singleton,
        covers_singleton, Interval.covers_none, Interval.covers_some]
      have : x < max now start := by omega
      simp [this]
    | false => rw [observe_false, markDown_opened]
  | ended l start finish =>
    cases up with
    | true => rw [observe_true, markUp_ended]
    | false =>
      rw [observe_false, markDown_ended, covers_append (m := [_]), covers_singleton,
        Interval.covers_none]
      have : ¬max now finish ≤ x := by omega
      simp [this]

/-- At most one observation does not change what was covered before it. -/
theorem Polled.covers_iff_of_lt {now x : Int} {d e : Downtimes} (h : Polled now d e)
    (hx : x < now) : e.Covers x ↔ d.Covers x := by
  cases h with
  | unseen => rfl
  | seen up => exact covers_observe_of_lt hx up d

/-- An ended interval covers no time that its history does not reach beyond. -/
theorem not_covers_of_isOpen_eq_false {d : Downtimes} {now x : Int}
    (hle : ∀ b ∈ d.boundaries, b ≤ now) (hx : now ≤ x) {i : Interval} (hi : i ∈ d.intervals)
    (hi' : i.isOpen = false) : ¬i.Covers x := by
  obtain ⟨start, finish⟩ := i
  cases finish with
  | none => simp [Interval.isOpen] at hi'
  | some finish =>
    have hb : finish ∈ d.boundaries := List.mem_flatMap.mpr ⟨_, hi, by simp [Interval.boundaries]⟩
    have := hle finish hb
    rw [Interval.covers_some]
    omega

/-- From the time on that an orderly history reaches to, it covers everything or nothing. -/
theorem covers_iff_isOpen {d : Downtimes} (hd : d.Orderly) {now x : Int}
    (hle : ∀ b ∈ d.boundaries, b ≤ now) (hx : now ≤ x) : d.Covers x ↔ d.isOpen = true := by
  have hnot {i : Interval} := not_covers_of_isOpen_eq_false hle hx (i := i)
  induction d using casesLast with
  | empty => simp
  | opened l start =>
    have hstart : start ≤ now := hle start (by simp [Interval.boundaries])
    refine iff_of_true ⟨⟨start, none⟩, by simp, ?_⟩ (by simp [Interval.isOpen])
    rw [Interval.covers_none]
    omega
  | ended l start finish =>
    refine iff_of_false ?_ (by simp [Interval.isOpen])
    rintro ⟨i, hi, hcov⟩
    rcases List.mem_append.mp hi with hl | hl
    · exact hnot hi (hd.ended i (by simpa using hl)) hcov
    · rw [List.mem_singleton.mp hl] at hi hcov
      exact hnot hi rfl hcov

end Downtimes

/-! ### Totals -/

/-- The times that an interval covers, if it has ended. -/
def Interval.points (i : Interval) : Finset Int :=
  i.finish.elim ∅ fun finish =>
    (Finset.range (finish - i.start).toNat).image fun k : Nat => i.start + k

theorem Interval.points_some (start finish : Int) : points ⟨start, some finish⟩ =
    (Finset.range (finish - start).toNat).image fun k : Nat => start + k := rfl

theorem Interval.mem_points {i : Interval} (hi : i.isOpen = false) {x : Int} :
    x ∈ i.points ↔ i.Covers x := by
  obtain ⟨start, finish⟩ := i
  cases finish with
  | none => simp [isOpen] at hi
  | some finish =>
    rw [points_some, Finset.mem_image, covers_some]
    constructor
    · rintro ⟨k, hk, rfl⟩
      have := Finset.mem_range.mp hk
      omega
    · rintro ⟨hstart, hfinish⟩
      refine ⟨(x - start).toNat, Finset.mem_range.mpr ?_, ?_⟩
      · omega
      · omega

/-- An ended interval covers as many times as it is long. -/
theorem Interval.card_points (start finish : Int) :
    (points ⟨start, some finish⟩).card = (finish - start).toNat := by
  rw [points_some, Finset.card_image_of_injective, Finset.card_range]
  intro j k hjk
  have : start + (j : Int) = start + k := hjk
  omega

namespace Downtimes

/-- The times that the ended intervals of a history cover. -/
def points (d : Downtimes) : Finset Int := d.intervals.toFinset.biUnion Interval.points

theorem points_cons (i : Interval) (l : List Interval) :
    points ⟨i :: l⟩ = i.points ∪ points ⟨l⟩ := by
  rw [points, List.toFinset_cons, Finset.biUnion_insert]
  rfl

/-- A history without an open interval covers just the points of its intervals. -/
theorem mem_points {d : Downtimes} (hd : ∀ i ∈ d.intervals, i.isOpen = false) {x : Int} :
    x ∈ d.points ↔ d.Covers x := by
  simp only [points, Finset.mem_biUnion, List.mem_toFinset, Covers]
  constructor
  · rintro ⟨i, hi, hx⟩
    exact ⟨i, hi, (Interval.mem_points (hd i hi)).mp hx⟩
  · rintro ⟨i, hi, hx⟩
    exact ⟨i, hi, (Interval.mem_points (hd i hi)).mpr hx⟩

/-- Ended intervals in order cover as many times as they are long. -/
theorem card_points_of_sorted {l : List Interval} (hl : ∀ i ∈ l, i.isOpen = false)
    (hs : (boundaries ⟨l⟩).Pairwise (· ≤ ·)) : ((points ⟨l⟩).card : Int) = total ⟨l⟩ := by
  induction l with
  | nil => rfl
  | cons i rest ih =>
    obtain ⟨hi, hrest⟩ := List.forall_mem_cons.mp hl
    obtain ⟨start, finish⟩ := i
    cases finish with
    | none => simp [Interval.isOpen] at hi
    | some finish =>
      have hb : boundaries ⟨⟨start, some finish⟩ :: rest⟩ =
          start :: finish :: boundaries ⟨rest⟩ := rfl
      rw [hb, List.pairwise_cons, List.pairwise_cons] at hs
      obtain ⟨hstart, hfinish, hs⟩ := hs
      have hle : start ≤ finish := hstart finish List.mem_cons_self
      -- whatever comes later starts at the end of the first interval or after it
      have hdisj : Disjoint (Interval.points ⟨start, some finish⟩) (points ⟨rest⟩) := by
        rw [Finset.disjoint_left]
        intro x hx hx'
        obtain ⟨j, hj, hjx⟩ := (mem_points (d := ⟨rest⟩) hrest).mp hx'
        have hjb : j.start ∈ boundaries ⟨rest⟩ :=
          List.mem_flatMap.mpr ⟨j, hj, List.mem_cons_self⟩
        have := hfinish j.start hjb
        have := hjx.1
        have := (Interval.covers_some.mp ((Interval.mem_points hi).mp hx)).2
        omega
      have htotal : total ⟨⟨start, some finish⟩ :: rest⟩ = finish - start + total ⟨rest⟩ := rfl
      have hcard : (points ⟨⟨start, some finish⟩ :: rest⟩).card =
          (finish - start).toNat + (points ⟨rest⟩).card := by
        rw [points_cons, ← Interval.card_points]
        exact Finset.card_union_of_disjoint hdisj
      rw [hcard, htotal, ← ih hrest hs]
      omega

/-- The total of an orderly history that is not open is the number of times that it covers. -/
theorem card_points {d : Downtimes} (hd : d.Orderly) (h : d.isOpen = false) :
    (d.points.card : Int) = d.total :=
  card_points_of_sorted (hd.ended_of_isOpen_eq_false h) hd.sorted

/-- A history has at least the total of one that covers less. -/
theorem total_le_total {d e : Downtimes} (hd : d.Orderly) (hd' : d.isOpen = false)
    (he : e.Orderly) (he' : e.isOpen = false) (h : ∀ x, d.Covers x → e.Covers x) :
    d.total ≤ e.total := by
  rw [← card_points hd hd', ← card_points he he']
  have hsub : d.points ⊆ e.points := by
    intro x hx
    rw [mem_points (hd.ended_of_isOpen_eq_false hd')] at hx
    exact (mem_points (he.ended_of_isOpen_eq_false he')).mpr (h x hx)
  exact_mod_cast Finset.card_le_card hsub

/-- Histories cover together at most as many times as their totals add up to. -/
theorem card_biUnion_points_le {l : List Downtimes} (hl : ∀ e ∈ l, e.Orderly ∧ e.isOpen = false) :
    ((l.toFinset.biUnion points).card : Int) ≤ (l.map total).sum := by
  induction l with
  | nil => simp
  | cons e rest ih =>
    obtain ⟨⟨ho, hc⟩, hrest⟩ := List.forall_mem_cons.mp hl
    have hcard := Finset.card_union_le e.points (rest.toFinset.biUnion points)
    rw [List.toFinset_cons, Finset.biUnion_insert, List.map_cons, List.sum_cons,
      ← card_points ho hc]
    have := ih hrest
    omega

/-- Histories have together at least the total of one that covers only what one of them covers. -/
theorem total_le_sum {d : Downtimes} (hd : d.Orderly) (hd' : d.isOpen = false)
    {l : List Downtimes} (hl : ∀ e ∈ l, e.Orderly ∧ e.isOpen = false)
    (h : ∀ x, d.Covers x → ∃ e ∈ l, e.Covers x) : d.total ≤ (l.map total).sum := by
  have hsub : d.points ⊆ l.toFinset.biUnion points := by
    intro x hx
    rw [mem_points (hd.ended_of_isOpen_eq_false hd')] at hx
    obtain ⟨e, he, hex⟩ := h x hx
    obtain ⟨ho, hc⟩ := hl e he
    exact Finset.mem_biUnion.mpr
      ⟨e, List.mem_toFinset.mpr he, (mem_points (ho.ended_of_isOpen_eq_false hc)).mpr hex⟩
  have hcard := Finset.card_le_card hsub
  have hsum := card_biUnion_points_le hl
  rw [← card_points hd hd']
  omega

end Downtimes

end OutageWatch
