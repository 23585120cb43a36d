import Mathlib.Algebra.Order.BigOperators.Group.List
import Mathlib.Algebra.Ring.Int.Defs
import OutageWatch.Proofs.Downtimes.Boundaries

/-!
# Histories within a window of time

A history lies *within* two times if it is orderly and none of its boundaries is before the first
or after the second.  Its ended intervals then follow one another inside the window, so what they
are long together is at most what the window is long, and the same holds of the first few of them.
This is why nothing overflows in a window whose length fits: neither the length of an interval that
is closed, nor any sum on the way to the total.

## Main definitions

* `Downtimes.Within` : an orderly history between two times.

## Main results

* `Downtimes.Polled.within` : an observation inside the window keeps a history there.
* `Downtimes.Within.exists_transition`, `Downtimes.Within.checkedTotal_eq` : no overflow in a window
  whose length fits.
* `Downtimes.Within.sum_take_lengths` : the bounds on the total and on every sum on the way to it.
-/

namespace OutageWatch

namespace Downtimes

/-! ### Intervals one after another -/

/-- Intervals come one after another between two times.  One without an end reaches no further than
its start. -/
inductive InTurn (hi : Int) : Int → List Interval → Prop
  | nil {lo : Int} (h : lo ≤ hi) : InTurn hi lo []
  | opened {lo start : Int} {rest : List Interval} (hlo : lo ≤ start) (h : InTurn hi start rest) :
    InTurn hi lo (⟨start, none⟩ :: rest)
  | ended {lo start finish : Int} {rest : List Interval} (hlo : lo ≤ start) (hle : start ≤ finish)
    (h : InTurn hi finish rest) : InTurn hi lo (⟨start, some finish⟩ :: rest)

/-- Intervals with boundaries in order come one after another. -/
theorem inTurn_of_sorted {l : List Interval} {lo hi : Int} (hle : lo ≤ hi)
    (hs : (boundaries ⟨l⟩).Pairwise (· ≤ ·)) (hb : ∀ b ∈ boundaries ⟨l⟩, lo ≤ b ∧ b ≤ hi) :
    InTurn hi lo l := by
  induction l generalizing lo with
  | nil => exact .nil hle
  | cons i rest ih =>
    obtain ⟨start, finish⟩ := i
    cases finish with
    | none =>
      have hcons : boundaries ⟨⟨start, none⟩ :: rest⟩ = start :: boundaries ⟨rest⟩ := rfl
      rw [hcons, List.forall_mem_cons] at hb
      rw [hcons, List.pairwise_cons] at hs
      obtain ⟨⟨hlo, hhi⟩, hrest⟩ := hb
      exact .opened hlo (ih hhi hs.2 fun b hmem => ⟨hs.1 b hmem, (hrest b hmem).2⟩)
    | some finish =>
      have hcons : boundaries ⟨⟨start, some finish⟩ :: rest⟩ =
          start :: finish :: boundaries ⟨rest⟩ := rfl
      rw [hcons, List.forall_mem_cons, List.forall_mem_cons] at hb
      rw [hcons, List.pairwise_cons, List.pairwise_cons] at hs
      obtain ⟨⟨hlo, -⟩, ⟨-, hhi⟩, hrest⟩ := hb
      have hstart : start ≤ finish := hs.1 finish List.mem_cons_self
      exact .ended hlo hstart (ih hhi hs.2.2 fun b hmem => ⟨hs.2.1 b hmem, (hrest b hmem).2⟩)

/-- Intervals one after another are together at most as long as the time between. -/
theorem InTurn.total_bounds {l : List Interval} {lo hi : Int} (h : InTurn hi lo l) :
    0 ≤ total ⟨l⟩ ∧ total ⟨l⟩ ≤ hi - lo := by
  induction h with
  | nil hle =>
    have htotal : total ⟨[]⟩ = 0 := rfl
    omega
  | @opened lo start rest hlo _ ih =>
    have htotal : total ⟨⟨start, none⟩ :: rest⟩ = total ⟨rest⟩ := rfl
    omega
  | @ended lo start finish rest hlo hle _ ih =>
    have htotal : total ⟨⟨start, some finish⟩ :: rest⟩ = finish - start + total ⟨rest⟩ := rfl
    omega

/-- Adding the lengths of intervals one after another does not overflow if the sum so far leaves
room for the time between. -/
theorem InTurn.addLengths_eq {l : List Interval} {lo hi sum : Int} (h : InTurn hi lo l)
    (hsum : 0 ≤ sum) (hroom : sum + (hi - lo) ≤ greatestInt) :
    addLengths sum l = .ok (sum + total ⟨l⟩) := by
  induction h generalizing sum with
  | nil _ =>
    have htotal : total ⟨[]⟩ = 0 := rfl
    rw [addLengths, htotal, Int.add_zero]
  | opened hlo _ ih => exact ih hsum (by omega)
  | @ended lo start finish rest hlo hle hturn ih =>
    have hbounds := hturn.total_bounds
    have hlength : checkedSub finish start = .ok (finish - start) :=
      checkedSub_eq_ok_iff.mpr ⟨fits_of_nonneg (by omega) (by omega), rfl⟩
    have hnext : checkedAdd sum (finish - start) = .ok (sum + (finish - start)) :=
      checkedAdd_eq_ok_iff.mpr ⟨fits_of_nonneg (by omega) (by omega), rfl⟩
    have hrest : addLengths (sum + (finish - start)) rest =
        .ok (sum + (finish - start) + total ⟨rest⟩) := ih (by omega) (by omega)
    have htotal : total ⟨⟨start, some finish⟩ :: rest⟩ = finish - start + total ⟨rest⟩ := rfl
    rw [addLengths, Interval.checkedSeconds?]
    simp only [hlength, Functor.map, Except.map, bind, Except.bind, hnext]
    rw [hrest, htotal, Int.add_assoc]

/-- The ended intervals of an orderly history do not end before they start. -/
theorem Orderly.lengths_nonneg {d : Downtimes} (hd : d.Orderly) : ∀ x ∈ d.lengths, 0 ≤ x := by
  intro x hx
  obtain ⟨⟨start, finish⟩, hi, hlength⟩ := List.mem_filterMap.mp hx
  obtain ⟨finish, rfl, rfl⟩ := Option.map_eq_some_iff.mp hlength
  have hsub : [start, finish].Sublist d.boundaries := by
    obtain ⟨before, after, hsplit⟩ := List.append_of_mem hi
    rw [boundaries, hsplit, List.flatMap_append, List.flatMap_cons]
    exact ((List.sublist_append_left ..).trans (List.sublist_append_right ..))
  have hle : start ≤ finish := List.rel_of_pairwise_cons (hd.sorted.sublist hsub) (by simp)
  change 0 ≤ finish - start
  omega

/-! ### Windows -/

/-- A history lies within two times: it is orderly, and no boundary is outside. -/
structure Within (lo hi : Int) (d : Downtimes) : Prop where
  orderly : d.Orderly
  mem : ∀ b ∈ d.boundaries, lo ≤ b ∧ b ≤ hi

theorem within_empty (lo hi : Int) : empty.Within lo hi :=
  ⟨orderly_empty, fun _ hb => absurd hb List.not_mem_nil⟩

/-- At most one observation inside a window keeps a history there. -/
theorem Polled.within {now lo hi : Int} {d e : Downtimes} (h : Polled now d e)
    (hnow : lo ≤ now ∧ now ≤ hi) (hd : d.Within lo hi) : e.Within lo hi := by
  refine ⟨h.orderly hd.orderly, ?_⟩
  intro b hb
  rcases h.eq_or_mem_of_mem hb with rfl | hb
  · exact hnow
  · exact hd.mem b hb

namespace Within

variable {lo hi : Int} {d : Downtimes}

/-- No interval starts or ends outside the window. -/
theorem mem_interval (hd : d.Within lo hi) {i : Interval} (hi' : i ∈ d.intervals) :
    (lo ≤ i.start ∧ i.start ≤ hi) ∧ ∀ finish ∈ i.finish, lo ≤ finish ∧ finish ≤ hi := by
  have hmem {b : Int} (hb : b ∈ i.boundaries) : lo ≤ b ∧ b ≤ hi :=
    hd.mem b (List.mem_flatMap.mpr ⟨i, hi', hb⟩)
  refine ⟨hmem List.mem_cons_self, ?_⟩
  intro finish hfinish
  exact hmem (List.mem_cons_of_mem _ (Option.mem_toList.mpr hfinish))

theorem inTurn (hd : d.Within lo hi) (hle : lo ≤ hi) : InTurn hi lo d.intervals :=
  inTurn_of_sorted hle hd.orderly.sorted hd.mem

theorem total_bounds (hd : d.Within lo hi) (hle : lo ≤ hi) : 0 ≤ d.total ∧ d.total ≤ hi - lo :=
  (hd.inTurn hle).total_bounds

/-- The first few ended intervals are together at most as long as the window. -/
theorem sum_take_lengths (hd : d.Within lo hi) (hle : lo ≤ hi) (m : Nat) :
    0 ≤ (d.lengths.take m).sum ∧ (d.lengths.take m).sum ≤ hi - lo := by
  have hnonneg := hd.orderly.lengths_nonneg
  constructor
  · exact List.sum_nonneg fun x hx => hnonneg x (List.mem_of_mem_take hx)
  · calc (d.lengths.take m).sum ≤ d.lengths.sum := (List.take_sublist m _).sum_le_sum hnonneg
      _ ≤ hi - lo := (hd.total_bounds hle).2

/-- No observation overflows in a window whose length fits. -/
theorem exists_transition (hd : d.Within lo hi) (hfits : hi - lo ≤ greatestInt) {now : Int}
    (hnow : lo ≤ now ∧ now ≤ hi) (up : Bool) : ∃ x, d.transition up now = .ok x := by
  unfold transition
  split
  next start hlast =>
    -- only closing an interval measures it
    obtain ⟨hstart, -⟩ : (lo ≤ start ∧ start ≤ hi) ∧ _ :=
      hd.mem_interval (List.mem_of_getLast? hlast)
    have hlength : checkedSub (max now start) start = .ok (max now start - start) :=
      checkedSub_eq_ok_iff.mpr ⟨fits_of_nonneg (by omega) (by omega), rfl⟩
    exact ⟨_, by rw [hlength]; rfl⟩
  next => exact ⟨_, rfl⟩
  next => exact ⟨_, rfl⟩
  next => exact ⟨_, rfl⟩

/-- No sum on the way to the total overflows in a window whose length fits. -/
theorem checkedTotal_eq (hd : d.Within lo hi) (hle : lo ≤ hi) (hfits : hi - lo ≤ greatestInt) :
    d.checkedTotal = .ok d.total := by
  have h := (hd.inTurn hle).addLengths_eq Int.le_rfl (by omega)
  rwa [Int.zero_add] at h

end Within

end Downtimes

end OutageWatch
