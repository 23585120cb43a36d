import Mathlib.Algebra.Order.BigOperators.Group.List
import OutageWatch.Proofs.Downtimes.Window

/-!
# Histories only grow

A history *grows* into another one if every interval is still in its place there, with its start,
and with its end if it has one.  An observation makes a history grow: it adds an interval at the end
or an end to the last interval.  Nothing that was ever recorded is lost that way, whatever the clock
does; in particular the ended intervals stay in front, and the total gets no smaller.

## Main definitions

* `Downtimes.endedIntervals` : the ended intervals of a history.
* `Downtimes.Grows` : every interval is still there.

## Main results

* `Downtimes.grows_observe` : an observation makes a history grow.
* `Downtimes.Grows.endedIntervals_prefix`, `Downtimes.Grows.total_le` : what this says of the ended
  intervals and of the total.
-/

namespace OutageWatch

namespace Downtimes

/-- The intervals that have ended. -/
def endedIntervals (d : Downtimes) : List Interval := d.intervals.filter fun i => !i.isOpen

/-- Every interval of a history is in its place in another one with the same start, and just the
same if it has ended. -/
def Grows (d e : Downtimes) : Prop :=
  ∀ (p : Nat) (i : Interval), d.intervals[p]? = some i →
    ∃ j : Interval, e.intervals[p]? = some j ∧ j.start = i.start ∧ (i.isOpen = false → j = i)

namespace Grows

variable {d e f : Downtimes}

theorem refl (d : Downtimes) : d.Grows d := fun _ i hi => ⟨i, hi, rfl, fun _ => rfl⟩

theorem trans (h : d.Grows e) (h' : e.Grows f) : d.Grows f := by
  intro p i hi
  obtain ⟨j, hj, hstart, hsame⟩ := h p i hi
  obtain ⟨k, hk, hstart', hsame'⟩ := h' p j hj
  refine ⟨k, hk, hstart'.trans hstart, fun hi => ?_⟩
  have hji : j = i := hsame hi
  rw [hsame' (hji ▸ hi), hji]

/-- More intervals at the end make a history grow. -/
theorem append (l m : List Interval) : Grows ⟨l⟩ ⟨l ++ m⟩ := by
  intro p i hi
  have hp : p < l.length := (List.getElem?_eq_some_iff.mp hi).1
  exact ⟨i, (List.getElem?_append_left hp).trans hi, rfl, fun _ => rfl⟩

/-- An end of the last interval makes a history grow. -/
theorem finish (l : List Interval) (start finish : Int) :
    Grows ⟨l ++ [⟨start, none⟩]⟩ ⟨l ++ [⟨start, some finish⟩]⟩ := by
  intro p i hi
  change (l ++ [_])[p]? = some i at hi
  rcases Nat.lt_or_ge p l.length with hp | hp
  · rw [List.getElem?_append_left hp] at hi
    exact append l _ p i hi
  · rw [List.getElem?_append_right hp, List.getElem?_singleton] at hi
    split at hi
    next hzero =>
      obtain rfl := Option.some.inj hi
      refine ⟨⟨start, some finish⟩, ?_, rfl, fun hopen => ?_⟩
      · change (l ++ [_])[p]? = _
        rw [List.getElem?_append_right hp, hzero]
        rfl
      · simp [Interval.isOpen] at hopen
    next => contradiction

/-- If every step makes the history of something grow, so do any number of them. -/
theorem foldl {α β : Type} {history : α → Downtimes} {step : α → β → α}
    (h : ∀ a b, (history a).Grows (history (step a b))) (a : α) (l : List β) :
    (history a).Grows (history (l.foldl step a)) := by
  induction l generalizing a with
  | nil => exact .refl _
  | cons b rest ih => exact (h a b).trans (ih (step a b))

end Grows

/-- An observation makes a history grow. -/
theorem grows_observe (up : Bool) (now : Int) (d : Downtimes) : d.Grows (d.observe up now) := by
  induction d using casesLast with
  | empty =>
    cases up with
    | true => exact .refl _
    | false => exact .append [] _
  | opened l start =>
    cases up with
    | true =>
      rw [observe_true, markUp_opened]
      exact .finish l start _
    | false =>
      rw [observe_false, markDown_opened]
      exact .refl _
  | ended l start finish =>
    cases up with
    | true =>
      rw [observe_true, markUp_ended]
      exact .refl _
    | false =>
      rw [observe_false, markDown_ended]
      exact .append _ _

/-! ### What has ended -/

/-- The ended intervals of an orderly history are in front, since only the last one may be open. -/
theorem Orderly.endedIntervals_prefix {d : Downtimes} (hd : d.Orderly) :
    d.endedIntervals <+: d.intervals := by
  induction d using casesLast with
  | empty => exact List.prefix_rfl
  | opened l start =>
    have hl : ∀ i ∈ l, (!i.isOpen) = true := by simpa using hd.ended
    have hlast : [(⟨start, none⟩ : Interval)].filter (fun i => !i.isOpen) = [] := rfl
    rw [endedIntervals, List.filter_append, List.filter_eq_self.mpr hl, hlast, List.append_nil]
    exact List.prefix_append ..
  | ended l start finish =>
    have hl : ∀ i ∈ l ++ [⟨start, some finish⟩], (!i.isOpen) = true := by
      intro i hi
      rw [hd.ended_of_isOpen_eq_false (by simp [Interval.isOpen]) i hi]
      rfl
    refine ⟨[], ?_⟩
    rw [List.append_nil]
    exact List.filter_eq_self.mpr hl

/-- Only what has ended is measured. -/
theorem lengths_endedIntervals (d : Downtimes) :
    d.endedIntervals.filterMap Interval.seconds? = d.lengths := by
  rw [endedIntervals, List.filterMap_filter, lengths]
  apply List.filterMap_congr
  intro i _
  cases hf : i.finish <;> simp [Interval.isOpen, Interval.seconds?, hf]

namespace Grows

variable {d e : Downtimes}

/-- The ended intervals stay in front. -/
theorem endedIntervals_prefix (h : d.Grows e) (hd : d.Orderly) :
    d.endedIntervals <+: e.intervals := by
  rw [List.prefix_iff_getElem?]
  intro p hp
  obtain ⟨-, hended⟩ := List.mem_filter.mp (List.getElem_mem hp)
  have hopen : (d.endedIntervals[p]).isOpen = false := by simpa using hended
  have hplace : d.intervals[p]? = some d.endedIntervals[p] :=
    List.prefix_iff_getElem?.mp hd.endedIntervals_prefix p hp
  obtain ⟨j, hj, -, hsame⟩ := h p _ hplace
  rw [hj, hsame hopen]

/-- The total gets no smaller. -/
theorem total_le (h : d.Grows e) (hd : d.Orderly) (he : e.Orderly) : d.total ≤ e.total := by
  have hprefix : d.lengths <+: e.lengths := by
    rw [← lengths_endedIntervals]
    exact (h.endedIntervals_prefix hd).filterMap Interval.seconds?
  exact hprefix.sublist.sum_le_sum he.lengths_nonneg

end Grows

end Downtimes

end OutageWatch
