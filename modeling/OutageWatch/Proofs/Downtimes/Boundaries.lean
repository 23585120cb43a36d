import Mathlib.Data.List.Pairwise
import OutageWatch.Downtimes

/-!
# The boundaries of a history

Written out in a row, the starts and ends of a history are its *boundaries*.  An observation that
finds an entity in the state it is known to be in leaves them alone.  Any other observation adds
one boundary, whether it opens an interval or ends one: the time of the observation, or the last
boundary if that is later.  So the two ways in which `markDown` and `markUp` keep a history from
going back in time are one.

A history is *orderly* if only its last interval may be open and its boundaries are in order.  The
empty history is, and observations keep it so.

## Main definitions

* `Downtimes.boundaries` : the starts and ends of a history.
* `Downtimes.nextBoundary` : the boundary that an observation adds, if it adds one.
* `Downtimes.Orderly` : only the last interval may be open, and time does not go back.
* `Downtimes.Polled` : a history becomes another one by at most one observation.

## Main results

* `Downtimes.boundaries_observe` : what an observation does to the boundaries.
* `Downtimes.Orderly.observe` : an orderly history stays so.
-/

namespace OutageWatch

/-- The start of an interval, and its end if it has one. -/
def Interval.boundaries (i : Interval) : List Int := i.start :: i.finish.toList

namespace Downtimes

/-! ### Histories by their last interval -/

/-- A history is empty, or its last interval is open, or its last interval has ended. -/
@[elab_as_elim]
theorem casesLast {motive : Downtimes → Prop} (empty : motive empty)
    (opened : ∀ l start, motive ⟨l ++ [⟨start, none⟩]⟩)
    (ended : ∀ l start finish, motive ⟨l ++ [⟨start, some finish⟩]⟩) (d : Downtimes) :
    motive d := by
  obtain ⟨intervals⟩ := d
  rcases List.eq_nil_or_concat intervals with rfl | ⟨l, ⟨start, finish⟩, rfl⟩
  · exact empty
  · rw [List.concat_eq_append]
    cases finish with
    | none => exact opened l start
    | some finish => exact ended l start finish

@[simp] theorem isOpen_empty : empty.isOpen = false := rfl

@[simp] theorem markDown_empty (now : Int) : empty.markDown now = ⟨[⟨now, none⟩]⟩ := rfl

@[simp] theorem markDown_opened (now : Int) (l : List Interval) (start : Int) :
    markDown now ⟨l ++ [⟨start, none⟩]⟩ = ⟨l ++ [⟨start, none⟩]⟩ := by
  simp [markDown, Interval.isOpen]

@[simp] theorem markDown_ended (now : Int) (l : List Interval) (start finish : Int) :
    markDown now ⟨l ++ [⟨start, some finish⟩]⟩ =
      ⟨l ++ [⟨start, some finish⟩] ++ [⟨max now finish, none⟩]⟩ := by
  simp [markDown, nextStart, Interval.isOpen]

@[simp] theorem markUp_empty (now : Int) : empty.markUp now = empty := rfl

@[simp] theorem markUp_opened (now : Int) (l : List Interval) (start : Int) :
    markUp now ⟨l ++ [⟨start, none⟩]⟩ = ⟨l ++ [⟨start, some (max now start)⟩]⟩ := by
  simp [markUp]

@[simp] theorem markUp_ended (now : Int) (l : List Interval) (start finish : Int) :
    markUp now ⟨l ++ [⟨start, some finish⟩]⟩ = ⟨l ++ [⟨start, some finish⟩]⟩ := by
  simp [markUp]

@[simp] theorem observe_true (now : Int) (d : Downtimes) : d.observe true now = d.markUp now := rfl

@[simp] theorem observe_false (now : Int) (d : Downtimes) :
    d.observe false now = d.markDown now := rfl

/-- An observation that finds an entity in the state it is known to be in changes nothing. -/
theorem observe_of_isOpen_ne {d : Downtimes} {up : Bool} (h : d.isOpen ≠ up) (now : Int) :
    d.observe up now = d := by
  cases up with
  | false => exact markDown_of_isOpen (by simpa using h) now
  | true => exact markUp_of_not_isOpen (by simpa using h) now

/-- No other observation leaves a history as it is. -/
theorem observe_eq_self_iff {d : Downtimes} {up : Bool} {now : Int} :
    d.observe up now = d ↔ d.isOpen ≠ up := by
  constructor
  · intro h hopen
    have hafter := isOpen_observe up now d
    rw [h, hopen] at hafter
    cases up <;> contradiction
  · exact fun h => observe_of_isOpen_ne h now

/-- Nothing is told of such an observation, and of every other one a change. -/
theorem transition_eq_unchanged_iff {d : Downtimes} {up : Bool} {now : Int} :
    d.transition up now = .ok .unchanged ↔ d.isOpen ≠ up := by
  induction d using casesLast with
  | empty => cases up <;> simp [transition, empty, isOpen]
  | opened l start =>
    cases up with
    | false => simp [transition, Interval.isOpen]
    | true =>
      -- the interval is closed, whether or not its length fits
      simp only [transition, List.getLast?_concat, isOpen_concat, Interval.isOpen]
      cases checkedSub (max now start) start <;> simp [Functor.map, Except.map]
  | ended l start finish => cases up <;> simp [transition, Interval.isOpen]

/-! ### Boundaries -/

/-- The starts and ends of a history, in a row. -/
def boundaries (d : Downtimes) : List Int := d.intervals.flatMap Interval.boundaries

/-- The boundary that an observation adds if it adds one: its time, but not before the last
boundary. -/
def nextBoundary (now : Int) (d : Downtimes) : Int := d.boundaries.getLast?.elim now (max now)

@[simp] theorem boundaries_nil : boundaries ⟨[]⟩ = [] := rfl

@[simp] theorem boundaries_empty : empty.boundaries = [] := rfl

@[simp] theorem boundaries_cons (i : Interval) (l : List Interval) :
    boundaries ⟨i :: l⟩ = i.boundaries ++ boundaries ⟨l⟩ := rfl

@[simp] theorem boundaries_append (l m : List Interval) :
    boundaries ⟨l ++ m⟩ = boundaries ⟨l⟩ ++ boundaries ⟨m⟩ := List.flatMap_append

/-- An observation adds a boundary exactly if the entity is down and seen up, or up and seen
down. -/
theorem boundaries_observe (up : Bool) (now : Int) (d : Downtimes) :
    (d.observe up now).boundaries =
      if d.isOpen = up then d.boundaries ++ [d.nextBoundary now] else d.boundaries := by
  split
  next h =>
    subst h
    induction d using casesLast with
    | empty => rfl
    | opened l start => simp [nextBoundary, Interval.boundaries, Interval.isOpen]
    | ended l start finish => simp [nextBoundary, Interval.boundaries, Interval.isOpen]
  next h => rw [observe_of_isOpen_ne h]

/-- The added boundary is the time of the observation, or the last boundary again. -/
theorem nextBoundary_eq_or_mem (now : Int) (d : Downtimes) :
    d.nextBoundary now = now ∨ d.nextBoundary now ∈ d.boundaries := by
  cases hl : d.boundaries.getLast? with
  | none => exact Or.inl (by simp [nextBoundary, hl])
  | some b =>
    have hb : d.nextBoundary now = max now b := by simp [nextBoundary, hl]
    rw [hb]
    rcases Int.le_total now b with hle | hle
    · rw [Int.max_eq_right hle]
      exact Or.inr (List.mem_of_getLast? hl)
    · exact Or.inl (Int.max_eq_left hle)

/-- Every boundary after an observation is the time of the observation or was there before. -/
theorem mem_boundaries_observe {up : Bool} {now b : Int} {d : Downtimes}
    (hb : b ∈ (d.observe up now).boundaries) : b = now ∨ b ∈ d.boundaries := by
  rw [boundaries_observe] at hb
  split at hb
  · rcases List.mem_append.mp hb with hb | hb
    · exact Or.inr hb
    · rw [List.mem_singleton.mp hb]
      exact d.nextBoundary_eq_or_mem now
  · exact Or.inr hb

/-! ### Orderly histories -/

/-- A history is orderly if only its last interval may be open and its boundaries are in order. -/
structure Orderly (d : Downtimes) : Prop where
  ended : ∀ i ∈ d.intervals.dropLast, i.isOpen = false
  sorted : d.boundaries.Pairwise (· ≤ ·)

theorem orderly_empty : empty.Orderly := ⟨by simp [empty], by simp⟩

/-- No interval of an orderly history is open if the last one is not. -/
theorem Orderly.ended_of_isOpen_eq_false {d : Downtimes} (hd : d.Orderly) (h : d.isOpen = false) :
    ∀ i ∈ d.intervals, i.isOpen = false := by
  induction d using casesLast with
  | empty => simp [empty]
  | opened l start => simp [Interval.isOpen] at h
  | ended l start finish =>
    intro i hi
    rcases List.mem_append.mp hi with hl | hl
    · exact hd.ended i (by simpa using hl)
    · rw [List.mem_singleton.mp hl]
      rfl

/-- No boundary comes after the one that an observation would add. -/
theorem Orderly.le_nextBoundary {d : Downtimes} (hd : d.Orderly) {b : Int}
    (hb : b ∈ d.boundaries) (now : Int) : b ≤ d.nextBoundary now := by
  have hne : d.boundaries ≠ [] := List.ne_nil_of_mem hb
  have hlast : d.boundaries.getLast? = some (d.boundaries.getLast hne) :=
    List.getLast?_eq_some_getLast hne
  have hle : b ≤ d.boundaries.getLast hne := hd.sorted.rel_getLast hb
  rw [nextBoundary, hlast, Option.elim_some]
  exact Int.le_trans hle (Int.le_max_right ..)

/-- Only the last interval of a history is ever open after an observation if that was so
before. -/
theorem ended_observe {d : Downtimes} (hd : ∀ i ∈ d.intervals.dropLast, i.isOpen = false)
    (up : Bool) (now : Int) :
    ∀ i ∈ (d.observe up now).intervals.dropLast, i.isOpen = false := by
  induction d using casesLast with
  | empty => cases up <;> exact List.forall_mem_nil _
  | opened l start => cases up <;> simpa using hd
  | ended l start finish =>
    cases up with
    | true => simpa using hd
    | false =>
      simp only [observe_false, markDown_ended, List.dropLast_concat]
      intro i hi
      rcases List.mem_append.mp hi with hi | hi
      · exact hd i (by simpa using hi)
      · rw [List.mem_singleton.mp hi]
        rfl

/-- An orderly history stays so. -/
theorem Orderly.observe {d : Downtimes} (hd : d.Orderly) (up : Bool) (now : Int) :
    (d.observe up now).Orderly := by
  refine ⟨ended_observe hd.ended up now, ?_⟩
  rw [boundaries_observe]
  split
  · rw [List.pairwise_append]
    refine ⟨hd.sorted, List.pairwise_singleton .., ?_⟩
    intro b hb c hc
    rw [List.mem_singleton.mp hc]
    exact hd.le_nextBoundary hb now
  · exact hd.sorted

/-! ### At most one observation -/

/-- A history becomes another one by at most one observation at a time. -/
inductive Polled (now : Int) (d : Downtimes) : Downtimes → Prop
  | unseen : Polled now d d
  | seen (up : Bool) : Polled now d (d.observe up now)

namespace Polled

variable {now : Int} {d e : Downtimes}

theorem orderly (h : Polled now d e) (hd : d.Orderly) : e.Orderly := by
  cases h with
  | unseen => exact hd
  | seen up => exact hd.observe up now

/-- A new boundary is the time of the observation or was there before. -/
theorem eq_or_mem_of_mem (h : Polled now d e) {b : Int} (hb : b ∈ e.boundaries) :
    b = now ∨ b ∈ d.boundaries := by
  cases h with
  | unseen => exact Or.inr hb
  | seen up => exact mem_boundaries_observe hb

end Polled

end Downtimes

end OutageWatch
