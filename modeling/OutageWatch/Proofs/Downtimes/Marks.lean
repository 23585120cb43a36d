import OutageWatch.Proofs.Downtimes.Changes
import OutageWatch.Proofs.Downtimes.Coverage
import OutageWatch.Proofs.Downtimes.Window

/-!
# Marks on a history

A history may come from anywhere, and from then on it is only changed by marks: that the entity is
down, that it is up, or how it was seen.  A history is *well formed* if only its last interval may
be open, no interval ends before it starts, and none starts before the one before it ended.  That
looks at single intervals and at neighbours only, but it says the same as that all boundaries are
in order; so it is kept by every mark, at whatever time, and no two intervals overlap.

## Main definitions

* `Mark`, `Mark.sighting` : a mark, and the sighting that it stands for.
* `Downtimes.marked` : a history after a mark.
* `Downtimes.mark`, `Downtimes.markAll` : marks on a history with what they change, unless a length
  overflows.
* `Downtimes.WellFormed` : what holds of single intervals and of neighbours.

## Main results

* `Downtimes.wellFormed_iff_orderly` : well formed is the same as orderly.
* `Downtimes.WellFormed.foldl_marked` : marks keep a history well formed, whether or not lengths
  overflow.
* `Downtimes.wellFormed_markAll_take` : what holds after every mark.
-/

namespace OutageWatch

/-! ### Marks -/

/-- A mark on the history of an entity. -/
inductive Mark where
  | down (now : Int)
  | up (now : Int)
  | seen (isUp : Bool) (now : Int)
  deriving DecidableEq, Repr

/-- The sighting that a mark stands for. -/
def Mark.sighting : Mark → Sighting
  | .down now => ⟨false, now⟩
  | .up now => ⟨true, now⟩
  | .seen isUp now => ⟨isUp, now⟩

namespace Downtimes

/-- A history after a mark. -/
def marked (d : Downtimes) : Mark → Downtimes
  | .down now => d.markDown now
  | .up now => d.markUp now
  | .seen isUp now => d.observe isUp now

theorem marked_eq_sighted (d : Downtimes) (m : Mark) : d.marked m = d.sighted m.sighting := by
  cases m <;> rfl

/-- A history after a mark with what this changed, unless the length of an interval that it ends
overflows. -/
def mark (d : Downtimes) (m : Mark) : Except Overflow (Transition × Downtimes) := do
  return (← d.transition m.sighting.up m.sighting.now, d.marked m)

/-- A history after marks with what each of them changed, unless one of them overflows. -/
def markAll (d : Downtimes) : List Mark → Except Overflow (List Transition × Downtimes)
  | [] => .ok ([], d)
  | m :: rest => do
    let (x, e) ← d.mark m
    let (xs, f) ← e.markAll rest
    return (x :: xs, f)

/-- A mark that does not overflow tells what it changes, and the history is changed all the same as
if it could not overflow. -/
theorem mark_eq_ok {d e : Downtimes} {m : Mark} {x : Transition} :
    d.mark m = .ok (x, e) ↔
      d.transition m.sighting.up m.sighting.now = .ok x ∧ d.marked m = e := by
  rw [mark]
  cases d.transition m.sighting.up m.sighting.now with
  | error o => simp [bind, Except.bind]
  | ok y => simp [bind, Except.bind, pure, Except.pure]

theorem markAll_cons_eq_ok {d f : Downtimes} {m : Mark} {rest : List Mark} {l : List Transition} :
    d.markAll (m :: rest) = .ok (l, f) ↔
      ∃ x xs, d.transition m.sighting.up m.sighting.now = .ok x ∧
        (d.marked m).markAll rest = .ok (xs, f) ∧ l = x :: xs := by
  rw [markAll]
  cases hm : d.mark m with
  | error o =>
    have hnone (x : Transition) : ¬d.transition m.sighting.up m.sighting.now = .ok x := fun hx =>
      nomatch hm.symm.trans (mark_eq_ok.mpr ⟨hx, rfl⟩)
    simp [bind, Except.bind, hnone]
  | ok p =>
    obtain ⟨x, e⟩ := p
    obtain ⟨hx, rfl⟩ := mark_eq_ok.mp hm
    cases hrest : (d.marked m).markAll rest with
    | error o => simp [bind, Except.bind, hrest]
    | ok q =>
      simp [bind, Except.bind, pure, Except.pure, hrest, hx, Prod.ext_iff, eq_comm, and_comm]

/-- If marks do not overflow, the first few of them do not. -/
theorem markAll_take {d f : Downtimes} {marks : List Mark} {l : List Transition}
    (h : d.markAll marks = .ok (l, f)) (n : Nat) :
    d.markAll (marks.take n) = .ok (l.take n, (marks.take n).foldl marked d) := by
  induction marks generalizing d l n with
  | nil =>
    obtain ⟨rfl, rfl⟩ := Prod.mk.inj (Except.ok.inj h)
    simp [markAll]
  | cons m rest ih =>
    obtain ⟨x, xs, hx, hrest, rfl⟩ := markAll_cons_eq_ok.mp h
    cases n with
    | zero => rfl
    | succ n => exact markAll_cons_eq_ok.mpr ⟨x, xs.take n, hx, ih hrest n, rfl⟩

/-! ### Well-formed histories -/

/-- Only the last interval of a history may be open, no interval ends before it starts, and none
starts before the one before it ended. -/
structure WellFormed (d : Downtimes) : Prop where
  ended : ∀ i ∈ d.intervals.dropLast, i.isOpen = false
  forward : ∀ i ∈ d.intervals, ∀ finish ∈ i.finish, i.start ≤ finish
  neighbours : d.intervals.IsChain fun i j => ∀ finish ∈ i.finish, finish ≤ j.start

instance (d : Downtimes) : Decidable d.WellFormed :=
  decidable_of_iff
    ((∀ i ∈ d.intervals.dropLast, i.isOpen = false) ∧
      (∀ i ∈ d.intervals, ∀ finish ∈ i.finish, i.start ≤ finish) ∧
      d.intervals.IsChain fun i j => ∀ finish ∈ i.finish, finish ≤ j.start)
    ⟨fun ⟨h, h', h''⟩ => ⟨h, h', h''⟩, fun ⟨h, h', h''⟩ => ⟨h, h', h''⟩⟩

/-- The boundaries are in order iff no interval ends before it starts and none starts before the one
before it ended. -/
theorem sorted_boundaries_iff {l : List Interval} (hl : ∀ i ∈ l.dropLast, i.isOpen = false) :
    (boundaries ⟨l⟩).Pairwise (· ≤ ·) ↔ (∀ i ∈ l, ∀ finish ∈ i.finish, i.start ≤ finish) ∧
      l.IsChain fun i j => ∀ finish ∈ i.finish, finish ≤ j.start := by
  rw [← List.isChain_iff_pairwise]
  induction l with
  | nil => simp
  | cons i rest ih =>
    obtain ⟨start, finish⟩ := i
    cases rest with
    | nil => cases finish <;> simp [Interval.boundaries]
    | cons j rest =>
      obtain ⟨hi, hrest⟩ := List.forall_mem_cons.mp hl
      cases finish with
      | none => simp [Interval.isOpen] at hi
      | some finish =>
        rw [List.forall_mem_cons, List.isChain_cons_cons]
        simp only [boundaries_cons, Interval.boundaries, Option.toList_some, List.cons_append,
          List.nil_append, List.isChain_cons_cons, Option.mem_some, forall_eq'] at ih ⊢
        rw [ih hrest]
        tauto

/-- Well formed is the same as orderly. -/
theorem wellFormed_iff_orderly {d : Downtimes} : d.WellFormed ↔ d.Orderly := by
  constructor
  · exact fun h => ⟨h.ended, (sorted_boundaries_iff h.ended).mpr ⟨h.forward, h.neighbours⟩⟩
  · intro h
    obtain ⟨hforward, hneighbours⟩ := (sorted_boundaries_iff h.ended).mp h.sorted
    exact ⟨h.ended, hforward, hneighbours⟩

namespace WellFormed

variable {d : Downtimes}

/-- A mark keeps a history well formed, whatever its time. -/
theorem marked (hd : d.WellFormed) (m : Mark) : (d.marked m).WellFormed := by
  rw [marked_eq_sighted, wellFormed_iff_orderly]
  exact (wellFormed_iff_orderly.mp hd).observe m.sighting.up m.sighting.now

/-- So do any number of marks. -/
theorem foldl_marked (hd : d.WellFormed) (marks : List Mark) :
    (marks.foldl Downtimes.marked d).WellFormed := by
  induction marks generalizing d with
  | nil => exact hd
  | cons m rest ih => exact ih (hd.marked m)

/-- Every interval has ended when a later one starts. -/
theorem pairwise_finish_le (hd : d.WellFormed) :
    d.intervals.Pairwise fun i j => ∃ finish ∈ i.finish, finish ≤ j.start := by
  obtain ⟨hended, hsorted⟩ := wellFormed_iff_orderly.mp hd
  obtain ⟨l⟩ := d
  clear hd
  induction l with
  | nil => exact List.Pairwise.nil
  | cons i rest ih =>
    rw [boundaries_cons, List.pairwise_append] at hsorted
    obtain ⟨-, hrest, hcross⟩ := hsorted
    refine List.pairwise_cons.mpr ⟨fun j hj => ?_, ?_⟩
    · have hne : rest ≠ [] := List.ne_nil_of_mem hj
      have hi : i.isOpen = false := hended i (by rw [List.dropLast_cons_of_ne_nil hne]; simp)
      obtain ⟨start, finish⟩ := i
      cases finish with
      | none => simp [Interval.isOpen] at hi
      | some finish =>
        refine ⟨finish, rfl, hcross finish (by simp [Interval.boundaries]) j.start ?_⟩
        exact List.mem_flatMap.mpr ⟨j, hj, List.mem_cons_self⟩
    · refine ih (fun k hk => hended k ?_) hrest
      have hne : rest ≠ [] := fun h => by simp [h] at hk
      exact List.dropLast_cons_of_ne_nil hne ▸ List.mem_cons_of_mem i hk

/-- No time lies in two intervals. -/
theorem pairwise_not_covers (hd : d.WellFormed) :
    d.intervals.Pairwise fun i j => ∀ x, i.Covers x → ¬j.Covers x := by
  refine hd.pairwise_finish_le.imp ?_
  rintro i j ⟨finish, hfinish, hle⟩ x ⟨-, hx⟩ ⟨hstart, -⟩
  exact absurd (hx finish hfinish) (by omega)

end WellFormed

/-- **The clock cannot break a history.**  A well-formed history, wherever it comes from, is well
formed after every one of any marks that do not overflow, whatever their times.  So only its last
interval may be open then, no time lies in two of its intervals, and no length is negative. -/
theorem wellFormed_markAll_take {d f : Downtimes} (hd : d.WellFormed) {marks : List Mark}
    {l : List Transition} (h : d.markAll marks = .ok (l, f)) (n : Nat) :
    ∃ e, d.markAll (marks.take n) = .ok (l.take n, e) ∧ e.WellFormed ∧
      (∀ i ∈ e.intervals.dropLast, i.isOpen = false) ∧
      (e.intervals.Pairwise fun i j => ∀ x, i.Covers x → ¬j.Covers x) ∧
      ∀ i ∈ e.intervals, ∀ seconds ∈ i.seconds?, 0 ≤ seconds := by
  have he : ((marks.take n).foldl marked d).WellFormed := hd.foldl_marked (marks.take n)
  refine ⟨_, markAll_take h n, he, he.ended, he.pairwise_not_covers, ?_⟩
  intro i hi seconds hseconds
  have hmem : seconds ∈ ((marks.take n).foldl marked d).lengths :=
    List.mem_filterMap.mpr ⟨i, hi, hseconds⟩
  exact (wellFormed_iff_orderly.mp he).lengths_nonneg seconds hmem

/-- An entity was down once, and then the clock is set back before that and further back. -/
def setBackMarks : List Mark := [.seen false 3, .down 2, .up 1, .seen true 0, .down (-4), .up 20]

theorem wellFormed_markAll_take_setBackMarks :
    ∃ l f e, WellFormed ⟨[⟨5, some 9⟩]⟩ ∧ markAll ⟨[⟨5, some 9⟩]⟩ setBackMarks = .ok (l, f) ∧
      f.intervals = [⟨5, some 9⟩, ⟨9, some 9⟩, ⟨9, some 20⟩] ∧
      markAll ⟨[⟨5, some 9⟩]⟩ (setBackMarks.take 5) = .ok (l.take 5, e) ∧ e.WellFormed ∧
      e.isOpen = true := by
  have hd : WellFormed ⟨[⟨5, some 9⟩]⟩ := by decide
  have hrun : markAll ⟨[⟨5, some 9⟩]⟩ setBackMarks =
      .ok ([.opened, .unchanged, .closed 0, .unchanged, .opened, .closed 11],
        ⟨[⟨5, some 9⟩, ⟨9, some 9⟩, ⟨9, some 20⟩]⟩) := rfl
  obtain ⟨e, he, hwell, -⟩ := wellFormed_markAll_take hd hrun 5
  refine ⟨_, _, e, hd, hrun, rfl, he, hwell, ?_⟩
  obtain ⟨-, rfl⟩ := Prod.mk.inj (Except.ok.inj he)
  rfl

/-- An open interval before the last, an interval in another one, and one that ends before it
starts. -/
example : ¬WellFormed ⟨[⟨1, none⟩, ⟨5, some 6⟩]⟩ ∧ ¬WellFormed ⟨[⟨1, some 5⟩, ⟨4, some 6⟩]⟩ ∧
    ¬WellFormed ⟨[⟨5, some 1⟩]⟩ := by decide

end Downtimes

end OutageWatch
