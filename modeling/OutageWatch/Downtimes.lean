import OutageWatch.WordRange

/-!
# Downtime histories

The history of one entity is the list of the intervals during which it was down, oldest first; an
interval without an end is still open.  Only the last interval is ever opened or closed, and both
its ends are kept from going back in time: an interval starts no earlier than the one before it
ended, and ends no earlier than it started.

## Main definitions

* `Interval`, `Interval.seconds?` : a stretch of downtime, and its length if it has ended.
* `Downtimes`, `Downtimes.markDown`, `Downtimes.markUp`, `Downtimes.observe` : a history, and what
  an observation makes of it.
* `Transition`, `Downtimes.transition` : what an observation changed.
* `Downtimes.total`, `Downtimes.checkedTotal` : the length of all ended intervals.

## Main results

* `Downtimes.isOpen_observe` : after an observation the last interval is open iff it saw the entity
  down.
* `Downtimes.eq_total_of_checkedTotal` : a total that fits is the exact one.
-/

namespace OutageWatch

/-- A stretch of time `[start, finish)` during which an entity was down; it is still down if there
is no `finish`. -/
structure Interval where
  start : Int
  finish : Option Int
  deriving DecidableEq, Repr

namespace Interval

/-- Whether the interval has not ended. -/
def isOpen (i : Interval) : Bool := i.finish.isNone

/-- The exact length of an ended interval. -/
def seconds? (i : Interval) : Option Int := i.finish.map (· - i.start)

/-- The length of an ended interval, if it fits. -/
def checkedSeconds? (i : Interval) : Except Overflow (Option Int) :=
  match i.finish with
  | none => .ok none
  | some finish => some <$> checkedSub finish i.start

/-- A length that fits is the exact one. -/
theorem seconds?_of_checkedSeconds? {i : Interval} {length : Option Int}
    (h : i.checkedSeconds? = .ok length) : i.seconds? = length := by
  unfold checkedSeconds? at h
  cases hf : i.finish with
  | none =>
    simp only [hf, Except.ok.injEq] at h
    simp [seconds?, hf, ← h]
  | some finish =>
    cases hc : checkedSub finish i.start with
    | error e => simp [hf, hc, Functor.map, Except.map] at h
    | ok n =>
      obtain ⟨-, rfl⟩ := checkedSub_eq_ok_iff.1 hc
      simpa [seconds?, hf, hc, Functor.map, Except.map] using h

end Interval

/-- What an observation changed in a history. -/
inductive Transition where
  | opened
  /-- The last interval was closed, after that many seconds. -/
  | closed (seconds : Int)
  | unchanged
  deriving DecidableEq, Repr

/-- The downtime history of one entity, oldest interval first. -/
structure Downtimes where
  intervals : List Interval
  deriving DecidableEq, Repr

namespace Downtimes

/-- The history of an entity that was never down. -/
def empty : Downtimes := ⟨[]⟩

/-- Whether the last interval is open. -/
def isOpen (d : Downtimes) : Bool := d.intervals.getLast?.any Interval.isOpen

/-! ### Observations -/

/-- The earliest time at which the next interval may start: the end of the last one, if it has
one, or `now`. -/
def nextStart (now : Int) (d : Downtimes) : Int :=
  match d.intervals.getLast?.bind Interval.finish with
  | some finish => max now finish
  | none => now

/-- The entity was seen down: an interval starts unless one is open. -/
def markDown (now : Int) (d : Downtimes) : Downtimes :=
  if d.isOpen then d else ⟨d.intervals ++ [⟨d.nextStart now, none⟩]⟩

/-- The entity was seen up: the open interval, if there is one, ends. -/
def markUp (now : Int) (d : Downtimes) : Downtimes :=
  match d.intervals.getLast? with
  | some ⟨start, none⟩ => ⟨d.intervals.dropLast ++ [⟨start, some (max now start)⟩]⟩
  | _ => d

/-- The history after an observation. -/
def observe (up : Bool) (now : Int) (d : Downtimes) : Downtimes :=
  if up then d.markUp now else d.markDown now

/-- What an observation changes.  The length of the interval that it closes may overflow, although
the interval is closed all the same. -/
def transition (up : Bool) (now : Int) (d : Downtimes) : Except Overflow Transition :=
  match d.intervals.getLast?, up with
  | some ⟨start, none⟩, true => .closed <$> checkedSub (max now start) start
  | some ⟨_, none⟩, false => .ok .unchanged
  | _, true => .ok .unchanged
  | _, false => .ok .opened

/-! ### Totals -/

/-- The exact lengths of the ended intervals. -/
def lengths (d : Downtimes) : List Int := d.intervals.filterMap Interval.seconds?

/-- The exact length of all ended intervals. -/
def total (d : Downtimes) : Int := d.lengths.foldr (· + ·) 0

/-- Adds the lengths of ended intervals to a sum, one by one and from the left. -/
def addLengths (sum : Int) : List Interval → Except Overflow Int
  | [] => .ok sum
  | i :: rest => do
    match ← i.checkedSeconds? with
    | none => addLengths sum rest
    | some seconds => addLengths (← checkedAdd sum seconds) rest

/-- The length of all ended intervals, if every length and every partial sum fits. -/
def checkedTotal (d : Downtimes) : Except Overflow Int := addLengths 0 d.intervals

/-! ### First properties -/

theorem eq_of_addLengths {l : List Interval} {sum n : Int} (h : addLengths sum l = .ok n) :
    n = sum + (l.filterMap Interval.seconds?).foldr (· + ·) 0 := by
  induction l generalizing sum with
  | nil =>
    cases h
    simp
  | cons i rest ih =>
    simp only [addLengths] at h
    cases hi : i.checkedSeconds? with
    | error e => simp [hi, bind, Except.bind] at h
    | ok length =>
      have hs := Interval.seconds?_of_checkedSeconds? hi
      cases length with
      | none =>
        simp only [hi, bind, Except.bind] at h
        simp [hs, ih h]
      | some seconds =>
        simp only [hi, bind, Except.bind] at h
        cases hc : checkedAdd sum seconds with
        | error e => simp [hc] at h
        | ok next =>
          simp only [hc] at h
          obtain ⟨-, rfl⟩ := checkedAdd_eq_ok_iff.1 hc
          simp only [hs, ih h, List.filterMap_cons, List.foldr_cons]
          omega

/-- A total that fits, with all partial sums, is the exact one. -/
theorem eq_total_of_checkedTotal {d : Downtimes} {n : Int} (h : d.checkedTotal = .ok n) :
    n = d.total := by
  have := eq_of_addLengths h
  simpa [total, lengths] using this

@[simp] theorem isOpen_concat (l : List Interval) (i : Interval) :
    isOpen ⟨l ++ [i]⟩ = i.isOpen := by simp [isOpen]

/-- A closed history cannot be marked up. -/
theorem markUp_of_not_isOpen {d : Downtimes} (h : d.isOpen = false) (now : Int) :
    d.markUp now = d := by
  unfold markUp
  split
  next start hl => simp [isOpen, hl, Interval.isOpen] at h
  next => rfl

/-- An open history cannot be marked down. -/
theorem markDown_of_isOpen {d : Downtimes} (h : d.isOpen = true) (now : Int) :
    d.markDown now = d := by
  simp [markDown, h]

/-- After an observation the last interval is open iff it saw the entity down. -/
@[simp] theorem isOpen_observe (up : Bool) (now : Int) (d : Downtimes) :
    (d.observe up now).isOpen = !up := by
  cases up
  · by_cases h : d.isOpen <;> simp [observe, markDown, h, Interval.isOpen]
  · by_cases h : d.isOpen
    · obtain ⟨⟨start, finish⟩, hl, hi⟩ := Option.any_eq_true .. |>.1 h
      cases finish with
      | some _ => simp [Interval.isOpen] at hi
      | none => simp [observe, markUp, hl, Interval.isOpen]
    · simp only [Bool.not_eq_true] at h
      simp [observe, markUp_of_not_isOpen h, h]

end Downtimes

end OutageWatch
