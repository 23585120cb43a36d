import OutageWatch.Monitor.Basic
import OutageWatch.Proofs.Tracker.Calls

/-!
# The course of monitoring

What monitoring will do is settled by the world and by the session that it starts from.  The polls
make the calls `Session.calls` on the tracker, and the end makes `Session.finalCalls`.  Every poll
leaves the same kind of actions behind, and the end leaves others.  A session after some number of
polls is thus written down without polling, and so is a session at the end.

Overflowing arithmetic is left out here, and so is what is logged.

## Main definitions

* `Session.timeAt`, `Session.snapshotAt` : the readings and snapshots that are still to come.
* `Session.calls`, `Session.finalCalls` : the calls of the polls, and those of the end.
* `Session.nextReport`, `Session.finalReport` : the reports of the polls, and that of the end.
* `Session.course`, `Session.ending` : a session after some polls, and at the end.
* `Session.StopsAfter` : the check that sees that a stop has been asked for.
* `Session.polled`, `Session.closed` : one poll, and an end, but for what they log.

## Main results

* `Session.course_succ`, `Session.ending_eq` : how the course goes on, and how it ends.
-/

namespace OutageWatch

namespace Session

variable (w : World) (c : Settings)

/-! ### What is still to come -/

/-- The reading of the clock after `i` more of them. -/
def timeAt (s : Session) (i : Nat) : Int := w.clock (s.journal.readings + (i + 1))

/-- The snapshot after `i` more of them. -/
def snapshotAt (s : Session) (i : Nat) : Snapshot :=
  (w.answers (s.journal.rounds + (i + 1))).snapshot c.queryTimeout

/-- How long the round of queries takes after `i` more of them. -/
def durationAt (s : Session) (i : Nat) : Nat :=
  (w.answers (s.journal.rounds + (i + 1))).duration c.queryTimeout

/-- The calls on the tracker by the poll after `i` more of them. -/
def pollCalls (s : Session) (i : Nat) : List Call :=
  [.reconcile (s.snapshotAt w c i) (s.timeAt w i), .recompute]

/-- The calls on the tracker by the next `n` polls. -/
def calls (s : Session) (n : Nat) : List Call := (List.range n).flatMap (s.pollCalls w c)

/-- The calls on the tracker at the end, after `n` more polls. -/
def finalCalls (s : Session) (n : Nat) : List Call := [.finalize (s.timeAt w n), .recompute]

/-- The tracker after `n` more polls. -/
def trackerAt (s : Session) (n : Nat) : Tracker := (s.calls w c n).foldl Tracker.called s.tracker

/-- The tracker at the end, after `n` more polls. -/
def lastTracker (s : Session) (n : Nat) : Tracker :=
  (s.calls w c n ++ s.finalCalls w n).foldl Tracker.called s.tracker

theorem trackerAt_succ (s : Session) (n : Nat) :
    s.trackerAt w c (n + 1) = (s.pollCalls w c n).foldl Tracker.called (s.trackerAt w c n) := by
  simp [trackerAt, calls, List.range_succ]

/-- The report of the poll after `i` more of them. -/
def nextReport (s : Session) (i : Nat) : Report :=
  (s.trackerAt w c (i + 1)).report (s.timeAt w i)

/-- The report at the end, after `n` more polls. -/
def finalReport (s : Session) (n : Nat) : Report := (s.lastTracker w c n).report (s.timeAt w n)

/-! ### The course -/

/-- What the poll does after `i` more of them. -/
def pollActions (s : Session) (i : Nat) : List Action :=
  Query.round.map .query ++
    [.readClock (s.timeAt w i), .reconcile (s.timeAt w i), .recompute,
      .put (s.nextReport w c i) (s.nextReport w c i).bytes]

/-- That poll with the check before it, and letting others go on after it. -/
def lapActions (s : Session) (i : Nat) : List Action :=
  .check false :: s.pollActions w c i ++ [.yield]

/-- What is done at the end, after `n` more polls. -/
def finalActions (s : Session) (n : Nat) : List Action :=
  [.enter .finalizing, .readClock (s.timeAt w n), .finalize (s.timeAt w n), .recompute,
    .put (s.finalReport w c n) (s.finalReport w c n).bytes, .enter .stopped]

/-- A session after `n` more polls. -/
def course (s : Session) (n : Nat) : Session where
  journal :=
    { actions := s.journal.actions ++ (List.range n).flatMap (s.lapActions w c)
      events := []
      elapsed := s.journal.elapsed + ((List.range n).map (s.durationAt w c)).sum
      rounds := s.journal.rounds + n
      readings := s.journal.readings + n
      writes := s.journal.writes + n }
  tracker := s.trackerAt w c n
  polls := s.polls + n
  phase := s.phase

/-- A session at the end, after `n` more polls. -/
def ending (s : Session) (n : Nat) : Session where
  journal :=
    { (s.course w c n).journal with
      actions := (s.course w c n).journal.actions ++ .check true :: s.finalActions w c n
      readings := s.journal.readings + (n + 1)
      writes := s.journal.writes + (n + 1) }
  tracker := s.lastTracker w c n
  polls := s.polls + n
  phase := .stopped

/-- The check after `n` more polls is the first that sees that a stop has been asked for. -/
structure StopsAfter (s : Session) (n : Nat) : Prop where
  isStopped_eq_false : ∀ k < n, (s.course w c k).journal.isStopped w = false
  isStopped_eq_true : (s.course w c n).journal.isStopped w = true

/-! ### Steps of a session -/

/-- A session but for what it logged. -/
def unlogged (s : Session) : Session := { s with journal := { s.journal with events := [] } }

/-- A session with a tracker. -/
def withTracker (t : Tracker) (s : Session) : Session := { s with tracker := t }

/-- A session that has polled once more. -/
def counted (s : Session) : Session := { s with polls := s.polls + 1 }

/-- A session that has handed over a report. -/
def wrote (r : Report) (s : Session) : Session :=
  { s with journal := { s.journal.act (.put r r.bytes) with writes := s.journal.writes + 1 } }

/-- A session after a round of queries and a reading of the clock. -/
def heard (s : Session) : Session :=
  { s with
    journal :=
      { s.journal with
        actions := s.journal.actions ++ Query.round.map .query ++ [.readClock (s.timeAt w 0)]
        elapsed := s.journal.elapsed + s.durationAt w c 0
        rounds := s.journal.rounds + 1
        readings := s.journal.readings + 1 } }

/-- A poll but for what is logged. -/
def polled (s : Session) : Session :=
  let now := s.timeAt w 0
  let t := s.trackerAt w c 1
  let s := ((s.heard w c).act (.reconcile now)).act .recompute
  (s.withTracker t).counted.wrote (t.report now)

/-- An end but for what is logged. -/
def closed (s : Session) : Session :=
  let now := s.timeAt w 0
  let t := s.lastTracker w c 0
  let s := (((s.enter .finalizing).readClock w).act (.finalize now)).act .recompute
  ((s.withTracker t).wrote (t.report now)).enter .stopped

theorem course_zero (s : Session) : s.course w c 0 = s.unlogged := by
  simp [course, unlogged, trackerAt, calls]

theorem timeAt_course (s : Session) (n : Nat) : (s.course w c n).timeAt w 0 = s.timeAt w n := by
  rw [timeAt, timeAt, course, Nat.add_assoc, Nat.zero_add]

theorem pollCalls_course (s : Session) (n : Nat) :
    (s.course w c n).pollCalls w c 0 = s.pollCalls w c n := by
  rw [pollCalls, pollCalls, timeAt_course, snapshotAt, snapshotAt, course, Nat.add_assoc,
    Nat.zero_add]

/-- The course goes on by a check, a poll and letting others go on. -/
theorem course_succ (s : Session) (n : Nat) :
    s.course w c (n + 1) = (((s.course w c n).act (.check false)).polled w c).act .yield := by
  have htime : ((s.course w c n).act (.check false)).timeAt w 0 = s.timeAt w n :=
    timeAt_course w c s n
  have htracker :
      ((s.course w c n).act (.check false)).trackerAt w c 1 = s.trackerAt w c (n + 1) := by
    rw [trackerAt_succ, trackerAt_succ]
    change List.foldl _ _ ((s.course w c n).pollCalls w c 0) = _
    rw [pollCalls_course]
    rfl
  have hduration : ((s.course w c n).act (.check false)).durationAt w c 0 = s.durationAt w c n := by
    change (w.answers (s.journal.rounds + n + (0 + 1))).duration _ = _
    rw [durationAt, Nat.add_assoc, Nat.zero_add]
  simp only [polled, heard, htime, htracker, hduration]
  simp [course, withTracker, counted, wrote, act, Journal.act, lapActions, pollActions,
    nextReport, List.range_succ, Nat.add_assoc]

/-- The course ends by a check and an end. -/
theorem ending_eq (s : Session) (n : Nat) :
    s.ending w c n = ((s.course w c n).act (.check true)).closed w c := by
  have htime : ((s.course w c n).act (.check true)).timeAt w 0 = s.timeAt w n :=
    timeAt_course w c s n
  have hnow : (((s.course w c n).act (.check true)).enter .finalizing).now w = s.timeAt w n := htime
  have htracker : ((s.course w c n).act (.check true)).lastTracker w c 0 = s.lastTracker w c n := by
    rw [lastTracker, lastTracker, List.foldl_append, List.foldl_append, finalCalls, htime]
    rfl
  simp only [closed, readClock, hnow, htime, htracker]
  simp [ending, finalActions, finalReport, course, withTracker, wrote, enter, act, Journal.act,
    Nat.add_assoc]

end Session

end OutageWatch
