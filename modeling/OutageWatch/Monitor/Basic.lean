import OutageWatch.Monitor.World
import OutageWatch.Report.Writing

/-!
# Monitoring

A monitor first takes snapshots until one tells enough to start a tracker.  Then it polls: a round
of queries, a reading of the clock, one observation of everything, and a report.  Between polls it
looks whether it should stop; once it should, it ends every open interval, writes the last report
and is done.  A report that cannot be written does not stop it, unless it is the last one.

Time passes only while queries are under way.  Overflowing arithmetic ends monitoring where it
happens.

## Main definitions

* `Journal` : what has been done and logged.
* `Journal.startTracker` : the start of a tracker.
* `Session.poll`, `Session.pollUntilStopped` : one poll, and all of them.
* `Session.run` : polling to the end.
-/

namespace OutageWatch

/-! ### The journal -/

/-- What has been done and logged so far, and how much time went by in milliseconds. -/
structure Journal where
  actions : List Action
  events : List Event
  elapsed : Nat
  rounds : Nat
  readings : Nat
  writes : Nat
  deriving DecidableEq, Repr

namespace Journal

/-- Nothing was done yet. -/
def empty : Journal := ⟨[], [], 0, 0, 0, 0⟩

/-- Notes an action. -/
def act (a : Action) (j : Journal) : Journal := { j with actions := j.actions ++ [a] }

/-- Logs events. -/
def log (events : List Event) (j : Journal) : Journal := { j with events := j.events ++ events }

/-- What was handed over, one report after the other. -/
def payloads (j : Journal) : List (List UInt8) :=
  j.actions.filterMap fun
    | .put _ payload => some payload
    | _ => none

/-- Whether a stop has been asked for. -/
def isStopped (w : World) (j : Journal) : Bool := w.isStopped j.actions j.elapsed

/-- The snapshot of the next round of queries. -/
def nextSnapshot (w : World) (c : Settings) (j : Journal) : Snapshot :=
  (w.answers (j.rounds + 1)).snapshot c.queryTimeout

/-- The journal after the next round of queries. -/
def afterRound (w : World) (c : Settings) (j : Journal) : Journal :=
  { j with
    actions := j.actions ++ Query.round.map .query
    elapsed := j.elapsed + (w.answers (j.rounds + 1)).duration c.queryTimeout
    rounds := j.rounds + 1 }

/-! ### The start -/

/-- How the attempt to start a tracker ends. -/
inductive Start where
  | tracking (t : Tracker)
  | stopped
  /-- The limit on the number of checks was reached. -/
  | unfinished
  deriving DecidableEq, Repr

/-- Takes snapshots until one tells enough or a stop has been asked for; looks for a stop before
every snapshot, at most `limit` times. -/
def attempts (w : World) (c : Settings) (start : Int) : Nat → Nat → Journal → Journal × Start
  | 0, _, j => (j, .unfinished)
  | limit + 1, attempt, j =>
    let stop := j.isStopped w
    let j := j.act (.check stop)
    if stop then (j, .stopped)
    else
      let snapshot := j.nextSnapshot w c
      let j := j.afterRound w c
      match Tracker.ofSnapshot snapshot start with
      | .ok t => (j.log (Tracker.startEvents snapshot t), .tracking t)
      | .error e =>
        attempts w c start limit (attempt + 1)
          ((j.log [.attemptFailed attempt e.message]).act .yield)

/-- Starts a tracker, unless a stop has been asked for before that. -/
def startTracker (w : World) (c : Settings) (start : Int) (limit : Nat) : Journal × Start :=
  attempts w c start limit 1 (empty.log [.initialListing c.namespaceStart])

end Journal

/-! ### Polling -/

/-- A monitor at work. -/
structure Session where
  journal : Journal
  tracker : Tracker
  polls : Nat
  phase : Phase
  deriving DecidableEq, Repr

/-- Where arithmetic overflowed, and what had been done until then. -/
structure Crash where
  journal : Journal
  overflow : Overflow
  deriving DecidableEq, Repr

namespace Session

/-- A monitor that has not polled yet. -/
def new (j : Journal) (t : Tracker) : Session := ⟨j, t, 0, .running⟩

/-- Notes an action. -/
def act (a : Action) (s : Session) : Session := { s with journal := s.journal.act a }

/-- Logs events. -/
def log (events : List Event) (s : Session) : Session :=
  { s with journal := s.journal.log events }

/-- Enters a phase. -/
def enter (p : Phase) (s : Session) : Session := { s.act (.enter p) with phase := p }

/-- The time that the next reading of the clock gives. -/
def now (w : World) (s : Session) : Int := w.clock (s.journal.readings + 1)

/-- Reads the clock. -/
def readClock (w : World) (s : Session) : Session :=
  let s := s.act (.readClock (s.now w))
  { s with journal := { s.journal with readings := s.journal.readings + 1 } }

/-- Goes on with the tracker that a computation gives. -/
def proceed (a : Action) (r : Logged Tracker) (s : Session) : Except Crash Session :=
  let s := (s.act a).log r.events
  match r.outcome with
  | .ok t => .ok { s with tracker := t }
  | .error e => .error ⟨s.journal, e⟩

/-- Writes the report of a time; the error is what went wrong. -/
def write (w : World) (c : Settings) (now : Int) (s : Session) : Session × Option WriteFailure :=
  let r := s.tracker.report now
  let payload := r.bytes
  let s := s.act (.put r payload)
  let s := { s with journal := { s.journal with writes := s.journal.writes + 1 } }
  match Report.written c.location payload (w.putProblem s.journal.writes) with
  | .ok event => (s.log [event], none)
  | .error e => (s, some e)

/-- Polls once. -/
def poll (w : World) (c : Settings) (s : Session) : Except Crash Session := do
  let s := s.log [.polling]
  let snapshot := s.journal.nextSnapshot w c
  let s := { s with journal := s.journal.afterRound w c }
  let now := s.now w
  let s := s.readClock w
  let s ← s.proceed (.reconcile now) (s.tracker.reconcile snapshot now)
  let s ← s.proceed .recompute (.lift s.tracker.recompute)
  let s := { s with polls := s.polls + 1 }
  let s := s.log [.pollComplete s.polls now s.tracker.namespacesDown]
  match s.write w c now with
  | (s, none) => return s
  | (s, some e) => return s.log [.writeFailed e.message]

/-- Polls a number of times. -/
def pollTimes (w : World) (c : Settings) : Nat → Session → Except Crash Session
  | 0, s => .ok s
  | n + 1, s => do pollTimes w c n (← s.poll w c)

/-- Polls until a stop has been asked for; looks for a stop before every poll, at most `limit`
times. -/
def pollUntilStopped (w : World) (c : Settings) : Nat → Session → Except Crash (Option Session)
  | 0, _ => .ok none
  | limit + 1, s =>
    let stop := s.journal.isStopped w
    let s := s.act (.check stop)
    if stop then .ok (some s)
    else do pollUntilStopped w c limit ((← s.poll w c).act .yield)

/-! ### The end -/

/-- A monitor that is done, and the failure of its last write. -/
structure Finished where
  session : Session
  failure : Option WriteFailure
  deriving DecidableEq, Repr

/-- Ends every open interval and writes the last report. -/
def finish (w : World) (c : Settings) (s : Session) : Except Crash Finished := do
  let s := s.enter .finalizing
  let s := s.log [.stopRequested s.polls]
  let now := s.now w
  let s := s.readClock w
  let s ← s.proceed (.finalize now) (.lift (s.tracker.finalize now))
  let s ← s.proceed .recompute (.lift s.tracker.recompute)
  let s := s.log (s.tracker.namespaces.map fun n => .downtimeOf n.name n.downtimeInSeconds)
  match s.write w c now with
  | (s, none) => return ⟨(s.log [.finalReport c.location]).enter .stopped, none⟩
  | (s, some e) => return ⟨s.enter .stopped, some e⟩

/-- Polls until a stop has been asked for, and finishes; `none` if the limit on the number of
checks was reached before. -/
def run (w : World) (c : Settings) (limit : Nat) (s : Session) :
    Except Crash (Option Finished) := do
  match ← (s.log [.monitoring c.location]).pollUntilStopped w c limit with
  | none => return none
  | some s => return some (← s.finish w c)

end Session

end OutageWatch
