import OutageWatch.Duration.Basic
import OutageWatch.Event
import OutageWatch.Snapshot

/-!
# Rounds of queries

A round asks for the namespaces and for the workloads of every kind, all at once, and ends when
every query has been answered or has been given up.  A query that takes longer than the deadline
has failed; how long one takes has no influence on the others.

## Main definitions

* `Answer`, `Answers` : what a query would be answered, and after what time.
* `Answer.within` : what is made of an answer under a deadline.
* `Answers.snapshot`, `Answers.duration` : the snapshot of a round, and how long it takes.
* `Query` : one query, with `Query.line`.
-/

namespace OutageWatch

/-- One query of a round. -/
inductive Query where
  | namespaces
  | workloads (k : Kind)
  deriving DecidableEq, Repr

/-- The queries of a round, in the order in which they are sent. -/
def Query.round : List Query := .namespaces :: Kind.all.map .workloads

/-- What a query asks for, in namespaces of which the name starts with `start`. -/
def Query.line (start : String) : Query → String
  | .namespaces => "namespaces " ++ start
  | .workloads k => k.plural ++ " " ++ start

/-- What a query is answered, at once or after a delay in milliseconds. -/
structure Answer (α : Type) where
  listing : Listing α
  delay : Option Nat
  deriving DecidableEq, Repr

namespace Answer

variable {α : Type}

/-- Whether a query is given up: its answer takes longer than the deadline, which is rounded up to
whole milliseconds.  One that is answered at once never is. -/
def isLate (deadline : Option Duration) (a : Answer α) : Bool :=
  match deadline, a.delay with
  | some limit, some delay => limit.milliseconds < delay
  | _, _ => false

/-- The reason given for a query that was given up. -/
def lateReason (deadline : Duration) : String := "query timed out after " ++ deadline.text

/-- What is made of an answer under a deadline. -/
def within (deadline : Option Duration) (a : Answer α) : Listing α :=
  match deadline, a.isLate deadline with
  | some limit, true => .failed (lateReason limit)
  | _, _ => a.listing

/-- How long a query takes, in milliseconds. -/
def duration (deadline : Option Duration) (a : Answer α) : Nat :=
  match deadline, a.isLate deadline with
  | some limit, true => limit.milliseconds
  | _, _ => a.delay.getD 0

end Answer

/-- What the queries of a round are answered. -/
structure Answers where
  namespaces : Answer String
  workloads : PerKind (Answer Record)
  deriving DecidableEq, Repr

namespace Answers

/-- The snapshot that a round ends with. -/
def snapshot (deadline : Option Duration) (a : Answers) : Snapshot :=
  .ofListings (a.namespaces.within deadline)
    (Kind.all.map fun k => (k, (a.workloads.get k).within deadline))

/-- How long a round takes, in milliseconds: as long as its longest query. -/
def duration (deadline : Option Duration) (a : Answers) : Nat :=
  (a.workloads.toList.map (Answer.duration deadline)).foldl max (a.namespaces.duration deadline)

end Answers

/-- What is logged before the program ends a while after monitoring did: nothing if it ends at
once. -/
def graceEvents (period : Duration) : List Event :=
  if period = .zero then [] else [.waiting period.text]

end OutageWatch
