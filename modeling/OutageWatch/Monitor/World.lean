import OutageWatch.Query
import OutageWatch.Report.Basic

/-!
# What a monitor meets

A monitor asks the cluster, reads the clock, hands over reports and looks whether it should stop.
A world settles what comes back: the answers of every round of queries, every reading of the
clock, the outcome of every write, and at which moments a stop has been asked for.  Everything is
counted from one.

## Main definitions

* `Action` : what a monitor does, in the order in which it does it.
* `World` : what comes back.
* `StopRequest` : a stop after some rounds of queries, or at some time.
* `Settings` : what a monitor is told.
-/

namespace OutageWatch

/-- Where a monitor is between its start and its end. -/
inductive Phase where
  | running
  | finalizing
  | stopped
  deriving DecidableEq, Repr

/-- Something that a monitor does. -/
inductive Action where
  /-- Looks whether it should stop, with the answer. -/
  | check (stop : Bool)
  | query (q : Query)
  | readClock (now : Int)
  | reconcile (now : Int)
  | recompute
  | finalize (now : Int)
  /-- Hands over a report as these bytes. -/
  | put (r : Report) (payload : List UInt8)
  | enter (p : Phase)
  /-- Lets others go on. -/
  | yield
  deriving DecidableEq, Repr

/-- What comes back for what a monitor does. -/
structure World where
  answers : Nat → Answers
  clock : Nat → Int
  /-- The problem with the write of a number, if there is one. -/
  putProblem : Nat → Option String
  /-- Whether a stop has been asked for, given what was done so far and the time in milliseconds
  that has gone by. -/
  isStopped : List Action → Nat → Bool

/-- What a monitor is told. -/
structure Settings where
  /-- How the names of the watched namespaces start. -/
  namespaceStart : String
  queryTimeout : Option Duration
  location : String
  deriving DecidableEq, Repr

/-- When a stop is asked for: from the round of queries of a number on, and at a time. -/
structure StopRequest where
  round : Nat
  time : Option Nat
  deriving DecidableEq, Repr

/-- Whether a stop has been asked for.  At the very time of the request, it is seen only by someone
who lets others go on. -/
def StopRequest.isDue (r : StopRequest) (actions : List Action) (elapsed : Nat) : Bool :=
  r.round ≤ actions.count (.query .namespaces) ||
    r.time.any fun t => t < elapsed || (t = elapsed && actions.getLast? = some .yield)

end OutageWatch
