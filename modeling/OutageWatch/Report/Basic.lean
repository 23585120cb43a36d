import OutageWatch.Tracker.Basic
import OutageWatch.Json.Writer

/-!
# Reports

A report lists everything that is tracked, with its downtimes, between the start of tracking and
the time of the report.  It is written as one JSON object whose members come in a fixed order; an
interval that is still open has `null` for its end.

## Main definitions

* `Report`, `Tracker.report` : a report, and the report of a tracker.
* `Report.toJson`, `Report.text` : a report as JSON, and as text.
-/

namespace OutageWatch

/-- What is tracked between two times. -/
structure Report where
  namespaces : List Namespace
  start : Int
  finish : Int
  deriving DecidableEq, Repr

/-- The report of a tracker at a time. -/
def Tracker.report (t : Tracker) (finish : Int) : Report := ⟨t.namespaces, t.start, finish⟩

/-! ### Report text -/

/-- An interval as JSON. -/
def Interval.toJson (i : Interval) : Json :=
  .object [("start", .ofInt i.start), ("end", i.finish.elim .null .ofInt)]

/-- A history as JSON. -/
def Downtimes.toJson (d : Downtimes) : Json := .array (d.intervals.map Interval.toJson)

/-- A workload as JSON. -/
def Workload.toJson (w : Workload) : Json :=
  .object [
    ("kind", .string w.kind.identifier),
    ("name", .string w.name),
    ("namespace", .string w.home),
    ("downtimes", w.downtimes.toJson),
    ("downtimeInSeconds", .ofInt w.downtimeInSeconds)]

/-- A namespace as JSON. -/
def Namespace.toJson (n : Namespace) : Json :=
  .object [
    ("name", .string n.name),
    ("deploymentConfigs", .array (n.workloads.deploymentConfig.map Workload.toJson)),
    ("deployments", .array (n.workloads.deployment.map Workload.toJson)),
    ("statefulSets", .array (n.workloads.statefulSet.map Workload.toJson)),
    ("downtimes", n.downtimes.toJson),
    ("downtimeInSeconds", .ofInt n.downtimeInSeconds)]

namespace Report

/-- A report as JSON. -/
def toJson (r : Report) : Json :=
  .object [
    ("namespaces", .array (r.namespaces.map Namespace.toJson)),
    ("start", .ofInt r.start),
    ("end", .ofInt r.finish)]

/-- The text of a report. -/
def chars (r : Report) : List Char := r.toJson.chars

/-- The text of a report, as a string. -/
def text (r : Report) : String := String.ofList r.chars

end Report

end OutageWatch
