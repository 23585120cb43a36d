import OutageWatch.Report.Basic
import OutageWatch.Text.Utf8

/-!
# Writing reports

A report is handed over as a whole, as the bytes of its text, and replaces the one before it.
Either the number of bytes is logged or there is an error that names the location.

## Main definitions

* `WriteFailure`, `WriteFailure.message` : a report that could not be written.
* `Report.bytes` : the bytes of a report.
* `Report.written` : what comes of handing them over.
-/

namespace OutageWatch

/-- A report that could not be written. -/
structure WriteFailure where
  location : String
  problem : String
  deriving DecidableEq, Repr

/-- The text of the error. -/
def WriteFailure.message (e : WriteFailure) : String :=
  "could not write report to " ++ e.location ++ ": " ++ e.problem

namespace Report

/-- The bytes of a report. -/
def bytes (r : Report) : List UInt8 := Utf8.encode r.chars

/-- What comes of handing over the bytes of a report: an event, or an error if there was a
problem. -/
def written (location : String) (payload : List UInt8) (problem : Option String) :
    Except WriteFailure Event :=
  match problem with
  | none => .ok (.wrote payload.length location)
  | some p => .error ⟨location, p⟩

end Report

end OutageWatch
