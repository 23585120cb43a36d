import OutageWatch.Json.Reader
import OutageWatch.Report.Basic

/-!
# Reading reports

A report is read from its text by the names of its members, in any order; each of them must be
there once, except that an interval may leave out its end, and members of other names are passed
over.  Instead of an object each structure may be an array of its members in their order.

## Main definitions

* `Report.reader` : the reader of a report.
* `Report.parse` : the report that a text is.
-/

namespace OutageWatch

open Json Json.Reader

/-! ### Intervals -/

/-- The members of an interval that have been read. -/
structure Interval.Draft where
  start : Option Int := none
  finish : Option (Option Int) := none

/-- Reads an interval. -/
def Interval.reader : Reader Interval :=
  let full := "struct DowntimeInterval with 2 elements"
  structured "struct DowntimeInterval"
    (do
      let start ← itemAt 0 full int64
      let finish ← itemAt 1 full (orNull int64)
      return ⟨start, finish⟩)
    (do
      let d ← foldMembers false (fun (d : Interval.Draft) name => do
        match name with
        | "start" => return { d with start := ← once name d.start int64 }
        | "end" => return { d with finish := ← once name d.finish (orNull int64) }
        | _ => ignore; return d) (← bound) true {}
      return ⟨← required "start" d.start, d.finish.getD none⟩)

/-- Reads a history. -/
def Downtimes.reader : Reader Downtimes := do return ⟨← listOf Interval.reader⟩

/-! ### Workloads -/

/-- The kind of an identifier, which must be one. -/
def Kind.named (s : String) : Reader Kind :=
  match Kind.ofIdentifier? s with
  | some k => return k
  | none => mismatch (.unknownVariant s (Kind.all.map Kind.identifier))

/-- Reads a kind, either as its identifier or as an object with that one member, which is `null`. -/
def Kind.reader : Reader Kind := do
  match ← token? with
  | none => truncated
  | some '"' => Kind.named (← quotedString false)
  | some '\x7b' =>
    advance
    let k ← Kind.named (← Reader.string "variant identifier")
    colon
    match ← token? with
    | none => truncated
    | some 'n' => word ['n', 'u', 'l', 'l']
    | some _ => unexpected "unit"
    endObject
    return k
  | some _ => malformed

/-- The members of a workload that have been read. -/
structure Workload.Draft where
  kind : Option Kind := none
  name : Option String := none
  home : Option String := none
  downtimes : Option Downtimes := none
  downtimeInSeconds : Option Int := none

/-- Reads a workload. -/
def Workload.reader : Reader Workload :=
  let full := "struct TrackedResource with 5 elements"
  let text := Reader.string "a string"
  structured "struct TrackedResource"
    (do
      let kind ← itemAt 0 full Kind.reader
      let name ← itemAt 1 full text
      let home ← itemAt 2 full text
      let downtimes ← itemAt 3 full Downtimes.reader
      let downtimeInSeconds ← itemAt 4 full int64
      return ⟨kind, name, home, downtimes, downtimeInSeconds⟩)
    (do
      let d ← foldMembers false (fun (d : Workload.Draft) name => do
        match name with
        | "kind" => return { d with kind := ← once name d.kind Kind.reader }
        | "name" => return { d with name := ← once name d.name text }
        | "namespace" => return { d with home := ← once name d.home text }
        | "downtimes" => return { d with downtimes := ← once name d.downtimes Downtimes.reader }
        | "downtimeInSeconds" =>
          return { d with downtimeInSeconds := ← once name d.downtimeInSeconds int64 }
        | _ => ignore; return d) (← bound) true {}
      return ⟨← required "kind" d.kind, ← required "name" d.name, ← required "namespace" d.home,
        ← required "downtimes" d.downtimes,
        ← required "downtimeInSeconds" d.downtimeInSeconds⟩)

/-! ### Namespaces -/

/-- The members of a namespace that have been read. -/
structure Namespace.Draft where
  name : Option String := none
  deploymentConfigs : Option (List Workload) := none
  deployments : Option (List Workload) := none
  statefulSets : Option (List Workload) := none
  downtimes : Option Downtimes := none
  downtimeInSeconds : Option Int := none

/-- Reads a namespace. -/
def Namespace.reader : Reader Namespace :=
  let full := "struct TrackedNamespace with 6 elements"
  let text := Reader.string "a string"
  let workloads := listOf Workload.reader
  structured "struct TrackedNamespace"
    (do
      let name ← itemAt 0 full text
      let deploymentConfigs ← itemAt 1 full workloads
      let deployments ← itemAt 2 full workloads
      let statefulSets ← itemAt 3 full workloads
      let downtimes ← itemAt 4 full Downtimes.reader
      let downtimeInSeconds ← itemAt 5 full int64
      return ⟨name, ⟨deploymentConfigs, deployments, statefulSets⟩, downtimes, downtimeInSeconds⟩)
    (do
      let d ← foldMembers false (fun (d : Namespace.Draft) name => do
        match name with
        | "name" => return { d with name := ← once name d.name text }
        | "deploymentConfigs" =>
          return { d with deploymentConfigs := ← once name d.deploymentConfigs workloads }
        | "deployments" => return { d with deployments := ← once name d.deployments workloads }
        | "statefulSets" => return { d with statefulSets := ← once name d.statefulSets workloads }
        | "downtimes" => return { d with downtimes := ← once name d.downtimes Downtimes.reader }
        | "downtimeInSeconds" =>
          return { d with downtimeInSeconds := ← once name d.downtimeInSeconds int64 }
        | _ => ignore; return d) (← bound) true {}
      let name ← required "name" d.name
      let deploymentConfigs ← required "deploymentConfigs" d.deploymentConfigs
      let deployments ← required "deployments" d.deployments
      let statefulSets ← required "statefulSets" d.statefulSets
      let downtimes ← required "downtimes" d.downtimes
      let downtimeInSeconds ← required "downtimeInSeconds" d.downtimeInSeconds
      return ⟨name, ⟨deploymentConfigs, deployments, statefulSets⟩, downtimes, downtimeInSeconds⟩)

/-! ### Reports -/

namespace Report

/-- The members of a report that have been read. -/
structure Draft where
  namespaces : Option (List Namespace) := none
  start : Option Int := none
  finish : Option Int := none

/-- Reads a report. -/
def reader : Reader Report :=
  let full := "struct RunReport with 3 elements"
  let namespaces := listOf Namespace.reader
  structured "struct RunReport"
    (do
      let ns ← itemAt 0 full namespaces
      let start ← itemAt 1 full int64
      let finish ← itemAt 2 full int64
      return ⟨ns, start, finish⟩)
    (do
      let d ← foldMembers false (fun (d : Draft) name => do
        match name with
        | "namespaces" => return { d with namespaces := ← once name d.namespaces namespaces }
        | "start" => return { d with start := ← once name d.start int64 }
        | "end" => return { d with finish := ← once name d.finish int64 }
        | _ => ignore; return d) (← bound) true {}
      return ⟨← required "namespaces" d.namespaces, ← required "start" d.start,
        ← required "end" d.finish⟩)

/-- The report that a text is. -/
def parse (text : List Char) : Except Fault Report := readAll reader text

end Report

end OutageWatch
