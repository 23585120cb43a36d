import OutageWatch.Report.Basic
import OutageWatch.Proofs.Json.Writing
import OutageWatch.Proofs.Report.Decoding

/-!
# Reports lose nothing

What is written of a report is read as the same report, whatever its names are, and however many
namespaces, workloads and intervals it has, in whatever order.  Each structure is followed from
its value to what is written of it as a tree, and from that tree to what it means.

## Main definitions

* `Report.Fits` : all times and lengths of a report fit 64 bits.
* `Report.tree` : what is written of a report.

## Main results

* `Report.writes_tree`, `Report.ofTree?_tree` : the two halves of the way there and back.
* `Report.parse_chars` : reading what was written.
-/

namespace OutageWatch

open Json

theorem Json.Tree.int64?_ofInt {n : Int} (h : Fits n) : Tree.int64? (.ofInt n) = some n :=
  Tree.int?_ofInt h h

/-! ### Intervals -/

/-- All times of an interval fit. -/
def Interval.Fits (i : Interval) : Prop :=
  OutageWatch.Fits i.start ∧ ∀ n ∈ i.finish, OutageWatch.Fits n

/-- What is written of an interval. -/
def Interval.tree (i : Interval) : Tree :=
  .ofMembers [("start", .ofInt i.start), ("end", i.finish.elim .null .ofInt)]

theorem Interval.writes_tree {i : Interval} (h : i.Fits) (depth : Nat) :
    Writes (depth + 1) i.toJson i.tree := by
  have hfinish : Writes depth (i.finish.elim .null .ofInt) (i.finish.elim .null .ofInt) := by
    cases hi : i.finish with
    | none => exact writes_null depth
    | some n => exact writes_int depth (h.2 n hi)
  refine writes_object [("start", .ofInt i.start, .ofInt i.start),
    ("end", i.finish.elim .null .ofInt, i.finish.elim .null .ofInt)] ?_
  simp only [List.forall_mem_cons, List.not_mem_nil, false_implies, implies_true, and_true]
  exact ⟨writes_int depth h.1, hfinish⟩

theorem Interval.ofTree?_tree {i : Interval} (h : i.Fits) : Interval.ofTree? i.tree = some i := by
  have hstart := Tree.int64?_ofInt h.1
  have hfinish : Tree.orNull? Tree.int64? (i.finish.elim .null .ofInt) = some i.finish := by
    cases hi : i.finish with
    | none => rfl
    | some n => exact congrArg (Option.map some) (Tree.int64?_ofInt (h.2 n hi))
  simp [Interval.ofTree?, Interval.tree, Interval.Draft.take?, hstart, hfinish]

/-- All times of a history fit. -/
def Downtimes.Fits (d : Downtimes) : Prop := ∀ i ∈ d.intervals, i.Fits

/-- What is written of a history. -/
def Downtimes.tree (d : Downtimes) : Tree := .array (d.intervals.map Interval.tree)

theorem Downtimes.writes_tree {d : Downtimes} (h : d.Fits) (depth : Nat) :
    Writes (depth + 2) d.toJson d.tree :=
  writes_array fun i hi => Interval.writes_tree (h i hi) depth

theorem Downtimes.ofTree?_tree {d : Downtimes} (h : d.Fits) :
    Downtimes.ofTree? d.tree = some d := by
  rw [Downtimes.ofTree?, Downtimes.tree,
    Tree.items?_array_map fun i hi => Interval.ofTree?_tree (h i hi), Option.map_some]

/-! ### Workloads -/

/-- All times and lengths of a workload fit. -/
def Workload.Fits (w : Workload) : Prop :=
  w.downtimes.Fits ∧ OutageWatch.Fits w.downtimeInSeconds

/-- What is written of a workload. -/
def Workload.tree (w : Workload) : Tree :=
  .ofMembers [
    ("kind", .ofString w.kind.identifier),
    ("name", .ofString w.name),
    ("namespace", .ofString w.home),
    ("downtimes", w.downtimes.tree),
    ("downtimeInSeconds", .ofInt w.downtimeInSeconds)]

theorem Workload.writes_tree {w : Workload} (h : w.Fits) (depth : Nat) :
    Writes (depth + 3) w.toJson w.tree := by
  refine writes_object [
    ("kind", .string w.kind.identifier, .ofString w.kind.identifier),
    ("name", .string w.name, .ofString w.name),
    ("namespace", .string w.home, .ofString w.home),
    ("downtimes", w.downtimes.toJson, w.downtimes.tree),
    ("downtimeInSeconds", .ofInt w.downtimeInSeconds, .ofInt w.downtimeInSeconds)] ?_
  simp only [List.forall_mem_cons, List.not_mem_nil, false_implies, implies_true, and_true]
  exact ⟨writes_string _ _, writes_string _ _, writes_string _ _,
    Downtimes.writes_tree h.1 depth, writes_int _ h.2⟩

theorem Kind.ofTree?_ofString (k : Kind) : Kind.ofTree? (.ofString k.identifier) = some k := by
  rw [Tree.ofString, Kind.ofTree?, Piece.name?_ofString, Option.bind_some,
    Kind.ofIdentifier?_identifier]

theorem Workload.ofTree?_tree {w : Workload} (h : w.Fits) : Workload.ofTree? w.tree = some w := by
  have hdowntimes := Downtimes.ofTree?_tree h.1
  have htotal := Tree.int64?_ofInt h.2
  simp [Workload.ofTree?, Workload.tree, Workload.Draft.take?, Kind.ofTree?_ofString, hdowntimes,
    htotal]

/-! ### Namespaces -/

/-- All times and lengths of a namespace and its workloads fit. -/
def Namespace.Fits (n : Namespace) : Prop :=
  (∀ k, ∀ w ∈ n.workloads.get k, w.Fits) ∧ n.downtimes.Fits ∧
    OutageWatch.Fits n.downtimeInSeconds

/-- What is written of a list of workloads. -/
def Workload.listTree (ws : List Workload) : Tree := .array (ws.map Workload.tree)

/-- What is written of a namespace. -/
def Namespace.tree (n : Namespace) : Tree :=
  .ofMembers [
    ("name", .ofString n.name),
    ("deploymentConfigs", Workload.listTree n.workloads.deploymentConfig),
    ("deployments", Workload.listTree n.workloads.deployment),
    ("statefulSets", Workload.listTree n.workloads.statefulSet),
    ("downtimes", n.downtimes.tree),
    ("downtimeInSeconds", .ofInt n.downtimeInSeconds)]

theorem Workload.writes_listTree {ws : List Workload} (h : ∀ w ∈ ws, w.Fits) (depth : Nat) :
    Writes (depth + 4) (.array (ws.map Workload.toJson)) (Workload.listTree ws) :=
  writes_array fun w hw => Workload.writes_tree (h w hw) depth

theorem Workload.items?_listTree {ws : List Workload} (h : ∀ w ∈ ws, w.Fits) :
    Tree.items? Workload.ofTree? (Workload.listTree ws) = some ws :=
  Tree.items?_array_map fun w hw => Workload.ofTree?_tree (h w hw)

theorem Namespace.writes_tree {n : Namespace} (h : n.Fits) (depth : Nat) :
    Writes (depth + 5) n.toJson n.tree := by
  refine writes_object [
    ("name", .string n.name, .ofString n.name),
    ("deploymentConfigs", .array (n.workloads.deploymentConfig.map Workload.toJson),
      Workload.listTree n.workloads.deploymentConfig),
    ("deployments", .array (n.workloads.deployment.map Workload.toJson),
      Workload.listTree n.workloads.deployment),
    ("statefulSets", .array (n.workloads.statefulSet.map Workload.toJson),
      Workload.listTree n.workloads.statefulSet),
    ("downtimes", n.downtimes.toJson, n.downtimes.tree),
    ("downtimeInSeconds", .ofInt n.downtimeInSeconds, .ofInt n.downtimeInSeconds)] ?_
  simp only [List.forall_mem_cons, List.not_mem_nil, false_implies, implies_true, and_true]
  exact ⟨writes_string _ _, Workload.writes_listTree (h.1 .deploymentConfig) depth,
    Workload.writes_listTree (h.1 .deployment) depth,
    Workload.writes_listTree (h.1 .statefulSet) depth,
    Downtimes.writes_tree h.2.1 (depth + 2), writes_int _ h.2.2⟩

theorem Namespace.ofTree?_tree {n : Namespace} (h : n.Fits) :
    Namespace.ofTree? n.tree = some n := by
  have hconfigs := Workload.items?_listTree (h.1 .deploymentConfig)
  have hdeployments := Workload.items?_listTree (h.1 .deployment)
  have hsets := Workload.items?_listTree (h.1 .statefulSet)
  have hdowntimes := Downtimes.ofTree?_tree h.2.1
  have htotal := Tree.int64?_ofInt h.2.2
  simp only [PerKind.get] at hconfigs hdeployments hsets
  simp [Namespace.ofTree?, Namespace.tree, Namespace.Draft.take?, hconfigs, hdeployments, hsets,
    hdowntimes, htotal]

/-! ### Reports -/

namespace Report

/-- All times and lengths of a report fit. -/
def Fits (r : Report) : Prop :=
  (∀ n ∈ r.namespaces, n.Fits) ∧ OutageWatch.Fits r.start ∧ OutageWatch.Fits r.finish

/-- What is written of a report. -/
def tree (r : Report) : Tree :=
  .ofMembers [
    ("namespaces", .array (r.namespaces.map Namespace.tree)),
    ("start", .ofInt r.start),
    ("end", .ofInt r.finish)]

theorem writes_tree {r : Report} (h : r.Fits) (depth : Nat) :
    Writes (depth + 7) r.toJson r.tree := by
  refine writes_object [
    ("namespaces", .array (r.namespaces.map Namespace.toJson),
      .array (r.namespaces.map Namespace.tree)),
    ("start", .ofInt r.start, .ofInt r.start),
    ("end", .ofInt r.finish, .ofInt r.finish)] ?_
  simp only [List.forall_mem_cons, List.not_mem_nil, false_implies, implies_true, and_true]
  exact ⟨writes_array fun n hn => Namespace.writes_tree (h.1 n hn) depth, writes_int _ h.2.1,
    writes_int _ h.2.2⟩

theorem ofTree?_tree {r : Report} (h : r.Fits) : ofTree? r.tree = some r := by
  have hitems := Tree.items?_array_map fun n hn => Namespace.ofTree?_tree (h.1 n hn)
  have hstart := Tree.int64?_ofInt h.2.1
  have hfinish := Tree.int64?_ofInt h.2.2
  simp [ofTree?, tree, Draft.take?, hitems, hstart, hfinish]

theorem isText_tree {r : Report} (h : r.Fits) : r.tree.IsText r.chars :=
  (writes_tree h 0).isText

theorem parse_chars_eq {r : Report} (h : r.Fits) : parse r.chars = .ok r :=
  parse_eq_ok.mpr ⟨r.tree, isText_tree h, ofTree?_tree h⟩

/-- **A report is written without loss.**  Its text is JSON, of the grammar and as it is read into
a value; read by the names of its members it is the same report again, with all names, times and
lengths and an open interval still open; so no other report has the same text. -/
theorem parse_chars {r : Report} (h : r.Fits) :
    (∃ t, Tree.IsText t r.chars) ∧ Json.parse r.text = .ok r.toJson ∧ parse r.chars = .ok r ∧
      ∀ r' : Report, r'.Fits → r'.chars = r.chars → r' = r := by
  refine ⟨⟨r.tree, isText_tree h⟩, (writes_tree h 120).parse, parse_chars_eq h,
    fun r' h' hchars => ?_⟩
  have hr' := parse_chars_eq h'
  rw [hchars, parse_chars_eq h] at hr'
  exact (Except.ok.inj hr').symm

/-- A report with awkward names, times at both ends of the range and an interval that is open. -/
def ofAllSorts : Report where
  namespaces := [⟨"k\"ö\\\x01", ⟨[], [⟨.deployment, "\n", "/", ⟨[⟨leastInt, some greatestInt⟩,
    ⟨-1, none⟩]⟩, greatestInt⟩], []⟩, ⟨[⟨0, none⟩]⟩, leastInt⟩]
  start := leastInt
  finish := greatestInt

theorem fits_ofAllSorts : ofAllSorts.Fits := by
  simp only [Fits, Namespace.Fits, Workload.Fits, Downtimes.Fits, Interval.Fits, ofAllSorts,
    List.forall_mem_cons, List.not_mem_nil, false_implies, implies_true, and_true]
  refine ⟨⟨fun k => ?_, ?_⟩, ?_⟩
  · cases k <;> simp [PerKind.get, OutageWatch.Fits]
  all_goals simp [OutageWatch.Fits]

theorem parse_chars_ofAllSorts :
    ofAllSorts.Fits ∧ parse ofAllSorts.chars = .ok ofAllSorts :=
  ⟨fits_ofAllSorts, (parse_chars fits_ofAllSorts).2.2.1⟩

end Report

end OutageWatch
