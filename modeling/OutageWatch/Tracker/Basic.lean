import OutageWatch.Downtimes
import OutageWatch.Snapshot
import OutageWatch.Logged

/-!
# The tracker

A tracker holds the downtime histories of a fixed set of namespaces and of the workloads in them.
The set is taken from a first snapshot that tells something about everything; each later snapshot
adds one observation to the history of every workload that it tells something about.  A namespace
is down as long as one of its workloads is.

What an operation does to the histories is defined first and cannot fail; measuring the intervals
that it closes can, and then the operation ends there.

## Main definitions

* `Workload`, `Namespace`, `Tracker` : what is tracked.
* `Tracker.ofSnapshot`, `Tracker.startEvents` : the start of a tracker.
* `Tracker.observed`, `Tracker.reconcile` : one observation of everything.
* `Tracker.closed`, `Tracker.finalize` : the end of every open interval.
* `Tracker.withTotals`, `Tracker.recompute` : the totals of all histories.

## Main results

* `Tracker.ofSnapshot_eq_ok_iff` : when a tracker starts, and with what.
* `Tracker.outcome_reconcile` : when reconciling succeeds, and with what.
-/

namespace OutageWatch

/-! ### What is tracked -/

/-- A tracked workload. -/
structure Workload where
  kind : Kind
  name : String
  home : String
  downtimes : Downtimes
  downtimeInSeconds : Int
  deriving DecidableEq, Repr

/-- A tracked namespace. -/
structure Namespace where
  name : String
  workloads : PerKind (List Workload)
  downtimes : Downtimes
  downtimeInSeconds : Int
  deriving DecidableEq, Repr

/-- Everything that is tracked, and the time at which tracking started. -/
structure Tracker where
  namespaces : List Namespace
  start : Int
  deriving DecidableEq, Repr

namespace Workload

/-- A workload that was never seen down. -/
def new (kind : Kind) (home name : String) : Workload := ⟨kind, name, home, .empty, 0⟩

/-- Whether the workload is down. -/
def isDown (w : Workload) : Bool := w.downtimes.isOpen

/-- What the history of the workload belongs to. -/
def entity (w : Workload) : Entity := .workload w.kind w.home w.name

end Workload

namespace Namespace

/-- A namespace without workloads that was never seen down. -/
def new (name : String) : Namespace := ⟨name, .const [], .empty, 0⟩

/-- The workloads of a namespace, kind by kind. -/
def all (n : Namespace) : List Workload := n.workloads.toList.flatten

/-- Whether no workload is down; so a namespace without workloads is up. -/
def isUp (n : Namespace) : Bool := n.all.all fun w => !w.isDown

/-- Whether the namespace is down. -/
def isDown (n : Namespace) : Bool := n.downtimes.isOpen

/-- What the history of the namespace belongs to. -/
def entity (n : Namespace) : Entity := .namespaced n.name

/-- Applies a function to every workload. -/
def mapWorkloads (f : Workload → Workload) (n : Namespace) : Namespace :=
  { n with workloads := n.workloads.map (·.map f) }

/-- Adds a workload to those of its kind. -/
def add (w : Workload) (n : Namespace) : Namespace :=
  { n with workloads := n.workloads.modify w.kind (· ++ [w]) }

end Namespace

/-! ### The start -/

/-- What the first snapshot did not tell. -/
inductive Problem where
  | kind (k : Kind) (reason : String)
  | namespaces (reason : String)
  deriving DecidableEq, Repr

/-- The text of a problem. -/
def Problem.message : Problem → String
  | .kind k reason => k.display ++ "s: " ++ reason
  | .namespaces reason => "namespaces: " ++ reason

/-- The first snapshot does not tell about everything. -/
structure Inconclusive where
  problems : List Problem
  deriving DecidableEq, Repr

/-- The text of the error. -/
def Inconclusive.message (e : Inconclusive) : String :=
  "initial snapshot is inconclusive: " ++ "; ".intercalate (e.problems.map Problem.message)

namespace Tracker

/-- What a snapshot does not tell: first about the kinds, then about the namespaces. -/
def problems (s : Snapshot) : List Problem :=
  s.failures.map (fun f => .kind f.1 f.2) ++
    match s.namespaces with
    | .failed reason => [.namespaces reason]
    | _ => []

/-- Adds a workload to the first namespace of its name. -/
def adopt (w : Workload) : List Namespace → List Namespace
  | [] => []
  | n :: rest => if n.name = w.home then n.add w :: rest else n :: adopt w rest

/-- The workloads that a snapshot saw, kind by kind. -/
def seen (s : Snapshot) : List Workload :=
  Kind.all.flatMap fun k => (s.records k).map fun r => .new k r.home r.name

/-- The tracker of everything that a snapshot saw. -/
def ofSnapshot (s : Snapshot) (start : Int) : Except Inconclusive Tracker :=
  match problems s with
  | [] => .ok ⟨(seen s).foldl (fun ns w => adopt w ns) (s.namespaces.items.map .new), start⟩
  | ps => .error ⟨ps⟩

/-- What is logged when a tracker starts from a snapshot. -/
def startEvents (s : Snapshot) (t : Tracker) : List Event :=
  ((seen s).filter fun w => w.home ∉ s.namespaces.items).map
      (fun w => .outsideNamespaces w.kind w.home w.name) ++
    (if t.namespaces.isEmpty then [.nothingTracked] else []) ++
    t.namespaces.map fun n => .tracking n.all.length n.name

/-- The number of namespaces that are down. -/
def namespacesDown (t : Tracker) : Nat := t.namespaces.countP Namespace.isDown

/-- The histories of a tracker: namespace by namespace, the one of the namespace itself last. -/
def histories (t : Tracker) : List Downtimes :=
  t.namespaces.flatMap fun n => n.all.map Workload.downtimes ++ [n.downtimes]

end Tracker

/-! ### Observations -/

/-- What an observation tells, if anything: whether the workload is up. -/
def Readiness.up? : Readiness → Option Bool
  | .ready => some true
  | .unready => some false
  | .unknown => none

/-- What is logged about a transition. -/
def Transition.events (e : Entity) : Transition → List Event
  | .opened => [.down e]
  | .closed seconds => [.backUp e seconds]
  | .unchanged => []

/-- Logs transitions in order, up to the first one that overflowed. -/
def announce : List (Entity × Except Overflow Transition) → Logged Unit
  | [] => pure ()
  | (e, r) :: rest => do
    Logged.log ((← Logged.lift r).events e)
    announce rest

namespace Workload

/-- What a snapshot tells about the workload. -/
def up? (s : Snapshot) (w : Workload) : Option Bool := (s.observe w.kind w.home w.name).up?

/-- The workload after a snapshot: its history is left alone if the snapshot tells nothing. -/
def observed (s : Snapshot) (now : Int) (w : Workload) : Workload :=
  match w.up? s with
  | some up => { w with downtimes := w.downtimes.observe up now }
  | none => w

/-- What a snapshot changes in the history of the workload. -/
def transition (s : Snapshot) (now : Int) (w : Workload) : Except Overflow Transition :=
  match w.up? s with
  | some up => w.downtimes.transition up now
  | none => .ok .unchanged

end Workload

namespace Namespace

/-- The namespace after a snapshot.  Whether it is up follows from the state its workloads are in
then, also of those that the snapshot tells nothing about. -/
def observed (s : Snapshot) (now : Int) (n : Namespace) : Namespace :=
  let m := n.mapWorkloads (Workload.observed s now)
  { m with downtimes := n.downtimes.observe m.isUp now }

/-- What a snapshot changes in the histories of the workloads and then of the namespace. -/
def transitions (s : Snapshot) (now : Int) (n : Namespace) :
    List (Entity × Except Overflow Transition) :=
  n.all.map (fun w => (w.entity, w.transition s now)) ++
    [(n.entity, n.downtimes.transition (n.mapWorkloads (Workload.observed s now)).isUp now)]

end Namespace

namespace Tracker

/-- The tracker after a snapshot. -/
def observed (s : Snapshot) (now : Int) (t : Tracker) : Tracker :=
  { t with namespaces := t.namespaces.map (Namespace.observed s now) }

/-- What a snapshot changes, namespace by namespace. -/
def transitions (s : Snapshot) (now : Int) (t : Tracker) :
    List (Entity × Except Overflow Transition) :=
  t.namespaces.flatMap (Namespace.transitions s now)

/-- What is logged about a snapshot itself. -/
def snapshotEvents (s : Snapshot) (t : Tracker) : List Event :=
  s.failures.map (fun f => .skippingKind f.1 f.2) ++
    match s.namespaces with
    | .records names =>
      (t.namespaces.filter fun n => n.name ∉ names).map fun n => .namespaceAbsent n.name
    | .failed reason => [.namespacesFailed reason]
    | .empty => [.noNamespaces]

/-- Adds one observation of everything that a snapshot tells something about. -/
def reconcile (s : Snapshot) (now : Int) (t : Tracker) : Logged Tracker := do
  Logged.log (t.snapshotEvents s)
  announce (t.transitions s now)
  return t.observed s now

/-! ### The end -/

/-- Applies a function to every history. -/
def mapHistories (f : Downtimes → Downtimes) (t : Tracker) : Tracker :=
  { t with namespaces := t.namespaces.map fun n =>
      { n.mapWorkloads (fun w => { w with downtimes := f w.downtimes }) with
        downtimes := f n.downtimes } }

/-- The tracker with every open interval ended. -/
def closed (now : Int) (t : Tracker) : Tracker := t.mapHistories (·.markUp now)

/-- Ends every open interval. -/
def finalize (now : Int) (t : Tracker) : Except Overflow Tracker := do
  t.histories.forM fun d => discard (d.transition true now)
  return t.closed now

/-! ### Totals -/

/-- The tracker with the exact total of every history. -/
def withTotals (t : Tracker) : Tracker :=
  { t with namespaces := t.namespaces.map fun n =>
      { n.mapWorkloads (fun w => { w with downtimeInSeconds := w.downtimes.total }) with
        downtimeInSeconds := n.downtimes.total } }

/-- Brings the totals of all histories up to date. -/
def recompute (t : Tracker) : Except Overflow Tracker := do
  t.histories.forM fun d => discard d.checkedTotal
  return t.withTotals

/-! ### First properties -/

/-- A tracker starts from a snapshot that leaves nothing open, with all that the snapshot saw. -/
theorem ofSnapshot_eq_ok_iff {s : Snapshot} {start : Int} {t : Tracker} :
    ofSnapshot s start = .ok t ↔ problems s = [] ∧
      t = ⟨(seen s).foldl (fun ns w => adopt w ns) (s.namespaces.items.map .new), start⟩ := by
  rw [ofSnapshot]
  cases problems s with
  | nil => simp [eq_comm]
  | cons p ps => simp

theorem outcome_reconcile (s : Snapshot) (now : Int) (t : Tracker) :
    (t.reconcile s now).outcome =
      (announce (t.transitions s now)).outcome.map fun _ => t.observed s now := by
  simp only [reconcile, Logged.outcome_bind, Logged.outcome_log, Logged.outcome_pure]
  cases (announce (t.transitions s now)).outcome <;> rfl

end Tracker

end OutageWatch
