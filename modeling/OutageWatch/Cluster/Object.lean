import OutageWatch.Cluster.Schema
import OutageWatch.Event
import OutageWatch.Snapshot

/-!
# Objects of the cluster

The cluster describes a workload by an object with metadata and free data.  Its replica counts are
read from two places of the data.  A count that is zero is left out by the cluster, so a missing
ready count stands for none ready, and a missing desired count for the one replica that is the
default; a count that is there but no integer tells nothing.  What else there is in metadata is not
kept, but must have the shape that is agreed on.

## Main definitions

* `Metadata`, `ClusterObject` : an object and what identifies it.
* `Metadata.members` : the shapes of what else there is in metadata.
* `ClusterObject.reader`, `ClusterObject.parse` : reading an object.
* `ClusterObject.readyCount`, `ClusterObject.desiredCount` : the counts.
* `ClusterObject.record?`, `ClusterObject.recordEvents` : the record of an object of a kind.
* `Record.isTracked` : whether a workload is tracked at all.
-/

namespace OutageWatch

open Json Json.Reader

/-- What identifies an object. -/
structure Metadata where
  name : Option String := none
  generateName : Option String := none
  home : Option String := none
  deriving DecidableEq, Repr

/-- An object of the cluster: its metadata and its other members. -/
structure ClusterObject where
  metadata : Metadata
  data : Json
  deriving Repr

/-! ### Reading objects -/

/-- Who has which fields of an object in hand. -/
def Metadata.managedFields : Schema :=
  .record [("apiVersion", .text), ("fieldsType", .text), ("fieldsV1", .anything),
    ("manager", .text), ("operation", .text), ("subresource", .text), ("time", .timestamp)]

/-- An object that another one belongs to. -/
def Metadata.ownerReference : Schema :=
  .record [("apiVersion", .text), ("blockOwnerDeletion", .boolean), ("controller", .boolean),
    ("kind", .text), ("name", .text), ("uid", .text)]

/-- The members of metadata that are not kept. -/
def Metadata.members : List (String × Schema) :=
  [("annotations", .map .text), ("creationTimestamp", .timestamp),
    ("deletionGracePeriodSeconds", .integer), ("deletionTimestamp", .timestamp),
    ("finalizers", .list .text), ("generation", .integer), ("labels", .map .text),
    ("managedFields", .list managedFields), ("ownerReferences", .list ownerReference),
    ("resourceVersion", .text), ("selfLink", .text), ("uid", .text)]

/-- Reads metadata with at most `depth` arrays and objects one inside the other.  Of a repeated
member the last one counts. -/
def Metadata.reader (depth : Nat) : Reader Metadata :=
  let text := orNull (Reader.string "a string")
  objectOf {} fun (m : Metadata) name => do
    match name with
    | "name" => colon; return { m with name := ← text }
    | "generateName" => colon; return { m with generateName := ← text }
    | "namespace" => colon; return { m with home := ← text }
    | _ => Schema.memberReader members name (depth - 1); return m

/-- Reads an object with at most `depth` arrays and objects one inside the other.  Metadata may be
missing but not repeated. -/
def ClusterObject.reader (depth : Nat) : Reader ClusterObject := do
  let (metadata, rev) ← objectOf (none, []) fun (found, rev) name => do
    match name, found with
    | "metadata", some _ => mismatch (.duplicateField name)
    | "metadata", none => colon; return (some (← Metadata.reader (depth - 1)), rev)
    | _, _ => colon; return (found, (name, ← value (depth - 1)) :: rev)
  return ⟨metadata.getD {}, .object rev.reverse⟩

/-- The object that a text is. -/
def ClusterObject.parse (text : List Char) : Except Fault ClusterObject :=
  readAll (ClusterObject.reader maxDepth) text

/-! ### Names and counts -/

/-- The name of an object: its own, else the one it is generated from, else none at all. -/
def Metadata.display (m : Metadata) : String := (m.name.or m.generateName).getD ""

namespace ClusterObject

/-- The number of replicas that are ready, if it is known. -/
def readyCount (o : ClusterObject) : Option Int :=
  match o.data.at? ["status", "readyReplicas"] with
  | none => some 0
  | some v => v.asInt?

/-- The number of replicas that are wanted, if it is known. -/
def desiredCount (o : ClusterObject) : Option Int :=
  match o.data.at? ["spec", "replicas"] with
  | none => some 1
  | some v => v.asInt?

/-- The record of an object, which must have a namespace. -/
def record? (o : ClusterObject) : Option Record :=
  o.metadata.home.map fun home => ⟨o.metadata.display, home, o.readyCount, o.desiredCount⟩

/-- What is logged when the record of an object is made. -/
def recordEvents (k : Kind) (o : ClusterObject) : List Event :=
  match o.metadata.home, o.readyCount with
  | none, _ => [.withoutNamespace k o.metadata.display]
  | some home, none => [.malformedReadyCount k home o.metadata.display]
  | some _, some _ => []

end ClusterObject

/-- A deployment config that is wanted with no replicas is not tracked; everything else is. -/
def Record.isTracked (k : Kind) (r : Record) : Bool :=
  !(k = .deploymentConfig && r.desired = some 0)

end OutageWatch
