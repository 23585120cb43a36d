import OutageWatch.Cluster.Recording
import OutageWatch.Proofs.Cluster.Observation
import OutageWatch.Proofs.Query.Isolation
import OutageWatch.Proofs.Tracker.Window

/-!
# Deployment configs that are scaled down

A deployment config that is wanted with no replicas is not tracked, so its item is dropped from a
list.  What is tracked was settled before that, though, and a workload that a conclusive listing
leaves out counts as gone.  So a deployment config that is scaled down while it is tracked is seen
to be down.

## Main results

* `Recording.Round.observe_of_scaledDown` : what a round tells of such a deployment config.
* `Tracker.markDown_of_scaledDown` : what a tracker makes of it.
-/

namespace OutageWatch

open Json

/-- A round tells of a deployment config that it is down if every item of it in the list is wanted
with no replicas. -/
theorem Recording.Round.observe_of_scaledDown {r : Recording.Round} {ts : List Tree}
    {objects : List ClusterObject} {start home name : String}
    (h : (r.reply (Reply.workloadsPath .deploymentConfig)).Lists
      (ClusterObject.ofTree? (Reader.maxDepth - 2)) ts objects)
    (hhome : Reply.startsWith start home = true)
    (hzero : ∀ t ∈ ts, WorkloadItem.home? t = some home → WorkloadItem.name t = name →
      (t.at? ["spec", "replicas"]).bind Tree.integer? = some 0) (deadline : Option Duration) :
    ((r.answers start).snapshot deadline).observe .deploymentConfig home name = .unready := by
  have hsnapshot : (r.answers start).snapshot deadline = .ofListings
      ((r.answers start).namespaces.within deadline) ([] ++ (.deploymentConfig,
        (r.reply (Reply.workloadsPath .deploymentConfig)).workloads .deploymentConfig start) ::
        [.deployment, .statefulSet].map fun k =>
          (k, ((r.answers start).workloads.get k).within deadline)) := by
    rw [← Answer.within_atOnce deadline ((r.reply _).workloads _ _)]
    rfl
  have hnone : ts.filter (WorkloadItem.Concerns .deploymentConfig home name) = [] := by
    refine List.filter_eq_nil_iff.mpr fun t ht => ?_
    simp only [decide_eq_true_eq]
    rintro ⟨hthome, htname, htracked⟩
    exact htracked ⟨rfl, hzero t ht hthome htname⟩
  rw [hsnapshot, Snapshot.observe_eq_readiness h _ _ (by simp) hhome, hnone]
  rfl

namespace Downtimes

/-- What is up and is then seen down has a new interval. -/
theorem intervals_markDown {d : Downtimes} (h : d.isOpen = false) (now : Int) :
    (d.markDown now).intervals = d.intervals ++ [⟨d.nextStart now, none⟩] := by
  simp [markDown, h]

end Downtimes

namespace Tracker

variable {t u : Tracker} {s : Snapshot} {now : Int} {i j : Nat} {k : Kind} {w : Workload}

/-- A workload that is seen down is marked down, and so is its namespace. -/
theorem markDown_of_observe (hu : t.call (.reconcile s now) = .ok u)
    (hw : t.workload? i k j = some w) (h : s.observe w.kind w.home w.name = .unready) :
    u.workload? i k j = some { w with downtimes := w.downtimes.markDown now } ∧
    ∃ m n, t.namespaces[i]? = some m ∧ u.namespaces[i]? = some n ∧
      n.downtimes = m.downtimes.markDown now := by
  have hobserved : w.observed s now = { w with downtimes := w.downtimes.markDown now } := by
    simp [Workload.observed, Workload.up?, h, Readiness.up?, Downtimes.observe]
  obtain ⟨m, hm, hj⟩ := Option.bind_eq_some_iff.mp hw
  refine ⟨?_, m, m.observed s now, hm, ?_, ?_⟩
  · rw [workload?_of_call hu, hw, ← hobserved]
    rfl
  · rw [eq_called_of_call hu, called, List.getElem?_map, hm]
    rfl
  · -- the workload is one of the namespace, so the namespace is not up
    have hmem : w.observed s now ∈ (m.called (.reconcile s now)).all := by
      rw [Namespace.all_called]
      exact List.mem_map_of_mem (Namespace.mem_all.mpr ⟨k, List.mem_of_getElem? hj⟩)
    have hdown : (w.observed s now).isDown = true := by
      rw [hobserved]
      exact Downtimes.isOpen_observe false now w.downtimes
    have hup : (m.called (.reconcile s now)).isUp = false := by
      rw [Namespace.isUp, List.all_eq_false]
      exact ⟨_, hmem, by simp [hdown]⟩
    change (m.called (.reconcile s now)).downtimes = _
    rw [Namespace.downtimes_called, hup]
    rfl

/-- **A deployment config that is scaled down while it is tracked counts as down.**  If every item
of it in the list of a round is wanted with no replicas, a tracker that is reconciled with the round
and does not overflow has it down, and its namespace too, whatever the other workloads are.  If they
were up before, a new interval was opened for each of them. -/
theorem isDown_of_scaledDown {r : Recording.Round} {ts : List Tree} {objects : List ClusterObject}
    {start : String} {deadline : Option Duration}
    (hu : t.call (.reconcile ((r.answers start).snapshot deadline) now) = .ok u)
    (hw : t.workload? i .deploymentConfig j = some w) (hkind : w.kind = .deploymentConfig)
    (hhome : Reply.startsWith start w.home = true)
    (hlists : (r.reply (Reply.workloadsPath .deploymentConfig)).Lists
      (ClusterObject.ofTree? (Reader.maxDepth - 2)) ts objects)
    (hzero : ∀ x ∈ ts, WorkloadItem.home? x = some w.home → WorkloadItem.name x = w.name →
      (x.at? ["spec", "replicas"]).bind Tree.integer? = some 0) :
    ∃ v m n, u.workload? i .deploymentConfig j = some v ∧ v.isDown = true ∧
      (w.isDown = false → v.downtimes.intervals =
        w.downtimes.intervals ++ [⟨w.downtimes.nextStart now, none⟩]) ∧
      t.namespaces[i]? = some m ∧ u.namespaces[i]? = some n ∧ n.isDown = true ∧
      (m.isDown = false → n.downtimes.intervals =
        m.downtimes.intervals ++ [⟨m.downtimes.nextStart now, none⟩]) := by
  have hobserve := Recording.Round.observe_of_scaledDown hlists hhome hzero deadline
  rw [← hkind] at hobserve
  obtain ⟨hv, m, n, hm, hn, hdowntimes⟩ := markDown_of_observe hu hw hobserve
  refine ⟨_, m, n, hv, Downtimes.isOpen_observe false now w.downtimes, ?_, hm, hn, ?_, ?_⟩
  · exact fun h => Downtimes.intervals_markDown h now
  · rw [Namespace.isDown, hdowntimes]
    exact Downtimes.isOpen_observe false now m.downtimes
  · rw [hdowntimes]
    exact fun h => Downtimes.intervals_markDown h now

end Tracker

/-! ### A deployment config at rest -/

/-- What is written of a deployment config that is wanted with some replicas. -/
def wantedJson (n : Int) : Json :=
  .object [
    ("metadata", .object [("name", .string "web"), ("namespace", .string "shop")]),
    ("spec", .object [("replicas", .ofInt n)])]

/-- What is written of it, as a tree. -/
def wantedTree (n : Int) : Tree :=
  .ofMembers [
    ("metadata", .ofMembers [("name", .ofString "web"), ("namespace", .ofString "shop")]),
    ("spec", .ofMembers [("replicas", .ofInt n)])]

/-- What is read of it. -/
def wantedObject (n : Int) : ClusterObject :=
  ⟨⟨some "web", none, some "shop"⟩, .object [("spec", .object [("replicas", .ofInt n)])]⟩

/-- A round that finds it wanted with no replicas, and nothing else. -/
def restingRound : Recording.Round :=
  ⟨7, [(Reply.workloadsPath .deploymentConfig,
    .answered 200 (Utf8.encode (chars (.object [("items", .array ([0].map wantedJson))]))))]⟩

theorem writes_wantedJson {n : Int} (h : Fits n) : Writes 2 (wantedJson n) (wantedTree n) := by
  have hmetadata := writes_object [("name", .string "web", .ofString "web"),
    ("namespace", .string "shop", .ofString "shop")]
    (List.forall_mem_cons.mpr ⟨writes_string 0 "web",
      List.forall_mem_singleton.mpr (writes_string 0 "shop")⟩)
  have hspec := writes_object [("replicas", .ofInt n, .ofInt n)]
    (List.forall_mem_singleton.mpr (writes_int 0 h))
  exact writes_object [("metadata", _, _), ("spec", _, _)]
    (List.forall_mem_cons.mpr ⟨hmetadata, List.forall_mem_singleton.mpr hspec⟩)

theorem ofTree?_wantedTree {n : Int} (h : Fits n) :
    ClusterObject.ofTree? (Reader.maxDepth - 2) (wantedTree n) = some (wantedObject n) := by
  have hmetadata : Metadata.ofTree? (Reader.maxDepth - 2 - 1) (.ofMembers [
      ("name", .ofString "web"), ("namespace", .ofString "shop")]) =
        some ⟨some "web", none, some "shop"⟩ := by
    simp [Metadata.ofTree?, Tree.fields?_ofMembers, Metadata.ofFields?, Tree.last?,
      Metadata.members, Schema.memberCheck?]
  have hspec : Tree.value? (Reader.maxDepth - 2 - 1) (.ofMembers [("replicas", .ofInt n)]) =
      some (.object [("replicas", .ofInt n)]) :=
    (writes_object [("replicas", .ofInt n, .ofInt n)]
      (List.forall_mem_singleton.mpr (writes_int _ h))).value
  simp [ClusterObject.ofTree?, wantedTree, Tree.fields?_ofMembers, ClusterObject.ofFields?,
    hmetadata, Tree.single?, Tree.others, hspec, wantedObject]

theorem lists_restingRound :
    (restingRound.reply (Reply.workloadsPath .deploymentConfig)).Lists
      (ClusterObject.ofTree? (Reader.maxDepth - 2)) ([0].map wantedTree)
      ([0].map wantedObject) := by
  have hfits : ∀ n ∈ [(0 : Int)], Fits n := by decide
  have hreply : restingRound.reply (Reply.workloadsPath .deploymentConfig) =
      .answered 200 (Utf8.encode (chars (.object [("items", .array ([0].map wantedJson))]))) := by
    simp [restingRound, Recording.Round.reply]
  rw [hreply]
  exact Reply.lists_of_writes (fun n hn => writes_wantedJson (hfits n hn))
    fun n hn => ofTree?_wantedTree (hfits n hn)

theorem home?_wantedTree (n : Int) : WorkloadItem.home? (wantedTree n) = some "shop" := by
  simp [WorkloadItem.home?, wantedTree]

theorem name_wantedTree (n : Int) : WorkloadItem.name (wantedTree n) = "web" := by
  simp [WorkloadItem.name, wantedTree]

theorem replicas_wantedTree {n : Int} (h : Fits n) :
    ((wantedTree n).at? ["spec", "replicas"]).bind Tree.integer? = some n := by
  simpa [wantedTree] using Tree.integer?_ofInt h

/-- A shop of which the only workload is this deployment config, still up. -/
def beforeRest : Snapshot :=
  .ofListings (.records ["shop"])
    [(.deploymentConfig, .records [⟨"web", "shop", some 1, some 1⟩]), (.deployment, .empty),
      (.statefulSet, .empty)]

/-- The tracker of this shop. -/
def restingTracker : Tracker :=
  ⟨[⟨"shop", ⟨[.new .deploymentConfig "shop" "web"], [], []⟩, .empty, 0⟩], 0⟩

/-- The round at 7 finds the deployment config scaled down, and it and the shop are down from then
on. -/
theorem Tracker.isDown_of_scaledDown_resting :
    WorkloadItem.home? (wantedTree 0) = some "shop" ∧ WorkloadItem.name (wantedTree 0) = "web" ∧
    ((wantedTree 0).at? ["spec", "replicas"]).bind Tree.integer? = some 0 ∧
    ofSnapshot beforeRest 0 = .ok restingTracker ∧
    restingTracker.histories = [.empty, .empty] ∧
    ∃ u v n, restingTracker.call (.reconcile ((restingRound.answers "sh").snapshot none) 7) =
        .ok u ∧
      u.workload? 0 .deploymentConfig 0 = some v ∧ v.downtimes.intervals = [⟨7, none⟩] ∧
      u.namespaces[0]? = some n ∧ n.downtimes.intervals = [⟨7, none⟩] := by
  have ht : ofSnapshot beforeRest 0 = .ok restingTracker := by decide
  have hnow : ∀ now ∈ (Call.reconcile ((restingRound.answers "sh").snapshot none) 7).now?,
      0 ≤ now ∧ now ≤ 7 := by simp [Call.now?]
  have hu := (within_of_ofSnapshot ht 0 7).call_eq_ok (by decide) (by decide) hnow
  have hreplicas : ((wantedTree 0).at? ["spec", "replicas"]).bind Tree.integer? = some 0 :=
    replicas_wantedTree (by decide)
  have hzero : ∀ x ∈ [0].map wantedTree, WorkloadItem.home? x = some "shop" →
      WorkloadItem.name x = "web" →
      (x.at? ["spec", "replicas"]).bind Tree.integer? = some 0 := by
    intro x hx _ _
    rw [List.mem_singleton.mp hx]
    exact hreplicas
  obtain ⟨v, m, n, hv, -, hvopened, hm, hn, -, hnopened⟩ :=
    isDown_of_scaledDown hu (i := 0) (j := 0) rfl rfl (by decide) lists_restingRound hzero
  obtain rfl := Option.some.inj hm
  exact ⟨home?_wantedTree 0, name_wantedTree 0, hreplicas, ht, rfl, _, v, n, hu, hv, hvopened rfl,
    hn, hnopened rfl⟩

end OutageWatch
