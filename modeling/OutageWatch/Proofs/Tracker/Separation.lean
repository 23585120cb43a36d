import Mathlib.Data.List.Forall2
import OutageWatch.Proofs.Tracker.Calls

/-!
# Namespaces do not influence one another

What a tracker holds of a namespace is settled by the records that the first snapshot had in this
namespace, by what later snapshots tell about exactly these workloads, and by the times of the
calls.  So two trackers may differ in everything else, and be called with snapshots that differ in
everything else: as long as these agree, they hold the same of the namespace.

The proof follows one name through the tracker: the namespaces of that name adopt the workloads of
that name and no others, and each call takes a namespace to the same namespace whenever it tells the
same about its workloads.

## Main definitions

* `Snapshot.namesIn` : the names of the workloads that a snapshot saw in a namespace.
* `Tracker.named` : the tracked namespaces of a name.
* `Call.AlikeFor` : calls that are the same as far as some workloads can tell.

## Main results

* `Tracker.named_of_ofSnapshot` : what a tracker starts with for a name.
* `Namespace.called_eq_of_alikeFor` : calls that are alike for a namespace take it to the same one.
* `Tracker.named_eq_after` : two trackers that agree on a namespace keep agreeing on it.
-/

namespace OutageWatch

/-- The names of the workloads of a kind that a snapshot saw in a namespace, in their order. -/
def Snapshot.namesIn (s : Snapshot) (k : Kind) (home : String) : List String :=
  ((s.records k).filter (·.home = home)).map Record.name

/-- The tracked namespaces of a name. -/
def Tracker.named (t : Tracker) (name : String) : List Namespace :=
  t.namespaces.filter (·.name = name)

/-- Calls of the same shape and time that tell the same about each of some workloads. -/
inductive Call.AlikeFor (ws : List Workload) : Call → Call → Prop
  | reconcile {r s : Snapshot} (now : Int)
      (h : ∀ w ∈ ws, r.observe w.kind w.home w.name = s.observe w.kind w.home w.name) :
      AlikeFor ws (.reconcile r now) (.reconcile s now)
  | finalize (now : Int) : AlikeFor ws (.finalize now) (.finalize now)
  | recompute : AlikeFor ws .recompute .recompute

/-! ### The start -/

namespace Tracker

@[simp] theorem length_adopt (w : Workload) (l : List Namespace) :
    (adopt w l).length = l.length := by
  induction l with
  | nil => rfl
  | cons n rest ih =>
    rw [adopt]
    split
    · rfl
    · rw [List.length_cons, ih, List.length_cons]

/-- Only the namespaces of its own name can adopt a workload. -/
theorem filter_adopt (w : Workload) (l : List Namespace) (name : String) :
    (adopt w l).filter (·.name = name) =
      if w.home = name then adopt w (l.filter (·.name = name)) else l.filter (·.name = name) := by
  induction l with
  | nil => simp [adopt]
  | cons n rest ih =>
    by_cases hn : n.name = w.home
    · by_cases hname : w.home = name
      · simp [adopt, Namespace.add, hn, hname]
      · simp [adopt, Namespace.add, hn, hname]
    · by_cases hname : n.name = name
      · have hne : w.home ≠ name := fun h => hn (hname.trans h.symm)
        simp [adopt, hname, hne, hne.symm, ih]
      · simp [adopt, hn, hname, ih]

theorem filter_foldl_adopt (ws : List Workload) (l : List Namespace) (name : String) :
    (ws.foldl (fun ns w => adopt w ns) l).filter (·.name = name) =
      (ws.filter (·.home = name)).foldl (fun ns w => adopt w ns) (l.filter (·.name = name)) := by
  induction ws generalizing l with
  | nil => rfl
  | cons w rest ih =>
    rw [List.foldl_cons, ih, filter_adopt]
    by_cases hw : w.home = name
    · simp [hw]
    · simp [hw]

theorem length_foldl_adopt (ws : List Workload) (l : List Namespace) :
    (ws.foldl (fun ns w => adopt w ns) l).length = l.length := by
  induction ws generalizing l with
  | nil => rfl
  | cons w rest ih => rw [List.foldl_cons, ih, length_adopt]

/-- The workloads seen in a namespace are those of the names seen there, kind by kind. -/
theorem filter_seen (s : Snapshot) (name : String) :
    (seen s).filter (·.home = name) =
      Kind.all.flatMap fun k => (s.namesIn k name).map (Workload.new k name) := by
  rw [seen, List.filter_flatMap]
  congr 1
  funext k
  rw [List.filter_map, Snapshot.namesIn, List.map_map]
  refine List.map_congr_left fun r hr => ?_
  have hhome : r.home = name := of_decide_eq_true (List.mem_filter.mp hr).2
  simp only [Function.comp_apply, hhome]

/-- What a tracker starts with for a name: the namespaces of this name that were listed, of which
the first has adopted the workloads seen there. -/
theorem named_of_ofSnapshot {s : Snapshot} {start : Int} {t : Tracker}
    (h : ofSnapshot s start = .ok t) (name : String) :
    t.named name =
      (Kind.all.flatMap fun k => (s.namesIn k name).map (Workload.new k name)).foldl
        (fun ns w => adopt w ns)
        (List.replicate (s.namespaces.items.count name) (.new name)) := by
  obtain ⟨-, rfl⟩ := ofSnapshot_eq_ok_iff.mp h
  rw [named, filter_foldl_adopt, filter_seen, List.filter_map]
  congr 1
  have hfilter : s.namespaces.items.filter ((fun n => decide (n.name = name)) ∘ Namespace.new) =
      s.namespaces.items.filter (· == name) := List.filter_congr fun x _ => rfl
  rw [hfilter, List.filter_beq, List.map_replicate]

end Tracker

/-! ### Calls -/

namespace Call.AlikeFor

variable {ws : List Workload} {c d : Call}

/-- Calls that are alike for a workload treat it alike. -/
theorem called_eq (h : c.AlikeFor ws d) {w : Workload} (hw : w ∈ ws) : w.called c = w.called d := by
  cases h with
  | reconcile now hobserve =>
    simp only [Workload.called, Workload.observed, Workload.up?, hobserve w hw]
  | finalize now => rfl
  | recompute => rfl

/-- Whether calls are alike depends on the entities of the workloads only. -/
theorem of_entities {vs : List Workload} (h : c.AlikeFor ws d)
    (hvs : ∀ v ∈ vs, ∃ w ∈ ws, w.entity = v.entity) : c.AlikeFor vs d := by
  cases h with
  | reconcile now hobserve =>
    refine .reconcile now fun v hv => ?_
    obtain ⟨w, hw, hentity⟩ := hvs v hv
    simp only [Workload.entity, Entity.workload.injEq] at hentity
    obtain ⟨hk, hh, hn⟩ := hentity
    simpa only [hk, hh, hn] using hobserve w hw
  | finalize now => exact .finalize now
  | recompute => exact .recompute

end Call.AlikeFor

namespace Namespace

/-- Calls that are alike for the workloads of a namespace take it to the same namespace. -/
theorem called_eq_of_alikeFor {n : Namespace} {c d : Call} (h : c.AlikeFor n.all d) :
    n.called c = n.called d := by
  cases h with
  | @reconcile r s now hobserve =>
    have hmap : n.mapWorkloads (Workload.observed r now) =
        n.mapWorkloads (Workload.observed s now) := by
      rw [mapWorkloads, mapWorkloads]
      congr 1
      ext1 k
      rw [PerKind.get_map, PerKind.get_map]
      refine List.map_congr_left fun w hw => ?_
      exact (Call.AlikeFor.reconcile now hobserve).called_eq (mem_all.mpr ⟨k, hw⟩)
    -- the namespace itself observes how its workloads are then, and these are the same
    rw [called, called, observed, observed, hmap]
  | finalize now => rfl
  | recompute => rfl

/-- So do any number of calls that are alike in turn. -/
theorem foldl_called_eq_of_alikeFor {ws : List Workload} {calls others : List Call}
    (h : List.Forall₂ (Call.AlikeFor ws) calls others) {n : Namespace}
    (hn : ∀ v ∈ n.all, ∃ w ∈ ws, w.entity = v.entity) :
    calls.foldl called n = others.foldl called n := by
  induction h generalizing n with
  | nil => rfl
  | @cons c d rest more hc _ ih =>
    rw [List.foldl_cons, List.foldl_cons, called_eq_of_alikeFor (hc.of_entities hn)]
    refine ih fun v hv => ?_
    rw [all_called] at hv
    obtain ⟨w, hw, rfl⟩ := List.mem_map.mp hv
    rw [Workload.entity_called]
    exact hn w hw

end Namespace

/-! ### Two runs -/

namespace Tracker

variable {r s : Snapshot} {start start' : Int} {t u : Tracker}

/-- Calls that do not overflow do to the namespaces of a name what they do to each namespace. -/
theorem named_of_after {calls : List Call} (h : t.after calls = .ok u) (name : String) :
    u.named name = (t.named name).map (calls.foldl Namespace.called ·) := by
  rw [named, namespaces_of_after h, List.filter_map, named]
  congr 1
  exact List.filter_congr fun n _ => by rw [Function.comp_apply, Namespace.name_foldl_called]

/-- A part of the calls does not overflow if all of them do not. -/
theorem exists_after_take {calls : List Call} (h : t.after calls = .ok u) (m : Nat) :
    ∃ v, t.after (calls.take m) = .ok v := by
  rw [← List.take_append_drop m calls, after_append] at h
  obtain ⟨v, hv, -⟩ := bind_eq_ok_iff.mp h
  exact ⟨v, hv⟩

/-- **Namespaces do not influence one another.**  Let two snapshots list a namespace once and have
seen the same names of workloads of each kind in it, and start a tracker each.  Let the trackers be
called with calls of the same shapes and times, of which each two tell the same about these
workloads.  Then after every call the two trackers hold the same of the namespace: its own history
and total and those of its workloads. -/
theorem named_eq_after (ht : ofSnapshot r start = .ok t) (hu : ofSnapshot s start' = .ok u)
    {name : String} (hr : r.namespaces.items.count name = 1)
    (hs : s.namespaces.items.count name = 1) (hnames : ∀ k, r.namesIn k name = s.namesIn k name)
    {calls others : List Call}
    (halike : List.Forall₂ (Call.AlikeFor ((t.named name).flatMap Namespace.all)) calls others)
    {t' u' : Tracker} (ht' : t.after calls = .ok t') (hu' : u.after others = .ok u') (m : Nat) :
    ∃ v w n, t.after (calls.take m) = .ok v ∧ u.after (others.take m) = .ok w ∧
      v.named name = [n] ∧ w.named name = [n] := by
  obtain ⟨v, hv⟩ := exists_after_take ht' m
  obtain ⟨w, hw⟩ := exists_after_take hu' m
  have hstart : u.named name = t.named name := by
    simp only [named_of_ofSnapshot ht, named_of_ofSnapshot hu, hr, hs, hnames]
  have hone : (t.named name).length = 1 := by
    rw [named_of_ofSnapshot ht, length_foldl_adopt, hr, List.length_replicate]
  obtain ⟨n, hn⟩ := List.length_eq_one_iff.mp hone
  rw [hn, List.flatMap_singleton] at halike
  have hsame : (calls.take m).foldl Namespace.called n = (others.take m).foldl Namespace.called n :=
    Namespace.foldl_called_eq_of_alikeFor (List.forall₂_take m halike) fun v hv => ⟨v, hv, rfl⟩
  refine ⟨v, w, (calls.take m).foldl Namespace.called n, hv, hw, ?_, ?_⟩
  · rw [named_of_after hv, hn, List.map_singleton]
  · rw [named_of_after hw, hstart, hn, List.map_singleton, hsame]

/-- A snapshot of the shop with one deployment, and of a yard with another one. -/
def besideYard (web crane : Int) : Snapshot :=
  .ofListings (.records ["yard", "shop"])
    [(.deployment, .records
        [⟨"crane", "yard", some crane, some 1⟩, ⟨"web", "shop", some web, some 3⟩]),
      (.deploymentConfig, .empty), (.statefulSet, .empty)]

/-- In the shop the deployment goes down and comes up; in the yard it is the other way round. -/
def yardRun : List Call :=
  [.reconcile (besideYard 0 1) 10, .recompute, .reconcile (besideYard 7 0) 15, .finalize 20]

/-- The same of the shop alone, with a namespace listing that failed. -/
def shopAloneRun : List Call :=
  [.reconcile { Snapshot.shop [("web", 0)] with namespaces := .failed "timeout" } 10, .recompute,
    .reconcile (.shop [("web", 1)]) 15, .finalize 20]

theorem named_eq_after_yardRun :
    ∃ t t' u' v w n, ofSnapshot (besideYard 1 1) 5 = .ok t ∧
      ofSnapshot (.shop [("web", 1)]) 0 = .ok (shop ["web"]) ∧
      t.after yardRun = .ok t' ∧ (shop ["web"]).after shopAloneRun = .ok u' ∧
      t.after (yardRun.take 3) = .ok v ∧ (shop ["web"]).after (shopAloneRun.take 3) = .ok w ∧
      v.named "shop" = [n] ∧ w.named "shop" = [n] ∧
      v.namespacesDown = 1 ∧ w.namespacesDown = 0 := by
  have ht : ofSnapshot (besideYard 1 1) 5 =
      .ok ⟨[⟨"yard", ⟨[], [.new .deployment "yard" "crane"], []⟩, .empty, 0⟩,
        ⟨"shop", ⟨[], [.new .deployment "shop" "web"], []⟩, .empty, 0⟩], 5⟩ := by decide
  have hu : ofSnapshot (.shop [("web", 1)]) 0 = .ok (shop ["web"]) := by decide
  have hr : (besideYard 1 1).namespaces.items.count "shop" = 1 := by decide
  have hnames (k : Kind) : (besideYard 1 1).namesIn k "shop" =
      (Snapshot.shop [("web", 1)]).namesIn k "shop" := by cases k <;> decide
  obtain ⟨v, w, n, hv, hw, hvn, hwn⟩ :=
    named_eq_after ht hu hr (by decide) hnames
      (.cons (.reconcile 10 (by decide)) (.cons .recompute
        (.cons (.reconcile 15 (by decide)) (.cons (.finalize 20) .nil))))
      (show Tracker.after _ yardRun = .ok _ from rfl)
      (show Tracker.after _ shopAloneRun = .ok _ from rfl) 3
  refine ⟨_, _, _, v, w, n, ht, hu, rfl, rfl, hv, hw, hvn, hwn, ?_, ?_⟩
  · rw [← Except.ok.inj hv]
    decide
  · rw [← Except.ok.inj hw]
    decide

end Tracker

end OutageWatch
