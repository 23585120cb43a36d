import OutageWatch.Proofs.Tracker.Liveness
import OutageWatch.Proofs.Tracker.Window

/-!
# Snapshots without news

A snapshot has no news of a workload if it tells nothing about it, or finds it in the state that it
is known to be in.  Reconciling a tracker with a snapshot changes nothing at all, whatever the time,
iff the snapshot has no news of any workload.  The namespaces have no say in this, although each of
them is looked at every time: by their agreement with their workloads they are then as they were.

What is logged goes with it: if nothing changes, no entity is said to have gone down or come up, and
if something changes, some entity is.

## Main definitions

* `Event.moved?` : the entity that is said to have gone down or come up.
* `Workload.NoNews` : a snapshot has no news of a workload.

## Main results

* `Tracker.observed_eq_self_iff`, `Tracker.reconcile_of_noNews` : without news, and only then,
  nothing changes.
* `Tracker.noNews_observed` : a snapshot has no news once it has been reconciled with.
* `Tracker.reconcile_eq_self_iff_after` : when reconciling leaves a tracker as it is.
-/

namespace OutageWatch

/-- The entity that is said to have gone down or come up. -/
def Event.moved? : Event → Option Entity
  | .down e => some e
  | .backUp e _ => some e
  | _ => none

/-! ### Transitions -/

/-- Only changes are told of. -/
theorem Transition.moved?_events_eq_nil_iff {e : Entity} {x : Transition} :
    (x.events e).filterMap Event.moved? = [] ↔ x = .unchanged := by
  cases x <;> simp [events, Event.moved?]

/-- Nothing is said where nothing changes. -/
theorem announce_of_unchanged {l : List (Entity × Except Overflow Transition)}
    (h : ∀ e ∈ l, e.2 = .ok .unchanged) : announce l = ⟨[], .ok ()⟩ := by
  induction l with
  | nil => rfl
  | cons e rest ih =>
    rw [List.forall_mem_cons] at h
    obtain ⟨entity, r⟩ := e
    obtain rfl : r = .ok .unchanged := h.1
    rw [announce, ih h.2]
    rfl

/-- If nothing overflows and no entity is said to have moved, nothing changes. -/
theorem eq_unchanged_of_announce {l : List (Entity × Except Overflow Transition)}
    (hok : (announce l).outcome = .ok ())
    (hstill : (announce l).events.filterMap Event.moved? = []) :
    ∀ e ∈ l, e.2 = .ok .unchanged := by
  induction l with
  | nil => exact List.forall_mem_nil _
  | cons e rest ih =>
    obtain ⟨entity, r⟩ := e
    cases r with
    | error overflow => simp [announce, Except.bind] at hok
    | ok x =>
      simp only [announce, Logged.outcome_bind, Logged.outcome_lift, Logged.outcome_log,
        Except.bind] at hok
      simp only [announce, Logged.events_bind, Logged.events_lift, Logged.outcome_lift,
        Logged.events_log, Logged.outcome_log, List.nil_append, List.filterMap_append,
        List.append_eq_nil_iff, Transition.moved?_events_eq_nil_iff] at hstill
      obtain ⟨rfl, hrest⟩ := hstill
      exact List.forall_mem_cons.mpr ⟨rfl, ih hok hrest⟩

/-! ### Workloads -/

namespace Workload

/-- A snapshot has no news of a workload: it tells nothing about it, or finds it as it is known. -/
inductive NoNews (s : Snapshot) (w : Workload) : Prop
  | unknown (h : s.observe w.kind w.home w.name = .unknown)
  | stillUp (h : s.observe w.kind w.home w.name = .ready) (hup : w.isDown = false)
  | stillDown (h : s.observe w.kind w.home w.name = .unready) (hdown : w.isDown = true)

/-- There is news of a workload iff a snapshot tells that it is up while it is known to be down, or
the other way round. -/
theorem noNews_iff {s : Snapshot} {w : Workload} :
    w.NoNews s ↔ ∀ up ∈ w.up? s, w.isDown ≠ up := by
  constructor
  · rintro (h | ⟨h, hup⟩ | ⟨h, hdown⟩)
    · simp [up?, h, Readiness.up?]
    · simp [up?, h, Readiness.up?, hup]
    · simp [up?, h, Readiness.up?, hdown]
  · intro hnews
    cases h : s.observe w.kind w.home w.name with
    | unknown => exact .unknown h
    | ready => exact .stillUp h (by simpa [up?, h, Readiness.up?] using hnews)
    | unready => exact .stillDown h (by simpa [up?, h, Readiness.up?] using hnews)

instance (s : Snapshot) (w : Workload) : Decidable (w.NoNews s) :=
  decidable_of_iff _ noNews_iff.symm

variable {s : Snapshot} {now : Int} {w : Workload}

/-- A snapshot leaves a workload as it is iff it has no news of it. -/
theorem observed_eq_self_iff : w.observed s now = w ↔ w.NoNews s := by
  rw [noNews_iff]
  cases hup : w.up? s with
  | none => simp [observed, hup]
  | some up =>
    have hobserved : w.observed s now = { w with downtimes := w.downtimes.observe up now } := by
      rw [observed, hup]
    have hsame : w.observed s now = w ↔ w.downtimes.observe up now = w.downtimes := by
      rw [hobserved]
      exact ⟨congrArg Workload.downtimes, fun h => by rw [h]⟩
    simp [hsame, Downtimes.observe_eq_self_iff, isDown]

/-- A snapshot changes nothing in the history of a workload iff it has no news of it. -/
theorem transition_eq_unchanged_iff : w.transition s now = .ok .unchanged ↔ w.NoNews s := by
  rw [noNews_iff]
  cases hup : w.up? s with
  | none => simp [transition, hup]
  | some up => simp [transition, hup, Downtimes.transition_eq_unchanged_iff, isDown]

/-- A snapshot has no news of a workload that has just been reconciled with it. -/
theorem noNews_observed (s : Snapshot) (now : Int) (w : Workload) :
    (w.observed s now).NoNews s := by
  have hentity : (w.observed s now).entity = w.entity := w.entity_called (.reconcile s now)
  simp only [entity, Entity.workload.injEq] at hentity
  obtain ⟨hk, hh, hn⟩ := hentity
  have hsame : (w.observed s now).up? s = w.up? s := by rw [up?, up?, hk, hh, hn]
  rw [noNews_iff, hsame]
  intro up hup
  have hup : w.up? s = some up := hup
  simp [observed, hup, isDown]

end Workload

/-! ### Namespaces -/

/-- A list stays as it is iff each of its elements does. -/
theorem map_eq_self_iff {α : Type} {f : α → α} {l : List α} : l.map f = l ↔ ∀ a ∈ l, f a = a := by
  have hinj : l.map f = l.map id ↔ ∀ a ∈ l, f a = id a := List.map_inj_left
  rwa [List.map_id] at hinj

namespace Namespace

variable {s : Snapshot} {now : Int} {n : Namespace}

/-- A namespace stays as it is iff each of its workloads does. -/
theorem mapWorkloads_eq_self_iff {f : Workload → Workload} :
    n.mapWorkloads f = n ↔ ∀ w ∈ n.all, f w = w := by
  constructor
  · intro h w hw
    obtain ⟨k, hk⟩ := mem_all.mp hw
    have hget : (n.workloads.map (·.map f)).get k = n.workloads.get k :=
      congrArg (fun m : Namespace => m.workloads.get k) h
    rw [PerKind.get_map] at hget
    exact map_eq_self_iff.mp hget w hk
  · intro h
    have hworkloads : n.workloads.map (·.map f) = n.workloads := by
      ext1 k
      rw [PerKind.get_map]
      exact map_eq_self_iff.mpr fun w hw => h w (mem_all.mpr ⟨k, hw⟩)
    rw [mapWorkloads, hworkloads]

/-- A namespace that agrees with its workloads is not down and up at once. -/
theorem Agrees.isOpen_ne_isUp (hn : n.Agrees) : n.downtimes.isOpen ≠ n.isUp := by
  rw [← isDown, hn.isDown_eq]
  cases n.isUp <;> decide

/-- A snapshot leaves the workloads of a namespace as they are iff it has no news of them. -/
theorem mapWorkloads_observed_eq_self_iff :
    n.mapWorkloads (Workload.observed s now) = n ↔ ∀ w ∈ n.all, w.NoNews s := by
  simp only [mapWorkloads_eq_self_iff, Workload.observed_eq_self_iff]

/-- A namespace stays as it is iff there is no news of its workloads, because it agrees with
them. -/
theorem observed_eq_self_iff (hn : n.Agrees) :
    n.observed s now = n ↔ ∀ w ∈ n.all, w.NoNews s := by
  have hworkloads : n.mapWorkloads (Workload.observed s now) = n ↔ ∀ w ∈ n.all, w.NoNews s :=
    mapWorkloads_observed_eq_self_iff
  rw [← hworkloads]
  constructor
  · intro h
    have hworkloads : n.workloads.map (·.map (Workload.observed s now)) = n.workloads :=
      congrArg (fun m : Namespace => m.workloads) h
    rw [mapWorkloads, hworkloads]
  · intro h
    rw [observed, h]
    simp only [Downtimes.observe_of_isOpen_ne hn.isOpen_ne_isUp]

/-- Without news of its workloads nothing changes in any history of a namespace. -/
theorem transitions_eq_unchanged (hn : n.Agrees) (h : ∀ w ∈ n.all, w.NoNews s) :
    ∀ e ∈ n.transitions s now, e.2 = .ok .unchanged := by
  intro e he
  rcases List.mem_append.mp he with he | he
  · obtain ⟨w, hw, rfl⟩ := List.mem_map.mp he
    exact Workload.transition_eq_unchanged_iff.mpr (h w hw)
  · rw [List.mem_singleton.mp he, mapWorkloads_observed_eq_self_iff.mpr h]
    exact Downtimes.transition_eq_unchanged_iff.mpr hn.isOpen_ne_isUp

/-- The end changes nothing in a namespace that has nothing open. -/
theorem called_finalize_eq_self (h : ∀ d ∈ n.histories, d.isOpen = false) :
    n.called (.finalize now) = n := by
  have hworkloads : n.mapWorkloads (fun w => { w with downtimes := w.downtimes.markUp now }) = n :=
    mapWorkloads_eq_self_iff.mpr fun w hw => by
      have hmem : w.downtimes ∈ n.histories := List.mem_append_left _ (List.mem_map_of_mem hw)
      rw [Downtimes.markUp_of_not_isOpen (h _ hmem)]
  have hown : n.downtimes.isOpen = false :=
    h _ (List.mem_append_right _ (List.mem_singleton.mpr rfl))
  rw [called, hworkloads, Downtimes.markUp_of_not_isOpen hown]

end Namespace

/-! ### Trackers -/

namespace Tracker

variable {s : Snapshot} {now : Int} {t : Tracker}

/-- A snapshot has no news of anything that is tracked. -/
def NoNews (s : Snapshot) (t : Tracker) : Prop := ∀ n ∈ t.namespaces, ∀ w ∈ n.all, w.NoNews s

instance (s : Snapshot) (t : Tracker) : Decidable (t.NoNews s) :=
  inferInstanceAs (Decidable (∀ n ∈ t.namespaces, ∀ w ∈ n.all, w.NoNews s))

/-- What is logged about a snapshot itself says nothing of the entities. -/
theorem moved?_snapshotEvents (s : Snapshot) (t : Tracker) :
    (t.snapshotEvents s).filterMap Event.moved? = [] := by
  rw [List.filterMap_eq_nil_iff]
  intro e he
  rcases List.mem_append.mp he with he | he
  · obtain ⟨f, -, rfl⟩ := List.mem_map.mp he
    rfl
  · split at he
    · obtain ⟨n, -, rfl⟩ := List.mem_map.mp he
      rfl
    · rw [List.mem_singleton.mp he]
      rfl
    · rw [List.mem_singleton.mp he]
      rfl

/-- A tracker stays as it is iff there is no news. -/
theorem observed_eq_self_iff (ht : ∀ n ∈ t.namespaces, n.Agrees) :
    t.observed s now = t ↔ t.NoNews s := by
  have hnamespaces : t.observed s now = t ↔
      t.namespaces.map (Namespace.observed s now) = t.namespaces :=
    ⟨congrArg Tracker.namespaces, fun h => by rw [observed, h]⟩
  rw [hnamespaces, map_eq_self_iff]
  exact forall₂_congr fun n hn => Namespace.observed_eq_self_iff (ht n hn)

/-- Without news reconciling goes through, and only the snapshot itself is told of. -/
theorem reconcile_of_noNews (ht : ∀ n ∈ t.namespaces, n.Agrees) (h : t.NoNews s) (now : Int) :
    t.reconcile s now = ⟨t.snapshotEvents s, .ok t⟩ := by
  have hannounce : announce (t.transitions s now) = ⟨[], .ok ()⟩ := by
    apply announce_of_unchanged
    intro e he
    obtain ⟨n, hn, he⟩ := List.mem_flatMap.mp he
    exact Namespace.transitions_eq_unchanged (ht n hn) (h n hn) e he
  rw [reconcile, hannounce, (observed_eq_self_iff ht).mpr h]
  change Logged.mk (t.snapshotEvents s ++ ([] ++ [])) (.ok t) = _
  rw [List.append_nil, List.append_nil]

/-- A tracker that does not overflow and of which nothing is told had no news in the snapshot. -/
theorem noNews_of_moved? {v : Tracker} (hv : t.call (.reconcile s now) = .ok v)
    (hstill : (t.reconcile s now).events.filterMap Event.moved? = []) : t.NoNews s := by
  rw [call, outcome_reconcile] at hv
  have hok : (announce (t.transitions s now)).outcome = .ok () := by
    cases ha : (announce (t.transitions s now)).outcome with
    | error e => simp [ha, Except.map] at hv
    | ok _ => rfl
  simp only [reconcile, Logged.events_bind, Logged.events_log, Logged.outcome_log, hok,
    Logged.events_pure, List.append_nil, List.filterMap_append, List.append_eq_nil_iff] at hstill
  intro n hn w hw
  have hentry : (w.entity, w.transition s now) ∈ t.transitions s now :=
    List.mem_flatMap.mpr ⟨n, hn, List.mem_append_left _ (List.mem_map_of_mem hw)⟩
  exact Workload.transition_eq_unchanged_iff.mp (eq_unchanged_of_announce hok hstill.2 _ hentry)

/-- A snapshot has no news once a tracker has been reconciled with it. -/
theorem noNews_observed (s : Snapshot) (now : Int) (t : Tracker) : (t.observed s now).NoNews s := by
  intro m hm v hv
  obtain ⟨n, -, rfl⟩ := List.mem_map.mp hm
  change v ∈ (n.called (.reconcile s now)).all at hv
  rw [Namespace.all_called] at hv
  obtain ⟨w, -, rfl⟩ := List.mem_map.mp hv
  exact w.noNews_observed s now

/-- A snapshot of which every query failed or was not made has no news. -/
theorem noNews_of_failed (h : ∀ k, ∀ l ∈ s.listings.get k, l.isFailed = true) (t : Tracker) :
    t.NoNews s := by
  intro n _ w _
  have hinconclusive : s.isConclusiveFor w.kind = false := by
    rw [Snapshot.isConclusiveFor, Option.any_eq_false]
    intro l hl
    simp [h w.kind l hl]
  exact .unknown (by rw [Snapshot.observe, hinconclusive]; rfl)

/-- The end changes nothing in a tracker that has nothing open. -/
theorem call_finalize_eq_self (h : ∀ d ∈ t.histories, d.isOpen = false) (now : Int) :
    t.call (.finalize now) = .ok t := by
  have hclose : (t.histories.forM fun d => discard (d.transition true now)) = .ok () := by
    refine forM_discard_eq_ok fun d hd => ⟨.unchanged, ?_⟩
    exact Downtimes.transition_eq_unchanged_iff.mpr (by simp [h d hd])
  have hcalled : t.called (.finalize now) = t := by
    have hnamespaces : t.namespaces.map (Namespace.called · (.finalize now)) = t.namespaces :=
      map_eq_self_iff.mpr fun n hn => Namespace.called_finalize_eq_self
        fun d hd => h d (List.mem_flatMap.mpr ⟨n, hn, hd⟩)
    rw [called, hnamespaces]
  rw [call, finalize, hclose]
  exact congrArg Except.ok hcalled

/-- **A tracker stays as it is iff there is no news.**  After any calls that do not overflow,
reconciling with a snapshot goes through and changes nothing at all iff the snapshot has no news of
any workload; and if it goes through, it changes nothing iff no entity is said to have moved.  So
nothing changes, and nothing is said, if every query failed or was not made, and if a tracker is
reconciled with the same snapshot again, at whatever time.  Likewise the end changes nothing after
an end. -/
theorem reconcile_eq_self_iff_after {first : Snapshot} {start : Int} {t u : Tracker}
    {calls : List Call} (ht : ofSnapshot first start = .ok t) (hu : t.after calls = .ok u) :
    (∀ s now, u.call (.reconcile s now) = .ok u ↔ u.NoNews s) ∧
    (∀ s now v, u.call (.reconcile s now) = .ok v →
      (v = u ↔ (u.reconcile s now).events.filterMap Event.moved? = []) ∧
      ∀ later, v.call (.reconcile s later) = .ok v ∧
        (v.reconcile s later).events.filterMap Event.moved? = []) ∧
    (∀ s now, (∀ k, ∀ l ∈ s.listings.get k, l.isFailed = true) →
      u.call (.reconcile s now) = .ok u ∧ (u.reconcile s now).events.filterMap Event.moved? = []) ∧
    ∀ now v, u.call (.finalize now) = .ok v → ∀ later, v.call (.finalize later) = .ok v := by
  have hagree := agrees_of_after ht hu
  have hstays : ∀ {x : Tracker} {s : Snapshot}, (∀ n ∈ x.namespaces, n.Agrees) → x.NoNews s →
      ∀ now, x.call (.reconcile s now) = .ok x ∧
        (x.reconcile s now).events.filterMap Event.moved? = [] := by
    intro x s hx hnews now
    rw [call, reconcile_of_noNews hx hnews]
    exact ⟨rfl, moved?_snapshotEvents s x⟩
  refine ⟨?_, ?_, ?_, ?_⟩
  · intro s now
    constructor
    · exact fun h => (observed_eq_self_iff hagree).mp (eq_called_of_call h).symm
    · exact fun h => (hstays hagree h now).1
  · intro s now v hv
    obtain rfl : v = u.observed s now := eq_called_of_call hv
    constructor
    · constructor
      · exact fun h => (hstays hagree ((observed_eq_self_iff hagree).mp h) now).2
      · intro h
        have hsame := (hstays hagree (noNews_of_moved? hv h) now).1
        exact Except.ok.inj (hv.symm.trans hsame)
    · have hv' : t.after (calls ++ [.reconcile s now]) = .ok (u.observed s now) := by
        rw [after_append]
        exact bind_eq_ok_iff.mpr ⟨u, hu, bind_eq_ok_iff.mpr ⟨_, hv, rfl⟩⟩
      exact hstays (agrees_of_after ht hv') (noNews_observed s now u)
  · intro s now h
    exact hstays hagree (noNews_of_failed h u) now
  · intro now v hv later
    rw [eq_called_of_call hv]
    exact call_finalize_eq_self (isOpen_histories_called_finalize now u) later

/-- One of two workloads is down when the totals are brought up to date. -/
def halfDownRun : List Call := [.reconcile (.shop [("web", 0), ("db", 1)]) 10, .recompute]

/-- The same is seen again after the clock was set back, then nothing is seen, and then the other
workload is gone. -/
theorem reconcile_eq_self_iff_after_halfDownRun :
    ∃ u v, ofSnapshot (.shop [("web", 1), ("db", 1)]) 0 = .ok (shop ["web", "db"]) ∧
      (shop ["web", "db"]).after halfDownRun = .ok u ∧ u.namespacesDown = 1 ∧
      u.call (.reconcile (.shop [("web", 0), ("db", 4)]) 3) = .ok u ∧
      u.call (.reconcile .dark 99) = .ok u ∧
      u.call (.reconcile (.shop [("web", 0)]) 20) = .ok v ∧ v ≠ u ∧
      (u.reconcile (.shop [("web", 0)]) 20).events.filterMap Event.moved? ≠ [] ∧
      ∀ later, v.call (.reconcile (.shop [("web", 0)]) later) = .ok v := by
  have ht : ofSnapshot (.shop [("web", 1), ("db", 1)]) 0 = .ok (shop ["web", "db"]) := by decide
  obtain ⟨u, hu, hdown, hsame, hnews, v, hv⟩ :
      ∃ u, (shop ["web", "db"]).after halfDownRun = .ok u ∧ u.namespacesDown = 1 ∧
        u.NoNews (.shop [("web", 0), ("db", 4)]) ∧ ¬u.NoNews (.shop [("web", 0)]) ∧
        ∃ v, u.call (.reconcile (.shop [("web", 0)]) 20) = .ok v :=
    ⟨_, rfl, by decide, by decide, by decide, _, rfl⟩
  obtain ⟨hiff, hgone, hdark, -⟩ := reconcile_eq_self_iff_after ht hu
  obtain ⟨hstill, hagain⟩ := hgone _ _ _ hv
  have hne : v ≠ u := by
    rintro rfl
    exact hnews ((hiff _ _).mp hv)
  have hnothing : ∀ k, ∀ l ∈ Snapshot.dark.listings.get k, l.isFailed = true := by
    intro k
    cases k <;> decide
  exact ⟨u, v, ht, hu, hdown, (hiff _ 3).mpr hsame, (hdark .dark 99 hnothing).1, hv, hne,
    mt hstill.mpr hne, fun later => (hagain later).1⟩

end Tracker

end OutageWatch
