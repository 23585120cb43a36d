import Mathlib.Data.List.Forall2
import OutageWatch.Proofs.Downtimes.Growth
import OutageWatch.Proofs.Tracker.Window

/-!
# What is told is never taken back

Calls make every history grow, whatever their times.  So once the totals are up to date, all that
is told then stays told: after any further calls, and with the totals up to date again, the same
namespaces and workloads are there in the same order, the ended intervals are still in front, an
open interval is still in its place, and no total is smaller.

## Main definitions

* `Entry.KeptIn`, `Workload.KeptIn`, `Namespace.KeptIn`, `Tracker.KeptIn` : all that is told is
  still told.

## Main results

* `Workload.grows_foldl_called`, `Namespace.grows_foldl_called` : calls make histories grow.
* `Tracker.keptIn_foldl_called` : so nothing is taken back.
-/

namespace OutageWatch

/-! ### Entries -/

/-- All that is told of an entity is still told: the ended intervals are in front, an open interval
is in its place with its start, and the total is no smaller. -/
structure Entry.KeptIn (a b : Entry) : Prop where
  ended_prefix : a.downtimes.endedIntervals <+: b.downtimes.intervals
  exists_of_isOpen : ∀ (p : Nat) (i : Interval), a.downtimes.intervals[p]? = some i →
    i.isOpen = true → ∃ j : Interval, b.downtimes.intervals[p]? = some j ∧ j.start = i.start
  seconds_le : a.seconds ≤ b.seconds

/-- An orderly history comes with its exact total. -/
structure Entry.Exact (e : Entry) : Prop where
  orderly : e.downtimes.Orderly
  seconds_eq : e.seconds = e.downtimes.total

/-- If a history grows and the totals are exact, nothing is taken back. -/
theorem Entry.Exact.keptIn {a b : Entry} (ha : a.Exact) (hb : b.Exact)
    (h : a.downtimes.Grows b.downtimes) : a.KeptIn b := by
  refine ⟨h.endedIntervals_prefix ha.orderly, ?_, ?_⟩
  · intro p i hi _
    obtain ⟨j, hj, hstart, -⟩ := h p i hi
    exact ⟨j, hj, hstart⟩
  · rw [ha.seconds_eq, hb.seconds_eq]
    exact h.total_le ha.orderly hb.orderly

/-! ### Workloads and namespaces -/

/-- All that is told of a workload is still told. -/
structure Workload.KeptIn (v w : Workload) : Prop where
  entity_eq : v.entity = w.entity
  entry : v.entry.KeptIn w.entry

/-- All that is told of a namespace and its workloads is still told, in the same order. -/
structure Namespace.KeptIn (n m : Namespace) : Prop where
  name_eq : n.name = m.name
  workloads : ∀ k, List.Forall₂ Workload.KeptIn (n.workloads.get k) (m.workloads.get k)
  entry : n.entry.KeptIn m.entry

/-- A call makes the history of a workload grow. -/
theorem Workload.grows_called (w : Workload) (c : Call) :
    w.downtimes.Grows (w.called c).downtimes := by
  rw [downtimes_called]
  cases w.sighting? c with
  | none => exact .refl _
  | some s => exact Downtimes.grows_observe s.up s.now w.downtimes

theorem Workload.grows_foldl_called (w : Workload) (calls : List Call) :
    w.downtimes.Grows (calls.foldl called w).downtimes :=
  .foldl grows_called w calls

namespace Namespace

/-- A call makes the history of a namespace grow. -/
theorem grows_called (n : Namespace) (c : Call) : n.downtimes.Grows (n.called c).downtimes := by
  rw [downtimes_called]
  cases c.now? with
  | none => exact .refl _
  | some now => exact Downtimes.grows_observe _ now n.downtimes

theorem grows_foldl_called (n : Namespace) (calls : List Call) :
    n.downtimes.Grows (calls.foldl called n).downtimes :=
  .foldl grows_called n calls

theorem entry_mem_entries (n : Namespace) : n.entry ∈ n.entries :=
  List.mem_append_right _ (List.mem_singleton.mpr rfl)

theorem entry_mem_entries_of_mem_get {n : Namespace} {k : Kind} {w : Workload}
    (hw : w ∈ n.workloads.get k) : w.entry ∈ n.entries :=
  List.mem_append_left _ (List.mem_map_of_mem (mem_all.mpr ⟨k, hw⟩))

/-- If the totals are exact before and after calls, nothing is taken back. -/
theorem keptIn_foldl_called {n : Namespace} {calls : List Call} (hn : ∀ e ∈ n.entries, e.Exact)
    (hm : ∀ e ∈ (calls.foldl called n).entries, e.Exact) : n.KeptIn (calls.foldl called n) := by
  refine ⟨(n.name_foldl_called calls).symm, ?_, ?_⟩
  · intro k
    have hget : (calls.foldl called n).workloads.get k =
        (n.workloads.get k).map (calls.foldl Workload.called ·) := by
      rw [workloads_foldl_called, PerKind.get_map]
    rw [hget, List.forall₂_map_right_iff, List.forall₂_same]
    intro w hw
    have hw' : calls.foldl Workload.called w ∈ (calls.foldl called n).workloads.get k := by
      rw [hget]
      exact List.mem_map_of_mem hw
    exact ⟨(w.entity_foldl_called calls).symm,
      (hn _ (entry_mem_entries_of_mem_get hw)).keptIn (hm _ (entry_mem_entries_of_mem_get hw'))
        (w.grows_foldl_called calls)⟩
  · exact (hn _ n.entry_mem_entries).keptIn (hm _ (entry_mem_entries _))
      (n.grows_foldl_called calls)

end Namespace

/-! ### Trackers -/

namespace Tracker

/-- All that is told of a tracker is still told, in the same order. -/
structure KeptIn (t u : Tracker) : Prop where
  start_eq : t.start = u.start
  namespaces : List.Forall₂ Namespace.KeptIn t.namespaces u.namespaces

@[simp] theorem start_foldl_called (t : Tracker) (calls : List Call) :
    (calls.foldl called t).start = t.start := by
  induction calls generalizing t with
  | nil => rfl
  | cons c rest ih => exact ih (t.called c)

/-- Once the totals are brought up to date, whatever calls came before, they are exact. -/
theorem exact_of_mem_entries {s : Snapshot} {start : Int} {t : Tracker}
    (ht : ofSnapshot s start = .ok t) {calls : List Call} {e : Entry}
    (he : e ∈ (t.upToDate calls).entries) : e.Exact := by
  obtain ⟨hmem, hseconds⟩ := mem_entries_upToDate he
  exact ⟨orderly_foldl_called ht calls _ hmem, hseconds⟩

/-- If the totals are exact before and after calls, nothing is taken back. -/
theorem keptIn_foldl_called {t : Tracker} {calls : List Call} (ht : ∀ e ∈ t.entries, e.Exact)
    (hu : ∀ e ∈ (calls.foldl called t).entries, e.Exact) : t.KeptIn (calls.foldl called t) := by
  refine ⟨(t.start_foldl_called calls).symm, ?_⟩
  rw [namespaces_foldl_called, List.forall₂_map_right_iff, List.forall₂_same]
  intro n hn
  have hmem : calls.foldl Namespace.called n ∈ (calls.foldl called t).namespaces := by
    rw [namespaces_foldl_called]
    exact List.mem_map_of_mem hn
  exact Namespace.keptIn_foldl_called (fun e he => ht e (List.mem_flatMap.mpr ⟨n, hn, he⟩))
    fun e he => hu e (List.mem_flatMap.mpr ⟨_, hmem, he⟩)

/-- Further calls take nothing back, once the totals are up to date again. -/
theorem keptIn_upToDate {s : Snapshot} {start : Int} {t : Tracker}
    (ht : ofSnapshot s start = .ok t) (calls more : List Call) :
    (t.upToDate calls).KeptIn (t.upToDate (calls ++ .recompute :: more)) := by
  have hmore : t.upToDate (calls ++ .recompute :: more) =
      (more ++ [Call.recompute]).foldl called (t.upToDate calls) := by
    rw [upToDate, List.foldl_append, List.foldl_append]
    rfl
  rw [hmore]
  refine keptIn_foldl_called (fun e he => exact_of_mem_entries ht he) fun e he => ?_
  rw [← hmore] at he
  exact exact_of_mem_entries ht he

end Tracker

end OutageWatch
