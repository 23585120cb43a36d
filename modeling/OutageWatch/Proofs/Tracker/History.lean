import OutageWatch.Proofs.Tracker.Calls

/-!
# The history of a workload over a run

A run is any number of calls on a tracker that do not overflow.  The history that a workload has
after it is settled by what the calls said about the workload, and by nothing else: it records the
changes among these sightings, and its last interval is open iff there was an odd number of them.

## Main definitions

* `Workload.changes` : the times of the changes that calls say of a workload.

## Main results

* `Tracker.boundaries_after` : the boundaries of every workload that a tracker was started with.
-/

namespace OutageWatch

/-- The times at which calls find that a workload went down or came up. -/
def Workload.changes (w : Workload) (calls : List Call) : List Int :=
  Sighting.changes true (calls.filterMap w.sighting?)

/-- Under a clock that does not go back, the changes of a workload are in order. -/
theorem Workload.pairwise_changes {calls : List Call}
    (h : (calls.filterMap Call.now?).Pairwise (· ≤ ·)) (w : Workload) :
    (w.changes calls).Pairwise (· ≤ ·) :=
  h.sublist ((Sighting.changes_sublist ..).trans (w.sightings_sublist calls))

/-- **The history of a workload over a run.**  After any calls that do not overflow, a workload of
a tracker that a snapshot started is in its place, and its history has exactly one boundary for
each change.  The boundary is the latest time of any change so far, and hence the time of the change
itself if the clock never goes back.  Only the last interval may be open, and it is open iff the
number of changes is odd. -/
theorem Tracker.boundaries_after {s : Snapshot} {start : Int} {t u : Tracker} {calls : List Call}
    (ht : ofSnapshot s start = .ok t) (hu : t.after calls = .ok u) {i j : Nat} {k : Kind}
    {w : Workload} (hw : t.workload? i k j = some w) :
    ∃ v, u.workload? i k j = some v ∧ v.entity = w.entity ∧
      v.downtimes.boundaries.length = (w.changes calls).length ∧
      (∀ m < (w.changes calls).length,
        v.downtimes.boundaries[m]? = ((w.changes calls).take (m + 1)).max?) ∧
      ((calls.filterMap Call.now?).Pairwise (· ≤ ·) →
        v.downtimes.boundaries = w.changes calls) ∧
      (∀ x ∈ v.downtimes.intervals.dropLast, x.isOpen = false) ∧
      (v.downtimes.isOpen = true ↔ Odd (w.changes calls).length) := by
  obtain ⟨n, hn, hwn⟩ := mem_all_of_workload? hw
  have hempty : w.downtimes = .empty := (fresh_of_ofSnapshot ht n hn).downtimes_eq_of_mem w hwn
  have hfold : (calls.foldl Workload.called w).downtimes =
      (calls.filterMap w.sighting?).foldl Downtimes.sighted .empty := by
    rw [Workload.downtimes_foldl_called, hempty]
  have hrec : (calls.foldl Workload.called w).downtimes.Records (w.changes calls) := by
    rw [hfold]
    exact Downtimes.records_foldl _
  have hord : (calls.foldl Workload.called w).downtimes.Orderly := by
    rw [hfold]
    exact Downtimes.orderly_empty.foldl_sighted _
  refine ⟨calls.foldl Workload.called w, ?_, w.entity_foldl_called calls, hrec.length_eq,
    hrec.getElem?_eq, ?_, hord.ended, hrec.isOpen_iff⟩
  · rw [workload?_of_after hu, hw, Option.map_some]
  · intro hclock
    exact hrec.boundaries_eq (w.pairwise_changes hclock)

/-- A workload goes down at 10 and comes up when the clock was set back to 4; in between are polls
that tell nothing, or nothing new. -/
def setBackRun : List Call :=
  [.reconcile (.shop [("web", 0)]) 10, .reconcile .dark 5, .reconcile (.shop []) 7,
    .reconcile (.shop [("web", 2)]) 4, .finalize 11]

theorem Tracker.boundaries_after_setBackRun :
    ∃ u v, ofSnapshot (.shop [("web", 1)]) 0 = .ok (shop ["web"]) ∧
      (shop ["web"]).after setBackRun = .ok u ∧
      (Workload.new .deployment "shop" "web").changes setBackRun = [10, 4] ∧
      u.workload? 0 .deployment 0 = some v ∧ v.downtimes.boundaries.length = 2 ∧
      v.downtimes.boundaries[1]? = some 10 ∧ v.downtimes.isOpen = false := by
  have ht : ofSnapshot (.shop [("web", 1)]) 0 = .ok (shop ["web"]) := by decide
  obtain ⟨u, hu⟩ : ∃ u, (shop ["web"]).after setBackRun = .ok u := ⟨_, rfl⟩
  have hc : (Workload.new .deployment "shop" "web").changes setBackRun = [10, 4] := by decide
  obtain ⟨v, hv, -, hlen, hget, -, -, hopen⟩ :=
    boundaries_after ht hu (i := 0) (j := 0) (k := .deployment) rfl
  rw [hc] at hlen hget hopen
  refine ⟨u, v, ht, hu, hc, hv, hlen, hget 1 (by decide), ?_⟩
  rw [Bool.eq_false_iff, Ne, hopen]
  decide

end OutageWatch
