import OutageWatch.Proofs.Downtimes.Coverage
import OutageWatch.Proofs.Tracker.Liveness

/-!
# The downtime of a namespace is the union of those of its workloads

As long as the clock does not go back, a namespace is down at exactly the times at which one of its
workloads is.  A call at some time leaves what was covered before it as it was, in every history;
and from then on the history of the namespace covers everything if a workload is down after the
call, and nothing otherwise.  So the two sides stay equal whatever the workloads do at one call:
open, end, hand over to each other, or keep a state that nothing is told about.

Once a namespace is up, no workload has a greater total than the namespace, and the namespace has
no greater total than its workloads together.

## Main definitions

* `Namespace.Settled` : the state in which a clock that does not go back keeps a namespace.

## Main results

* `Namespace.Settled.called` : every call at a later time keeps it.
* `Tracker.covers_iff_after` : the union, and the totals, after any calls in order of time.
-/

namespace OutageWatch

namespace Namespace

/-- No history of a namespace reaches beyond a time, all are orderly, and the namespace covers what
its workloads cover. -/
structure Settled (n : Namespace) (now : Int) : Prop where
  agrees : n.Agrees
  orderly : ∀ d ∈ n.histories, d.Orderly
  le : ∀ d ∈ n.histories, ∀ b ∈ d.boundaries, b ≤ now
  covers_iff : ∀ x, n.downtimes.Covers x ↔ ∃ w ∈ n.all, w.downtimes.Covers x

theorem downtimes_mem_histories (n : Namespace) : n.downtimes ∈ n.histories :=
  List.mem_append_right _ (List.mem_singleton.mpr rfl)

theorem mem_histories_of_mem_all {n : Namespace} {w : Workload} (hw : w ∈ n.all) :
    w.downtimes ∈ n.histories :=
  List.mem_append_left _ (List.mem_map_of_mem hw)

namespace Settled

variable {n : Namespace} {now : Int}

theorem of_fresh (hn : n.Fresh) (now : Int) : n.Settled now := by
  refine ⟨.of_fresh hn, ?_, ?_, ?_⟩
  · intro d hd
    rw [hn.eq_empty_of_mem_histories hd]
    exact Downtimes.orderly_empty
  · intro d hd b hb
    rw [hn.eq_empty_of_mem_histories hd] at hb
    exact absurd hb List.not_mem_nil
  · intro x
    rw [hn.downtimes_eq]
    refine iff_of_false (Downtimes.not_covers_empty x) ?_
    rintro ⟨w, hw, hx⟩
    rw [hn.downtimes_eq_of_mem w hw] at hx
    exact Downtimes.not_covers_empty x hx

/-- A call without a time keeps a namespace settled. -/
theorem called_of_now?_eq_none (hn : n.Settled now) {c : Call} (hc : c.now? = none) :
    (n.called c).Settled now := by
  have hh := n.histories_called_of_now?_eq_none hc
  refine ⟨hn.agrees.called c, ?_, ?_, ?_⟩
  · rw [hh]
    exact hn.orderly
  · rw [hh]
    exact hn.le
  · intro x
    rw [downtimes_called, hc, Option.elim_none, hn.covers_iff]
    simp [Workload.downtimes_called_of_now?_eq_none _ hc]

/-- A call at a later time keeps a namespace settled. -/
theorem called_of_now?_eq_some (hn : n.Settled now) {c : Call} {later : Int}
    (hc : c.now? = some later) (hle : now ≤ later) : (n.called c).Settled later := by
  have hagrees := hn.agrees.called c
  have horderly : ∀ e ∈ (n.called c).histories, e.Orderly :=
    forall_histories_called hn.orderly fun _ _ _ _ hpoll hd => hpoll.orderly hd
  have hbound : ∀ e ∈ (n.called c).histories, ∀ b ∈ e.boundaries, b ≤ later := by
    intro e he b hb
    obtain ⟨d, hd, hpoll⟩ := exists_polled_of_mem_histories_called hc he
    rcases hpoll.eq_or_mem_of_mem hb with rfl | hb
    · exact le_rfl
    · exact (hn.le d hd b hb).trans hle
  refine ⟨hagrees, horderly, hbound, ?_⟩
  intro x
  rcases lt_or_ge x later with hx | hx
  · -- what was covered before the call is left alone
    have hown : (n.called c).downtimes.Covers x ↔ n.downtimes.Covers x := by
      rw [downtimes_called, hc]
      exact Downtimes.covers_observe_of_lt hx _ _
    have hall (w : Workload) : (w.called c).downtimes.Covers x ↔ w.downtimes.Covers x :=
      (w.polled_called hc).covers_iff_of_lt hx
    rw [hown, hn.covers_iff]
    simp [hall]
  · -- from the call on it only counts who is down
    have hopen : ∀ d ∈ (n.called c).histories, d.Covers x ↔ d.isOpen = true := fun d hd =>
      Downtimes.covers_iff_isOpen (horderly d hd) (hbound d hd) hx
    rw [hopen _ (downtimes_mem_histories _)]
    change (n.called c).isDown = true ↔ _
    rw [hagrees.isDown_eq_any, List.any_eq_true]
    exact exists_congr fun w => and_congr_right fun hw =>
      (hopen _ (mem_histories_of_mem_all hw)).symm

/-- Calls in order of time keep a namespace settled. -/
theorem foldl_called (hn : n.Settled now) {calls : List Call}
    (hclock : (now :: calls.filterMap Call.now?).Pairwise (· ≤ ·)) :
    ∃ later, (calls.foldl called n).Settled later := by
  induction calls generalizing n now with
  | nil => exact ⟨now, hn⟩
  | cons c rest ih =>
    cases hc : c.now? with
    | none =>
      rw [List.filterMap_cons_none hc] at hclock
      exact ih (hn.called_of_now?_eq_none hc) hclock
    | some later =>
      rw [List.filterMap_cons_some hc, List.pairwise_cons] at hclock
      have hle : now ≤ later := hclock.1 later List.mem_cons_self
      exact ih (hn.called_of_now?_eq_some hc hle) hclock.2

/-- No workload of a settled namespace that is up has a greater total than the namespace, and
together they have no smaller one. -/
theorem total_le (hn : n.Settled now) (hup : n.isDown = false) :
    (∀ w ∈ n.all, w.downtimes.total ≤ n.downtimes.total) ∧
      n.downtimes.total ≤ (n.all.map fun w => w.downtimes.total).sum := by
  have hown := hn.orderly _ n.downtimes_mem_histories
  have hall : ∀ w ∈ n.all, w.downtimes.Orderly ∧ w.downtimes.isOpen = false := by
    intro w hw
    refine ⟨hn.orderly _ (mem_histories_of_mem_all hw), ?_⟩
    rw [hn.agrees.isDown_eq_any, List.any_eq_false] at hup
    exact Bool.eq_false_iff.mpr (hup w hw)
  constructor
  · intro w hw
    obtain ⟨hord, hopen⟩ := hall w hw
    exact Downtimes.total_le_total hord hopen hown hup fun x hx => (hn.covers_iff x).mpr ⟨w, hw, hx⟩
  · have h := Downtimes.total_le_sum hown hup (l := n.all.map Workload.downtimes)
      (List.forall_mem_map.mpr hall) (fun x hx => by simpa using (hn.covers_iff x).mp hx)
    rwa [List.map_map] at h

end Settled

end Namespace

namespace Tracker

/-- Times in order start somewhere. -/
theorem exists_pairwise_cons {times : List Int} (h : times.Pairwise (· ≤ ·)) :
    ∃ now, (now :: times).Pairwise (· ≤ ·) := by
  cases times with
  | nil => exact ⟨0, List.pairwise_singleton ..⟩
  | cons now rest =>
    refine ⟨now, List.pairwise_cons.mpr ⟨?_, h⟩⟩
    exact List.forall_mem_cons.mpr ⟨le_rfl, (List.pairwise_cons.mp h).1⟩

/-- **The downtime of a namespace is the union of those of its workloads.**  After any calls in
order of time that do not overflow, a time lies in some interval of a namespace iff it lies in some
interval of one of its workloads.  Hence in a namespace that is up every workload has at most the
total of the namespace, and this is at most the sum of theirs.  Totals are exact here; one that is
computed without overflow is the exact one. -/
theorem covers_iff_after {s : Snapshot} {start : Int} {t u : Tracker} {calls : List Call}
    (ht : ofSnapshot s start = .ok t) (hu : t.after calls = .ok u)
    (hclock : (calls.filterMap Call.now?).Pairwise (· ≤ ·)) {n : Namespace}
    (hn : n ∈ u.namespaces) :
    (∀ x, (∃ i ∈ n.downtimes.intervals, i.Covers x) ↔
      ∃ w ∈ n.all, ∃ i ∈ w.downtimes.intervals, i.Covers x) ∧
    (n.isDown = false →
      (∀ w ∈ n.all, w.downtimes.total ≤ n.downtimes.total) ∧
        n.downtimes.total ≤ (n.all.map fun w => w.downtimes.total).sum) ∧
    ∀ d ∈ n.histories, ∀ m, d.checkedTotal = .ok m → m = d.total := by
  rw [namespaces_of_after hu] at hn
  obtain ⟨m, hm, rfl⟩ := List.mem_map.mp hn
  obtain ⟨first, hfirst⟩ := exists_pairwise_cons hclock
  have hfresh : m.Settled first := .of_fresh (fresh_of_ofSnapshot ht m hm) first
  obtain ⟨last, hsettled⟩ := hfresh.foldl_called hfirst
  exact ⟨hsettled.covers_iff, hsettled.total_le,
    fun d _ total => Downtimes.eq_total_of_checkedTotal⟩

/-- Two workloads hand over their downtime to each other, and the run is ended. -/
theorem covers_iff_after_handOverRun :
    ∃ u n, ofSnapshot (.shop [("web", 1), ("db", 1)]) 0 = .ok (shop ["web", "db"]) ∧
      (shop ["web", "db"]).after (handOverRun ++ [Call.finalize 25]) = .ok u ∧
      ((handOverRun ++ [Call.finalize 25]).filterMap Call.now?).Pairwise (· ≤ ·) ∧
      u.namespaces = [n] ∧ n.isDown = false ∧ n.downtimes.total = 15 ∧
      (∀ w ∈ n.all, w.downtimes.total ≤ 15) ∧
      15 ≤ (n.all.map fun w => w.downtimes.total).sum := by
  have ht : ofSnapshot (.shop [("web", 1), ("db", 1)]) 0 = .ok (shop ["web", "db"]) := by decide
  have hclock : ((handOverRun ++ [Call.finalize 25]).filterMap Call.now?).Pairwise (· ≤ ·) := by
    decide
  have h := covers_iff_after ht
    (rfl : (shop ["web", "db"]).after (handOverRun ++ [Call.finalize 25]) = .ok _) hclock
    List.mem_cons_self
  exact ⟨_, _, ht, rfl, hclock, rfl, rfl, rfl, h.2.1 rfl⟩

end Tracker

end OutageWatch
