import OutageWatch.Proofs.Downtimes.Window
import OutageWatch.Proofs.Tracker.Calls

/-!
# Calls within a window of time

If every call comes with a time inside some window, in whatever order, then every history stays
inside the window too.  So if the length of the window fits, no call overflows: neither an interval
that is closed nor a total can be longer than the window.

## Main definitions

* `Entry`, `Namespace.entries`, `Tracker.entries` : the histories, each with the total that is
  stored for it.
* `Tracker.Within` : a tracker with all histories in a window.

## Main results

* `Tracker.Within.foldl_called` : calls inside the window keep a tracker there.
* `Tracker.Within.call_eq_ok`, `Tracker.Within.after_eq_ok` : they do not overflow if its length
  fits.
* `Tracker.exists_after_within` : nothing overflows, and the totals are exact.
-/

namespace OutageWatch

/-- What is told of a workload or of a namespace: its history, and the total stored for it. -/
structure Entry where
  downtimes : Downtimes
  seconds : Int
  deriving DecidableEq, Repr

/-- What is told of a workload. -/
def Workload.entry (w : Workload) : Entry := ⟨w.downtimes, w.downtimeInSeconds⟩

/-! ### Namespaces -/

namespace Namespace

/-- What is told of a namespace itself. -/
def entry (n : Namespace) : Entry := ⟨n.downtimes, n.downtimeInSeconds⟩

/-- What is told of the workloads of a namespace, and then of itself. -/
def entries (n : Namespace) : List Entry := n.all.map Workload.entry ++ [n.entry]

/-- Once the totals are up to date, every history comes with its exact total. -/
theorem entries_called_recompute (n : Namespace) :
    (n.called .recompute).entries = n.histories.map fun d => ⟨d, d.total⟩ := by
  rw [entries, all_called, histories, List.map_append, List.map_map, List.map_map]
  rfl

/-- No snapshot inside a window whose length fits makes a namespace overflow. -/
theorem exists_transition {n : Namespace} {lo hi : Int} (hn : ∀ d ∈ n.histories, d.Within lo hi)
    (hfits : hi - lo ≤ greatestInt) (s : Snapshot) {now : Int} (hnow : lo ≤ now ∧ now ≤ hi)
    {e : Entity × Except Overflow Transition} (he : e ∈ n.transitions s now) :
    ∃ x, e.2 = .ok x := by
  rcases List.mem_append.mp he with he | he
  · obtain ⟨w, hw, rfl⟩ := List.mem_map.mp he
    have hd : w.downtimes.Within lo hi := hn _ (List.mem_append_left _ (List.mem_map_of_mem hw))
    cases hup : w.up? s with
    | none => exact ⟨.unchanged, by simp only [Workload.transition, hup]⟩
    | some up => simpa only [Workload.transition, hup] using hd.exists_transition hfits hnow up
  · rw [List.mem_singleton.mp he]
    have hd : n.downtimes.Within lo hi :=
      hn _ (List.mem_append_right _ (List.mem_singleton.mpr rfl))
    exact hd.exists_transition hfits hnow _

end Namespace

/-! ### Trackers -/

/-- Transitions that do not overflow are all announced. -/
theorem outcome_announce_eq_ok {l : List (Entity × Except Overflow Transition)}
    (h : ∀ e ∈ l, ∃ x, e.2 = .ok x) : (announce l).outcome = .ok () := by
  induction l with
  | nil => rfl
  | cons e rest ih =>
    rw [List.forall_mem_cons] at h
    obtain ⟨⟨x, hx⟩, hrest⟩ := h
    obtain ⟨entity, r⟩ := e
    obtain rfl : r = .ok x := hx
    simp only [announce, Logged.outcome_bind, Logged.outcome_lift, Logged.outcome_log, Except.bind]
    exact ih hrest

/-- Measuring every history succeeds if it does for each. -/
theorem forM_discard_eq_ok {α : Type} {f : Downtimes → Except Overflow α} {l : List Downtimes}
    (h : ∀ d ∈ l, ∃ x, f d = .ok x) : (l.forM fun d => discard (f d)) = .ok () := by
  induction l with
  | nil => rfl
  | cons d rest ih =>
    rw [List.forall_mem_cons] at h
    obtain ⟨⟨x, hx⟩, hrest⟩ := h
    have hfirst : discard (f d) = .ok () := by
      rw [hx]
      rfl
    exact bind_eq_ok_iff.mpr ⟨(), hfirst, ih hrest⟩

namespace Tracker

/-- What is told of everything that is tracked. -/
def entries (t : Tracker) : List Entry := t.namespaces.flatMap Namespace.entries

/-- A tracker after calls, once its totals are up to date. -/
def upToDate (t : Tracker) (calls : List Call) : Tracker :=
  (calls.foldl called t).called .recompute

/-- Once the totals are up to date, every history comes with its exact total. -/
theorem mem_entries_upToDate {t : Tracker} {calls : List Call} {e : Entry}
    (he : e ∈ (t.upToDate calls).entries) :
    e.downtimes ∈ (calls.foldl called t).histories ∧ e.seconds = e.downtimes.total := by
  obtain ⟨n, hn, he⟩ := List.mem_flatMap.mp he
  obtain ⟨m, hm, rfl⟩ := List.mem_map.mp hn
  rw [Namespace.entries_called_recompute] at he
  obtain ⟨d, hd, rfl⟩ := List.mem_map.mp he
  exact ⟨List.mem_flatMap.mpr ⟨m, hm, hd⟩, rfl⟩

/-- A tracker lies in a window of time if all its histories do. -/
def Within (lo hi : Int) (t : Tracker) : Prop := ∀ d ∈ t.histories, d.Within lo hi

theorem within_of_ofSnapshot {s : Snapshot} {start : Int} {t : Tracker}
    (h : ofSnapshot s start = .ok t) (lo hi : Int) : t.Within lo hi := by
  intro d hd
  rw [eq_empty_of_mem_histories h hd]
  exact Downtimes.within_empty lo hi

namespace Within

variable {lo hi : Int} {t : Tracker}

/-- Calls that come with no time outside the window keep a tracker there. -/
theorem foldl_called (ht : t.Within lo hi) {calls : List Call}
    (hcalls : ∀ now ∈ calls.filterMap Call.now?, lo ≤ now ∧ now ≤ hi) :
    (calls.foldl Tracker.called t).Within lo hi :=
  forall_histories_foldl_called ht fun now hnow _ _ hpoll hd => hpoll.within (hcalls now hnow) hd

/-- A call inside a window whose length fits does not overflow. -/
theorem call_eq_ok (ht : t.Within lo hi) (hle : lo ≤ hi) (hfits : hi - lo ≤ greatestInt) {c : Call}
    (hc : ∀ now ∈ c.now?, lo ≤ now ∧ now ≤ hi) : t.call c = .ok (t.called c) := by
  suffices h : ∃ u, t.call c = .ok u by
    obtain ⟨u, hu⟩ := h
    rw [hu, eq_called_of_call hu]
  cases c with
  | reconcile s now =>
    have hannounce : (announce (t.transitions s now)).outcome = .ok () := by
      apply outcome_announce_eq_ok
      intro e he
      obtain ⟨n, hn, he⟩ := List.mem_flatMap.mp he
      have hwithin : ∀ d ∈ n.histories, d.Within lo hi :=
        fun d hd => ht d (List.mem_flatMap.mpr ⟨n, hn, hd⟩)
      exact Namespace.exists_transition hwithin hfits s (hc now rfl) he
    refine ⟨t.observed s now, ?_⟩
    rw [call, outcome_reconcile, hannounce]
    rfl
  | finalize now =>
    have hclose : (t.histories.forM fun d => discard (d.transition true now)) = .ok () :=
      forM_discard_eq_ok fun d hd => (ht d hd).exists_transition hfits (hc now rfl) true
    refine ⟨t.closed now, ?_⟩
    rw [call, finalize, hclose]
    rfl
  | recompute =>
    have hmeasure : (t.histories.forM fun d => discard d.checkedTotal) = .ok () :=
      forM_discard_eq_ok fun d hd => ⟨d.total, (ht d hd).checkedTotal_eq hle hfits⟩
    refine ⟨t.withTotals, ?_⟩
    rw [call, recompute, hmeasure]
    rfl

/-- Neither do any number of them. -/
theorem after_eq_ok (ht : t.Within lo hi) (hle : lo ≤ hi) (hfits : hi - lo ≤ greatestInt)
    {calls : List Call} (hcalls : ∀ now ∈ calls.filterMap Call.now?, lo ≤ now ∧ now ≤ hi) :
    t.after calls = .ok (calls.foldl Tracker.called t) := by
  induction calls generalizing t with
  | nil => rfl
  | cons c rest ih =>
    obtain ⟨hc, hrest⟩ := forall_now?_cons.mp hcalls
    have hnext : ([c].foldl Tracker.called t).Within lo hi :=
      ht.foldl_called (forall_now?_cons.mpr ⟨hc, by simp⟩)
    rw [after_cons, ht.call_eq_ok hle hfits hc]
    exact ih hnext hrest

end Within

/-- **Nothing overflows in a window whose length fits.**  A tracker that a snapshot started can be
called any number of times, in any order of time, as long as every call comes with a time inside
the window; and then the totals can be brought up to date.  Every total is then the exact sum of
the lengths of the ended intervals and no longer than the window, and so is every sum of the first
few of them. -/
theorem exists_after_within {s : Snapshot} {start : Int} {t : Tracker}
    (ht : ofSnapshot s start = .ok t) {lo hi : Int} (hle : lo ≤ hi)
    (hfits : hi - lo ≤ greatestInt) {calls : List Call}
    (hcalls : ∀ now ∈ calls.filterMap Call.now?, lo ≤ now ∧ now ≤ hi) :
    ∃ u v, t.after calls = .ok u ∧ u.recompute = .ok v ∧
      ∀ e ∈ v.entries, e.downtimes.checkedTotal = .ok e.seconds ∧
        e.seconds = (e.downtimes.intervals.filterMap fun i => i.finish.map (· - i.start)).sum ∧
        (0 ≤ e.seconds ∧ e.seconds ≤ hi - lo) ∧
        ∀ m, 0 ≤ (e.downtimes.lengths.take m).sum ∧ (e.downtimes.lengths.take m).sum ≤ hi - lo := by
  have hwithin := within_of_ofSnapshot ht lo hi
  have hu : (calls.foldl called t).Within lo hi := hwithin.foldl_called hcalls
  have hrecompute : (calls.foldl called t).call .recompute = .ok (t.upToDate calls) :=
    hu.call_eq_ok hle hfits (by simp [Call.now?])
  refine ⟨_, _, hwithin.after_eq_ok hle hfits hcalls, hrecompute, ?_⟩
  intro e he
  obtain ⟨hmem, hseconds⟩ := mem_entries_upToDate he
  have hd : e.downtimes.Within lo hi := hu _ hmem
  rw [hseconds]
  exact ⟨hd.checkedTotal_eq hle hfits, rfl, hd.total_bounds hle, hd.sum_take_lengths hle⟩

/-- A workload is down as long as the widest window allows, and once more after the clock was set
back. -/
def wideRun : List Call :=
  [.reconcile (.shop [("web", 0)]) (-1), .reconcile (.shop [("web", 1)]) (greatestInt - 1),
    .recompute, .reconcile (.shop [("web", 0)]) 5, .finalize 7]

theorem exists_after_within_wideRun :
    ∃ u v, ofSnapshot (.shop [("web", 1)]) 0 = .ok (shop ["web"]) ∧
      (shop ["web"]).after wideRun = .ok u ∧ u.recompute = .ok v ∧
      v.entries.map Entry.seconds = [greatestInt, greatestInt] ∧
      ∀ e ∈ v.entries, ∀ m, (e.downtimes.lengths.take m).sum ≤ greatestInt - 1 - -1 := by
  have ht : ofSnapshot (.shop [("web", 1)]) 0 = .ok (shop ["web"]) := by decide
  have hcalls : ∀ now ∈ wideRun.filterMap Call.now?, -1 ≤ now ∧ now ≤ greatestInt - 1 := by decide
  obtain ⟨u, v, hu, hv, hentries⟩ := exists_after_within ht (by decide) (by decide) hcalls
  obtain rfl : u = _ := (Except.ok.inj (hu.symm.trans rfl) :)
  obtain rfl : v = _ := (Except.ok.inj (hv.symm.trans rfl) :)
  exact ⟨_, _, ht, hu, hv, rfl, fun e he m => ((hentries e he).2.2.2 m).2⟩

/-- One second more is too much. -/
example : (shop ["web"]).after [.reconcile (.shop [("web", 0)]) (-1), .finalize greatestInt] =
    .error .difference := rfl

end Tracker

end OutageWatch
