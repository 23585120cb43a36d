import OutageWatch.Proofs.Downtimes.Changes
import OutageWatch.Proofs.Faults
import OutageWatch.Tracker.Basic

/-!
# Calls on a tracker

After its start a tracker is only changed by calls: it is reconciled with a snapshot, it is
finalized, or its totals are brought up to date.  A call that does not overflow treats each
namespace, and each workload of it, by itself.  To the history of a workload it adds at most one
sighting, and to that of a namespace one sighting of what its workloads are then, if the call comes
with a time at all.

## Main definitions

* `Call`, `Tracker.call`, `Tracker.after` : one call, and a tracker after calls.
* `Workload.called`, `Namespace.called`, `Tracker.called` : what a call makes of a part of a
  tracker, and of all of it, if it does not overflow.
* `Workload.sighting?` : what a call says about a workload.
* `Tracker.workload?` : the workload at a place of a tracker.
* `Snapshot.shop`, `Snapshot.dark`, `Tracker.shop` : a small cluster, with which runs are shown.

## Main results

* `Tracker.eq_foldl_called_of_after` : a tracker after calls that do not overflow.
* `Workload.downtimes_called`, `Namespace.downtimes_called` : all that a call does to a history.
* `Tracker.fresh_of_ofSnapshot` : at the start every history is empty.
* `Tracker.forall_histories_foldl_called` : what observations keep, calls keep.
-/

namespace OutageWatch

/-- A call on a tracker. -/
inductive Call where
  | reconcile (s : Snapshot) (now : Int)
  | finalize (now : Int)
  | recompute
  deriving DecidableEq, Repr

/-- The time that a call comes with. -/
def Call.now? : Call → Option Int
  | reconcile _ now => some now
  | finalize now => some now
  | recompute => none

theorem forall_now?_cons {p : Int → Prop} {c : Call} {rest : List Call} :
    (∀ now ∈ (c :: rest).filterMap Call.now?, p now) ↔
      (∀ now ∈ c.now?, p now) ∧ ∀ now ∈ rest.filterMap Call.now?, p now := by
  cases hc : c.now? with
  | none => simp [List.filterMap_cons_none hc]
  | some now => simp [List.filterMap_cons_some hc]

/-! ### Workloads -/

namespace Workload

/-- What a call says about a workload, if anything.  One that is finalized counts as up. -/
def sighting? (w : Workload) : Call → Option Sighting
  | .reconcile s now =>
    match s.observe w.kind w.home w.name with
    | .ready => some ⟨true, now⟩
    | .unready => some ⟨false, now⟩
    | .unknown => none
  | .finalize now => some ⟨true, now⟩
  | .recompute => none

/-- What a call says, it says for the time that it comes with. -/
theorem now?_of_sighting? {w : Workload} {c : Call} {s : Sighting} (h : w.sighting? c = some s) :
    c.now? = some s.now := by
  cases c with
  | reconcile r now =>
    simp only [sighting?] at h
    split at h
    · exact congrArg (Option.map Sighting.now) h
    · exact congrArg (Option.map Sighting.now) h
    · contradiction
  | finalize now => exact congrArg (Option.map Sighting.now) h
  | recompute => contradiction

/-- The times of what calls say about a workload are times of the calls, in their order. -/
theorem sightings_sublist (w : Workload) (calls : List Call) :
    ((calls.filterMap w.sighting?).map Sighting.now).Sublist (calls.filterMap Call.now?) := by
  induction calls with
  | nil => exact List.Sublist.slnil
  | cons c rest ih =>
    cases hs : w.sighting? c with
    | none =>
      rw [List.filterMap_cons_none hs]
      exact ih.trans ((List.sublist_cons_self c rest).filterMap Call.now?)
    | some s =>
      rw [List.filterMap_cons_some hs, List.filterMap_cons_some (now?_of_sighting? hs)]
      exact ih.cons_cons s.now

/-- A workload after a call. -/
def called (w : Workload) : Call → Workload
  | .reconcile s now => w.observed s now
  | .finalize now => { w with downtimes := w.downtimes.markUp now }
  | .recompute => { w with downtimeInSeconds := w.downtimes.total }

@[simp] theorem entity_called (w : Workload) (c : Call) : (w.called c).entity = w.entity := by
  cases c with
  | reconcile s now =>
    simp only [called, observed]
    split <;> rfl
  | finalize now => rfl
  | recompute => rfl

/-- What calls say about a workload depends on the entity only. -/
theorem sighting?_congr {v w : Workload} (h : v.entity = w.entity) : v.sighting? = w.sighting? := by
  simp only [entity, Entity.workload.injEq] at h
  obtain ⟨hk, hh, hn⟩ := h
  funext c
  cases c with
  | reconcile s now => simp only [sighting?, hk, hh, hn]
  | finalize now => rfl
  | recompute => rfl

/-- A call adds to the history of a workload what it says about the workload. -/
theorem downtimes_called (w : Workload) (c : Call) :
    (w.called c).downtimes = (w.sighting? c).elim w.downtimes w.downtimes.sighted := by
  cases c with
  | reconcile s now =>
    cases hr : s.observe w.kind w.home w.name with
    | ready => simp [called, observed, up?, sighting?, hr, Readiness.up?, Downtimes.sighted]
    | unready => simp [called, observed, up?, sighting?, hr, Readiness.up?, Downtimes.sighted]
    | unknown => simp [called, observed, up?, sighting?, hr, Readiness.up?]
  | finalize now => rfl
  | recompute => rfl

/-- A call with a time adds at most one observation at that time. -/
theorem polled_called (w : Workload) {c : Call} {now : Int} (hc : c.now? = some now) :
    Downtimes.Polled now w.downtimes (w.called c).downtimes := by
  rw [downtimes_called]
  cases hs : w.sighting? c with
  | none => exact .unseen
  | some s =>
    have hnow : now = s.now := Option.some.inj (hc.symm.trans (now?_of_sighting? hs))
    rw [hnow]
    exact .seen s.up

/-- A call without a time leaves the history alone. -/
theorem downtimes_called_of_now?_eq_none (w : Workload) {c : Call} (hc : c.now? = none) :
    (w.called c).downtimes = w.downtimes := by
  cases c with
  | reconcile s now => contradiction
  | finalize now => contradiction
  | recompute => rfl

/-- The history of a workload after calls. -/
theorem downtimes_foldl_called (w : Workload) (calls : List Call) :
    (calls.foldl called w).downtimes =
      (calls.filterMap w.sighting?).foldl Downtimes.sighted w.downtimes := by
  induction calls generalizing w with
  | nil => rfl
  | cons c rest ih =>
    rw [List.foldl_cons, ih, sighting?_congr (w.entity_called c), downtimes_called]
    cases hs : w.sighting? c with
    | none => rw [List.filterMap_cons_none hs, Option.elim_none]
    | some s => rw [List.filterMap_cons_some hs, List.foldl_cons, Option.elim_some]

@[simp] theorem entity_foldl_called (w : Workload) (calls : List Call) :
    (calls.foldl called w).entity = w.entity := by
  induction calls generalizing w with
  | nil => rfl
  | cons c rest ih => rw [List.foldl_cons, ih, entity_called]

end Workload

/-! ### Namespaces -/

namespace Namespace

theorem mem_all {n : Namespace} {w : Workload} : w ∈ n.all ↔ ∃ k, w ∈ n.workloads.get k := by
  constructor
  · intro h
    simp only [all, PerKind.toList, List.flatten_cons, List.flatten_nil, List.append_nil,
      List.mem_append] at h
    rcases h with h | h | h
    · exact ⟨.deploymentConfig, h⟩
    · exact ⟨.deployment, h⟩
    · exact ⟨.statefulSet, h⟩
  · rintro ⟨k, h⟩
    cases k <;> simp_all [all, PerKind.toList, PerKind.get]

/-- A namespace after a call. -/
def called (n : Namespace) : Call → Namespace
  | .reconcile s now => n.observed s now
  | .finalize now =>
    { n.mapWorkloads (fun w => { w with downtimes := w.downtimes.markUp now }) with
      downtimes := n.downtimes.markUp now }
  | .recompute =>
    { n.mapWorkloads (fun w => { w with downtimeInSeconds := w.downtimes.total }) with
      downtimeInSeconds := n.downtimes.total }

@[simp] theorem name_called (n : Namespace) (c : Call) : (n.called c).name = n.name := by
  cases c <;> rfl

theorem workloads_called (n : Namespace) (c : Call) :
    (n.called c).workloads = n.workloads.map (·.map (Workload.called · c)) := by
  cases c <;> rfl

@[simp] theorem all_called (n : Namespace) (c : Call) :
    (n.called c).all = n.all.map (Workload.called · c) := by
  simp only [all, workloads_called]
  simp [PerKind.map, PerKind.toList]

/-- A call with a time adds to the history of a namespace whether it is then up, and any other
call adds nothing. -/
theorem downtimes_called (n : Namespace) (c : Call) :
    (n.called c).downtimes =
      c.now?.elim n.downtimes (n.downtimes.observe (n.called c).isUp) := by
  cases c with
  | reconcile s now => rfl
  | finalize now =>
    have hup : (n.called (.finalize now)).isUp = true := by
      rw [isUp, all_called, List.all_map, List.all_eq_true]
      intro w _
      have := Downtimes.isOpen_observe true now w.downtimes
      simpa [Workload.called, Workload.isDown] using this
    rw [hup]
    rfl
  | recompute => rfl

/-- The histories of the workloads of a namespace, and its own. -/
def histories (n : Namespace) : List Downtimes := n.all.map Workload.downtimes ++ [n.downtimes]

/-- A call with a time adds at most one observation at that time to every history. -/
theorem exists_polled_of_mem_histories_called {n : Namespace} {c : Call} {now : Int}
    (hc : c.now? = some now) {e : Downtimes} (he : e ∈ (n.called c).histories) :
    ∃ d ∈ n.histories, Downtimes.Polled now d e := by
  rcases List.mem_append.mp he with he | he
  · rw [all_called, List.map_map] at he
    obtain ⟨w, hw, rfl⟩ := List.mem_map.mp he
    exact ⟨w.downtimes, List.mem_append_left _ (List.mem_map_of_mem hw), w.polled_called hc⟩
  · rw [List.mem_singleton.mp he, downtimes_called, hc]
    exact ⟨n.downtimes, List.mem_append_right _ (List.mem_singleton.mpr rfl), .seen _⟩

/-- A call without a time leaves all histories alone. -/
theorem histories_called_of_now?_eq_none (n : Namespace) {c : Call} (hc : c.now? = none) :
    (n.called c).histories = n.histories := by
  rw [histories, all_called, downtimes_called, hc, List.map_map, histories, Option.elim_none]
  congr 1
  exact List.map_congr_left fun w _ => w.downtimes_called_of_now?_eq_none hc

/-- The end of everything marks every history up. -/
theorem histories_called_finalize (n : Namespace) (now : Int) :
    (n.called (.finalize now)).histories = n.histories.map (·.markUp now) := by
  rw [histories, all_called, histories, List.map_append, List.map_map, List.map_map]
  rfl

/-- A property of histories that observations keep at the time of a call is kept by the call. -/
theorem forall_histories_called {p : Downtimes → Prop} {n : Namespace}
    (hn : ∀ d ∈ n.histories, p d) {c : Call}
    (hc : ∀ now ∈ c.now?, ∀ d e, Downtimes.Polled now d e → p d → p e) :
    ∀ e ∈ (n.called c).histories, p e := by
  intro e he
  cases hnow : c.now? with
  | none =>
    rw [histories_called_of_now?_eq_none n hnow] at he
    exact hn e he
  | some now =>
    obtain ⟨d, hd, hpoll⟩ := exists_polled_of_mem_histories_called hnow he
    exact hc now hnow d e hpoll (hn d hd)

@[simp] theorem name_foldl_called (n : Namespace) (calls : List Call) :
    (calls.foldl called n).name = n.name := by
  induction calls generalizing n with
  | nil => rfl
  | cons c rest ih => rw [List.foldl_cons, ih, name_called]

theorem workloads_foldl_called (n : Namespace) (calls : List Call) :
    (calls.foldl called n).workloads = n.workloads.map (·.map (calls.foldl Workload.called ·)) := by
  induction calls generalizing n with
  | nil =>
    ext1 k
    simp
  | cons c rest ih =>
    rw [List.foldl_cons, ih, workloads_called]
    ext1 k
    simp [Function.comp_def]

/-- Every history of a namespace is empty. -/
structure Fresh (n : Namespace) : Prop where
  downtimes_eq : n.downtimes = .empty
  downtimes_eq_of_mem : ∀ w ∈ n.all, w.downtimes = .empty

theorem Fresh.eq_empty_of_mem_histories {n : Namespace} (hn : n.Fresh) {d : Downtimes}
    (hd : d ∈ n.histories) : d = .empty := by
  rcases List.mem_append.mp hd with hd | hd
  · obtain ⟨w, hw, rfl⟩ := List.mem_map.mp hd
    exact hn.downtimes_eq_of_mem w hw
  · rw [List.mem_singleton.mp hd]
    exact hn.downtimes_eq

theorem fresh_new (name : String) : (new name).Fresh :=
  ⟨rfl, by simp [all, new, PerKind.const, PerKind.toList]⟩

/-- A namespace stays fresh if a workload with an empty history is added. -/
theorem Fresh.add {n : Namespace} (hn : n.Fresh) {w : Workload} (hw : w.downtimes = .empty) :
    (n.add w).Fresh := by
  refine ⟨hn.downtimes_eq, ?_⟩
  intro v hv
  obtain ⟨k, hk⟩ := mem_all.mp hv
  rcases eq_or_ne k w.kind with rfl | hne
  · rw [Namespace.add, PerKind.get_modify_self, List.mem_append, List.mem_singleton] at hk
    rcases hk with hk | rfl
    · exact hn.downtimes_eq_of_mem v (mem_all.mpr ⟨_, hk⟩)
    · exact hw
  · rw [Namespace.add, PerKind.get_modify_of_ne _ _ hne] at hk
    exact hn.downtimes_eq_of_mem v (mem_all.mpr ⟨k, hk⟩)

end Namespace

/-! ### Trackers -/

namespace Tracker

/-- A tracker after a call, unless that overflows. -/
def call (t : Tracker) : Call → Except Overflow Tracker
  | .reconcile s now => (t.reconcile s now).outcome
  | .finalize now => t.finalize now
  | .recompute => t.recompute

/-- A tracker after calls, unless one of them overflows. -/
def after (t : Tracker) (calls : List Call) : Except Overflow Tracker := calls.foldlM call t

theorem after_cons (t : Tracker) (c : Call) (rest : List Call) :
    t.after (c :: rest) = t.call c >>= fun u => u.after rest := List.foldlM_cons

theorem after_append (t : Tracker) (first second : List Call) :
    t.after (first ++ second) = t.after first >>= fun u => u.after second := List.foldlM_append

/-- Two calls in a row. -/
theorem after_pair {t u v : Tracker} {first second : Call} (hu : t.call first = .ok u)
    (hv : u.call second = .ok v) : t.after [first, second] = .ok v :=
  bind_eq_ok_iff.mpr ⟨u, hu, bind_eq_ok_iff.mpr ⟨v, hv, rfl⟩⟩

/-- What a call makes of a tracker if it does not overflow. -/
def called (t : Tracker) (c : Call) : Tracker :=
  { t with namespaces := t.namespaces.map (Namespace.called · c) }

theorem eq_called_of_call {t u : Tracker} {c : Call} (h : t.call c = .ok u) : u = t.called c := by
  cases c with
  | reconcile s now =>
    rw [call, outcome_reconcile] at h
    cases ha : (announce (t.transitions s now)).outcome with
    | error e => simp [ha, Except.map] at h
    | ok _ =>
      rw [ha] at h
      exact (Except.ok.inj h).symm
  | finalize now =>
    obtain ⟨_, _, hc⟩ := bind_eq_ok_iff.mp h
    exact (Except.ok.inj hc).symm
  | recompute =>
    obtain ⟨_, _, hc⟩ := bind_eq_ok_iff.mp h
    exact (Except.ok.inj hc).symm

/-- A tracker after calls that do not overflow. -/
theorem eq_foldl_called_of_after {t u : Tracker} {calls : List Call} (h : t.after calls = .ok u) :
    u = calls.foldl called t := by
  induction calls generalizing t with
  | nil => exact (Except.ok.inj h).symm
  | cons c rest ih =>
    rw [after_cons] at h
    obtain ⟨v, hv, hu⟩ := bind_eq_ok_iff.mp h
    rw [List.foldl_cons, ← eq_called_of_call hv]
    exact ih hu

theorem namespaces_foldl_called (t : Tracker) (calls : List Call) :
    (calls.foldl called t).namespaces =
      t.namespaces.map (calls.foldl Namespace.called ·) := by
  induction calls generalizing t with
  | nil => simp
  | cons c rest ih =>
    rw [List.foldl_cons, ih, called, List.map_map]
    rfl

/-- Calls that do not overflow treat each namespace by itself. -/
theorem namespaces_of_after {t u : Tracker} {calls : List Call} (h : t.after calls = .ok u) :
    u.namespaces = t.namespaces.map (calls.foldl Namespace.called ·) := by
  rw [eq_foldl_called_of_after h, namespaces_foldl_called]

/-- A property of histories that observations keep at the times of calls is kept by the calls. -/
theorem forall_histories_foldl_called {p : Downtimes → Prop} {t : Tracker}
    (ht : ∀ d ∈ t.histories, p d) {calls : List Call}
    (hcalls : ∀ now ∈ calls.filterMap Call.now?, ∀ d e, Downtimes.Polled now d e → p d → p e) :
    ∀ e ∈ (calls.foldl called t).histories, p e := by
  induction calls generalizing t with
  | nil => exact ht
  | cons c rest ih =>
    obtain ⟨hc, hrest⟩ := forall_now?_cons.mp hcalls
    refine ih ?_ hrest
    intro e he
    obtain ⟨m, hm, he⟩ := List.mem_flatMap.mp he
    obtain ⟨n, hn, rfl⟩ := List.mem_map.mp hm
    exact Namespace.forall_histories_called
      (fun d hd => ht d (List.mem_flatMap.mpr ⟨n, hn, hd⟩)) hc e he

/-- After the end of everything no interval is open. -/
theorem isOpen_histories_called_finalize (now : Int) (t : Tracker) :
    ∀ d ∈ (t.called (.finalize now)).histories, d.isOpen = false := by
  intro d hd
  obtain ⟨m, hm, hd⟩ := List.mem_flatMap.mp hd
  obtain ⟨n, -, rfl⟩ := List.mem_map.mp hm
  have hclosed : d ∈ n.histories.map (·.markUp now) := n.histories_called_finalize now ▸ hd
  obtain ⟨e, -, rfl⟩ := List.mem_map.mp hclosed
  exact Downtimes.isOpen_observe true now e

/-- The workload at a place: the position of its namespace, its kind, and its position among the
workloads of that kind there. -/
def workload? (t : Tracker) (i : Nat) (k : Kind) (j : Nat) : Option Workload :=
  t.namespaces[i]?.bind fun n => (n.workloads.get k)[j]?

/-- Calls that do not overflow leave every workload in its place. -/
theorem workload?_of_after {t u : Tracker} {calls : List Call} (h : t.after calls = .ok u)
    (i : Nat) (k : Kind) (j : Nat) :
    u.workload? i k j = (t.workload? i k j).map (calls.foldl Workload.called ·) := by
  rw [workload?, namespaces_of_after h, List.getElem?_map, workload?]
  cases t.namespaces[i]? with
  | none => rfl
  | some n => simp [Namespace.workloads_foldl_called]

/-- So does one call. -/
theorem workload?_of_call {t u : Tracker} {c : Call} (h : t.call c = .ok u) (i : Nat) (k : Kind)
    (j : Nat) : u.workload? i k j = (t.workload? i k j).map (Workload.called · c) := by
  have hafter : t.after [c] = .ok u := bind_eq_ok_iff.mpr ⟨u, h, rfl⟩
  exact workload?_of_after hafter i k j

theorem mem_all_of_workload? {t : Tracker} {i j : Nat} {k : Kind} {w : Workload}
    (h : t.workload? i k j = some w) : ∃ n ∈ t.namespaces, w ∈ n.all := by
  obtain ⟨n, hn, hw⟩ := Option.bind_eq_some_iff.mp h
  exact ⟨n, List.mem_of_getElem? hn, Namespace.mem_all.mpr ⟨k, List.mem_of_getElem? hw⟩⟩

/-! ### The start -/

theorem fresh_adopt {l : List Namespace} (hl : ∀ n ∈ l, n.Fresh) {w : Workload}
    (hw : w.downtimes = .empty) : ∀ n ∈ adopt w l, n.Fresh := by
  induction l with
  | nil => exact hl
  | cons m rest ih =>
    rw [List.forall_mem_cons] at hl
    rw [adopt]
    split
    · exact List.forall_mem_cons.mpr ⟨hl.1.add hw, hl.2⟩
    · exact List.forall_mem_cons.mpr ⟨hl.1, ih hl.2⟩

theorem fresh_foldl_adopt {ws : List Workload} (hw : ∀ w ∈ ws, w.downtimes = .empty)
    {l : List Namespace} (hl : ∀ n ∈ l, n.Fresh) :
    ∀ n ∈ ws.foldl (fun ns w => adopt w ns) l, n.Fresh := by
  induction ws generalizing l with
  | nil => exact hl
  | cons w rest ih =>
    rw [List.forall_mem_cons] at hw
    exact ih hw.2 (fresh_adopt hl hw.1)

/-- At the start every history is empty. -/
theorem fresh_of_ofSnapshot {s : Snapshot} {start : Int} {t : Tracker}
    (h : ofSnapshot s start = .ok t) : ∀ n ∈ t.namespaces, n.Fresh := by
  obtain ⟨-, rfl⟩ := ofSnapshot_eq_ok_iff.mp h
  apply fresh_foldl_adopt
  · intro w hw
    obtain ⟨k, _, hk⟩ := List.mem_flatMap.mp hw
    obtain ⟨r, _, rfl⟩ := List.mem_map.mp hk
    rfl
  · intro n hn
    obtain ⟨name, _, rfl⟩ := List.mem_map.mp hn
    exact Namespace.fresh_new name

theorem eq_empty_of_mem_histories {s : Snapshot} {start : Int} {t : Tracker}
    (h : ofSnapshot s start = .ok t) {d : Downtimes} (hd : d ∈ t.histories) : d = .empty := by
  obtain ⟨n, hn, hd⟩ := List.mem_flatMap.mp hd
  exact (fresh_of_ofSnapshot h n hn).eq_empty_of_mem_histories hd

/-- Calls leave every history orderly, whatever their times. -/
theorem orderly_foldl_called {s : Snapshot} {start : Int} {t : Tracker}
    (h : ofSnapshot s start = .ok t) (calls : List Call) :
    ∀ d ∈ (calls.foldl called t).histories, d.Orderly := by
  refine forall_histories_foldl_called ?_ fun _ _ _ _ hpoll hd => hpoll.orderly hd
  intro d hd
  rw [eq_empty_of_mem_histories h hd]
  exact Downtimes.orderly_empty

end Tracker

/-! ### A small cluster -/

namespace Snapshot

/-- A snapshot of one namespace with some deployments, each with its number of ready replicas. -/
def shop (ready : List (String × Int)) : Snapshot :=
  .ofListings (.records ["shop"])
    [(.deploymentConfig, .empty),
      (.deployment, .ofList (ready.map fun r => ⟨r.1, "shop", some r.2, some 1⟩)),
      (.statefulSet, .empty)]

/-- A snapshot that tells nothing. -/
def dark : Snapshot := .ofListings (.failed "timeout") []

end Snapshot

/-- The tracker of that namespace, with some deployments. -/
def Tracker.shop (names : List String) : Tracker :=
  ⟨[⟨"shop", ⟨[], names.map (.new .deployment "shop"), []⟩, .empty, 0⟩], 0⟩

end OutageWatch
