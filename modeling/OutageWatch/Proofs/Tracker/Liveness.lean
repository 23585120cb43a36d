import OutageWatch.Proofs.Tracker.Calls

/-!
# A namespace is down iff one of its workloads is

A namespace has a history of its own, which is opened and ended apart from those of its workloads.
The two agree all the same after every call, because a call that has a time lets the history of the
namespace see how the workloads are *after* the call, whether or not the call said anything about
them; any other call leaves all histories alone.

## Main definitions

* `Namespace.Agrees` : a namespace is down iff one of its workloads is.

## Main results

* `Namespace.Agrees.called` : every call keeps this.
* `Tracker.isDown_iff_after` : so it holds in every state that a tracker can reach.
-/

namespace OutageWatch

namespace Namespace

/-- A namespace is up iff all its workloads are. -/
theorem isUp_eq_not_any (n : Namespace) : n.isUp = !n.all.any Workload.isDown := by
  rw [isUp, List.not_any_eq_all_not]

/-- The history of a namespace agrees with those of its workloads: it is down iff one of them is,
and if there are none it was never down. -/
structure Agrees (n : Namespace) : Prop where
  isDown_eq : n.isDown = !n.isUp
  downtimes_eq_of_all_eq_nil : n.all = [] → n.downtimes = .empty

namespace Agrees

variable {n : Namespace}

theorem of_fresh (hn : n.Fresh) : n.Agrees := by
  refine ⟨?_, fun _ => hn.downtimes_eq⟩
  have hup : n.isUp = true := by
    rw [isUp, List.all_eq_true]
    intro w hw
    rw [Workload.isDown, hn.downtimes_eq_of_mem w hw]
    rfl
  rw [hup, isDown, hn.downtimes_eq]
  rfl

/-- Every call keeps the history of a namespace in agreement with those of its workloads. -/
theorem called (hn : n.Agrees) (c : Call) : (n.called c).Agrees := by
  cases hc : c.now? with
  | none =>
    -- the call leaves all histories alone
    have hd : (n.called c).downtimes = n.downtimes := by rw [downtimes_called, hc]; rfl
    have hup : (n.called c).isUp = n.isUp := by
      cases c with
      | reconcile s now => contradiction
      | finalize now => contradiction
      | recompute => simp [isUp, Workload.called, Workload.isDown, Function.comp_def]
    refine ⟨?_, fun h => ?_⟩
    · rw [isDown, hd, hup]
      exact hn.isDown_eq
    · rw [hd]
      exact hn.downtimes_eq_of_all_eq_nil (by simpa using h)
  | some now =>
    have hd : (n.called c).downtimes = n.downtimes.observe (n.called c).isUp now := by
      rw [downtimes_called, hc]; rfl
    refine ⟨?_, fun h => ?_⟩
    · rw [isDown, hd, Downtimes.isOpen_observe]
    · have hup : (n.called c).isUp = true := by rw [isUp, h]; rfl
      rw [hd, hup, hn.downtimes_eq_of_all_eq_nil (by simpa using h)]
      rfl

theorem foldl_called (hn : n.Agrees) (calls : List Call) :
    (calls.foldl Namespace.called n).Agrees := by
  induction calls generalizing n with
  | nil => exact hn
  | cons c rest ih => exact ih (hn.called c)

/-- A namespace is down iff one of its workloads is. -/
theorem isDown_eq_any (hn : n.Agrees) : n.isDown = n.all.any Workload.isDown := by
  rw [hn.isDown_eq, isUp_eq_not_any, Bool.not_not]

end Agrees

end Namespace

namespace Tracker

/-- After any calls that do not overflow, the history of every namespace agrees with those of its
workloads. -/
theorem agrees_of_after {s : Snapshot} {start : Int} {t u : Tracker} {calls : List Call}
    (ht : ofSnapshot s start = .ok t) (hu : t.after calls = .ok u) :
    ∀ n ∈ u.namespaces, n.Agrees := by
  rw [namespaces_of_after hu]
  intro n hn
  obtain ⟨m, hm, rfl⟩ := List.mem_map.mp hn
  exact (Namespace.Agrees.of_fresh (fresh_of_ofSnapshot ht m hm)).foldl_called calls

/-- **A namespace is down iff one of its workloads is.**  This holds after any calls that do not
overflow; hence as many namespaces are down as have a workload that is down, and a namespace
without workloads has no interval at all. -/
theorem isDown_iff_after {s : Snapshot} {start : Int} {t u : Tracker} {calls : List Call}
    (ht : ofSnapshot s start = .ok t) (hu : t.after calls = .ok u) :
    (∀ n ∈ u.namespaces, (n.isDown = true ↔ ∃ w ∈ n.all, w.isDown = true) ∧
      (n.all = [] → n.downtimes.intervals = [])) ∧
    u.namespacesDown = (u.namespaces.filter fun n => n.all.any Workload.isDown).length := by
  have hagree := agrees_of_after ht hu
  refine ⟨?_, ?_⟩
  · intro n hn
    refine ⟨?_, fun h => ?_⟩
    · rw [(hagree n hn).isDown_eq_any, List.any_eq_true]
    · rw [(hagree n hn).downtimes_eq_of_all_eq_nil h]
      rfl
  · rw [namespacesDown, List.countP_eq_length_filter]
    congr 1
    exact List.filter_congr fun n hn => (hagree n hn).isDown_eq_any

/-- One of two workloads goes down, a poll tells nothing, and the other goes down as the first
comes up. -/
def handOverRun : List Call :=
  [.reconcile (.shop [("web", 0), ("db", 1)]) 10, .reconcile .dark 15, .recompute,
    .reconcile (.shop [("web", 1), ("db", 0)]) 20]

theorem isDown_iff_after_handOverRun :
    ∃ u, ofSnapshot (.shop [("web", 1), ("db", 1)]) 0 = .ok (shop ["web", "db"]) ∧
      (shop ["web", "db"]).after handOverRun = .ok u ∧ u.namespacesDown = 1 ∧
      ∀ n ∈ u.namespaces, n.isDown = true ↔ ∃ w ∈ n.all, w.isDown = true := by
  have ht : ofSnapshot (.shop [("web", 1), ("db", 1)]) 0 = .ok (shop ["web", "db"]) := by decide
  have h := isDown_iff_after ht (rfl : (shop ["web", "db"]).after handOverRun = .ok _)
  exact ⟨_, ht, rfl, h.2.trans (by decide), fun n hn => (h.1 n hn).1⟩

end Tracker

end OutageWatch
