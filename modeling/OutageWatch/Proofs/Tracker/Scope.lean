import Mathlib.Data.List.Nodup
import OutageWatch.Proofs.Cluster.Snapshots
import OutageWatch.Proofs.Tracker.Growth

/-!
# What is tracked

A tracker starts from a snapshot that leaves nothing open, and what is in this snapshot settles for
good what is tracked.  The namespaces are those that were listed, in their order.  A workload
belongs to the first namespace of its name: the namespaces are asked one by one whether they adopt
it, so the first of them takes all workloads of its name and leaves all others to those behind it.
From this it follows, by induction on the namespaces, what each of them holds.

Calls change histories and totals, but never what they belong to.

## Main definitions

* `Namespace.outline` : what a namespace holds, but for its histories and totals.

## Main results

* `Tracker.foldl_adopt_cons` : the first namespace takes the workloads of its name.
* `Tracker.getElem?_foldl_adopt` : what each namespace takes.
* `Tracker.all_foldl_adopt_perm` : all that is taken.
* `Tracker.outline_of_after` : calls keep what is tracked.
* `Tracker.tracks_exactly` : what a tracker tracks, from its start on.
-/

namespace OutageWatch

namespace Namespace

/-- What a namespace holds, but for its histories and totals: its name, and what its workloads are,
kind by kind and in their order. -/
def outline (n : Namespace) : String × PerKind (List Entity) :=
  (n.name, n.workloads.map (·.map Workload.entity))

/-! ### Adding workloads -/

@[simp] theorem name_new (name : String) : (new name).name = name := rfl

/-- A workload that is added comes after those of its kind. -/
theorem get_workloads_add (w : Workload) (n : Namespace) (k : Kind) :
    (n.add w).workloads.get k = n.workloads.get k ++ [w].filter (·.kind = k) := by
  rcases eq_or_ne k w.kind with rfl | hk
  · simp [add]
  · simp [add, PerKind.get_modify_of_ne _ _ hk, hk.symm]

/-- Workloads that are added come after those of their kind, in their order. -/
theorem get_workloads_foldl_add (ws : List Workload) (n : Namespace) (k : Kind) :
    (ws.foldl (fun n w => n.add w) n).workloads.get k =
      n.workloads.get k ++ ws.filter (·.kind = k) := by
  induction ws generalizing n with
  | nil => simp
  | cons w rest ih =>
    rw [List.foldl_cons, ih, get_workloads_add, List.append_assoc, ← List.filter_append]
    rfl

/-- Nothing else is changed by workloads that are added. -/
theorem foldl_add_eq (ws : List Workload) (n : Namespace) :
    ws.foldl (fun n w => n.add w) n =
      { n with workloads := (ws.foldl (fun n w => n.add w) n).workloads } := by
  induction ws generalizing n with
  | nil => rfl
  | cons w rest ih => exact ih (n.add w)

/-- A workload that is added is there once, besides those that were there. -/
theorem all_add_perm (w : Workload) (n : Namespace) : (n.add w).all.Perm (w :: n.all) := by
  obtain ⟨kind, name, home, downtimes, seconds⟩ := w
  cases kind with
  | deploymentConfig =>
    simp [all, add, PerKind.toList, PerKind.modify]
  | deployment =>
    simpa [all, add, PerKind.toList, PerKind.modify] using
      (List.perm_middle.append_left n.workloads.deploymentConfig).trans List.perm_middle
  | statefulSet =>
    simpa [all, add, PerKind.toList, PerKind.modify] using List.perm_append_singleton _ n.all

/-! ### Calls -/

theorem outline_foldl_called (n : Namespace) (calls : List Call) :
    (calls.foldl called n).outline = n.outline := by
  rw [outline, name_foldl_called, workloads_foldl_called, outline]
  congr 1
  ext1 k
  simp [Function.comp_def]

end Namespace

namespace Tracker

/-! ### Adopting workloads -/

theorem map_name_adopt (w : Workload) (l : List Namespace) :
    (adopt w l).map Namespace.name = l.map Namespace.name := by
  induction l with
  | nil => rfl
  | cons n rest ih =>
    rw [adopt]
    split
    · rfl
    · rw [List.map_cons, ih, List.map_cons]

theorem map_name_foldl_adopt (ws : List Workload) (l : List Namespace) :
    (ws.foldl (fun ns w => adopt w ns) l).map Namespace.name = l.map Namespace.name := by
  induction ws generalizing l with
  | nil => rfl
  | cons w rest ih => rw [List.foldl_cons, ih, map_name_adopt]

/-- The first namespace takes the workloads of its name, and leaves all others to those behind
it. -/
theorem foldl_adopt_cons (ws : List Workload) (n : Namespace) (l : List Namespace) :
    ws.foldl (fun ns w => adopt w ns) (n :: l) =
      (ws.filter (·.home = n.name)).foldl (fun n w => n.add w) n ::
        (ws.filter (·.home ≠ n.name)).foldl (fun ns w => adopt w ns) l := by
  induction ws generalizing n l with
  | nil => rfl
  | cons w rest ih =>
    by_cases hw : n.name = w.home
    · have hname : (n.add w).name = n.name := rfl
      rw [List.foldl_cons, adopt, if_pos hw, ih, hname]
      simp [hw]
    · rw [List.foldl_cons, adopt, if_neg hw, ih]
      simp [Ne.symm hw]

/-- A namespace takes the workloads of its name, unless there is one of its name before it. -/
theorem getElem?_foldl_adopt {names : List String} {i : Nat} {name : String}
    (h : names[i]? = some name) (ws : List Workload) :
    (ws.foldl (fun ns w => adopt w ns) (names.map .new))[i]? =
      some ((if name ∈ names.take i then [] else ws.filter (·.home = name)).foldl
        (fun n w => n.add w) (.new name)) := by
  induction names generalizing i ws with
  | nil => contradiction
  | cons first names ih =>
    rw [List.map_cons, foldl_adopt_cons]
    cases i with
    | zero =>
      obtain rfl := Option.some.inj h
      rfl
    | succ i =>
      rw [List.getElem?_cons_succ] at h ⊢
      rw [ih h, List.take_succ_cons]
      congr 2
      by_cases hname : name = first
      · -- the first namespace has taken them all
        have hnone : (ws.filter (·.home ≠ first)).filter (·.home = name) = [] := by
          simp [hname]
        rw [Namespace.name_new, hnone, ite_self, if_pos (hname ▸ List.mem_cons_self)]
      · have hsame : (ws.filter (·.home ≠ first)).filter (·.home = name) =
            ws.filter (·.home = name) := by
          rw [List.filter_filter]
          refine List.filter_congr fun w _ => ?_
          by_cases hw : w.home = name
          · simp [hw, hname]
          · simp [hw]
        rw [Namespace.name_new, hsame]
        simp only [List.mem_cons, hname, false_or]

/-- A workload is taken once if there is a namespace of its name, and else not at all. -/
theorem all_adopt_perm (w : Workload) (l : List Namespace) :
    ((adopt w l).flatMap Namespace.all).Perm
      ([w].filter (·.home ∈ l.map Namespace.name) ++ l.flatMap Namespace.all) := by
  induction l with
  | nil => simp [adopt]
  | cons n rest ih =>
    rw [adopt]
    split
    next h =>
      simpa [h] using (n.all_add_perm w).append_right (rest.flatMap Namespace.all)
    next h =>
      have hmem : [w].filter (·.home ∈ (n :: rest).map Namespace.name) =
          [w].filter (·.home ∈ rest.map Namespace.name) := by
        refine List.filter_congr fun v hv => ?_
        simp only [List.mem_singleton.mp hv, List.map_cons, List.mem_cons, Ne.symm h, false_or]
      rw [hmem, List.flatMap_cons, List.flatMap_cons]
      exact (ih.append_left n.all).trans (List.perm_append_comm_assoc ..)

/-- All workloads are taken of which the namespace is listed, each once. -/
theorem all_foldl_adopt_perm (ws : List Workload) (l : List Namespace) :
    ((ws.foldl (fun ns w => adopt w ns) l).flatMap Namespace.all).Perm
      (ws.filter (·.home ∈ l.map Namespace.name) ++ l.flatMap Namespace.all) := by
  induction ws generalizing l with
  | nil => exact List.Perm.refl _
  | cons w rest ih =>
    have hstep := ih (adopt w l)
    rw [map_name_adopt] at hstep
    rw [List.foldl_cons, ← List.singleton_append, List.filter_append, List.append_assoc]
    exact hstep.trans (((all_adopt_perm w l).append_left _).trans (List.perm_append_comm_assoc ..))

/-! ### What a snapshot saw -/

/-- The workloads of a kind that were seen are those that were listed for it. -/
theorem filter_kind_seen (s : Snapshot) (k : Kind) :
    (seen s).filter (·.kind = k) = (s.records k).map fun r => .new k r.home r.name := by
  have hother (l : Kind) (h : l ≠ k) :
      ((s.records l).map fun r => Workload.new l r.home r.name).filter (·.kind = k) = [] := by
    simp [Workload.new, h]
  rw [seen, List.filter_flatMap, Kind.flatMap_all hother]
  simp [Workload.new]

/-- If no kind lists a workload twice, no two of those seen are the same. -/
theorem nodup_entity_seen {s : Snapshot}
    (h : ∀ k, ((s.records k).map fun r => (r.home, r.name)).Nodup) :
    ((seen s).map Workload.entity).Nodup := by
  have hentities : (seen s).map Workload.entity = Kind.all.flatMap fun k =>
      ((s.records k).map fun r => (r.home, r.name)).map fun p => Entity.workload k p.1 p.2 := by
    rw [seen, List.map_flatMap]
    simp only [List.map_map]
    rfl
  rw [hentities, List.nodup_flatMap]
  constructor
  · intro k _
    refine (h k).map fun p q hpq => ?_
    simp only [Entity.workload.injEq, true_and] at hpq
    exact Prod.ext hpq.1 hpq.2
  · have hdistinct : Kind.all.Pairwise (· ≠ ·) := by decide
    refine hdistinct.imp fun hkl e hk hl => ?_
    obtain ⟨p, -, rfl⟩ := List.mem_map.mp hk
    obtain ⟨q, -, hq⟩ := List.mem_map.mp hl
    exact hkl (Entity.workload.inj hq).1.symm

/-! ### Calls -/

/-- Calls that do not overflow keep what is tracked, and since when. -/
theorem outline_of_after {t u : Tracker} {calls : List Call} (h : t.after calls = .ok u) :
    u.start = t.start ∧
      u.namespaces.map Namespace.outline = t.namespaces.map Namespace.outline := by
  constructor
  · rw [eq_foldl_called_of_after h, start_foldl_called]
  · rw [namespaces_of_after h, List.map_map]
    exact List.map_congr_left fun n _ => n.outline_foldl_called calls

/-- **What is tracked.**  A tracker starts from a snapshot iff the namespaces and the workloads of
every kind could be listed.  It then tracks the listed namespaces in their order.  The first of each
name holds, kind by kind and in their order, the workloads that were listed in it, and any other
one holds nothing; so every workload of a listed namespace is tracked once, and no other.  All
histories are empty and all totals zero.  If no kind lists a workload twice, no two tracked
workloads are the same, even where a namespace is listed twice.  Calls leave all namespaces and
workloads in their places, and the start as it was. -/
theorem tracks_exactly (s : Snapshot) (start : Int) :
    ((∃ t, ofSnapshot s start = .ok t) ↔ s.namespaces.isFailed = false ∧
      ∀ k, ∃ l, s.listings.get k = some l ∧ l.isFailed = false) ∧
    ∀ t, ofSnapshot s start = .ok t →
      t.namespaces.map Namespace.name = s.namespaces.items ∧
      (∀ i name, s.namespaces.items[i]? = some name → ∃ n, t.namespaces[i]? = some n ∧
        n.downtimes = .empty ∧ n.downtimeInSeconds = 0 ∧
        ∀ k, n.workloads.get k = if name ∈ s.namespaces.items.take i then [] else
          ((s.records k).filter (·.home = name)).map fun r => .new k r.home r.name) ∧
      (t.namespaces.flatMap Namespace.all).Perm
        ((seen s).filter (·.home ∈ s.namespaces.items)) ∧
      ((∀ k, ((s.records k).map fun r => (r.home, r.name)).Nodup) →
        ((t.namespaces.flatMap Namespace.all).map Workload.entity).Nodup) ∧
      ∀ calls u, t.after calls = .ok u → u.start = start ∧
        u.namespaces.map Namespace.outline = t.namespaces.map Namespace.outline := by
  constructor
  · simp only [ofSnapshot_eq_ok_iff, exists_and_left, exists_eq, and_true]
    exact problems_eq_nil_iff
  · intro t ht
    obtain ⟨-, rfl⟩ := ofSnapshot_eq_ok_iff.mp ht
    have hnames : (s.namespaces.items.map Namespace.new).map Namespace.name =
        s.namespaces.items := by
      rw [List.map_map]
      exact List.map_id _
    have hnone : (s.namespaces.items.map Namespace.new).flatMap Namespace.all = [] := by
      simp [Namespace.new, Namespace.all, PerKind.const, PerKind.toList]
    have hall := all_foldl_adopt_perm (seen s) (s.namespaces.items.map .new)
    rw [hnames, hnone, List.append_nil] at hall
    refine ⟨(map_name_foldl_adopt _ _).trans hnames, ?_, hall, ?_, ?_⟩
    · intro i name hi
      refine ⟨_, getElem?_foldl_adopt hi (seen s), ?_, ?_, ?_⟩
      · rw [Namespace.foldl_add_eq]
        rfl
      · rw [Namespace.foldl_add_eq]
        rfl
      · intro k
        rw [Namespace.get_workloads_foldl_add]
        split
        · simp [Namespace.new]
        · rw [List.filter_comm, filter_kind_seen, List.filter_map]
          simp [Namespace.new, Workload.new, Function.comp_def]
    · intro hnodup
      have hsub :=
        ((seen s).filter_sublist (p := (·.home ∈ s.namespaces.items))).map Workload.entity
      exact ((hall.map Workload.entity).nodup_iff).mpr ((nodup_entity_seen hnodup).sublist hsub)
    · exact fun calls u hu => outline_of_after hu

/-- A namespace is listed twice, a workload is listed in two kinds, and one is nowhere at home. -/
def harbour : Snapshot :=
  .ofListings (.records ["shop", "yard", "shop"])
    [(.deploymentConfig, .empty),
      (.deployment, .records
        [⟨"crane", "yard", some 1, some 1⟩, ⟨"web", "shop", some 1, some 1⟩,
          ⟨"buoy", "sea", some 0, some 1⟩, ⟨"db", "shop", none, some 1⟩]),
      (.statefulSet, .records [⟨"db", "shop", some 3, some 3⟩])]

theorem tracks_exactly_harbour :
    ∃ t u first last, ofSnapshot harbour 7 = .ok t ∧
      t.namespaces[0]? = some first ∧ t.namespaces[2]? = some last ∧
      first.workloads.get .deployment =
        [.new .deployment "shop" "web", .new .deployment "shop" "db"] ∧
      last.workloads.get .deployment = [] ∧
      ((t.namespaces.flatMap Namespace.all).map Workload.entity).Nodup ∧
      t.after [.reconcile (.shop [("web", 0)]) 10, .recompute, .finalize 20] = .ok u ∧
      u.start = 7 ∧ u.namespaces.map Namespace.outline = t.namespaces.map Namespace.outline := by
  obtain ⟨t, ht, u, hu⟩ : ∃ t, ofSnapshot harbour 7 = .ok t ∧
      ∃ u, t.after [.reconcile (.shop [("web", 0)]) 10, .recompute, .finalize 20] = .ok u :=
    ⟨_, rfl, _, rfl⟩
  obtain ⟨-, hplaces, -, hnodup, hcalls⟩ := (tracks_exactly harbour 7).2 t ht
  obtain ⟨first, hfirst, -, -, hgetfirst⟩ := hplaces 0 "shop" rfl
  obtain ⟨last, hlast, -, -, hgetlast⟩ := hplaces 2 "shop" rfl
  obtain ⟨hstart, houtline⟩ := hcalls _ u hu
  refine ⟨t, u, first, last, ht, hfirst, hlast, (hgetfirst .deployment).trans (by decide),
    (hgetlast .deployment).trans (by decide), hnodup fun k => ?_, hu, hstart, houtline⟩
  cases k <;> decide

end Tracker

end OutageWatch
