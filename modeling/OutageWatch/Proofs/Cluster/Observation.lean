import OutageWatch.Proofs.Cluster.Listings

/-!
# What listed items tell about a workload

A snapshot answers for a workload from the items of a list, as they are written: the last item that
names the workload and is tracked decides, by what stands at its count of ready replicas.  Nothing
there stands for none ready, and anything but an integer tells nothing.

## Main definitions

* `WorkloadItem.Concerns` : an item is about a given workload, and tracked.
* `WorkloadItem.readiness` : what an item tells.
* `Outline`, `WorkloadItem.outline?` : all of an item that may matter.

## Main results

* `WorkloadItem.map_outline` : what is kept of the items of a list are their outlines.
* `Snapshot.observe_ofReply` : what a snapshot tells about a workload.
-/

namespace OutageWatch

open Json

/-- What a record tells about a workload. -/
structure Outline where
  home : String
  name : String
  readiness : Readiness
  deriving DecidableEq, Repr

/-- What a record tells. -/
def Record.outline (r : Record) : Outline := ⟨r.home, r.name, r.readiness⟩

/-! ### Items -/

namespace WorkloadItem

/-- An item is about a workload of a kind, and tracked. -/
def Concerns (k : Kind) (home name : String) (t : Tree) : Prop :=
  home? t = some home ∧ WorkloadItem.name t = name ∧ IsTracked k t

instance (k : Kind) (home name : String) (t : Tree) : Decidable (Concerns k home name t) :=
  inferInstanceAs (Decidable (_ ∧ _))

/-- What an item tells: nothing at its count stands for none ready, and anything but an integer
tells nothing. -/
def readiness (t : Tree) : Readiness :=
  match readyReplicas? t with
  | none => .unready
  | some u =>
    match u.integer? with
    | none => .unknown
    | some count => if count ≤ 0 then .unready else .ready

theorem readiness_eq_ready_iff {t : Tree} :
    readiness t = .ready ↔ ∃ u count, readyReplicas? t = some u ∧ u.integer? = some count ∧
      1 ≤ count := by
  rw [readiness]
  cases readyReplicas? t with
  | none => simp
  | some u =>
    cases hu : u.integer? with
    | none => simp [hu]
    | some count =>
      simp only [Option.some.injEq, exists_and_left, exists_eq_left', hu]
      split <;> simp <;> omega

theorem readiness_eq_unready_iff {t : Tree} :
    readiness t = .unready ↔ readyReplicas? t = none ∨
      ∃ u count, readyReplicas? t = some u ∧ u.integer? = some count ∧ count ≤ 0 := by
  rw [readiness]
  cases readyReplicas? t with
  | none => simp
  | some u =>
    cases hu : u.integer? with
    | none => simp [hu]
    | some count =>
      simp only [Option.some.injEq, exists_and_left, exists_eq_left', hu, reduceCtorEq, false_or]
      split <;> simp <;> omega

theorem readiness_eq_unknown_iff {t : Tree} :
    readiness t = .unknown ↔ ∃ u, readyReplicas? t = some u ∧ u.integer? = none := by
  rw [readiness]
  cases readyReplicas? t with
  | none => simp
  | some u =>
    cases hu : u.integer? with
    | none => simp [hu]
    | some count =>
      simp only [Option.some.injEq, exists_eq_left', hu, reduceCtorEq, iff_false]
      split <;> simp

/-- All of an item that may matter: nothing, unless it has a namespace and is tracked. -/
def outline? (k : Kind) (t : Tree) : Option Outline :=
  if IsTracked k t then (home? t).map fun home => ⟨home, name t, readiness t⟩ else none

theorem outline?_eq_some {k : Kind} {t : Tree} {x : Outline} :
    outline? k t = some x ↔ Concerns k x.home x.name t ∧ readiness t = x.readiness := by
  obtain ⟨home, n, told⟩ := x
  simp only [outline?, Concerns, Option.ite_none_right_eq_some, Option.map_eq_some_iff,
    Outline.mk.injEq]
  constructor
  · rintro ⟨htracked, _, hhome, rfl, hname, htold⟩
    exact ⟨⟨hhome, hname, htracked⟩, htold⟩
  · rintro ⟨⟨hhome, hname, htracked⟩, htold⟩
    exact ⟨htracked, _, hhome, rfl, hname, htold⟩

/-! ### What is kept of an item -/

/-- What a record tells is what its item tells. -/
theorem outline_record? (k : Kind) (t : Tree) (start : String) :
    (if IsListed k start t then (record? t).map Record.outline else none) =
      (outline? k t).filter fun x => Reply.startsWith start x.home := by
  rw [record?, outline?]
  cases hhome : home? t with
  | none => simp
  | some home =>
    have hlisted : IsListed k start t ↔ Reply.startsWith start home = true ∧ IsTracked k t := by
      simp [IsListed, hhome, Reply.startsWith_iff]
    have hreadiness : Record.readiness ⟨name t, home, readyCount t, desiredCount t⟩ =
        readiness t := by
      rw [Record.readiness, readyCount, readiness]
      cases readyReplicas? t <;> rfl
    by_cases ht : IsTracked k t
    · cases hstart : Reply.startsWith start home <;>
        simp [hlisted, hstart, ht, Option.filter_some, Record.outline, hreadiness]
    · simp [hlisted, ht]

/-- What is kept of the items of a list is their outlines, in their order. -/
theorem map_outline {k : Kind} {start : String} {ts : List Tree} {records : List Record}
    (h : (ts.filter (IsListed k start)).map record? = records.map some) :
    records.map Record.outline =
      (ts.filterMap (outline? k)).filter fun x => Reply.startsWith start x.home :=
  calc
    records.map Record.outline
      = (records.map some).filterMap (Option.map Record.outline) := by
        rw [List.filterMap_map, ← List.filterMap_eq_map]
        rfl
    _ = ts.filterMap fun t =>
          if IsListed k start t then (record? t).map Record.outline else none := by
        rw [← h, List.filterMap_map, List.filterMap_filter]
        simp
    _ = (ts.filterMap (outline? k)).filter fun x => Reply.startsWith start x.home := by
        simp only [outline_record?, List.filter_filterMap]

/-- The outlines of a workload are those of the items that concern it. -/
theorem filter_outline? {k : Kind} (home name : String) (ts : List Tree) :
    ((ts.filterMap (outline? k)).filter fun x => x.home = home ∧ x.name = name) =
      (ts.filter (Concerns k home name)).map fun t => ⟨home, name, readiness t⟩ := by
  induction ts with
  | nil => rfl
  | cons t ts ih =>
    by_cases ht : Concerns k home name t
    · have houtline : outline? k t = some ⟨home, name, readiness t⟩ :=
        outline?_eq_some.mpr ⟨ht, rfl⟩
      rw [List.filter_cons_of_pos (by simpa using ht), List.map_cons, ← ih,
        List.filterMap_cons_some houtline, List.filter_cons_of_pos (by simp)]
    · rw [List.filter_cons_of_neg (by simpa using ht), ← ih]
      cases houtline : outline? k t with
      | none => rw [List.filterMap_cons_none houtline]
      | some x =>
        have hx : ¬ (x.home = home ∧ x.name = name) := by
          rintro ⟨rfl, rfl⟩
          exact ht (outline?_eq_some.mp houtline).1
        rw [List.filterMap_cons_some houtline, List.filter_cons_of_neg (by simpa using hx)]

end WorkloadItem

/-! ### Observations -/

namespace Snapshot

open WorkloadItem

variable {k : Kind} {start : String} {r : Reply} {ts : List Tree} {objects : List ClusterObject}
  {after : List (Kind × Listing Record)}

/-- What a snapshot tells about a workload is what the last of its outlines tells. -/
theorem observe_eq_outline (h : r.Lists (ClusterObject.ofTree? (Reader.maxDepth - 2)) ts objects)
    (names : Listing String) (before : List (Kind × Listing Record))
    (hafter : ∀ p ∈ after, p.1 ≠ k) (home name : String) :
    (ofListings names (before ++ (k, r.workloads k start) :: after)).observe k home name =
      ((((ts.filterMap (outline? k)).filter fun x => Reply.startsWith start x.home).filter fun x =>
        x.home = home ∧ x.name = name).getLast?.map Outline.readiness).getD .unready := by
  obtain ⟨records, hrecords, hanswer⟩ := Reply.workloads_of_lists h k start
  rw [observe_ofListings names before hafter, hanswer, Listing.isFailed_ofList,
    Listing.items_ofList, ← map_outline hrecords, List.filter_map, List.getLast?_map,
    Option.map_map]
  rfl

/-- What a snapshot tells about a workload is what the last item that concerns it tells. -/
theorem observe_eq_readiness (h : r.Lists (ClusterObject.ofTree? (Reader.maxDepth - 2)) ts objects)
    (names : Listing String) (before : List (Kind × Listing Record))
    (hafter : ∀ p ∈ after, p.1 ≠ k) {home : String} (hhome : Reply.startsWith start home = true)
    (name : String) :
    (ofListings names (before ++ (k, r.workloads k start) :: after)).observe k home name =
      ((ts.filter (Concerns k home name)).getLast?.map readiness).getD .unready := by
  -- the namespace starts with the given text, so none of its outlines is dropped
  have hstart (x : Outline) :
      ((decide (x.home = home ∧ x.name = name)) && Reply.startsWith start x.home) =
        decide (x.home = home ∧ x.name = name) := by
    by_cases hx : x.home = home ∧ x.name = name
    · simp [hx, hhome]
    · simp [hx]
  rw [observe_eq_outline h names before hafter, List.filter_filter]
  simp only [hstart, filter_outline?, List.getLast?_map, Option.map_map]
  rfl

variable (k start)

/-- **What a snapshot tells about a workload is decided by the last item that concerns it.**

Of a list in a reply, the items concern a workload that name its namespace and its name and are
tracked.  If there are none, the workload counts as down.  Otherwise what stands at the count of
ready replicas of the last one decides: an integer of at least one means up, an integer of at most
zero or nothing at all means down, and anything else tells nothing.

Nothing but the outlines of the items matters, to any observation.  An item without a namespace has
none, and only for deployment configs it depends on how many replicas are wanted. -/
theorem observe_ofReply
    (h : r.Lists (ClusterObject.ofTree? (Reader.maxDepth - 2)) ts objects)
    (names : Listing String) (before : List (Kind × Listing Record))
    (hafter : ∀ p ∈ after, p.1 ≠ k) :
    let told (r : Reply) :=
      (ofListings names (before ++ (k, r.workloads k start) :: after)).observe k
    (∀ home name, Reply.startsWith start home = true →
      ((∀ t ∈ ts, ¬ Concerns k home name t) → told r home name = .unready) ∧
      ∀ earlier t later, ts = earlier ++ t :: later → Concerns k home name t →
        (∀ u ∈ later, ¬ Concerns k home name u) →
        (told r home name = .ready ↔
          ∃ u count, readyReplicas? t = some u ∧ u.integer? = some count ∧ 1 ≤ count) ∧
        (told r home name = .unready ↔ readyReplicas? t = none ∨
          ∃ u count, readyReplicas? t = some u ∧ u.integer? = some count ∧ count ≤ 0) ∧
        (told r home name = .unknown ↔
          ∃ u, readyReplicas? t = some u ∧ u.integer? = none)) ∧
    (∀ t, home? t = none → outline? k t = none) ∧
    (k ≠ .deploymentConfig →
      ∀ t, outline? k t = (home? t).map fun home => ⟨home, name t, readiness t⟩) ∧
    ∀ r' ts' objects', Reply.Lists (ClusterObject.ofTree? (Reader.maxDepth - 2)) r' ts' objects' →
      ts'.filterMap (outline? k) = ts.filterMap (outline? k) →
      ∀ home name, told r' home name = told r home name := by
  intro told
  have htold {home : String} (hhome : Reply.startsWith start home = true) (name : String) :
      told r home name =
        ((ts.filter (Concerns k home name)).getLast?.map readiness).getD .unready :=
    observe_eq_readiness h names before hafter hhome name
  refine ⟨fun home name hhome => ⟨fun hnone => ?_, fun earlier t later hts ht hlater => ?_⟩,
    fun t ht => ?_, fun hk t => ?_, fun r' ts' objects' h' houtlines home name => ?_⟩
  · have hnil : ts.filter (Concerns k home name) = [] :=
      List.filter_eq_nil_iff.mpr fun t ht => by simpa using hnone t ht
    rw [htold hhome, hnil]
    rfl
  · have hlast : (ts.filter (Concerns k home name)).getLast? = some t := by
      have hnil : later.filter (Concerns k home name) = [] :=
        List.filter_eq_nil_iff.mpr fun u hu => by simpa using hlater u hu
      rw [hts, List.filter_append, List.filter_cons_of_pos (by simpa using ht), hnil]
      exact List.getLast?_concat
    rw [htold hhome, hlast]
    exact ⟨readiness_eq_ready_iff, readiness_eq_unready_iff, readiness_eq_unknown_iff⟩
  · rw [outline?, ht]
    exact ite_self _
  · exact if_pos fun h => hk h.1
  · exact (observe_eq_outline h' names before hafter home name).trans
      (houtlines ▸ (observe_eq_outline h names before hafter home name).symm)

end Snapshot

/-! ### The cranes of the yard -/

namespace WorkloadItem

theorem concerns_craneTree {c : Option String × Int} :
    Concerns .deployment "yard" "crane" (craneTree c) ↔ c.1 = some "yard" := by
  simp [Concerns, home?_craneTree, name_craneTree, IsTracked]

end WorkloadItem

/-- The crane in the yard is up, since two of it are ready in the end. -/
theorem Snapshot.observe_ofReply_cranes :
    (ofListings (.records ["yard"])
      [(.deployment, craneReply.workloads .deployment "ya")]).observe .deployment "yard" "crane" =
      .ready := by
  have hafter : ∀ p ∈ ([] : List (Kind × Listing Record)), p.1 ≠ .deployment := by simp
  obtain ⟨hlast, -⟩ :=
    observe_ofReply .deployment "ya" lists_craneReply (.records ["yard"]) [] hafter
  refine ((hlast "yard" "crane" (by decide)).2 [craneTree (some "yard", 0)]
    (craneTree (some "yard", 2)) [craneTree (none, 0)] rfl ?_ ?_).1.mpr ?_
  · exact WorkloadItem.concerns_craneTree.mpr rfl
  · simp [WorkloadItem.concerns_craneTree]
  · exact ⟨_, 2, readyReplicas?_craneTree _, Tree.integer?_ofInt (by decide),
      by decide⟩

end OutageWatch
