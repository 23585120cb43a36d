import OutageWatch.Proofs.Cluster.Snapshots
import OutageWatch.Proofs.Query.Rounds
import OutageWatch.Proofs.Tracker.Calls
import OutageWatch.Monitor.Basic

/-!
# Late queries

A query that was given up leaves a gap in the snapshot of its round, and nothing else: what the
other queries found is what they would have found had all answers been there at once.  A gap tells a
tracker nothing, so the workloads of that kind stay as they are, and all others become what they
would have become.

## Main definitions

* `Snapshot.listing?` : what a query found.
* `Snapshot.FailsOn` : one snapshot is another one with gaps.
* `Answers.atOnce` : the same answers without delays.

## Main results

* `Snapshot.FailsOn.observed_eq`, `Snapshot.FailsOn.transition_eq` : what a gap does to a workload.
* `Answers.failsOn_snapshot` : a round leaves gaps for its late queries.
* `Tracker.workload?_of_after_rounds` : what rounds with gaps make of a tracker.
* `PendingRound.Runs.afterRound` : a monitor does in a round what the queries do when they overlap.
* `PendingRound.late_isolated` : late queries have no influence on others.
-/

namespace OutageWatch

/-! ### Snapshots with gaps -/

namespace Snapshot

/-- What a query found. -/
def listing? (s : Snapshot) : (q : Query) → Option (Listing q.Found)
  | .namespaces => some s.namespaces
  | .workloads k => s.listings.get k

theorem listing?_ofFound (found : (q : Query) → Listing q.Found) (q : Query) :
    (ofFound found).listing? q = some (found q) := by
  rcases q with _ | _ | _ | _ <;> rfl

/-- The index of a snapshot tells of a workload what the last of its records tells. -/
theorem find?_index_ofFound (found : (q : Query) → Listing q.Found) (k : Kind)
    (home name : String) :
    (ofFound found).index.find? (k, home, name) =
      (recordsOf home name (found (.workloads k)).items).getLast?.map Record.readiness := by
  have hlisting : (ofFound found).listings.get k = some (found (.workloads k)) :=
    listing?_ofFound found (.workloads k)
  have hindex : (ofFound found).index =
      .ofEntries (Kind.all.flatMap (entries (ofFound found).listings)) := rfl
  rw [hindex, Index.find?_ofEntries, filter_entries, hlisting, List.getLast?_map, Option.map_map,
    Option.elim_some]
  rfl

/-- What a snapshot tells about a workload depends on what the query for its kind found. -/
theorem observe_ofFound (found : (q : Query) → Listing q.Found) (k : Kind) (home name : String) :
    (ofFound found).observe k home name =
      if (found (.workloads k)).isFailed then .unknown
      else ((recordsOf home name (found (.workloads k)).items).getLast?.map
        Record.readiness).getD .unready := by
  have hlisting : (ofFound found).listings.get k = some (found (.workloads k)) :=
    listing?_ofFound found (.workloads k)
  rw [observe, isConclusiveFor, hlisting, find?_index_ofFound, Option.any_some]
  cases (found (.workloads k)).isFailed <;> rfl

/-- A snapshot is another one with gaps: some queries failed, for a reason if there is one, and are
missing from the index; whatever belongs to the others is the same. -/
structure FailsOn (late : Query → Bool) (reason : Option String) (p s : Snapshot) : Prop where
  failed : ∀ q, late q = true → ∃ r ∈ reason, s.listing? q = some (.failed r)
  same : ∀ q, late q = false → s.listing? q = p.listing? q
  index : ∀ k home name, s.index.find? (k, home, name) =
    if late (.workloads k) then none else p.index.find? (k, home, name)

theorem failsOn_ofFound {late : Query → Bool} {reason : Option String}
    {found others : (q : Query) → Listing q.Found}
    (hfailed : ∀ q, late q = true → ∃ r ∈ reason, others q = .failed r)
    (hsame : ∀ q, late q = false → others q = found q) :
    FailsOn late reason (ofFound found) (ofFound others) where
  failed q hq := by
    obtain ⟨r, hr, hother⟩ := hfailed q hq
    exact ⟨r, hr, by rw [listing?_ofFound, hother]⟩
  same q hq := by rw [listing?_ofFound, listing?_ofFound, hsame q hq]
  index k home name := by
    rw [find?_index_ofFound, find?_index_ofFound]
    cases hk : late (.workloads k) with
    | false => rw [hsame _ hk]; rfl
    | true =>
      obtain ⟨r, -, hother⟩ := hfailed _ hk
      rw [hother]
      rfl

namespace FailsOn

variable {late : Query → Bool} {reason : Option String} {p s : Snapshot}

/-- A gap tells nothing, and everything else is told as before. -/
theorem observe_eq (h : FailsOn late reason p s) (k : Kind) (home name : String) :
    s.observe k home name = if late (.workloads k) then .unknown else p.observe k home name := by
  cases hk : late (.workloads k) with
  | true =>
    obtain ⟨r, -, hfailed⟩ := h.failed _ hk
    have hget : s.listings.get k = some (.failed r) := hfailed
    simp [observe, isConclusiveFor, hget, Listing.isFailed]
  | false =>
    have hget : s.listings.get k = p.listings.get k := h.same _ hk
    rw [observe, isConclusiveFor, hget, h.index, hk]
    rfl

theorem up?_eq (h : FailsOn late reason p s) (w : Workload) :
    w.up? s = if late (.workloads w.kind) then none else w.up? p := by
  rw [Workload.up?, h.observe_eq]
  split <;> rfl

/-- A gap leaves the workloads of its kind as they are, and all others become what they would have
become. -/
theorem observed_eq (h : FailsOn late reason p s) (now : Int) (w : Workload) :
    w.observed s now = if late (.workloads w.kind) then w else w.observed p now := by
  rw [Workload.observed, h.up?_eq]
  cases late (.workloads w.kind) <;> rfl

/-- The same holds of what is said about them, and of what overflows. -/
theorem transition_eq (h : FailsOn late reason p s) (now : Int) (w : Workload) :
    w.transition s now =
      if late (.workloads w.kind) then .ok .unchanged else w.transition p now := by
  rw [Workload.transition, h.up?_eq]
  cases late (.workloads w.kind) <;> rfl

end FailsOn

end Snapshot

/-! ### Rounds with late queries -/

/-- A query that is answered at once is never late. -/
theorem Answer.within_atOnce {α : Type} (deadline : Option Duration) (l : Listing α) :
    within deadline ⟨l, none⟩ = l := by
  cases deadline <;> rfl

namespace Answers

variable {deadline : Option Duration} {a : Answers}

/-- The same answers without delays. -/
def atOnce (a : Answers) : Answers :=
  ⟨⟨a.namespaces.listing, none⟩, a.workloads.map fun r => ⟨r.listing, none⟩⟩

theorem get_atOnce (a : Answers) (q : Query) : a.atOnce.get q = ⟨(a.get q).listing, none⟩ := by
  rcases q with _ | _ | _ | _ <;> rfl

/-- Without delays a snapshot is made from what the queries are answered. -/
theorem snapshot_atOnce (deadline : Option Duration) (a : Answers) :
    a.atOnce.snapshot deadline = .ofFound fun q => (a.get q).listing := by
  have hwithin (q : Query) : (a.atOnce.get q).within deadline = (a.get q).listing := by
    rw [get_atOnce, Answer.within_atOnce]
  rw [snapshot_eq_ofFound, funext hwithin]

/-- A round leaves gaps for its late queries. -/
theorem failsOn_snapshot (deadline : Option Duration) (a : Answers) :
    Snapshot.FailsOn (fun q => (a.get q).isLate deadline) (deadline.map Answer.lateReason)
      (a.atOnce.snapshot deadline) (a.snapshot deadline) := by
  rw [snapshot_atOnce, snapshot_eq_ofFound]
  refine Snapshot.failsOn_ofFound (fun q hq => ?_) fun q hq => ?_
  · obtain ⟨limit, rfl, -⟩ := Answer.isLate_iff.mp hq
    exact ⟨_, rfl, (Answer.of_isLate hq).2⟩
  · exact (Answer.of_isLate_eq_false hq).2

/-- What a snapshot has of a query depends on what this query is answered. -/
theorem listing?_snapshot (deadline : Option Duration) (a : Answers) (q : Query) :
    (a.snapshot deadline).listing? q = some ((a.get q).within deadline) := by
  rw [snapshot_eq_ofFound, Snapshot.listing?_ofFound]

/-- What a snapshot tells about a workload depends on what the query for its kind is answered. -/
theorem observe_snapshot_congr {b : Answers} {k : Kind}
    (h : b.get (.workloads k) = a.get (.workloads k)) (home name : String) :
    (b.snapshot deadline).observe k home name = (a.snapshot deadline).observe k home name := by
  rw [snapshot_eq_ofFound, Snapshot.observe_ofFound, snapshot_eq_ofFound, Snapshot.observe_ofFound,
    h]

end Answers

namespace Tracker

variable {deadline : Option Duration} {t u : Tracker} {i j : Nat} {k : Kind} {w : Workload}

/-- Rounds reach a workload with the answers of those in which its kind was not late, as if all of
their answers had been there at once. -/
theorem workload?_of_after_rounds {rounds : List (Answers × Int)}
    (h : t.after (rounds.map fun r => .reconcile (r.1.snapshot deadline) r.2) = .ok u)
    (hw : t.workload? i k j = some w) :
    u.workload? i k j = some ((rounds.filter fun r =>
      !(r.1.get (.workloads w.kind)).isLate deadline).foldl
        (fun v r => v.observed (r.1.atOnce.snapshot deadline) r.2) w) := by
  rw [workload?_of_after h, hw, Option.map_some, List.foldl_map]
  congr 1
  clear h hw
  induction rounds generalizing w with
  | nil => rfl
  | cons r rest ih =>
    have hkind : (w.observed (r.1.snapshot deadline) r.2).kind = w.kind := by
      have hentity := w.entity_called (.reconcile (r.1.snapshot deadline) r.2)
      simp only [Workload.entity, Entity.workload.injEq] at hentity
      exact hentity.1
    rw [List.foldl_cons, Workload.called, ih, hkind, (r.1.failsOn_snapshot deadline).observed_eq]
    cases hlate : (r.1.get (.workloads w.kind)).isLate deadline <;> simp [hlate]

end Tracker

/-! ### Rounds of a monitor -/

namespace PendingRound

variable {deadline : Option Duration} {a : Answers} {n : Nat} {s : PendingRound} {f : Snapshot}

/-- A monitor does in a round what the queries do when they overlap. -/
theorem Runs.afterRound {w : World} {c : Settings} {j : Journal}
    (h : Runs c.queryTimeout (w.answers (j.rounds + 1)) n s) (hf : s.snapshot? = some f) :
    j.nextSnapshot w c = f ∧
    j.afterRound w c = { j with
      actions := j.actions ++ s.sent.map .query
      elapsed := j.elapsed + s.elapsed
      rounds := j.rounds + 1 } := by
  obtain ⟨hsent, helapsed, rfl⟩ := h.eq_of_snapshot? hf
  rw [hsent, helapsed]
  exact ⟨rfl, rfl⟩

variable (deadline a)

/-- **Late queries have no influence on others.**  Whatever the queries are answered, after whatever
time and in whatever order they are settled, a round ends: it goes on as long as there is no
snapshot, and cannot go on for ever.  By then every query was sent exactly once, and the snapshot is
the one of the same answers without delays, with gaps for the late queries only, which are those of
which the delay is longer than the deadline.

It changes nothing about the workloads of a late kind, and about all others what would have changed
without delays, overflows included.  So a tracker that is reconciled with it and does not overflow
keeps the workloads of a late kind as they are, and makes of every other workload what it would have
made of it without delays. -/
theorem late_isolated :
    let late (q : Query) := (a.get q).isLate deadline
    let prompt := a.atOnce.snapshot deadline
    (∀ q, late q = true ↔
      ∃ limit ∈ deadline, ∃ delay ∈ (a.get q).delay, limit.milliseconds < delay) ∧
    (∀ n s, Runs deadline a n s → n ≤ 8 + a.duration deadline ∧
      (s.snapshot? = none → ∃ t, Step deadline a s t) ∧
      ∀ f, s.snapshot? = some f → f = a.snapshot deadline ∧ s.elapsed = a.duration deadline ∧
        s.sent = [.namespaces, .workloads .deploymentConfig, .workloads .deployment,
          .workloads .statefulSet]) ∧
    Snapshot.FailsOn late (deadline.map Answer.lateReason) prompt (a.snapshot deadline) ∧
    (∀ (b : Answers) q, b.get q = a.get q →
      (b.snapshot deadline).listing? q = (a.snapshot deadline).listing? q) ∧
    (∀ (b : Answers) k, b.get (.workloads k) = a.get (.workloads k) → ∀ home name,
      (b.snapshot deadline).observe k home name = (a.snapshot deadline).observe k home name) ∧
    (∀ w now, Workload.transition (a.snapshot deadline) now w =
      if late (.workloads w.kind) then .ok .unchanged else w.transition prompt now) ∧
    ∀ t u now, Tracker.call t (.reconcile (a.snapshot deadline) now) = .ok u →
      ∀ i k j w, t.workload? i k j = some w →
        (late (.workloads w.kind) = true → u.workload? i k j = some w) ∧
        (late (.workloads w.kind) = false → u.workload? i k j = some (w.observed prompt now) ∧
          ∀ v, t.call (.reconcile prompt now) = .ok v →
            u.workload? i k j = v.workload? i k j) := by
  intro late prompt
  have hfails := a.failsOn_snapshot deadline
  refine ⟨fun q => Answer.isLate_iff, fun n s h => ⟨h.steps_le, h.exists_step, fun f hf => ?_⟩,
    hfails, fun b q hq => ?_, fun b k hk => Answers.observe_snapshot_congr hk,
    fun w now => hfails.transition_eq now w, fun t u now hu i k j w hw => ?_⟩
  · obtain ⟨hsent, helapsed, hsnapshot⟩ := h.eq_of_snapshot? hf
    exact ⟨hsnapshot, helapsed, hsent⟩
  · rw [Answers.listing?_snapshot, hq, Answers.listing?_snapshot]
  · have hplace {s : Snapshot} {x : Tracker} (hx : t.call (.reconcile s now) = .ok x) :
        x.workload? i k j = some (w.observed s now) := by
      rw [Tracker.workload?_of_call hx, hw]
      rfl
    have hobserved : w.observed (a.snapshot deadline) now =
        if late (.workloads w.kind) then w else w.observed prompt now :=
      hfails.observed_eq now w
    rw [hplace hu, hobserved]
    constructor
    · intro hlate
      rw [if_pos hlate]
    · intro hlate
      rw [if_neg (by simp [hlate])]
      exact ⟨rfl, fun v hv => (hplace hv).symm⟩

/-- In a shop with a deployment and a stateful set, which are both down, the deployments are late
and the namespaces come before the stateful sets. -/
def slowShop : Answers :=
  ⟨⟨.records ["shop"], some 10⟩,
    ⟨⟨.empty, none⟩, ⟨.records [⟨"web", "shop", some 0, some 1⟩], some 80⟩,
      ⟨.records [⟨"db", "shop", some 0, some 1⟩], some 30⟩⟩⟩

/-- The tracker of this shop, when both were up. -/
def slowShopTracker : Tracker :=
  ⟨[⟨"shop", ⟨[], [.new .deployment "shop" "web"], [.new .statefulSet "shop" "db"]⟩, .empty, 0⟩],
    0⟩

/-- After 50 milliseconds only the stateful set is seen to be down. -/
theorem late_isolated_slowShop :
    ∃ n s f u, Runs (some ⟨0, 49000001⟩) slowShop n s ∧ s.snapshot? = some f ∧ s.elapsed = 50 ∧
      slowShopTracker.call (.reconcile f 7) = .ok u ∧
      u.workload? 0 .deployment 0 = some (.new .deployment "shop" "web") ∧
      u.workload? 0 .statefulSet 0 = some ⟨.statefulSet, "db", "shop", ⟨[⟨7, none⟩]⟩, 0⟩ := by
  obtain ⟨-, hruns, -, -, -, -, htracker⟩ := late_isolated (some ⟨0, 49000001⟩) slowShop
  obtain ⟨n, s, hs, hf⟩ :=
    (Runs.start : Runs (some ⟨0, 49000001⟩) slowShop 0 start).exists_snapshot?
  obtain ⟨-, -, hend⟩ := hruns n s hs
  obtain ⟨-, helapsed, -⟩ := hend _ hf
  obtain ⟨u, hu⟩ : ∃ u, slowShopTracker.call
      (.reconcile (slowShop.snapshot (some ⟨0, 49000001⟩)) 7) = .ok u := ⟨_, rfl⟩
  have hplaces := htracker slowShopTracker u 7 hu 0
  exact ⟨n, s, _, u, hs, hf, helapsed, hu, (hplaces .deployment 0 _ rfl).1 (by decide),
    ((hplaces .statefulSet 0 _ rfl).2 (by decide)).1⟩

end PendingRound

end OutageWatch
