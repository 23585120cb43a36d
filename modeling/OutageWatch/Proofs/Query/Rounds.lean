import Mathlib.Data.List.Nodup
import Mathlib.Tactic.Choose
import OutageWatch.Query

/-!
# Rounds of queries that overlap

The queries of a round are sent one after the other, and then all of them are under way at once.  A
query can be settled with its answer once that is there, and without one when the deadline has come.
Which of the queries that can be settled is settled next is left open, and so is whether that is
before the others are sent; a millisecond passes only when there is nothing else to do.

However a round goes, it never comes to a halt, it ends, and it ends with the same snapshot at the
same time: a query is settled in the very millisecond in which that becomes possible, so what it is
settled with does not depend on the others.

## Main definitions

* `Answers.get`, `Snapshot.ofFound` : what a query is answered, and the snapshot of what was found.
* `Answer.settled?` : what a query can be settled with after some time.
* `Answer.Progress` : how far a query has come.
* `PendingRound`, `PendingRound.Step`, `PendingRound.Runs` : a round under way, one step of it, and
  the steps from its start.
* `PendingRound.snapshot?` : the snapshot, once every query is settled.

## Main results

* `Answer.settled?_eq` : what a query can be settled with on the way.
* `PendingRound.Runs.sound` : how far all queries have come.
* `PendingRound.Runs.steps_le` : a round cannot go on for ever.
* `PendingRound.Runs.exists_step` : a round goes on until it ends.
* `PendingRound.Runs.eq_of_snapshot?` : how a round ends.
* `PendingRound.Runs.exists_snapshot?` : a round can go on until it ends.
-/

namespace OutageWatch

/-! ### Queries -/

/-- What a query finds. -/
@[reducible] def Query.Found : Query → Type
  | .namespaces => String
  | .workloads _ => Record

theorem Query.nodup_round : Query.round.Nodup := by decide

theorem Query.mem_round (q : Query) : q ∈ Query.round := by
  cases q with
  | namespaces => exact List.mem_cons_self
  | workloads k => exact List.mem_cons_of_mem _ (List.mem_map_of_mem k.mem_all)

/-- What a query is answered. -/
def Answers.get (a : Answers) : (q : Query) → Answer q.Found
  | .namespaces => a.namespaces
  | .workloads k => a.workloads.get k

/-- The snapshot of what the queries found. -/
def Snapshot.ofFound (found : (q : Query) → Listing q.Found) : Snapshot :=
  .ofListings (found .namespaces) (Kind.all.map fun k => (k, found (.workloads k)))

theorem Answers.snapshot_eq_ofFound (deadline : Option Duration) (a : Answers) :
    a.snapshot deadline = .ofFound fun q => (a.get q).within deadline := rfl

/-- A round takes as long as its longest query. -/
theorem Answers.duration_le_iff {a : Answers} {deadline : Option Duration} {n : Nat} :
    a.duration deadline ≤ n ↔ ∀ q, (a.get q).duration deadline ≤ n := by
  constructor
  · intro h q
    simp only [duration, PerKind.toList, List.map_cons, List.map_nil, List.foldl_cons,
      List.foldl_nil] at h
    rcases q with _ | _ | _ | _ <;> simp only [get, PerKind.get] <;> omega
  · intro h
    have hnamespaces := h .namespaces
    have hdeploymentConfig := h (.workloads .deploymentConfig)
    have hdeployment := h (.workloads .deployment)
    have hstatefulSet := h (.workloads .statefulSet)
    simp only [get, PerKind.get] at hnamespaces hdeploymentConfig hdeployment hstatefulSet
    simp only [duration, PerKind.toList, List.map_cons, List.map_nil, List.foldl_cons,
      List.foldl_nil]
    omega

/-! ### One query -/

namespace Answer

variable {α : Type} {deadline : Option Duration} {a : Answer α} {elapsed : Nat}

/-- A query is late iff it has a delay, and this is longer than the deadline. -/
theorem isLate_iff :
    a.isLate deadline = true ↔
      ∃ limit ∈ deadline, ∃ delay ∈ a.delay, limit.milliseconds < delay := by
  obtain ⟨listing, delay⟩ := a
  cases deadline with
  | none => simp [isLate]
  | some limit => cases delay <;> simp [isLate]

/-- A query that is not late takes as long as its answer, and has it. -/
theorem of_isLate_eq_false (h : a.isLate deadline = false) :
    a.duration deadline = a.delay.getD 0 ∧ a.within deadline = a.listing := by
  simp only [duration, within, h, and_self]

/-- A late query takes until the deadline, and has failed then. -/
theorem of_isLate {limit : Duration} (h : a.isLate (some limit) = true) :
    a.duration (some limit) = limit.milliseconds ∧
      a.within (some limit) = .failed (lateReason limit) := by
  simp only [duration, within, h, and_self]

/-- What a query can be settled with, some time after it was sent: with its answer if that is there,
else without one if the deadline has come. -/
def settled? (deadline : Option Duration) (elapsed : Nat) (a : Answer α) : Option (Listing α) :=
  if a.delay.getD 0 ≤ elapsed then some a.listing
  else (deadline.filter (·.milliseconds ≤ elapsed)).map fun limit => .failed (lateReason limit)

/-- A query cannot be settled before its time, and then it is settled as it should be. -/
theorem settled?_eq (hle : elapsed ≤ a.duration deadline) :
    a.settled? deadline elapsed =
      if elapsed < a.duration deadline then none else some (a.within deadline) := by
  cases hlate : a.isLate deadline with
  | false =>
    obtain ⟨hduration, hwithin⟩ := of_isLate_eq_false hlate
    rw [hduration, hwithin, settled?]
    by_cases hdelay : a.delay.getD 0 ≤ elapsed
    · rw [if_pos hdelay, if_neg (by omega)]
    · -- the answer is on its way, and the deadline comes later
      have hlimit : deadline.filter (·.milliseconds ≤ elapsed) = none := by
        rw [Option.filter_eq_none_iff]
        intro limit hmem
        cases hd : a.delay with
        | none => simp [hd] at hdelay
        | some delay =>
          have hnot : ¬ limit.milliseconds < delay := fun hlt =>
            Bool.eq_false_iff.mp hlate (isLate_iff.mpr ⟨limit, hmem, delay, hd, hlt⟩)
          rw [hd, Option.getD_some] at hdelay
          simp only [decide_eq_true_eq]
          omega
      rw [if_neg hdelay, if_pos (by omega), hlimit, Option.map_none]
  | true =>
    obtain ⟨limit, rfl, delay, hdelay, hlt⟩ := isLate_iff.mp hlate
    obtain ⟨hduration, hwithin⟩ := of_isLate hlate
    rw [hduration] at hle ⊢
    rw [hwithin, settled?, if_neg (by rw [hdelay, Option.getD_some]; omega)]
    by_cases hlimit : limit.milliseconds ≤ elapsed
    · simp [Option.filter_some, hlimit]
    · simp [Option.filter_some, hlimit]

/-- How far a query has come: it is under way and has not taken longer than it takes, or it was
sent, its time has come, and it is settled as it should be. -/
inductive Progress (deadline : Option Duration) (a : Answer α) (sent : Prop) (elapsed : Nat) :
    Option (Listing α) → Prop
  | underWay (h : elapsed ≤ a.duration deadline) : Progress deadline a sent elapsed none
  | done (hsent : sent) (h : a.duration deadline ≤ elapsed) :
    Progress deadline a sent elapsed (some (a.within deadline))

namespace Progress

variable {sent : Prop} {x : Option (Listing α)}

/-- A query comes further when it is settled. -/
theorem settle (h : a.Progress deadline sent elapsed none) (hsent : sent) {l : Listing α}
    (hl : a.settled? deadline elapsed = some l) : a.Progress deadline sent elapsed (some l) := by
  cases h with
  | underWay hle =>
    rw [settled?_eq hle] at hl
    split at hl
    next => contradiction
    next hge =>
      obtain rfl := Option.some.inj hl
      exact .done hsent (Nat.not_lt.mp hge)

/-- A query that cannot be settled yet has time for another millisecond. -/
theorem wait (h : a.Progress deadline sent elapsed x)
    (hx : x = none → a.settled? deadline elapsed = none) :
    a.Progress deadline sent (elapsed + 1) x := by
  cases h with
  | underWay hle =>
    have hnone := hx rfl
    rw [settled?_eq hle] at hnone
    split at hnone
    next hlt => exact .underWay hlt
    next => contradiction
  | done hsent hge => exact .done hsent (by omega)

theorem le_of_none (h : a.Progress deadline sent elapsed none) :
    elapsed ≤ a.duration deadline := by
  cases h with
  | underWay hle => exact hle

theorem mono (h : a.Progress deadline sent elapsed x) {later : Prop} (hsent : sent → later) :
    a.Progress deadline later elapsed x := by
  cases h with
  | underWay hle => exact .underWay hle
  | done h hge => exact .done (hsent h) hge

theorem of_some {l : Listing α} (h : a.Progress deadline sent elapsed (some l)) :
    sent ∧ a.duration deadline ≤ elapsed ∧ l = a.within deadline := by
  cases h with
  | done hsent hge => exact ⟨hsent, hge, rfl⟩

end Progress

end Answer

/-! ### Rounds under way -/

/-- A round under way: the time since its start in milliseconds, the queries that were sent, and
what each was settled with. -/
structure PendingRound where
  elapsed : Nat
  sent : List Query
  came : (q : Query) → Option (Listing q.Found)

namespace PendingRound

/-- A round at its start. -/
def start : PendingRound := ⟨0, [], fun _ => none⟩

/-- The snapshot of a round, once every query is settled. -/
def snapshot? (s : PendingRound) : Option Snapshot := do
  let namespaces ← s.came .namespaces
  let pairs ← Kind.all.mapM fun k => (s.came (.workloads k)).map (k, ·)
  return .ofListings namespaces pairs

/-- One step of a round. -/
inductive Step (deadline : Option Duration) (a : Answers) : PendingRound → PendingRound → Prop
  /-- The next query is sent. -/
  | send {s : PendingRound} {q : Query} {rest : List Query}
    (h : Query.round = s.sent ++ q :: rest) : Step deadline a s { s with sent := s.sent ++ [q] }
  /-- A query that is under way is settled. -/
  | settle {s : PendingRound} {q : Query} {l : Listing q.Found} (hsent : q ∈ s.sent)
    (hopen : s.came q = none) (h : (a.get q).settled? deadline s.elapsed = some l) :
    Step deadline a s { s with came := Function.update s.came q (some l) }
  /-- A millisecond passes: all queries were sent, some are under way, and none of these can be
  settled. -/
  | wait {s : PendingRound} (hsent : s.sent = Query.round) (hopen : ∃ q, s.came q = none)
    (h : ∀ q, s.came q = none → (a.get q).settled? deadline s.elapsed = none) :
    Step deadline a s { s with elapsed := s.elapsed + 1 }

/-- A round after some steps. -/
inductive Runs (deadline : Option Duration) (a : Answers) : Nat → PendingRound → Prop
  | start : Runs deadline a 0 start
  | step {n : Nat} {s t : PendingRound} (h : Runs deadline a n s) (hstep : Step deadline a s t) :
    Runs deadline a (n + 1) t

/-- The number of queries that are settled. -/
def settled (s : PendingRound) : Nat := Query.round.countP fun q => (s.came q).isSome

variable {deadline : Option Duration} {a : Answers} {n : Nat} {s t : PendingRound}

/-- What holds of a round on the way. -/
structure Sound (deadline : Option Duration) (a : Answers) (s : PendingRound) : Prop where
  sent : s.sent <+: Query.round
  progress : ∀ q, (a.get q).Progress deadline (q ∈ s.sent) s.elapsed (s.came q)
  elapsed_le : s.elapsed ≤ a.duration deadline

theorem sound_start : Sound deadline a start where
  sent := List.nil_prefix
  progress _ := .underWay (Nat.zero_le _)
  elapsed_le := Nat.zero_le _

theorem Step.sound (h : Step deadline a s t) (hs : Sound deadline a s) : Sound deadline a t := by
  cases h with
  | @send q rest h =>
    refine ⟨⟨rest, by simpa using h.symm⟩, fun p => ?_, hs.elapsed_le⟩
    exact (hs.progress p).mono fun hp => List.mem_append_left [q] hp
  | @settle q l hsent hopen h =>
    refine ⟨hs.sent, ?_, hs.elapsed_le⟩
    have hq := hs.progress q
    rw [hopen] at hq
    exact (Function.forall_update_iff s.came fun p x =>
      (a.get p).Progress deadline (p ∈ s.sent) s.elapsed x).mpr
        ⟨hq.settle hsent h, fun p _ => hs.progress p⟩
  | wait hsent hopen h =>
    refine ⟨hs.sent, fun q => (hs.progress q).wait (h q), ?_⟩
    obtain ⟨q, hq⟩ := hopen
    have hnext := (hs.progress q).wait (h q)
    rw [hq] at hnext
    have hle : (a.get q).duration deadline ≤ a.duration deadline :=
      Answers.duration_le_iff.mp (Nat.le_refl _) q
    exact Nat.le_trans hnext.le_of_none hle

theorem Runs.sound (h : Runs deadline a n s) : Sound deadline a s := by
  induction h with
  | start => exact sound_start
  | step _ hstep ih => exact hstep.sound ih

/-- One more query is settled. -/
theorem settled_update {q : Query} (hopen : s.came q = none) (l : Listing q.Found) :
    settled { s with came := Function.update s.came q (some l) } = s.settled + 1 := by
  rcases q with _ | _ | _ | _ <;>
    simp [settled, Query.round, Kind.all, List.countP_cons, hopen] <;> omega

/-- Every step counts: it sends a query, settles one or lets a millisecond pass. -/
theorem Runs.steps (h : Runs deadline a n s) : n = s.sent.length + s.settled + s.elapsed := by
  induction h with
  | start => rfl
  | step _ hstep ih =>
    rw [ih]
    cases hstep with
    | send h =>
      simp only [List.length_append, List.length_singleton, settled]
      omega
    | settle hsent hopen h =>
      rw [settled_update hopen]
      simp only
      omega
    | wait hsent hopen h =>
      simp only [settled]
      omega

/-- A round cannot go on for ever. -/
theorem Runs.steps_le (h : Runs deadline a n s) : n ≤ 8 + a.duration deadline := by
  have hsent : s.sent.length ≤ 4 := h.sound.sent.length_le
  have hsettled : s.settled ≤ 4 := List.countP_le_length
  have helapsed := h.sound.elapsed_le
  have hsteps := h.steps
  omega

/-- A round ends once every query is settled. -/
theorem snapshot?_eq_some_iff {f : Snapshot} : s.snapshot? = some f ↔
    ∃ found : (q : Query) → Listing q.Found, (∀ q, s.came q = some (found q)) ∧
      f = .ofFound found := by
  constructor
  · intro h
    obtain ⟨names, hnames, h⟩ := Option.bind_eq_some_iff.mp h
    obtain ⟨pairs, hpairs, h⟩ := Option.bind_eq_some_iff.mp h
    obtain rfl := Option.some.inj h
    simp only [Kind.all, List.mapM_cons, List.mapM_nil, Option.bind_eq_bind,
      Option.bind_eq_some_iff, Option.map_eq_some_iff, Option.pure_def, Option.some.injEq] at hpairs
    obtain ⟨_, ⟨c, hc, rfl⟩, _, ⟨_, ⟨d, hd, rfl⟩, _, ⟨_, ⟨e, he, rfl⟩, _, rfl, rfl⟩, rfl⟩, rfl⟩ :=
      hpairs
    refine ⟨fun
      | .namespaces => names
      | .workloads k => PerKind.get ⟨c, d, e⟩ k, ?_, rfl⟩
    rintro (_ | _ | _ | _)
    · exact hnames
    · exact hc
    · exact hd
    · exact he
  · rintro ⟨found, hfound, rfl⟩
    simp [snapshot?, hfound, Kind.all, Snapshot.ofFound]

/-- A round goes on until it ends. -/
theorem Runs.exists_step (h : Runs deadline a n s) (hs : s.snapshot? = none) :
    ∃ t, Step deadline a s t := by
  by_cases hsent : s.sent = Query.round
  · by_cases hready : ∃ q l, s.came q = none ∧ (a.get q).settled? deadline s.elapsed = some l
    · obtain ⟨q, l, hopen, hl⟩ := hready
      exact ⟨_, .settle (hsent ▸ q.mem_round) hopen hl⟩
    · have hopen : ∃ q, s.came q = none := by
        by_contra hnone
        choose found hfound using fun q => Option.ne_none_iff_exists'.mp (not_exists.mp hnone q)
        simp [snapshot?_eq_some_iff.mpr ⟨found, hfound, rfl⟩] at hs
      exact ⟨_, .wait hsent hopen fun q hq =>
        Option.eq_none_iff_forall_ne_some.mpr fun l hl => hready ⟨q, l, hq, hl⟩⟩
  · obtain ⟨rest, hrest⟩ := h.sound.sent
    cases rest with
    | nil => exact absurd (by simpa using hrest) hsent
    | cons q rest => exact ⟨_, .send hrest.symm⟩

/-- However a round goes, it ends with the same snapshot at the same time. -/
theorem Runs.eq_of_snapshot? (h : Runs deadline a n s) {f : Snapshot} (hf : s.snapshot? = some f) :
    s.sent = Query.round ∧ s.elapsed = a.duration deadline ∧ f = a.snapshot deadline := by
  obtain ⟨found, hfound, rfl⟩ := snapshot?_eq_some_iff.mp hf
  have hdone (q : Query) : q ∈ s.sent ∧ (a.get q).duration deadline ≤ s.elapsed ∧
      found q = (a.get q).within deadline :=
    Answer.Progress.of_some (hfound q ▸ h.sound.progress q)
  refine ⟨?_, ?_, ?_⟩
  · -- the queries were sent in their order, each once, so all of them were sent just once
    obtain ⟨rest, hrest⟩ := h.sound.sent
    have hdisjoint := (List.nodup_append.mp (hrest ▸ Query.nodup_round)).2.2
    have hnil : rest = [] :=
      List.eq_nil_iff_forall_not_mem.mpr fun q hq => hdisjoint q (hdone q).1 q hq rfl
    rw [← hrest, hnil, List.append_nil]
  · exact Nat.le_antisymm h.sound.elapsed_le (Answers.duration_le_iff.mpr fun q => (hdone q).2.1)
  · rw [funext fun q => (hdone q).2.2, Answers.snapshot_eq_ofFound]

/-- A round can go on until it ends. -/
theorem Runs.exists_snapshot? (h : Runs deadline a n s) :
    ∃ m t, Runs deadline a m t ∧ t.snapshot? = some (a.snapshot deadline) := by
  induction hk : 8 + a.duration deadline - n using Nat.strongRecOn generalizing n s with
  | _ k ih =>
    cases hf : s.snapshot? with
    | some f =>
      obtain ⟨-, -, rfl⟩ := h.eq_of_snapshot? hf
      exact ⟨n, s, h, hf⟩
    | none =>
      obtain ⟨t, ht⟩ := h.exists_step hf
      have hle := (h.step ht).steps_le
      exact ih _ (by omega) (h.step ht) rfl

end PendingRound

end OutageWatch
