import OutageWatch.Proofs.Monitor.Course

/-!
# Monitoring follows its course

The outcomes of writes are logged, but nothing else that monitoring does depends on them.  So a
session is compared with its course by all but its events.  A poll that goes through, from wherever
the course has got to, leads to where the course is next.  By induction the polls follow the course
until a check sees that a stop has been asked for, and the end follows it from there.  Conversely,
monitoring goes through if none of the calls on the tracker overflows.

## Main definitions

* `Session.Reached`, `Session.Ended` : having followed the course up to some number of polls, and
  to the end.
* `Session.Laps` : having got through some laps of the loop.

## Main results

* `Session.poll_spec`, `Session.exists_poll` : one poll.
* `Session.Laps.of_pollUntilStopped`, `Session.Reached.exists_pollUntilStopped` : all of them.
* `Session.finish_spec`, `Session.exists_finish` : the end.
* `Session.run_cases`, `Session.run_spec`, `Session.exists_run` : monitoring from its start to its
  end.
-/

namespace OutageWatch

namespace Session

variable (w : World) (c : Settings)

/-! ### Handing over reports -/

/-- The report of a poll is handed over; if it cannot be written, that is logged. -/
def handed (now : Int) (s : Session) : Session :=
  match s.write w c now with
  | (s, none) => s
  | (s, some e) => s.log [.writeFailed e.message]

/-- The last report is handed over; if it cannot be written, monitoring fails. -/
def delivered (now : Int) (s : Session) : Finished :=
  match s.write w c now with
  | (s, none) => ⟨(s.log [.finalReport c.location]).enter .stopped, none⟩
  | (s, some e) => ⟨s.enter .stopped, some e⟩

theorem unlogged_write (now : Int) (s : Session) :
    (s.write w c now).1.unlogged = s.unlogged.wrote (s.tracker.report now) := by
  unfold write
  simp only
  split <;> rfl

theorem isSome_write (now : Int) (s : Session) :
    (s.write w c now).2.isSome = (w.putProblem (s.journal.writes + 1)).isSome := by
  unfold write
  simp only [act, Journal.act]
  cases w.putProblem (s.journal.writes + 1) <;> rfl

theorem unlogged_handed (now : Int) (s : Session) :
    (s.handed w c now).unlogged = s.unlogged.wrote (s.tracker.report now) := by
  rw [← unlogged_write w c]
  unfold handed
  split
  next u h => rw [h]
  next u e h =>
    rw [h]
    rfl

theorem write_eq_handed (now : Int) (s : Session) :
    (match s.write w c now with
      | (s, none) => pure s
      | (s, some e) => pure (s.log [.writeFailed e.message]) : Except Crash Session) =
      .ok (s.handed w c now) := by
  unfold handed
  rcases s.write w c now with ⟨u, _ | e⟩ <;> rfl

theorem unlogged_delivered (now : Int) (s : Session) :
    (s.delivered w c now).session.unlogged =
      (s.unlogged.wrote (s.tracker.report now)).enter .stopped := by
  rw [← unlogged_write w c]
  unfold delivered
  split
  next u h =>
    rw [h]
    rfl
  next u e h =>
    rw [h]
    rfl

theorem isSome_failure_delivered (now : Int) (s : Session) :
    (s.delivered w c now).failure.isSome = (w.putProblem (s.journal.writes + 1)).isSome := by
  rw [← isSome_write w c now]
  unfold delivered
  split
  next u h => rw [h]
  next u e h => rw [h]

theorem write_eq_delivered (now : Int) (s : Session) :
    (match s.write w c now with
      | (s, none) => pure ⟨(s.log [.finalReport c.location]).enter .stopped, none⟩
      | (s, some e) => pure ⟨s.enter .stopped, some e⟩ : Except Crash Finished) =
      .ok (s.delivered w c now) := by
  unfold delivered
  rcases s.write w c now with ⟨u, _ | e⟩ <;> rfl

/-! ### One poll -/

/-- A call on the tracker, and then its totals are brought up to date. -/
def worked (a : Action) (r : Logged Tracker) (s : Session) : Except Crash Session := do
  let s ← s.proceed a r
  s.proceed .recompute (.lift s.tracker.recompute)

variable {w c}

theorem proceed_spec {a : Action} {r : Logged Tracker} {s u : Session}
    (h : s.proceed a r = .ok u) :
    r.outcome = .ok u.tracker ∧ u.unlogged = (s.unlogged.act a).withTracker u.tracker := by
  unfold proceed at h
  split at h
  next t ht =>
    cases h
    exact ⟨ht, rfl⟩
  next => contradiction

theorem exists_proceed {r : Logged Tracker} {t : Tracker} (h : r.outcome = .ok t) (a : Action)
    (s : Session) : ∃ u, s.proceed a r = .ok u ∧ u.tracker = t := by
  unfold proceed
  rw [h]
  exact ⟨_, rfl, rfl⟩

theorem worked_spec {a : Action} {r : Logged Tracker} {s u : Session} (h : s.worked a r = .ok u)
    {call : Call} (hr : r.outcome = s.tracker.call call) :
    s.tracker.after [call, .recompute] = .ok u.tracker ∧
      u.unlogged = ((s.unlogged.act a).act .recompute).withTracker u.tracker := by
  obtain ⟨x, hx, h⟩ := bind_eq_ok_iff.mp h
  obtain ⟨hxt, hxs⟩ := proceed_spec hx
  obtain ⟨hut, hus⟩ := proceed_spec h
  refine ⟨Tracker.after_pair (hr.symm.trans hxt) hut, ?_⟩
  rw [hus, hxs]
  rfl

theorem exists_worked {r : Logged Tracker} {s : Session} {call : Call}
    (hr : r.outcome = s.tracker.call call) {t : Tracker}
    (h : s.tracker.after [call, .recompute] = .ok t) (a : Action) :
    ∃ u, s.worked a r = .ok u := by
  obtain ⟨x, hx, h⟩ := bind_eq_ok_iff.mp h
  obtain ⟨y, hy, _⟩ := bind_eq_ok_iff.mp h
  obtain ⟨u, hu, rfl⟩ := exists_proceed (hr.trans hx) a s
  obtain ⟨v, hv, _⟩ := exists_proceed (r := .lift u.tracker.recompute) hy .recompute u
  exact ⟨v, bind_eq_ok_iff.mpr ⟨u, hu, hv⟩⟩

variable (w c) in
/-- What a poll does before it makes its calls. -/
def asked (s : Session) : Session :=
  { s.log [.polling] with journal := (s.log [.polling]).journal.afterRound w c }.readClock w

/-- A poll, step by step. -/
theorem poll_eq (s : Session) : s.poll w c =
    (s.asked w c).worked (.reconcile (s.timeAt w 0))
      (s.tracker.reconcile (s.snapshotAt w c 0) (s.timeAt w 0)) >>= fun u =>
    .ok ((u.counted.log
      [.pollComplete u.counted.polls (s.timeAt w 0) u.tracker.namespacesDown]).handed w c
        (s.timeAt w 0)) := by
  rw [worked, bind_assoc]
  unfold poll
  simp only [← write_eq_handed]
  rfl

/-- **One poll.** If no call on the tracker overflows, a poll makes its two calls and leaves its
actions behind, whatever comes of the write. -/
theorem poll_spec {s v : Session} (h : s.poll w c = .ok v) :
    s.tracker.after (s.pollCalls w c 0) = .ok v.tracker ∧ v.unlogged = s.unlogged.polled w c := by
  rw [poll_eq] at h
  obtain ⟨u, hu, h⟩ := bind_eq_ok_iff.mp h
  obtain ⟨hafter, hus⟩ : s.tracker.after (s.pollCalls w c 0) = .ok u.tracker ∧ _ :=
    worked_spec hu rfl
  have hv : v.unlogged = u.unlogged.counted.wrote (u.tracker.report (s.timeAt w 0)) := by
    rw [← Except.ok.inj h, unlogged_handed]
    rfl
  have hvt : v.unlogged.tracker = u.tracker := by
    rw [hv]
    rfl
  have hut : u.tracker = s.trackerAt w c 1 := Tracker.eq_foldl_called_of_after hafter
  refine ⟨hvt ▸ hafter, ?_⟩
  rw [hv, hus, hut]
  rfl

/-- A poll goes through if its calls on the tracker do. -/
theorem exists_poll {s : Session} {t : Tracker}
    (h : s.tracker.after (s.pollCalls w c 0) = .ok t) : ∃ v, s.poll w c = .ok v := by
  obtain ⟨u, hu⟩ := exists_worked (r := s.tracker.reconcile (s.snapshotAt w c 0) (s.timeAt w 0))
    (s := s.asked w c) rfl h (.reconcile (s.timeAt w 0))
  rw [poll_eq]
  exact ⟨_, bind_eq_ok_iff.mpr ⟨u, hu, rfl⟩⟩

/-! ### Polling until stopped -/

variable (w c) in
/-- Polling has got to where the course is after `n` polls, and no call overflowed. -/
structure Reached (s : Session) (n : Nat) (u : Session) : Prop where
  unlogged_eq : u.unlogged = s.course w c n
  after_eq : s.tracker.after (s.calls w c n) = .ok u.tracker

theorem exists_after_calls_of_le {s : Session} {m n : Nat} (hmn : m ≤ n) {t : Tracker}
    (ht : s.tracker.after (s.calls w c n) = .ok t) :
    ∃ u, s.tracker.after (s.calls w c m) = .ok u := by
  obtain ⟨k, rfl⟩ := Nat.exists_eq_add_of_le hmn
  rw [calls, List.range_add, List.flatMap_append, Tracker.after_append] at ht
  obtain ⟨u, hu, _⟩ := bind_eq_ok_iff.mp ht
  exact ⟨u, hu⟩

theorem reached_zero (events : List Event) (s : Session) : Reached w c s 0 (s.log events) :=
  ⟨(course_zero w c s).symm, rfl⟩

namespace Reached

variable {s u v : Session} {n : Nat}

/-- What was done is what the course says. -/
theorem actions_eq (h : Reached w c s n u) :
    u.journal.actions = s.journal.actions ++ (List.range n).flatMap (s.lapActions w c) :=
  congrArg (fun x => x.journal.actions) h.unlogged_eq

/-- The check sees what the course says. -/
theorem isStopped_eq (h : Reached w c s n u) :
    u.journal.isStopped w = (s.course w c n).journal.isStopped w :=
  congrArg (fun x => x.journal.isStopped w) h.unlogged_eq

/-- The calls of the next poll are those of the course. -/
theorem pollCalls_eq (h : Reached w c s n u) : u.pollCalls w c 0 = s.pollCalls w c n := by
  rw [← pollCalls_course w c s, ← h.unlogged_eq]
  rfl

theorem after_succ (h : Reached w c s n u) :
    s.tracker.after (s.calls w c (n + 1)) = u.tracker.after (u.pollCalls w c 0) := by
  rw [calls, List.range_succ, List.flatMap_append, Tracker.after_append, ← calls, h.after_eq,
    h.pollCalls_eq, List.flatMap_singleton]
  rfl

/-- A poll that goes through leads on. -/
theorem poll (h : Reached w c s n u) (hv : (u.act (.check false)).poll w c = .ok v) :
    Reached w c s (n + 1) (v.act .yield) := by
  obtain ⟨hafter, hunlogged⟩ := poll_spec hv
  constructor
  · rw [course_succ, ← h.unlogged_eq]
    change v.unlogged.act .yield = _
    rw [hunlogged]
    rfl
  · rw [h.after_succ]
    exact hafter

/-- The next poll goes through if the calls of the course do. -/
theorem exists_poll (h : Reached w c s n u) {t : Tracker}
    (ht : s.tracker.after (s.calls w c (n + 1)) = .ok t) :
    ∃ v, (u.act (.check false)).poll w c = .ok v := by
  rw [h.after_succ] at ht
  exact Session.exists_poll ht

/-- Polling follows the course to that check if no call overflows and the limit allows it. -/
theorem exists_pollUntilStopped {limit m : Nat} (h : Reached w c s n u) (hn : n ≤ m)
    (hm : m < n + limit) (hstops : s.StopsAfter w c m) {t : Tracker}
    (ht : s.tracker.after (s.calls w c m) = .ok t) :
    ∃ x, Reached w c s m x ∧ u.pollUntilStopped w c limit = .ok (some (x.act (.check true))) := by
  induction limit generalizing n u with
  | zero => omega
  | succ limit ih =>
    rw [pollUntilStopped]
    rcases Nat.eq_or_lt_of_le hn with rfl | hn
    · rw [h.isStopped_eq, hstops.isStopped_eq_true]
      exact ⟨u, h, rfl⟩
    · rw [h.isStopped_eq, hstops.isStopped_eq_false n hn]
      obtain ⟨u', hu'⟩ := exists_after_calls_of_le hn ht
      obtain ⟨v, hv⟩ := h.exists_poll hu'
      obtain ⟨x, hx, hrun⟩ := ih (h.poll hv) hn (by omega)
      exact ⟨x, hx, bind_eq_ok_iff.mpr ⟨v, hv, hrun⟩⟩

end Reached

/-! ### Laps of the loop -/

variable (w c) in
/-- Monitoring from a session gets through a number of laps of its loop.  In each it looks whether
it should stop, sees that it should not, polls once, and lets others go on. -/
inductive Laps (s : Session) : Nat → Session → Prop
  | start : Laps s 0 (s.log [.monitoring c.location])
  | lap {n : Nat} {u v : Session} (h : Laps s n u) (hstop : u.journal.isStopped w = false)
    (hpoll : (u.act (.check false)).poll w c = .ok v) : Laps s (n + 1) (v.act .yield)

namespace Laps

variable {s u : Session} {n : Nat}

/-- Every lap follows the course. -/
theorem reached (h : Laps w c s n u) : Reached w c s n u := by
  induction h with
  | start => exact reached_zero _ s
  | lap _ _ hpoll ih => exact ih.poll hpoll

/-- After fewer laps monitoring was at the head of its loop as well, and saw no reason to stop. -/
theorem exists_of_lt (h : Laps w c s n u) {k : Nat} (hk : k < n) :
    ∃ v, Laps w c s k v ∧ v.journal.isStopped w = false := by
  induction h with
  | start => omega
  | @lap n u v hu hstop _ ih =>
    rcases Nat.lt_succ_iff_lt_or_eq.mp hk with hk | rfl
    · exact ih hk
    · exact ⟨u, hu, hstop⟩

theorem isStopped_course_eq_false (h : Laps w c s n u) :
    ∀ k < n, (s.course w c k).journal.isStopped w = false := by
  intro k hk
  obtain ⟨v, hv, hstop⟩ := h.exists_of_lt hk
  exact hv.reached.isStopped_eq.symm.trans hstop

/-- Polling gets through laps until it sees that it should stop, or the limit is reached. -/
theorem of_pollUntilStopped {limit : Nat} {o : Option Session} (h : Laps w c s n u)
    (ho : u.pollUntilStopped w c limit = .ok o) :
    (o = none ∧ ∃ v, Laps w c s (n + limit) v) ∨
      ∃ m < n + limit, ∃ v, Laps w c s m v ∧ v.journal.isStopped w = true ∧
        o = some (v.act (.check true)) := by
  induction limit generalizing n u with
  | zero => exact Or.inl ⟨(Except.ok.inj ho).symm, u, h⟩
  | succ limit ih =>
    rw [pollUntilStopped] at ho
    cases hs : u.journal.isStopped w with
    | true =>
      rw [hs] at ho
      exact Or.inr ⟨n, by omega, u, h, hs, (Except.ok.inj ho).symm⟩
    | false =>
      rw [hs] at ho
      obtain ⟨x, hx, ho⟩ := bind_eq_ok_iff.mp ho
      have hnext := ih (h.lap hs hx) ho
      rwa [Nat.add_assoc, Nat.add_comm 1 limit] at hnext

end Laps

/-! ### From the start to the end -/

variable (w c) in
/-- What is done at the end before the calls are made. -/
def closing (s : Session) : Session :=
  ((s.enter .finalizing).log [.stopRequested s.polls]).readClock w

/-- An end, step by step. -/
theorem finish_eq (s : Session) : s.finish w c =
    (s.closing w).worked (.finalize (s.timeAt w 0))
      (.lift (s.tracker.finalize (s.timeAt w 0))) >>= fun u =>
    .ok ((u.log (u.tracker.namespaces.map fun n =>
      .downtimeOf n.name n.downtimeInSeconds)).delivered w c (s.timeAt w 0)) := by
  rw [worked, bind_assoc]
  unfold finish
  simp only [← write_eq_delivered]
  rfl

/-- **The end.** If no call on the tracker overflows, the end makes its two calls and leaves its
actions behind; it fails if the write does. -/
theorem finish_spec {s : Session} {f : Finished} (h : s.finish w c = .ok f) :
    s.tracker.after (s.finalCalls w 0) = .ok f.session.tracker ∧
      f.session.unlogged = s.unlogged.closed w c ∧
      f.failure.isSome = (w.putProblem (s.journal.writes + 1)).isSome := by
  rw [finish_eq] at h
  obtain ⟨u, hu, h⟩ := bind_eq_ok_iff.mp h
  obtain ⟨hafter, hus⟩ : s.tracker.after (s.finalCalls w 0) = .ok u.tracker ∧ _ :=
    worked_spec hu rfl
  have hf : f.session.unlogged =
      (u.unlogged.wrote (u.tracker.report (s.timeAt w 0))).enter .stopped := by
    rw [← Except.ok.inj h, unlogged_delivered]
    rfl
  have hft : f.session.unlogged.tracker = u.tracker := by
    rw [hf]
    rfl
  have hwrites : u.unlogged.journal.writes = s.journal.writes := by
    rw [hus]
    rfl
  have hut : u.tracker = s.lastTracker w c 0 := Tracker.eq_foldl_called_of_after hafter
  refine ⟨hft ▸ hafter, ?_, ?_⟩
  · rw [hf, hus, hut]
    rfl
  · rw [← Except.ok.inj h, isSome_failure_delivered, ← hwrites]
    rfl

/-- An end goes through if its calls on the tracker do. -/
theorem exists_finish {s : Session} {t : Tracker}
    (h : s.tracker.after (s.finalCalls w 0) = .ok t) : ∃ f, s.finish w c = .ok f := by
  obtain ⟨u, hu⟩ := exists_worked (r := .lift (s.tracker.finalize (s.timeAt w 0)))
    (s := s.closing w) rfl h (.finalize (s.timeAt w 0))
  rw [finish_eq]
  exact ⟨_, bind_eq_ok_iff.mpr ⟨u, hu, rfl⟩⟩

variable (w c) in
/-- Monitoring has ended where the course does after `n` polls, no call overflowed, and there is a
failure if the last write has a problem. -/
structure Ended (s : Session) (n : Nat) (f : Finished) : Prop where
  unlogged_eq : f.session.unlogged = s.ending w c n
  after_eq : s.tracker.after (s.calls w c n ++ s.finalCalls w n) = .ok f.session.tracker
  isSome_failure : f.failure.isSome = (w.putProblem (s.journal.writes + n + 1)).isSome

namespace Reached

variable {s u : Session} {n : Nat}

theorem after_append_finalCalls (h : Reached w c s n u) :
    s.tracker.after (s.calls w c n ++ s.finalCalls w n) =
      u.tracker.after ((u.act (.check true)).finalCalls w 0) := by
  have htime : (u.act (.check true)).timeAt w 0 = s.timeAt w n := by
    rw [← timeAt_course w c s, ← h.unlogged_eq]
    rfl
  rw [Tracker.after_append, h.after_eq, finalCalls, finalCalls, htime]
  rfl

/-- An end that goes through ends the course. -/
theorem finish {f : Finished} (h : Reached w c s n u)
    (hf : (u.act (.check true)).finish w c = .ok f) : Ended w c s n f := by
  obtain ⟨hafter, hunlogged, hfailure⟩ := finish_spec hf
  have hwrites : u.journal.writes = s.journal.writes + n :=
    congrArg (fun x => x.journal.writes) h.unlogged_eq
  refine ⟨?_, h.after_append_finalCalls.trans hafter, ?_⟩
  · rw [hunlogged, ending_eq, ← h.unlogged_eq]
    rfl
  · rw [hfailure, ← hwrites]
    rfl

/-- The end goes through if the calls of the course do. -/
theorem exists_finish (h : Reached w c s n u) {t : Tracker}
    (ht : s.tracker.after (s.calls w c n ++ s.finalCalls w n) = .ok t) :
    ∃ f, (u.act (.check true)).finish w c = .ok f :=
  Session.exists_finish (h.after_append_finalCalls.symm.trans ht)

end Reached

/-- Monitoring that does not overflow gets through as many laps as the limit allows, or it gets
through fewer, sees that it should stop, and ends. -/
theorem run_cases {limit : Nat} {s : Session} {o : Option Finished}
    (h : s.run w c limit = .ok o) :
    (o = none ∧ ∃ v, Laps w c s limit v) ∨
      ∃ n < limit, ∃ v f, Laps w c s n v ∧ v.journal.isStopped w = true ∧
        (v.act (.check true)).finish w c = .ok f ∧ o = some f := by
  obtain ⟨x, hx, h⟩ := bind_eq_ok_iff.mp h
  rcases Laps.start.of_pollUntilStopped hx with ⟨rfl, v, hv⟩ | ⟨n, hn, v, hv, hstop, rfl⟩
  · rw [Nat.zero_add] at hv
    exact Or.inl ⟨(Except.ok.inj h).symm, v, hv⟩
  · obtain ⟨f, hf, h⟩ := bind_eq_ok_iff.mp h
    exact Or.inr ⟨n, by omega, v, f, hv, hstop, hf, (Except.ok.inj h).symm⟩

/-- **Monitoring follows its course.** If it ends without an overflow, it has polled until the
first check that sees that a stop has been asked for, and ended there. -/
theorem run_spec {limit : Nat} {s : Session} {f : Finished}
    (h : s.run w c limit = .ok (some f)) :
    ∃ n < limit, s.StopsAfter w c n ∧ Ended w c s n f := by
  rcases run_cases h with ⟨h, -⟩ | ⟨n, hn, v, g, hv, hstop, hg, h⟩
  · contradiction
  · obtain rfl := Option.some.inj h
    have hstops : s.StopsAfter w c n :=
      ⟨hv.isStopped_course_eq_false, hv.reached.isStopped_eq.symm.trans hstop⟩
    exact ⟨n, hn, hstops, hv.reached.finish hg⟩

/-- Monitoring ends without an overflow if its calls on the tracker do not overflow and the limit
allows it. -/
theorem exists_run {limit n : Nat} {s : Session} {t : Tracker} (hn : n < limit)
    (hstops : s.StopsAfter w c n)
    (ht : s.tracker.after (s.calls w c n ++ s.finalCalls w n) = .ok t) :
    ∃ f, s.run w c limit = .ok (some f) := by
  have hcalls : ∃ u, s.tracker.after (s.calls w c n) = .ok u := by
    rw [Tracker.after_append] at ht
    obtain ⟨u, hu, _⟩ := bind_eq_ok_iff.mp ht
    exact ⟨u, hu⟩
  obtain ⟨u, hu⟩ := hcalls
  have hlimit : n < 0 + limit := by omega
  obtain ⟨x, hx, hpoll⟩ := (reached_zero [.monitoring c.location] s).exists_pollUntilStopped
    (Nat.zero_le n) hlimit hstops hu
  obtain ⟨f, hf⟩ := hx.exists_finish ht
  exact ⟨f, bind_eq_ok_iff.mpr ⟨_, hpoll, bind_eq_ok_iff.mpr ⟨f, hf, rfl⟩⟩⟩

end Session

end OutageWatch
