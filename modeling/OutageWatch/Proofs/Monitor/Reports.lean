import OutageWatch.Proofs.Monitor.Refinement
import OutageWatch.Proofs.Tracker.Growth

/-!
# The reports of one monitoring

Every report is that of the tracker after the calls of the polls so far and one more call at the
time of the report, with the totals brought up to date after that.  So it can be told from the calls
alone what is in the reports, whether monitoring has ended or still goes on.

If the clock does not go back, all these calls lie between the start of tracking and the time of
the report.  Then the report is *sound*: no interval is outside these times, and every total is the
exact one and no longer than the time between.  Whatever the clock does, a later report comes from
the tracker of the earlier one by some more calls, and so it keeps all that the earlier one told.

## Main definitions

* `Report.Sound`, `Report.KeptIn` : what holds of one report, and of two.
* `Session.LeadsTo` : a session that monitoring comes to, between two polls or at its end.
* `Session.since` : what was done since a session.
* `Session.reportAt` : the report after some polls and one more call.

## Main results

* `Session.reports_sound` : all reports are sound, and in the last one nothing is open.
* `Session.reports_keptIn` : every report is kept in all later ones.
-/

namespace OutageWatch

/-! ### Sound reports -/

/-- An entity is told of soundly between two times: no interval starts or ends outside, and the
total is the sum of the lengths of the ended intervals, and no longer than the time between. -/
structure Entry.Sound (e : Entry) (start finish : Int) : Prop where
  start_mem : ∀ i ∈ e.downtimes.intervals, start ≤ i.start ∧ i.start ≤ finish
  finish_mem : ∀ i ∈ e.downtimes.intervals, ∀ x ∈ i.finish, start ≤ x ∧ x ≤ finish
  seconds_eq :
    e.seconds = (e.downtimes.intervals.filterMap fun i => i.finish.map (· - i.start)).sum
  seconds_mem : 0 ≤ e.seconds ∧ e.seconds ≤ finish - start

namespace Report

/-- All that a report tells of workloads and namespaces. -/
def entries (r : Report) : List Entry := r.namespaces.flatMap Namespace.entries

/-- A report is sound if it tells soundly of everything, between its two times. -/
def Sound (r : Report) : Prop := ∀ e ∈ r.entries, e.Sound r.start r.finish

/-- All that a report tells is still told, in the same order. -/
structure KeptIn (r q : Report) : Prop where
  start_eq : r.start = q.start
  namespaces : List.Forall₂ Namespace.KeptIn r.namespaces q.namespaces

end Report

namespace Tracker

variable {s : Snapshot} {start : Int} {t : Tracker}

theorem start_of_ofSnapshot (h : ofSnapshot s start = .ok t) : t.start = start :=
  congrArg Tracker.start (ofSnapshot_eq_ok_iff.mp h).2

/-- The report after calls between the start and the time of the report is sound. -/
theorem sound_report (ht : ofSnapshot s start = .ok t) {calls : List Call} {now : Int}
    (hnow : start ≤ now) (hcalls : ∀ x ∈ calls.filterMap Call.now?, start ≤ x ∧ x ≤ now) :
    ((t.upToDate calls).report now).Sound := by
  intro e he
  obtain ⟨hmem, hseconds⟩ := mem_entries_upToDate he
  have hd : e.downtimes.Within start now :=
    (within_of_ofSnapshot ht start now).foldl_called hcalls _ hmem
  have hstart : ((t.upToDate calls).report now).start = start :=
    (t.start_foldl_called calls).trans (start_of_ofSnapshot ht)
  rw [hstart]
  refine ⟨fun i hi => (hd.mem_interval hi).1, fun i hi => (hd.mem_interval hi).2, hseconds, ?_⟩
  rw [hseconds]
  exact hd.total_bounds hnow

/-- After the last call of the end no interval is open. -/
theorem isOpen_eq_false_of_finalize (ht : ofSnapshot s start = .ok t) (calls : List Call)
    (now : Int) {e : Entry} (he : e ∈ (t.upToDate (calls ++ [.finalize now])).entries) :
    ∀ i ∈ e.downtimes.intervals, i.isOpen = false := by
  obtain ⟨hmem, -⟩ := mem_entries_upToDate he
  refine (orderly_foldl_called ht _ _ hmem).ended_of_isOpen_eq_false ?_
  rw [List.foldl_append] at hmem
  exact isOpen_histories_called_finalize now _ _ hmem

end Tracker

namespace Session

variable (w : World) (c : Settings)

/-! ### Calls and reports -/

/-- The calls of the polls come with the times that are read. -/
theorem now?_calls (s : Session) (n : Nat) :
    (s.calls w c n).filterMap Call.now? = (List.range n).map (s.timeAt w) := by
  have hpoll : ∀ i, (s.pollCalls w c i).filterMap Call.now? = [s.timeAt w i] := fun _ => rfl
  rw [calls, List.filterMap_flatMap, List.map_eq_flatMap]
  simp only [hpoll]

/-- The report after `n` polls and one more call. -/
def reportAt (s : Session) (n : Nat) (call : Call) : Report :=
  (s.tracker.upToDate (s.calls w c n ++ [call])).report (s.timeAt w n)

/-- The report of the poll after `n` of them. -/
def pollReport (s : Session) (n : Nat) : Report :=
  s.reportAt w c n (.reconcile (s.snapshotAt w c n) (s.timeAt w n))

/-- The report at the end, after `n` polls. -/
def lastReport (s : Session) (n : Nat) : Report := s.reportAt w c n (.finalize (s.timeAt w n))

theorem report_trackerAt_succ (s : Session) (n : Nat) :
    (s.trackerAt w c (n + 1)).report (s.timeAt w n) = s.pollReport w c n := by
  rw [trackerAt_succ, trackerAt, pollReport, reportAt, Tracker.upToDate, List.foldl_append]
  rfl

theorem report_lastTracker (s : Session) (n : Nat) :
    (s.lastTracker w c n).report (s.timeAt w n) = s.lastReport w c n := by
  rw [lastTracker, lastReport, reportAt, Tracker.upToDate, List.foldl_append, List.foldl_append]
  rfl

variable {w c} {s u : Session} {snapshot : Snapshot} {start : Int}

/-- A report is sound if no time before it is later, and none is before the start. -/
theorem sound_reportAt (ht : Tracker.ofSnapshot snapshot start = .ok s.tracker) {n : Nat}
    {call : Call} (hcall : call.now? = some (s.timeAt w n))
    (hclock : ∀ i ≤ n, start ≤ s.timeAt w i ∧ s.timeAt w i ≤ s.timeAt w n) :
    (s.reportAt w c n call).Sound := by
  refine Tracker.sound_report ht (hclock n Nat.le.refl).1 ?_
  intro x hx
  rw [List.filterMap_append, now?_calls, List.mem_append] at hx
  rcases hx with hx | hx
  · obtain ⟨i, hi, rfl⟩ := List.mem_map.mp hx
    exact hclock i (List.mem_range.mp hi).le
  · rw [List.filterMap_cons_some hcall, List.filterMap_nil, List.mem_singleton] at hx
    rw [hx]
    exact hclock n Nat.le.refl

/-- The report of a poll is kept in every later report. -/
theorem keptIn_reportAt (ht : Tracker.ofSnapshot snapshot start = .ok s.tracker) {j k : Nat}
    (hjk : j < k) (call : Call) : (s.pollReport w c j).KeptIn (s.reportAt w c k call) := by
  obtain ⟨d, rfl⟩ := Nat.exists_eq_add_of_le hjk
  obtain ⟨more, hmore⟩ :
      ∃ more, s.calls w c (j + 1 + d) ++ [call] = s.calls w c (j + 1) ++ more := by
    rw [calls, List.range_add, List.flatMap_append, List.append_assoc]
    exact ⟨_, rfl⟩
  have hpoll : s.calls w c (j + 1) = s.calls w c j ++
      [.reconcile (s.snapshotAt w c j) (s.timeAt w j)] ++ [.recompute] := by
    rw [calls, List.range_succ, List.flatMap_append, List.flatMap_singleton]
    exact (List.append_assoc _ [_] [_]).symm
  have hkept := Tracker.keptIn_upToDate ht
    (s.calls w c j ++ [.reconcile (s.snapshotAt w c j) (s.timeAt w j)]) more
  rw [reportAt, hmore, hpoll, List.append_assoc]
  exact ⟨hkept.start_eq, hkept.namespaces⟩

/-! ### While monitoring goes on, and at its end -/

variable (w c) in
/-- Monitoring from a session comes to another one: at the head of its loop, or at its end. -/
inductive LeadsTo (s : Session) : Session → Prop
  | atHead {n : Nat} {u : Session} (h : Laps w c s n u) : LeadsTo s u
  | atEnd {limit : Nat} {f : Finished} (h : s.run w c limit = .ok (some f)) : LeadsTo s f.session

/-- What was done since a session. -/
def since (u s : Session) : List Action := u.journal.actions.drop s.journal.actions.length

/-- The times that were read since a session. -/
def readingsSince (u s : Session) : List Int := (u.since s).filterMap Action.reading?

/-- The reports that were handed over since a session. -/
def reportsSince (u s : Session) : List Report := (u.since s).filterMap Action.report?

theorem Laps.since_eq {n : Nat} (h : Laps w c s n u) :
    u.since s = (List.range n).flatMap (s.lapActions w c) := by
  rw [since, h.reached.actions_eq]
  exact List.drop_left

theorem Ended.since_eq {n : Nat} {f : Finished} (h : Ended w c s n f) :
    f.session.since s = s.trace w c n := by
  rw [since, h.actions_eq]
  exact List.drop_left

/-- The reports of monitoring are those of its polls, and one more at the end. -/
theorem LeadsTo.exists_reports (h : LeadsTo w c s u) :
    ∃ n last, u.reportsSince s = (List.range n).map (s.pollReport w c) ++ last ∧
      u.readingsSince s = (List.range (n + last.length)).map (s.timeAt w) ∧
      (last = [] ∨ last = [s.lastReport w c n]) := by
  cases h with
  | @atHead n u h =>
    refine ⟨n, [], ?_, ?_, Or.inl rfl⟩
    · rw [reportsSince, h.since_eq, reports_laps, List.append_nil]
      simp only [report_trackerAt_succ]
    · rw [readingsSince, h.since_eq, readings_laps]
      rfl
  | atEnd h =>
    obtain ⟨n, -, -, hf⟩ := run_spec h
    refine ⟨n, [s.lastReport w c n], ?_, ?_, Or.inr rfl⟩
    · rw [reportsSince, hf.since_eq, reports_trace, report_lastTracker]
      simp only [report_trackerAt_succ]
    · rw [readingsSince, hf.since_eq, readings_trace]
      rfl

/-- Times in order after a start. -/
theorem timeAt_bounds {n : Nat}
    (hclock : (start :: (List.range n).map (s.timeAt w)).Pairwise (· ≤ ·)) {i j : Nat} (hij : i ≤ j)
    (hj : j < n) : start ≤ s.timeAt w i ∧ s.timeAt w i ≤ s.timeAt w j := by
  obtain ⟨hstart, hclock⟩ := List.pairwise_cons.mp hclock
  refine ⟨hstart _ (List.mem_map_of_mem (List.mem_range.mpr (by omega))), ?_⟩
  rcases Nat.eq_or_lt_of_le hij with rfl | hij
  · exact le_rfl
  · have h := List.pairwise_iff_getElem.mp hclock i j (by simp; omega) (by simpa using hj) hij
    simpa using h

/-- **All reports are sound.**  If the clock does not go back and was not before the start, then
every report of monitoring that a snapshot started tells soundly of every workload and namespace,
between the start and its own time; and in the last report at the end no interval is open. -/
theorem reports_sound (ht : Tracker.ofSnapshot snapshot start = .ok s.tracker)
    (hu : LeadsTo w c s u) (hclock : (start :: u.readingsSince s).Pairwise (· ≤ ·)) :
    (∀ r ∈ u.reportsSince s, r.start = start ∧ r.Sound) ∧
      ∀ limit f, s.run w c limit = .ok (some f) → f.session = u →
        ∃ r, (u.reportsSince s).getLast? = some r ∧
          ∀ e ∈ r.entries, ∀ i ∈ e.downtimes.intervals, i.isOpen = false := by
  constructor
  · obtain ⟨n, last, hreports, hreadings, hlast⟩ := hu.exists_reports
    rw [hreadings] at hclock
    rw [hreports]
    intro r hr
    obtain ⟨k, hk, call, hcall, rfl⟩ : ∃ k < n + last.length, ∃ call,
        call.now? = some (s.timeAt w k) ∧ r = s.reportAt w c k call := by
      rcases List.mem_append.mp hr with hr | hr
      · obtain ⟨k, hk, rfl⟩ := List.mem_map.mp hr
        exact ⟨k, by have := List.mem_range.mp hk; omega, _, rfl, rfl⟩
      · rcases hlast with rfl | rfl
        · exact absurd hr List.not_mem_nil
        · exact ⟨n, by simp, _, rfl, List.mem_singleton.mp hr⟩
    refine ⟨(s.tracker.start_foldl_called _).trans (Tracker.start_of_ofSnapshot ht), ?_⟩
    exact sound_reportAt ht hcall fun i hi => timeAt_bounds hclock hi hk
  · rintro limit f hf rfl
    obtain ⟨n, -, -, hended⟩ := run_spec hf
    refine ⟨s.lastReport w c n, ?_, ?_⟩
    · rw [reportsSince, hended.since_eq, reports_trace, report_lastTracker, List.getLast?_concat]
    · intro e he
      exact Tracker.isOpen_eq_false_of_finalize ht _ _ he

theorem reports_sound_downAndUp :
    ∃ f, (shop ["web"]).run downAndUp shopSettings 4 = .ok (some f) ∧
      (0 :: f.session.readingsSince (shop ["web"])).Pairwise (· ≤ ·) ∧
      (f.session.reportsSince (shop ["web"])).map Report.finish = [10, 20, 30, 40] ∧
      (∀ r ∈ f.session.reportsSince (shop ["web"]), r.start = 0 ∧ r.Sound) ∧
      ∃ r, (f.session.reportsSince (shop ["web"])).getLast? = some r ∧
        ∀ e ∈ r.entries, ∀ i ∈ e.downtimes.intervals, i.isOpen = false := by
  have ht : Tracker.ofSnapshot (.shop [("web", 1)]) 0 = .ok (shop ["web"]).tracker := by decide
  obtain ⟨f, hf, hreadings, hreports⟩ :
      ∃ f, (shop ["web"]).run downAndUp shopSettings 4 = .ok (some f) ∧
        f.session.readingsSince (shop ["web"]) = [10, 20, 30, 40] ∧
        (f.session.reportsSince (shop ["web"])).map Report.finish = [10, 20, 30, 40] :=
    ⟨_, rfl, rfl, rfl⟩
  have hclock : (0 :: f.session.readingsSince (shop ["web"])).Pairwise (· ≤ ·) := by
    rw [hreadings]
    decide
  obtain ⟨hsound, hlast⟩ := reports_sound ht (.atEnd hf) hclock
  exact ⟨f, hf, hclock, hreports, hsound, hlast 4 f hf rfl⟩

/-- **Nothing is lost between two reports.**  Whatever the clock does and whatever comes of the
writes, any report of monitoring that a snapshot started is kept in every later one: both have the
same start and tell of the same namespaces and workloads in the same order, what has ended stays in
front, what is open stays in its place, and no total gets smaller. -/
theorem reports_keptIn (ht : Tracker.ofSnapshot snapshot start = .ok s.tracker)
    (hu : LeadsTo w c s u) : (u.reportsSince s).Pairwise Report.KeptIn := by
  obtain ⟨n, last, hreports, -, hlast⟩ := hu.exists_reports
  rw [hreports, List.pairwise_append, List.pairwise_map]
  refine ⟨List.pairwise_lt_range.imp fun hjk => keptIn_reportAt ht hjk _, ?_, ?_⟩
  · rcases hlast with rfl | rfl
    · exact List.Pairwise.nil
    · exact List.pairwise_singleton ..
  · intro r hr q hq
    obtain ⟨j, hj, rfl⟩ := List.mem_map.mp hr
    rcases hlast with rfl | rfl
    · exact absurd hq List.not_mem_nil
    · rw [List.mem_singleton.mp hq]
      exact keptIn_reportAt ht (List.mem_range.mp hj) _

/-- The same under a clock that only goes back. -/
def turnedBack : World := { downAndUp with clock := fun n => 50 - 10 * n }

theorem reports_keptIn_turnedBack :
    ∃ f r q, (shop ["web"]).run turnedBack shopSettings 4 = .ok (some f) ∧
      (f.session.reportsSince (shop ["web"]))[0]? = some r ∧
      (f.session.reportsSince (shop ["web"]))[3]? = some q ∧ q.finish < r.finish ∧
      r.entries.map (fun e => e.downtimes.intervals) = [[⟨40, none⟩], [⟨40, none⟩]] ∧
      r.KeptIn q := by
  have ht : Tracker.ofSnapshot (.shop [("web", 1)]) 0 = .ok (shop ["web"]).tracker := by decide
  obtain ⟨f, r, q, hf, hr, hq, hlt, hopen⟩ :
      ∃ f r q, (shop ["web"]).run turnedBack shopSettings 4 = .ok (some f) ∧
        (f.session.reportsSince (shop ["web"]))[0]? = some r ∧
        (f.session.reportsSince (shop ["web"]))[3]? = some q ∧ q.finish < r.finish ∧
        r.entries.map (fun e => e.downtimes.intervals) = [[⟨40, none⟩], [⟨40, none⟩]] :=
    ⟨_, _, _, rfl, rfl, rfl, by decide, rfl⟩
  have hkept := reports_keptIn ht (.atEnd hf)
  obtain ⟨h0, rfl⟩ := List.getElem?_eq_some_iff.mp hr
  obtain ⟨h3, rfl⟩ := List.getElem?_eq_some_iff.mp hq
  exact ⟨f, _, _, hf, hr, hq, hlt, hopen, List.pairwise_iff_getElem.mp hkept 0 3 h0 h3 (by decide)⟩

end Session

end OutageWatch
