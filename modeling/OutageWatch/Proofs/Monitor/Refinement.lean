import OutageWatch.Proofs.Monitor.Following
import OutageWatch.Proofs.Report.RoundTrip
import OutageWatch.Proofs.Text.Utf8

/-!
# Monitoring refines the tracker

Monitoring asks, reads the clock, hands over reports and counts, and a write may fail at any time.
What it hands over is nevertheless what calls alone make of the tracker: the report of every poll
is that of the tracker after the calls of the polls so far, and the last report that of the tracker
after the calls of the end as well.  Each is handed over as the bytes of its text, from which it can
be read again.  The outcomes of the writes have a say in one thing only, namely whether monitoring
fails at the end, and there only the last of them counts.

## Main definitions

* `Report.IsReadFrom` : a report is what bytes are read as.
* `Action.query?`, `Action.reading?`, `Action.report?`, `Action.payload?` : what an action asks,
  reads or hands over.
* `World.withPuts` : the same world with other problems with writes.
* `Session.trace` : all that is done from the start to the end.

## Main results

* `Report.isReadFrom_bytes` : a report can be read from its bytes.
* `Session.queries_trace`, `Session.readings_trace`, `Session.reports_trace`,
  `Session.payloads_trace` : what is in all that is done.
* `Session.exists_run_withPuts` : monitoring in such a world ends after the same polls.
* `Session.run_refines` : monitoring refines the tracker.
-/

namespace OutageWatch

/-! ### Bytes of a report -/

/-- Bytes are UTF-8, and their text is read as the report. -/
def Report.IsReadFrom (r : Report) (payload : List UInt8) : Prop :=
  ∃ text, Utf8.decode payload = .ok text ∧ Report.parse text = .ok r

/-- A report can be read from its bytes. -/
theorem Report.isReadFrom_bytes {r : Report} (h : r.Fits) : r.IsReadFrom r.bytes :=
  ⟨r.chars, Utf8.decode_eq_ok.mpr rfl, parse_chars_eq h⟩

namespace Action

/-- The query that is sent. -/
def query? : Action → Option Query
  | .query q => some q
  | _ => none

/-- The time that is read. -/
def reading? : Action → Option Int
  | .readClock now => some now
  | _ => none

/-- The report that is handed over. -/
def report? : Action → Option Report
  | .put r _ => some r
  | _ => none

/-- The bytes that are handed over. -/
def payload? : Action → Option (List UInt8)
  | .put _ payload => some payload
  | _ => none

end Action

/-- The same world, but for the problems with writes. -/
def World.withPuts (w : World) (puts : Nat → Option String) : World := { w with putProblem := puts }

namespace Session

variable (w : World) (c : Settings)

/-! ### What is done -/

/-- What is done from the start to the end, with `n` polls. -/
def trace (s : Session) (n : Nat) : List Action :=
  (List.range n).flatMap (s.lapActions w c) ++ .check true :: s.finalActions w c n

theorem actions_ending (s : Session) (n : Nat) :
    (s.ending w c n).journal.actions = s.journal.actions ++ s.trace w c n :=
  List.append_assoc _ _ _

/-- Every poll sends one round of queries. -/
theorem queries_trace (s : Session) (n : Nat) :
    (s.trace w c n).filterMap Action.query? = (List.replicate n Query.round).flatten := by
  have hlap : ∀ i, (s.lapActions w c i).filterMap Action.query? = Query.round := fun _ => rfl
  rw [trace, List.filterMap_append, List.filterMap_flatMap]
  simp only [hlap]
  rw [List.flatMap_def, List.map_const', List.length_range]
  exact List.append_nil _

/-- The clock is read once in every poll. -/
theorem readings_laps (s : Session) (n : Nat) :
    ((List.range n).flatMap (s.lapActions w c)).filterMap Action.reading? =
      (List.range n).map (s.timeAt w) := by
  have hlap : ∀ i, (s.lapActions w c i).filterMap Action.reading? = [s.timeAt w i] := fun _ => rfl
  rw [List.filterMap_flatMap, List.map_eq_flatMap]
  simp only [hlap]

/-- The clock is read once in every poll, and once at the end. -/
theorem readings_trace (s : Session) (n : Nat) :
    (s.trace w c n).filterMap Action.reading? = (List.range (n + 1)).map (s.timeAt w) := by
  rw [trace, List.filterMap_append, readings_laps, List.range_succ, List.map_append]
  rfl

/-- One report is handed over in every poll. -/
theorem reports_laps (s : Session) (n : Nat) :
    ((List.range n).flatMap (s.lapActions w c)).filterMap Action.report? =
      (List.range n).map fun i => (s.trackerAt w c (i + 1)).report (s.timeAt w i) := by
  have hlap : ∀ i, (s.lapActions w c i).filterMap Action.report? =
      [(s.trackerAt w c (i + 1)).report (s.timeAt w i)] := fun _ => rfl
  rw [List.filterMap_flatMap, List.map_eq_flatMap]
  simp only [hlap]

/-- One report is handed over in every poll, and one at the end. -/
theorem reports_trace (s : Session) (n : Nat) :
    (s.trace w c n).filterMap Action.report? =
      (List.range n).map (fun i => (s.trackerAt w c (i + 1)).report (s.timeAt w i)) ++
        [(s.lastTracker w c n).report (s.timeAt w n)] := by
  rw [trace, List.filterMap_append, reports_laps]
  rfl

/-- The bytes that are handed over are those of the reports. -/
theorem payloads_trace (s : Session) (n : Nat) :
    (s.trace w c n).filterMap Action.payload? =
      ((s.trace w c n).filterMap Action.report?).map Report.bytes := by
  have hlap : ∀ i, (s.lapActions w c i).filterMap Action.payload? =
      ((s.lapActions w c i).filterMap Action.report?).map Report.bytes := fun _ => rfl
  simp only [trace, List.filterMap_append, List.filterMap_flatMap, List.map_append,
    List.map_flatMap, hlap]
  rfl

/-- Every report is handed over as its bytes. -/
theorem eq_bytes_of_put_mem_trace {s : Session} {n : Nat} {r : Report} {payload : List UInt8}
    (h : .put r payload ∈ s.trace w c n) : payload = r.bytes := by
  have hput : (∃ i < n, r = s.nextReport w c i ∧ payload = (s.nextReport w c i).bytes) ∨
      r = s.finalReport w c n ∧ payload = (s.finalReport w c n).bytes := by
    simpa [trace, lapActions, pollActions, finalActions] using h
  rcases hput with ⟨i, -, rfl, rfl⟩ | ⟨rfl, rfl⟩ <;> rfl

variable {w c}

/-! ### What writes have a say in -/

theorem StopsAfter.withPuts {s : Session} {n : Nat} (h : s.StopsAfter w c n)
    (puts : Nat → Option String) : s.StopsAfter (w.withPuts puts) c n :=
  ⟨h.isStopped_eq_false, h.isStopped_eq_true⟩

/-- At most one check is the first that sees that a stop has been asked for. -/
theorem StopsAfter.unique {s : Session} {m n : Nat} (hm : s.StopsAfter w c m)
    (hn : s.StopsAfter w c n) : m = n := by
  rcases Nat.lt_trichotomy m n with hlt | rfl | hlt
  · exact absurd hm.isStopped_eq_true (by simp [hn.isStopped_eq_false m hlt])
  · rfl
  · exact absurd hn.isStopped_eq_true (by simp [hm.isStopped_eq_false n hlt])

/-- With other problems with writes, monitoring ends after the same polls. -/
theorem exists_run_withPuts {limit n : Nat} {s : Session} {f : Finished} (hn : n < limit)
    (hstops : s.StopsAfter w c n) (hf : Ended w c s n f) (puts : Nat → Option String) :
    ∃ g, s.run (w.withPuts puts) c limit = .ok (some g) ∧ Ended (w.withPuts puts) c s n g := by
  obtain ⟨g, hg⟩ := exists_run hn (hstops.withPuts puts) hf.after_eq
  obtain ⟨m, _, hm, hended⟩ := run_spec hg
  obtain rfl := hm.unique (hstops.withPuts puts)
  exact ⟨g, hg, hended⟩

/-! ### Refinement -/

theorem Ended.actions_eq {s : Session} {n : Nat} {f : Finished} (h : Ended w c s n f) :
    f.session.journal.actions = s.journal.actions ++ s.trace w c n := by
  rw [← actions_ending, ← h.unlogged_eq]
  rfl

theorem Ended.tracker_eq {s : Session} {n : Nat} {f : Finished} (h : Ended w c s n f) :
    f.session.tracker = s.lastTracker w c n :=
  congrArg Session.tracker h.unlogged_eq

/-- No call of the first polls overflowed either. -/
theorem Ended.after_calls {s : Session} {n : Nat} {f : Finished} (h : Ended w c s n f) {k : Nat}
    (hk : k < n) : s.tracker.after (s.calls w c (k + 1)) = .ok (s.trackerAt w c (k + 1)) := by
  obtain ⟨t, ht, _⟩ := bind_eq_ok_iff.mp ((Tracker.after_append _ _ _).symm.trans h.after_eq)
  obtain ⟨u, hu⟩ := exists_after_calls_of_le hk ht
  rw [hu, Tracker.eq_foldl_called_of_after hu]
  rfl

/-- **Monitoring refines the tracker, whatever comes of the writes.**  With `n` polls it sends as
many rounds of queries, reads the clock `n + 1` times and hands over as many reports.  Those of the
polls are the reports of what the calls so far make of the tracker, and the last one that of what
the calls of the end make of it, each at the time that was read.  The bytes that are handed over are
those of the text of these reports, and the reports can be read from them.  Monitoring fails iff the
last write does.  Whatever problems there are with the writes instead, the same is done, the same
bytes are handed over and the tracker ends the same. -/
theorem run_refines {limit : Nat} {s : Session} {f : Finished}
    (h : s.run w c limit = .ok (some f)) :
    ∃ n trace, f.session.journal.actions = s.journal.actions ++ trace ∧
      trace.filterMap Action.query? = (List.replicate n Query.round).flatten ∧
      trace.filterMap Action.reading? = (List.range (n + 1)).map (s.timeAt w) ∧
      (trace.filterMap Action.report?).length = n + 1 ∧
      (trace.filterMap Action.payload?).length = n + 1 ∧
      (∀ k < n, ∃ t, s.tracker.after (s.calls w c (k + 1)) = .ok t ∧
        (trace.filterMap Action.report?)[k]? = some (t.report (s.timeAt w k)) ∧
        (trace.filterMap Action.payload?)[k]? = some (t.report (s.timeAt w k)).bytes) ∧
      (s.tracker.after (s.calls w c n ++ s.finalCalls w n) = .ok f.session.tracker ∧
        (trace.filterMap Action.report?)[n]? = some (f.session.tracker.report (s.timeAt w n)) ∧
        (trace.filterMap Action.payload?)[n]? =
          some (f.session.tracker.report (s.timeAt w n)).bytes) ∧
      (∀ r payload, .put r payload ∈ trace → r.Fits → r.IsReadFrom payload) ∧
      f.session.polls = s.polls + n ∧ f.session.phase = .stopped ∧
      (f.failure.isSome ↔ (w.putProblem (s.journal.writes + n + 1)).isSome) ∧
      ∀ puts, ∃ g, s.run (w.withPuts puts) c limit = .ok (some g) ∧
        g.session.journal.actions = f.session.journal.actions ∧
        g.session.tracker = f.session.tracker ∧ g.session.polls = f.session.polls ∧
        g.session.phase = .stopped ∧
        (g.failure.isSome ↔ (puts (s.journal.writes + n + 1)).isSome) := by
  obtain ⟨n, hn, hstops, hf⟩ := run_spec h
  have hlength : ((s.trace w c n).filterMap Action.report?).length = n + 1 := by
    simp [reports_trace]
  have hpayload : ∀ {k : Nat} {r : Report},
      ((s.trace w c n).filterMap Action.report?)[k]? = some r →
        ((s.trace w c n).filterMap Action.payload?)[k]? = some r.bytes := by
    intro k r hr
    rw [payloads_trace, List.getElem?_map, hr]
    rfl
  have hpoll : ∀ k < n, ((s.trace w c n).filterMap Action.report?)[k]? =
      some ((s.trackerAt w c (k + 1)).report (s.timeAt w k)) := by
    intro k hk
    rw [reports_trace, List.getElem?_append_left (by simpa using hk)]
    simp [hk]
  have hlast : ((s.trace w c n).filterMap Action.report?)[n]? =
      some (f.session.tracker.report (s.timeAt w n)) := by
    rw [reports_trace, List.getElem?_append_right (by simp), hf.tracker_eq]
    simp
  refine ⟨n, s.trace w c n, hf.actions_eq, queries_trace w c s n, readings_trace w c s n, hlength,
    ?_, ?_, ⟨hf.after_eq, hlast, hpayload hlast⟩, ?_, congrArg Session.polls hf.unlogged_eq,
    congrArg Session.phase hf.unlogged_eq, by rw [hf.isSome_failure], ?_⟩
  · rw [payloads_trace, List.length_map, hlength]
  · intro k hk
    exact ⟨_, hf.after_calls hk, hpoll k hk, hpayload (hpoll k hk)⟩
  · intro r payload hput hr
    rw [eq_bytes_of_put_mem_trace w c hput]
    exact Report.isReadFrom_bytes hr
  · intro puts
    obtain ⟨g, hg, hended⟩ := exists_run_withPuts hn hstops hf puts
    refine ⟨g, hg, ?_, ?_, ?_, congrArg Session.phase hended.unlogged_eq, ?_⟩
    · rw [hended.actions_eq, hf.actions_eq]
      rfl
    · rw [hended.tracker_eq, hf.tracker_eq]
      rfl
    · exact (congrArg Session.polls hended.unlogged_eq).trans
        (congrArg Session.polls hf.unlogged_eq).symm
    · rw [hended.isSome_failure]
      rfl

end Session

/-! ### A run -/

/-- The small cluster with the ready replicas of every round.  A round comes every ten seconds, no
report can be written, and a stop is asked for in the last round. -/
def World.shop (rounds : List (List (String × Int))) : World where
  answers n :=
    { namespaces := ⟨.records ["shop"], none⟩
      workloads :=
        { deploymentConfig := ⟨.empty, none⟩
          deployment :=
            ⟨.ofList ((rounds.getD (n - 1) []).map fun r => ⟨r.1, "shop", some r.2, some 1⟩), none⟩
          statefulSet := ⟨.empty, none⟩ } }
  clock n := 10 * n
  putProblem _ := some "refused"
  isStopped actions _ := (StopRequest.mk rounds.length none).isDue actions 0

namespace Session

/-- Monitoring of the small cluster. -/
def shop (names : List String) : Session := .new .empty (.shop names)

/-- What it is told. -/
def shopSettings : Settings := ⟨"sh", none, "/reports/shop"⟩

/-- One workload goes down in the first of three rounds and comes up in the second. -/
def downAndUp : World := .shop [[("web", 0)], [("web", 1)], [("web", 1)]]

/-- Its report with some intervals and their total, at a time. -/
def shopReport (downtimes : Downtimes) (total now : Int) : Report where
  namespaces := [⟨"shop", ⟨[], [⟨.deployment, "web", "shop", downtimes, total⟩], []⟩, downtimes,
    total⟩]
  start := 0
  finish := now

/-- Its first report, with an open interval. -/
def downReport : Report := shopReport ⟨[⟨10, none⟩]⟩ 0 10

/-- Its last report. -/
def upReport : Report := shopReport ⟨[⟨10, some 20⟩]⟩ 10 40

/-- The text of its first report. -/
def downText : List Char :=
  "\x7b\"namespaces\":[\x7b\"name\":\"shop\",\"deploymentConfigs\":[],".toList ++
  "\"deployments\":[\x7b\"kind\":\"Deployment\",\"name\":\"web\",\"namespace\":\"shop\",".toList ++
  "\"downtimes\":[\x7b\"start\":10,\"end\":null\x7d],\"downtimeInSeconds\":0\x7d],".toList ++
  "\"statefulSets\":[],\"downtimes\":[\x7b\"start\":10,\"end\":null\x7d],".toList ++
  "\"downtimeInSeconds\":0\x7d],\"start\":0,\"end\":10\x7d".toList

/-- The text of its last report. -/
def upText : List Char :=
  "\x7b\"namespaces\":[\x7b\"name\":\"shop\",\"deploymentConfigs\":[],".toList ++
  "\"deployments\":[\x7b\"kind\":\"Deployment\",\"name\":\"web\",\"namespace\":\"shop\",".toList ++
  "\"downtimes\":[\x7b\"start\":10,\"end\":20\x7d],\"downtimeInSeconds\":10\x7d],".toList ++
  "\"statefulSets\":[],\"downtimes\":[\x7b\"start\":10,\"end\":20\x7d],".toList ++
  "\"downtimeInSeconds\":10\x7d],\"start\":0,\"end\":40\x7d".toList

theorem bytes_downReport : downReport.bytes = Utf8.encode downText := by decide +kernel

theorem bytes_upReport : upReport.bytes = Utf8.encode upText := by decide +kernel

theorem fits_upReport : upReport.Fits := by
  simp only [Report.Fits, Namespace.Fits, Workload.Fits, Downtimes.Fits, Interval.Fits, upReport,
    shopReport, List.forall_mem_cons, List.not_mem_nil, false_implies, implies_true, and_true]
  refine ⟨⟨fun k => ?_, ?_⟩, ?_⟩
  · cases k <;> simp [PerKind.get, Fits, greatestInt]
  all_goals simp [Fits, greatestInt]

theorem run_refines_downAndUp :
    ∃ f, (shop ["web"]).run downAndUp shopSettings 4 = .ok (some f) ∧
      (f.session.journal.actions.filterMap Action.report?).length = 4 ∧
      (f.session.journal.actions.filterMap Action.payload?)[0]? = some (Utf8.encode downText) ∧
      (f.session.journal.actions.filterMap Action.payload?)[3]? = some (Utf8.encode upText) ∧
      (∃ payload, .put upReport payload ∈ f.session.journal.actions ∧
        upReport.IsReadFrom payload) ∧
      f.session.tracker.namespaces.map Namespace.downtimeInSeconds = [10] ∧
      f.failure.isSome ∧
      ∃ g, (shop ["web"]).run (downAndUp.withPuts fun _ => none) shopSettings 4 = .ok (some g) ∧
        g.session.journal.actions = f.session.journal.actions ∧ g.failure = none := by
  obtain ⟨f, hf, hpolls, htotal, hlast⟩ :
      ∃ f, (shop ["web"]).run downAndUp shopSettings 4 = .ok (some f) ∧ f.session.polls = 3 ∧
        f.session.tracker.namespaces.map Namespace.downtimeInSeconds = [10] ∧
        f.session.tracker.report 40 = upReport :=
    ⟨_, rfl, rfl, rfl, rfl⟩
  obtain ⟨t, ht, hfirst⟩ :
      ∃ t, (shop ["web"]).tracker.after ((shop ["web"]).calls downAndUp shopSettings 1) = .ok t ∧
        t.report 10 = downReport :=
    ⟨_, rfl, rfl⟩
  obtain ⟨n, trace, hactions, -, -, hreports, -, hpoll, ⟨-, hreport, hend⟩, hread, hn, -, hfailure,
    hputs⟩ := run_refines hf
  obtain rfl : n = 3 := by
    have hzero : (shop ["web"]).polls = 0 := rfl
    omega
  replace hactions : f.session.journal.actions = trace := hactions
  obtain ⟨u, hu, -, hput⟩ := hpoll 0 (by decide)
  obtain rfl : t = u := Except.ok.inj (ht.symm.trans hu)
  obtain ⟨g, hg, hsame, -, -, -, hgfailure⟩ := hputs fun _ => none
  refine ⟨f, hf, ?_, ?_, ?_, ?_, htotal, hfailure.mpr rfl, g, hg, hsame, ?_⟩
  · rw [hactions]
    exact hreports
  · rw [hactions, ← bytes_downReport, ← hfirst]
    exact hput
  · rw [hactions, ← bytes_upReport, ← hlast]
    exact hend
  · have hmem : upReport ∈ trace.filterMap Action.report? :=
      hlast ▸ List.mem_of_getElem? hreport
    obtain ⟨a, ha, har⟩ := List.mem_filterMap.mp hmem
    cases a with
    | put r payload =>
      obtain rfl : r = upReport := Option.some.inj har
      exact ⟨payload, hactions ▸ ha, hread upReport payload ha fits_upReport⟩
    | _ => contradiction
  · simpa using hgfailure

end Session

end OutageWatch
