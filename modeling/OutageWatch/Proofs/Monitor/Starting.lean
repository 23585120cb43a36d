import OutageWatch.Proofs.Monitor.Cancellation

/-!
# The start takes the first conclusive snapshot

Before monitoring there are attempts to start a tracker, one snapshot each.  An attempt that tells
too little is logged under its number and is made again.  Whether a stop has been asked for is
looked up before every attempt only.  So there are two ways out, and which of them is taken is
settled by the first attempt that is not a retry: if the check before it saw a stop, there is no
tracker; else its snapshot tells about everything, and it is adopted even if a stop was asked for
while it was being taken.

All of this is written down without running the loop: the journal at the check after `n` retries is
known from the world, and the start follows it by induction.

## Main definitions

* `Journal.attemptAt` : what an attempt makes of its snapshot.
* `Journal.atCheck` : the journal at the check after some retries.
* `Journal.Retries` : an attempt that was started and told too little.
* `Journal.Starts` : how the start ends, after so many attempts.

## Main results

* `Journal.attempts_of_retries`, `Journal.startTracker_eq_attempts` : one retry, and all of them.
* `Journal.Starts.startTracker_eq`, `Journal.Starts.of_startTracker` : the start ends so, and in no
  other way.
* `Journal.startTracker_adopts_first` : the start takes the first conclusive snapshot.
-/

namespace OutageWatch

/-- The number of an attempt that told too little. -/
def Event.failedAttempt? : Event → Option Nat
  | .attemptFailed attempt _ => some attempt
  | _ => none

/-- The same world, but for the moments at which a stop has been asked for. -/
def World.withStops (w : World) (stops : List Action → Nat → Bool) : World :=
  { w with isStopped := stops }

/-- No attempt is logged as failed when a tracker starts. -/
theorem Tracker.filterMap_failedAttempt?_startEvents (s : Snapshot) (t : Tracker) :
    (startEvents s t).filterMap Event.failedAttempt? = [] := by
  have hempty : (if t.namespaces.isEmpty then [Event.nothingTracked] else []).filterMap
      Event.failedAttempt? = [] := by
    split <;> rfl
  rw [startEvents, List.filterMap_append, List.filterMap_append, List.filterMap_map,
    List.filterMap_map, hempty]
  simp [Function.comp_def, Event.failedAttempt?]

namespace Journal

variable (w : World) (c : Settings) (start : Int)

/-! ### Attempts -/

/-- The snapshot of the attempt after `i` others. -/
def attemptSnapshot (i : Nat) : Snapshot := (w.answers (i + 1)).snapshot c.queryTimeout

/-- What the attempt after `i` others makes of its snapshot. -/
def attemptAt (i : Nat) : Except Inconclusive Tracker :=
  Tracker.ofSnapshot (attemptSnapshot w c i) start

/-- What is logged about the attempt after `i` others. -/
def attemptEvents (i : Nat) : List Event :=
  match attemptAt w c start i with
  | .ok t => Tracker.startEvents (attemptSnapshot w c i) t
  | .error e => [.attemptFailed (i + 1) e.message]

/-- The journal at the check after `n` retries. -/
def atCheck (n : Nat) : Journal where
  actions := Action.laps (List.replicate n (Query.round.map .query))
  events := .initialListing c.namespaceStart :: (List.range n).flatMap (attemptEvents w c start)
  elapsed := ((List.range n).map fun i => (w.answers (i + 1)).duration c.queryTimeout).sum
  rounds := n
  readings := 0
  writes := 0

/-- The journal after the snapshot that follows that check, with what is logged about it. -/
def afterAttempt (n : Nat) : Journal :=
  (((atCheck w c start n).act (.check false)).afterRound w c).log (attemptEvents w c start n)

/-- The attempt after `i` others is started and tells too little. -/
structure Retries (i : Nat) : Prop where
  isStopped_eq_false : (atCheck w c start i).isStopped w = false
  isInconclusive : ∃ e, attemptAt w c start i = .error e

/-- What is done from the last check on. -/
def Start.lastActions : Start → List Action
  | .tracking _ => .check false :: Query.round.map .query
  | .stopped => [.check true]
  | .unfinished => []

variable {w c start} {limit m n : Nat} {t : Tracker}

/-! ### One attempt -/

/-- After an attempt that told too little, others are let go on and there is another check. -/
theorem atCheck_succ (n : Nat) :
    atCheck w c start (n + 1) = (afterAttempt w c start n).act .yield := by
  simp [atCheck, afterAttempt, act, log, afterRound, Action.laps, List.replicate_succ',
    List.range_succ]

theorem attempts_of_stopped (hstop : (atCheck w c start n).isStopped w = true) (limit : Nat) :
    attempts w c start (limit + 1) (n + 1) (atCheck w c start n) =
      ((atCheck w c start n).act (.check true), .stopped) := by
  rw [attempts, hstop]
  rfl

theorem attempts_of_ok (hstop : (atCheck w c start n).isStopped w = false)
    (ht : attemptAt w c start n = .ok t) (limit : Nat) :
    attempts w c start (limit + 1) (n + 1) (atCheck w c start n) =
      (afterAttempt w c start n, .tracking t) := by
  rw [attempts, hstop, afterAttempt, attemptEvents, ht]
  -- What the loop looks at is the attempt, unfolded.
  change (match attemptAt w c start n with | .ok t => _ | .error e => _) = _
  rw [ht]
  rfl

/-- **One retry.**  It leads to the next check. -/
theorem attempts_of_retries (h : Retries w c start n) (limit : Nat) :
    attempts w c start (limit + 1) (n + 1) (atCheck w c start n) =
      attempts w c start limit (n + 2) (atCheck w c start (n + 1)) := by
  obtain ⟨e, he⟩ := h.isInconclusive
  rw [attempts, h.isStopped_eq_false, atCheck_succ, afterAttempt, attemptEvents, he]
  change (match attemptAt w c start n with | .ok t => _ | .error e => _) = _
  rw [he]

/-! ### All attempts -/

/-- After some retries the start is at the check that follows them. -/
theorem startTracker_eq_attempts (h : ∀ k < n, Retries w c start k) (limit : Nat) :
    startTracker w c start (n + limit) =
      attempts w c start limit (n + 1) (atCheck w c start n) := by
  induction n generalizing limit with
  | zero => rw [Nat.zero_add]; rfl
  | succ n ih =>
    rw [Nat.add_right_comm, Nat.add_assoc, ih (fun k hk => h k (by omega)),
      attempts_of_retries (h n (by omega))]

variable (w c start) in
/-- How the start ends: after so many attempts, so many of which were retries. -/
inductive Starts (limit : Nat) : Nat → Nat → Journal → Start → Prop
  | unfinished (h : ∀ k < limit, Retries w c start k) :
    Starts limit limit limit (atCheck w c start limit) .unfinished
  | stopped {n : Nat} (hn : n < limit) (h : ∀ k < n, Retries w c start k)
    (hstop : (atCheck w c start n).isStopped w = true) :
    Starts limit n n ((atCheck w c start n).act (.check true)) .stopped
  | tracking {n : Nat} {t : Tracker} (hn : n < limit) (h : ∀ k < n, Retries w c start k)
    (hstop : (atCheck w c start n).isStopped w = false) (ht : attemptAt w c start n = .ok t) :
    Starts limit (n + 1) n (afterAttempt w c start n) (.tracking t)

namespace Starts

variable {j : Journal} {r : Start}

/-- **All attempts.**  The start ends as the first attempt that is no retry settles. -/
theorem startTracker_eq (h : Starts w c start limit m n j r) :
    startTracker w c start limit = (j, r) := by
  cases h with
  | unfinished h => exact startTracker_eq_attempts h 0
  | stopped hn h hstop =>
    obtain ⟨d, rfl⟩ := Nat.exists_eq_add_of_lt hn
    rw [Nat.add_assoc, startTracker_eq_attempts h, attempts_of_stopped hstop]
  | tracking hn h hstop ht =>
    obtain ⟨d, rfl⟩ := Nat.exists_eq_add_of_lt hn
    rw [Nat.add_assoc, startTracker_eq_attempts h, attempts_of_ok hstop ht]

/-- Once the start has ended, a higher limit changes nothing. -/
theorem limit_add (h : Starts w c start limit m n j r) (hr : r ≠ .unfinished) (more : Nat) :
    Starts w c start (limit + more) m n j r := by
  cases h with
  | unfinished h => contradiction
  | stopped hn h hstop => exact .stopped (by omega) h hstop
  | tracking hn h hstop ht => exact .tracking (by omega) h hstop ht

theorem retries (h : Starts w c start limit m n j r) : ∀ k < n, Retries w c start k := by
  cases h <;> assumption

variable (w c start) in
/-- However the attempts come out, the start ends in one of the three ways. -/
theorem exists_starts (limit : Nat) : ∃ m n j r, Starts w c start limit m n j r := by
  induction limit with
  | zero => exact ⟨_, _, _, _, .unfinished nofun⟩
  | succ limit ih =>
    obtain ⟨m, n, j, r, h⟩ := ih
    cases h with
    | stopped hn h hstop => exact ⟨_, _, _, _, .stopped (by omega) h hstop⟩
    | tracking hn h hstop ht => exact ⟨_, _, _, _, .tracking (by omega) h hstop ht⟩
    | unfinished h =>
      -- There is one more check, and maybe one more attempt.
      cases hstop : (atCheck w c start limit).isStopped w with
      | true => exact ⟨_, _, _, _, .stopped limit.lt_succ_self h hstop⟩
      | false =>
        cases ht : attemptAt w c start limit with
        | ok t => exact ⟨_, _, _, _, .tracking limit.lt_succ_self h hstop ht⟩
        | error e =>
          refine ⟨_, _, _, _, .unfinished fun k hk => ?_⟩
          rcases Nat.lt_succ_iff_lt_or_eq.mp hk with hk | rfl
          · exact h k hk
          · exact ⟨hstop, e, ht⟩

/-- So the start ends in that way and in no other. -/
theorem of_startTracker (h : startTracker w c start limit = (j, r)) :
    ∃ m n, Starts w c start limit m n j r := by
  obtain ⟨m, n, j', r', h'⟩ := exists_starts w c start limit
  cases h.symm.trans h'.startTracker_eq
  exact ⟨m, n, h'⟩

/-! ### What has been done -/

/-- An attempt is started iff no check so far saw a stop and all attempts before it told too
little. -/
theorem lt_attempts_iff (h : Starts w c start limit m n j r) (i : Nat) :
    i < m ↔ i < limit ∧ (∀ k ≤ i, (atCheck w c start k).isStopped w = false) ∧
      ∀ k < i, ∃ e, attemptAt w c start k = .error e := by
  have hretried (i : Nat) (hi : i < n) :
      (∀ k ≤ i, (atCheck w c start k).isStopped w = false) ∧
        ∀ k < i, ∃ e, attemptAt w c start k = .error e :=
    ⟨fun k hk => (h.retries k (by omega)).isStopped_eq_false,
      fun k hk => (h.retries k (by omega)).isInconclusive⟩
  cases h with
  | unfinished h => exact ⟨fun hi => ⟨hi, hretried i hi⟩, And.left⟩
  | stopped hn h hstop =>
    refine ⟨fun hi => ⟨by omega, hretried i hi⟩, fun ⟨_, hstops, _⟩ => ?_⟩
    by_contra hi
    rw [hstops m (by omega)] at hstop
    contradiction
  | tracking hn h hstop ht =>
    constructor
    · intro hi
      rcases Nat.lt_succ_iff_lt_or_eq.mp hi with hi | rfl
      · exact ⟨by omega, hretried i hi⟩
      · refine ⟨hn, fun k hk => ?_, fun k hk => (h k hk).isInconclusive⟩
        rcases Nat.eq_or_lt_of_le hk with rfl | hk
        · exact hstop
        · exact (h k hk).isStopped_eq_false
    · rintro ⟨-, -, hinconclusive⟩
      by_contra hi
      obtain ⟨e, he⟩ := hinconclusive n (by omega)
      rw [ht] at he
      contradiction

/-- The retries are the attempts that told too little. -/
theorem lt_retries_iff (h : Starts w c start limit m n j r) (i : Nat) :
    i < n ↔ i < m ∧ ∃ e, attemptAt w c start i = .error e := by
  have hretried (hi : i < n) : ∃ e, attemptAt w c start i = .error e :=
    (h.retries i hi).isInconclusive
  cases h with
  | unfinished h => exact ⟨fun hi => ⟨hi, hretried hi⟩, And.left⟩
  | stopped hn h hstop => exact ⟨fun hi => ⟨hi, hretried hi⟩, And.left⟩
  | tracking hn h hstop ht =>
    refine ⟨fun hi => ⟨by omega, hretried hi⟩, fun ⟨hi, e, he⟩ => ?_⟩
    rcases Nat.lt_succ_iff_lt_or_eq.mp hi with hi | rfl
    · exact hi
    · rw [ht] at he
      contradiction

/-- After the retries there is at most one more check, and nothing after the snapshot that follows
it. -/
theorem actions_eq (h : Starts w c start limit m n j r) :
    j.actions = Action.laps (List.replicate n (Query.round.map .query)) ++ r.lastActions := by
  cases h with
  | unfinished h => exact (List.append_nil _).symm
  | stopped hn h hstop => rfl
  | tracking hn h hstop ht => exact List.append_assoc _ [_] _

/-- Every attempt sends one round of queries. -/
theorem queries_eq (h : Starts w c start limit m n j r) :
    j.actions.filterMap Action.query? = (List.replicate m Query.round).flatten := by
  have hlaps : (Action.laps (List.replicate n (Query.round.map .query))).filterMap Action.query? =
      (List.replicate n Query.round).flatten := by
    rw [Action.laps, List.filterMap_flatMap, List.flatMap_replicate]
    rfl
  rw [h.actions_eq, List.filterMap_append, hlaps]
  cases h with
  | unfinished h => exact List.append_nil _
  | stopped hn h hstop => exact List.append_nil _
  | tracking hn h hstop ht => rw [List.replicate_succ', List.flatten_concat]; rfl

theorem events_eq (h : Starts w c start limit m n j r) :
    j.events = .initialListing c.namespaceStart ::
      (List.range m).flatMap (attemptEvents w c start) := by
  cases h with
  | unfinished h => rfl
  | stopped hn h hstop => rfl
  | tracking hn h hstop ht =>
    rw [List.range_succ, List.flatMap_append, List.flatMap_singleton]
    rfl

/-- The retries are logged as failed, each under its number. -/
theorem failedAttempts_eq (h : Starts w c start limit m n j r) :
    j.events.filterMap Event.failedAttempt? = List.range' 1 n := by
  have hretried : ((List.range n).flatMap (attemptEvents w c start)).filterMap
      Event.failedAttempt? = List.range' 1 n := by
    rw [List.filterMap_flatMap, List.range'_eq_map_range, List.map_eq_flatMap]
    refine List.flatMap_congr fun i hi => ?_
    obtain ⟨e, he⟩ := (h.retries i (List.mem_range.mp hi)).isInconclusive
    rw [attemptEvents, he, Nat.add_comm]
    rfl
  rw [h.events_eq]
  cases h with
  | unfinished h => exact hretried
  | stopped hn h hstop => exact hretried
  | tracking hn h hstop ht =>
    rw [List.range_succ, List.flatMap_append, List.flatMap_singleton, attemptEvents, ht]
    rw [List.filterMap_cons_none rfl, List.filterMap_append, hretried,
      Tracker.filterMap_failedAttempt?_startEvents, List.append_nil]

/-! ### The outcome -/

/-- There is a tracker iff an attempt that was started is conclusive. -/
theorem eq_tracking_iff (h : Starts w c start limit m n j r) (t : Tracker) :
    r = .tracking t ↔ ∃ i < m, attemptAt w c start i = .ok t := by
  have hretried {i : Nat} (hi : i < n) : attemptAt w c start i ≠ .ok t := by
    obtain ⟨e, he⟩ := (h.retries i hi).isInconclusive
    simp [he]
  cases h with
  | unfinished h => exact iff_of_false nofun fun ⟨_, hi, ht⟩ => hretried hi ht
  | stopped hn h hstop => exact iff_of_false nofun fun ⟨_, hi, ht⟩ => hretried hi ht
  | tracking hn h hstop ht =>
    constructor
    · intro hr
      exact ⟨n, n.lt_succ_self, ht.trans (congrArg _ (Start.tracking.inj hr))⟩
    · rintro ⟨i, hi, hit⟩
      rcases Nat.lt_succ_iff_lt_or_eq.mp hi with hi | rfl
      · exact absurd hit (hretried hi)
      · exact congrArg _ (Except.ok.inj (ht.symm.trans hit))

/-- There is no tracker iff a check saw a stop before any attempt was conclusive. -/
theorem eq_stopped_iff (h : Starts w c start limit m n j r) :
    r = .stopped ↔ ∃ i < limit, (atCheck w c start i).isStopped w = true ∧
      ∀ k < i, ∃ e, attemptAt w c start k = .error e := by
  have hretried {i : Nat} (hi : i < n) : (atCheck w c start i).isStopped w ≠ true := by
    simp [(h.retries i hi).isStopped_eq_false]
  cases h with
  | unfinished h => exact iff_of_false nofun fun ⟨_, hi, hstop, _⟩ => hretried hi hstop
  | stopped hn h hstop =>
    exact iff_of_true rfl ⟨m, hn, hstop, fun k hk => (h k hk).isInconclusive⟩
  | tracking hn h hstop ht =>
    refine iff_of_false nofun fun ⟨i, _, hi, hinconclusive⟩ => ?_
    rcases Nat.lt_trichotomy i n with hlt | rfl | hlt
    · exact hretried hlt hi
    · rw [hstop] at hi
      contradiction
    · obtain ⟨e, he⟩ := hinconclusive n hlt
      rw [ht] at he
      contradiction

/-- The tracker is that of the last attempt. -/
theorem attemptAt_eq (h : Starts w c start limit m n j (.tracking t)) :
    m = n + 1 ∧ attemptAt w c start n = .ok t := by
  cases h with
  | tracking hn h hstop ht => exact ⟨rfl, ht⟩

/-- A tracker is adopted whatever is asked for while its snapshot is being taken. -/
theorem withStops (h : Starts w c start limit m n j (.tracking t))
    {stops : List Action → Nat → Bool}
    (hstops : ∀ k ≤ n, (atCheck w c start k).isStopped (w.withStops stops) = false) :
    Starts (w.withStops stops) c start limit m n j (.tracking t) := by
  cases h with
  | tracking hn h _ ht =>
    exact .tracking hn (fun k hk => ⟨hstops k hk.le, (h k hk).isInconclusive⟩) (hstops n le_rfl) ht

end Starts

/-! ### Requests for a stop -/

/-- If requests last, then a check that sees none tells that no check before it saw one. -/
theorem isStopped_atCheck_of_le (hw : w.Lasting) {i k : Nat} (hki : k ≤ i)
    (hstop : (atCheck w c start i).isStopped w = false) :
    (atCheck w c start k).isStopped w = false := by
  obtain ⟨d, rfl⟩ := Nat.exists_eq_add_of_le hki
  have hactions : (atCheck w c start (k + d)).actions =
      (atCheck w c start k).actions ++ Action.laps (List.replicate d (Query.round.map .query)) := by
    rw [atCheck, List.replicate_add, Action.laps_append]
    rfl
  have helapsed : (atCheck w c start k).elapsed ≤ (atCheck w c start (k + d)).elapsed := by
    simp [atCheck, List.range_add]
  have hlast : (atCheck w c start (k + d)).actions = (atCheck w c start k).actions ∨
      (atCheck w c start (k + d)).actions.getLast? = some .yield := by
    rw [hactions]
    rcases Nat.eq_zero_or_pos d with rfl | hd
    · exact Or.inl (List.append_nil _)
    · rw [List.getLast?_append, Action.getLast?_laps (by simpa using hd.ne'), Option.some_or]
      exact Or.inr rfl
  by_contra hdue
  rw [Bool.not_eq_false] at hdue
  have hseen := hw _ _ _ _ hdue ⟨_, hactions.symm⟩ helapsed hlast
  rw [isStopped, hseen] at hstop
  contradiction

/-! ### The first conclusive snapshot -/

/-- **The start takes the first conclusive snapshot.**  It makes some attempts, some of which tell
too little.  An attempt is started iff no check so far saw a stop and all attempts before it told
too little; if requests for a stop last, only the check before it counts.  Each attempt sends one
round of queries, and each that tells too little is logged as failed, under its number.  There is a
tracker iff an attempt that was started is conclusive, and it is the tracker of this attempt,
whatever is asked for after the check before it.  There is none iff a check saw a stop and all
attempts before it told too little.  Once there is one or the other, a higher limit changes
nothing. -/
theorem startTracker_adopts_first {j : Journal} {r : Start}
    (h : startTracker w c start limit = (j, r)) :
    ∃ m n,
      (∀ i, i < m ↔ i < limit ∧ (∀ k ≤ i, (atCheck w c start k).isStopped w = false) ∧
        ∀ k < i, ∃ e, attemptAt w c start k = .error e) ∧
      (w.Lasting → ∀ i, i < m ↔ i < limit ∧ (atCheck w c start i).isStopped w = false ∧
        ∀ k < i, ∃ e, attemptAt w c start k = .error e) ∧
      (∀ i, i < n ↔ i < m ∧ ∃ e, attemptAt w c start i = .error e) ∧
      j.actions = Action.laps (List.replicate n (Query.round.map .query)) ++ r.lastActions ∧
      j.actions.filterMap Action.query? = (List.replicate m Query.round).flatten ∧
      j.events = .initialListing c.namespaceStart ::
        (List.range m).flatMap (attemptEvents w c start) ∧
      j.events.filterMap Event.failedAttempt? = List.range' 1 n ∧
      (∀ t, r = .tracking t ↔ ∃ i < m, attemptAt w c start i = .ok t) ∧
      (∀ t, r = .tracking t → m = n + 1 ∧ attemptAt w c start n = .ok t ∧
        ∀ stops, (∀ k ≤ n, (atCheck w c start k).isStopped (w.withStops stops) = false) →
          startTracker (w.withStops stops) c start limit = (j, r)) ∧
      (r = .stopped ↔ ∃ i < limit, (atCheck w c start i).isStopped w = true ∧
        ∀ k < i, ∃ e, attemptAt w c start k = .error e) ∧
      (r ≠ .unfinished → ∀ more, startTracker w c start (limit + more) = (j, r)) := by
  obtain ⟨m, n, hstarts⟩ := Starts.of_startTracker h
  refine ⟨m, n, hstarts.lt_attempts_iff, ?_, hstarts.lt_retries_iff, hstarts.actions_eq,
    hstarts.queries_eq, hstarts.events_eq, hstarts.failedAttempts_eq, hstarts.eq_tracking_iff, ?_,
    hstarts.eq_stopped_iff, fun hr more => (hstarts.limit_add hr more).startTracker_eq⟩
  · intro hw i
    rw [hstarts.lt_attempts_iff]
    refine and_congr_right fun _ => and_congr_left fun _ => ⟨fun hstops => hstops i le_rfl, ?_⟩
    exact fun hstop k hk => isStopped_atCheck_of_le hw hk hstop
  · rintro t rfl
    obtain ⟨hm, ht⟩ := hstarts.attemptAt_eq
    exact ⟨hm, ht, fun stops hstops => (hstarts.withStops hstops).startTracker_eq⟩

/-- The small cluster, of which the namespaces cannot be listed in the first round. -/
def secondTry : World :=
  let w := World.shop [[], [("web", 1)]]
  { w with
    answers := fun n =>
      if n = 1 then { w.answers n with namespaces := ⟨.failed "apiserver unavailable", none⟩ }
      else w.answers n }

/-- A stop is asked for in the second round, and the tracker is adopted all the same. -/
theorem startTracker_adopts_first_secondTry :
    ∃ j t, startTracker secondTry Session.shopSettings 42 5 = (j, .tracking t) ∧
      attemptAt secondTry Session.shopSettings 42 1 = .ok t ∧
      j.actions.filterMap Action.query? = Query.round ++ Query.round ∧
      j.events.filterMap Event.failedAttempt? = [1] ∧
      (∀ i, i < 2 ↔ i < 5 ∧
        (atCheck secondTry Session.shopSettings 42 i).isStopped secondTry = false ∧
        ∀ k < i, ∃ e, attemptAt secondTry Session.shopSettings 42 k = .error e) ∧
      j.isStopped secondTry = true ∧
      (∀ more, startTracker secondTry Session.shopSettings 42 (5 + more) = (j, .tracking t)) ∧
      startTracker (secondTry.withStops fun _ _ => false) Session.shopSettings 42 5 =
        (j, .tracking t) := by
  obtain ⟨j, t, h, hstop, h0, h1⟩ :
      ∃ j t, startTracker secondTry Session.shopSettings 42 5 = (j, .tracking t) ∧
        j.isStopped secondTry = true ∧
        (∃ e, attemptAt secondTry Session.shopSettings 42 0 = .error e) ∧
        attemptAt secondTry Session.shopSettings 42 1 = .ok t :=
    ⟨_, _, rfl, rfl, ⟨_, rfl⟩, rfl⟩
  have hw : secondTry.Lasting :=
    fun _ _ _ _ h hab _ hb => StopRequest.isDue_of_prefix h hab le_rfl hb
  obtain ⟨m, n, -, hstarted, hretried, -, hqueries, -, hfailed, -, htracking, -, hlimit⟩ :=
    startTracker_adopts_first h
  obtain ⟨rfl, ht, hstops⟩ := htracking t rfl
  obtain rfl : n = 1 := by
    have hpos : 0 < n := (hretried 0).mpr ⟨Nat.succ_pos n, h0⟩
    by_contra hn
    obtain ⟨-, e, he⟩ := (hretried 1).mp (by omega)
    rw [h1] at he
    contradiction
  exact ⟨j, t, h, h1, hqueries, hfailed, hstarted hw, hstop, hlimit nofun,
    hstops _ fun _ _ => rfl⟩

end Journal

end OutageWatch
