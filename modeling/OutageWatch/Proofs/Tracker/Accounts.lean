import Mathlib.Algebra.BigOperators.Group.List.Basic
import Mathlib.Data.List.Perm.Basic
import OutageWatch.Proofs.Downtimes.Accounts
import OutageWatch.Proofs.Tracker.Stuttering

/-!
# What is logged accounts for the totals

Each time a tracker is reconciled it logs what changes in every history: that an entity went down,
or came up after so many seconds.  The totals are measured apart from that, from the histories.
Nevertheless, over any number of passes the seconds that are logged of an entity add up to its
total, and it is said once for each of its intervals that it went down.

Several workloads may be tracked under one name, so that the log does not tell them apart.  What is
logged of each is therefore looked up by its place among all that is tracked; and what is logged
under a name is that of all that are tracked under it.

## Main definitions

* `Event.seconds?` : the length that an event tells.
* `Tracker.tracked` : the entities that are tracked, place by place.
* `Look` : what a pass finds at a place.
* `Tracker.watch`, `Tracker.noticesAt` : some passes, and what they log of the entity at a place.

## Main results

* `Tracker.exists_leads` : what is logged at a place leads from the history before to the one after.
* `Tracker.filter_moved?_events_watch` : what is logged of entities is what is logged at the places.
* `Tracker.sum_seconds_eq_total` : what is told of histories and of entities adds up.
-/

namespace OutageWatch

/-- The length that an event tells. -/
def Event.seconds? : Event → Option Int
  | .backUp _ seconds => some seconds
  | _ => none

/-! ### What is said of transitions -/

namespace Transition

variable {e : Entity} {l : List Transition}

theorem filterMap_seconds?_events :
    (l.flatMap (events e)).filterMap Event.seconds? = l.filterMap seconds? := by
  induction l with
  | nil => rfl
  | cons x rest ih =>
    rw [List.flatMap_cons, List.filterMap_append, ih]
    cases x <;> rfl

theorem count_down_events : (l.flatMap (events e)).count (.down e) = l.count .opened := by
  induction l with
  | nil => rfl
  | cons x rest ih =>
    rw [List.flatMap_cons, List.count_append, ih]
    cases x <;> simp [events, Nat.add_comm]

/-- Only the entity itself is said to have moved. -/
theorem moved?_of_mem_events {v : Event} (hv : v ∈ l.flatMap (events e)) : v.moved? = some e := by
  obtain ⟨x, -, hx⟩ := List.mem_flatMap.mp hv
  cases x with
  | opened => rw [List.mem_singleton.mp hx, Event.moved?]
  | closed seconds => rw [List.mem_singleton.mp hx, Event.moved?]
  | unchanged => exact absurd hx List.not_mem_nil

end Transition

/-- What is announced without overflow is said of one after the other. -/
theorem announce_cons_of_ok {entity : Entity} {r : Except Overflow Transition}
    {rest : List (Entity × Except Overflow Transition)}
    (h : (announce ((entity, r) :: rest)).outcome = .ok ()) :
    ∃ x, r = .ok x ∧ (announce rest).outcome = .ok () ∧
      (announce ((entity, r) :: rest)).events = x.events entity ++ (announce rest).events := by
  cases r with
  | error o => simp [announce, Except.bind] at h
  | ok x =>
    refine ⟨x, rfl, ?_, ?_⟩
    · simpa [announce, Except.bind] using h
    · simp [announce, Logged.events_bind]

theorem events_announce_singleton (e : Entity) (x : Transition) :
    (announce [(e, .ok x)]).events = x.events e := by
  simp [announce, Logged.events_bind]

/-- So it is announced place by place. -/
theorem events_announce {l : List (Entity × Except Overflow Transition)}
    (h : (announce l).outcome = .ok ()) :
    (announce l).events = l.flatMap fun e => (announce [e]).events := by
  induction l with
  | nil => rfl
  | cons e rest ih =>
    obtain ⟨x, hx, hrest, hevents⟩ := announce_cons_of_ok h
    rw [hevents, ih hrest, List.flatMap_cons, ← events_announce_singleton, ← hx]

theorem exists_eq_ok_of_announce {l : List (Entity × Except Overflow Transition)}
    (h : (announce l).outcome = .ok ()) : ∀ e ∈ l, ∃ x, e.2 = .ok x := by
  induction l with
  | nil => exact List.forall_mem_nil _
  | cons e rest ih =>
    obtain ⟨x, hx, hrest, -⟩ := announce_cons_of_ok h
    exact List.forall_mem_cons.mpr ⟨⟨x, hx⟩, ih hrest⟩

/-! ### Places -/

/-- What is told of the workloads of a namespace and of itself, with their names. -/
def Namespace.tracked (n : Namespace) : List (Entity × Entry) :=
  n.all.map (fun w => (w.entity, w.entry)) ++ [(n.entity, n.entry)]

/-- What a pass finds at a place: an entity with its history, and whether it is up if the pass
tells. -/
structure Look where
  entity : Entity
  downtimes : Downtimes
  up? : Option Bool

namespace Look

/-- What a pass changes at a place. -/
def transition (now : Int) (k : Look) : Except Overflow Transition :=
  match k.up? with
  | some up => k.downtimes.transition up now
  | none => .ok .unchanged

/-- The history at a place after a pass. -/
def after (now : Int) (k : Look) : Downtimes :=
  match k.up? with
  | some up => k.downtimes.observe up now
  | none => k.downtimes

theorem tells {now : Int} {k : Look} {x : Transition} (h : k.transition now = .ok x) :
    k.downtimes.Tells x (k.after now) := by
  obtain ⟨e, d, up?⟩ := k
  cases up? with
  | none =>
    obtain rfl := Except.ok.inj h
    exact .unchanged
  | some up => exact Downtimes.tells_of_transition h

end Look

namespace Namespace

variable (s : Snapshot) (now : Int) (n : Namespace)

/-- What a snapshot finds in a namespace. -/
def looks : List Look :=
  n.all.map (fun w => ⟨w.entity, w.downtimes, w.up? s⟩) ++
    [⟨n.entity, n.downtimes, some (n.mapWorkloads (Workload.observed s now)).isUp⟩]

theorem transitions_eq_looks :
    n.transitions s now = (n.looks s now).map fun k => (k.entity, k.transition now) := by
  rw [transitions, looks, List.map_append, List.map_map]
  rfl

theorem tracked_eq_looks :
    n.tracked.map (Prod.map id Entry.downtimes) =
      (n.looks s now).map fun k => (k.entity, k.downtimes) := by
  rw [tracked, looks, List.map_append, List.map_append, List.map_map, List.map_map]
  rfl

theorem tracked_observed_eq_looks :
    (n.observed s now).tracked.map (Prod.map id Entry.downtimes) =
      (n.looks s now).map fun k => (k.entity, k.after now) := by
  have hall : (n.observed s now).all = n.all.map (Workload.observed s now) :=
    n.all_called (.reconcile s now)
  rw [tracked, looks, hall, List.map_append, List.map_append, List.map_map, List.map_map,
    List.map_map]
  refine congrArg₂ (· ++ ·) (List.map_congr_left fun w _ => ?_) rfl
  have hentity : (w.observed s now).entity = w.entity := w.entity_called (.reconcile s now)
  have hafter : (w.observed s now).downtimes =
      Look.after now ⟨w.entity, w.downtimes, w.up? s⟩ := by
    rw [Workload.observed, Look.after]
    cases w.up? s <;> rfl
  exact Prod.ext hentity hafter

/-- Once the totals are up to date, every entity comes with its exact total. -/
theorem tracked_called_recompute :
    (n.called .recompute).tracked =
      n.tracked.map (Prod.map id fun e => ⟨e.downtimes, e.downtimes.total⟩) := by
  rw [tracked, all_called, tracked, List.map_append, List.map_map, List.map_map]
  rfl

end Namespace

namespace Tracker

/-- What is told of everything that is tracked, with its name. -/
def tracked (t : Tracker) : List (Entity × Entry) := t.namespaces.flatMap Namespace.tracked

/-- The entity at a place, with its history. -/
def history? (t : Tracker) (p : Nat) : Option (Entity × Downtimes) :=
  t.tracked[p]?.map (Prod.map id Entry.downtimes)

/-- What a snapshot finds, place by place. -/
def looks (s : Snapshot) (now : Int) (t : Tracker) : List Look :=
  t.namespaces.flatMap (Namespace.looks s now)

variable {s : Snapshot} {now : Int} {t u : Tracker}

theorem transitions_eq_looks (s : Snapshot) (now : Int) (t : Tracker) :
    t.transitions s now = (t.looks s now).map fun k => (k.entity, k.transition now) := by
  rw [transitions, looks, List.map_flatMap]
  exact List.flatMap_congr fun n _ => n.transitions_eq_looks s now

theorem history?_eq_looks (s : Snapshot) (now : Int) (t : Tracker) (p : Nat) :
    t.history? p = (t.looks s now)[p]?.map fun k => (k.entity, k.downtimes) := by
  rw [history?, ← List.getElem?_map, ← List.getElem?_map, tracked, looks, List.map_flatMap,
    List.map_flatMap]
  exact congrArg (·[p]?) (List.flatMap_congr fun n _ => n.tracked_eq_looks s now)

theorem history?_observed_eq_looks (s : Snapshot) (now : Int) (t : Tracker) (p : Nat) :
    (t.observed s now).history? p = (t.looks s now)[p]?.map fun k => (k.entity, k.after now) := by
  rw [history?, ← List.getElem?_map, ← List.getElem?_map, tracked, looks, observed,
    List.flatMap_map, List.map_flatMap, List.map_flatMap]
  exact congrArg (·[p]?) (List.flatMap_congr fun n _ => n.tracked_observed_eq_looks s now)

/-- The places are those of the transitions. -/
theorem length_transitions (s : Snapshot) (now : Int) (t : Tracker) :
    (t.transitions s now).length = t.tracked.length := by
  rw [transitions, tracked, List.length_flatMap, List.length_flatMap]
  simp [Namespace.transitions, Namespace.tracked]

theorem length_tracked_called (t : Tracker) (c : Call) :
    (t.called c).tracked.length = t.tracked.length := by
  rw [tracked, tracked, List.length_flatMap, List.length_flatMap, called]
  simp [Namespace.tracked, Function.comp_def]

/-! ### Passes -/

/-- A tracker is reconciled with one snapshot after the other, each at a time. -/
def watch (t : Tracker) (passes : List (Snapshot × Int)) : Logged Tracker :=
  passes.foldlM (fun u p => u.reconcile p.1 p.2) t

/-- What passes log of the entity at a place. -/
def noticesAt (p : Nat) : Tracker → List (Snapshot × Int) → List Event
  | _, [] => []
  | t, (s, now) :: rest =>
    (announce (t.transitions s now)[p]?.toList).events ++ noticesAt p (t.observed s now) rest

/-- A pass that does not overflow announces all that it changes. -/
theorem outcome_announce_of_call (h : t.call (.reconcile s now) = .ok u) :
    (announce (t.transitions s now)).outcome = .ok () := by
  rw [call, outcome_reconcile] at h
  cases ha : (announce (t.transitions s now)).outcome with
  | error o => simp [ha, Except.map] at h
  | ok _ => rfl

/-- What a pass logs at a place is what it changes there. -/
theorem exists_tells (h : t.call (.reconcile s now) = .ok u) {p : Nat} {e : Entity}
    {d : Downtimes} (hp : t.history? p = some (e, d)) :
    ∃ x f, (announce (t.transitions s now)[p]?.toList).events = x.events e ∧
      u.history? p = some (e, f) ∧ d.Tells x f := by
  obtain rfl : u = t.observed s now := eq_called_of_call h
  rw [history?_eq_looks s now] at hp
  obtain ⟨k, hk, hke⟩ := Option.map_eq_some_iff.mp hp
  obtain ⟨rfl, rfl⟩ := Prod.mk.inj hke
  have hplace : (t.transitions s now)[p]? = some (k.entity, k.transition now) := by
    rw [transitions_eq_looks, List.getElem?_map, hk, Option.map_some]
  obtain ⟨x, hx⟩ : ∃ x, k.transition now = .ok x :=
    exists_eq_ok_of_announce (outcome_announce_of_call h) _ (List.mem_of_getElem? hplace)
  refine ⟨x, k.after now, ?_, ?_, Look.tells hx⟩
  · rw [hplace, hx]
    exact events_announce_singleton k.entity x
  · rw [history?_observed_eq_looks, hk, Option.map_some]

theorem outcome_watch_cons {passes : List (Snapshot × Int)}
    (h : (t.watch ((s, now) :: passes)).outcome = .ok u) :
    t.call (.reconcile s now) = .ok (t.observed s now) ∧
      ((t.observed s now).watch passes).outcome = .ok u ∧
      (t.watch ((s, now) :: passes)).events =
        (t.reconcile s now).events ++ ((t.observed s now).watch passes).events := by
  rw [watch, List.foldlM_cons, Logged.outcome_bind] at h
  obtain ⟨v, hv, hrest⟩ := bind_eq_ok_iff.mp h
  have hcall : t.call (.reconcile s now) = .ok v := hv
  obtain rfl : v = t.observed s now := eq_called_of_call hcall
  refine ⟨hcall, hrest, ?_⟩
  rw [watch, List.foldlM_cons, Logged.events_bind, hv]
  rfl

/-- What passes log at a place leads from the history before them to the one after. -/
theorem exists_leads {passes : List (Snapshot × Int)} (h : (t.watch passes).outcome = .ok u)
    {p : Nat} {e : Entity} {d : Downtimes} (hp : t.history? p = some (e, d)) :
    ∃ l f, t.noticesAt p passes = l.flatMap (Transition.events e) ∧ u.history? p = some (e, f) ∧
      d.Leads l f := by
  induction passes generalizing t d with
  | nil =>
    obtain rfl := Except.ok.inj h
    exact ⟨[], d, rfl, hp, .nil d⟩
  | cons pass rest ih =>
    obtain ⟨hfirst, hrest, -⟩ := outcome_watch_cons h
    obtain ⟨x, f, hx, hf, htells⟩ := exists_tells hfirst hp
    obtain ⟨l, g, hl, hg, hleads⟩ := ih hrest hf
    refine ⟨x :: l, g, ?_, hg, .cons htells hleads⟩
    rw [noticesAt, hx, hl, List.flatMap_cons]

theorem length_tracked_of_watch {passes : List (Snapshot × Int)}
    (h : (t.watch passes).outcome = .ok u) : u.tracked.length = t.tracked.length := by
  induction passes generalizing t with
  | nil => rw [← Except.ok.inj h]
  | cons pass rest ih =>
    obtain ⟨-, hrest, -⟩ := outcome_watch_cons h
    rw [ih hrest]
    exact t.length_tracked_called (.reconcile pass.1 pass.2)

/-! ### The log -/

/-- A list is what is at its places. -/
theorem flatMap_range_getElem? {α β : Type} (f : α → List β) (l : List α) :
    ((List.range l.length).flatMap fun p => l[p]?.toList.flatMap f) = l.flatMap f := by
  induction l with
  | nil => rfl
  | cons a rest ih =>
    rw [List.length_cons, List.range_succ_eq_map, List.flatMap_cons, List.flatMap_map,
      List.flatMap_cons, ← ih]
    simp

/-- What a pass logs of entities is what it logs at the places, one after the other. -/
theorem filter_moved?_events_reconcile (h : t.call (.reconcile s now) = .ok u) :
    (t.reconcile s now).events.filter (·.moved?.isSome) =
      (List.range t.tracked.length).flatMap fun p =>
        (announce (t.transitions s now)[p]?.toList).events := by
  have hok := outcome_announce_of_call h
  have hsnapshot : (t.snapshotEvents s).filter (·.moved?.isSome) = [] := by
    rw [List.filter_eq_nil_iff]
    intro v hv
    simp [List.filterMap_eq_nil_iff.mp (moved?_snapshotEvents s t) v hv]
  have hplaces (p : Nat) : (announce (t.transitions s now)[p]?.toList).events =
      (t.transitions s now)[p]?.toList.flatMap fun e => (announce [e]).events := by
    cases (t.transitions s now)[p]? with
    | none => rfl
    | some e => simp
  have hall : ∀ v ∈ (announce (t.transitions s now)).events, v.moved?.isSome = true := by
    rw [events_announce hok]
    intro v hv
    obtain ⟨e, he, hv⟩ := List.mem_flatMap.mp hv
    obtain ⟨x, hx⟩ := exists_eq_ok_of_announce hok e he
    obtain ⟨entity, r⟩ := e
    obtain rfl : r = .ok x := hx
    rw [events_announce_singleton] at hv
    have hmem : v ∈ [x].flatMap (Transition.events entity) := by simpa using hv
    rw [Transition.moved?_of_mem_events hmem]
    rfl
  simp only [reconcile, Logged.events_bind, Logged.events_log, Logged.outcome_log, hok,
    Logged.events_pure, List.append_nil, List.filter_append, hsnapshot, List.nil_append]
  rw [List.filter_eq_self.mpr hall, events_announce hok, ← length_transitions s now,
    List.flatMap_congr fun p _ => hplaces p, flatMap_range_getElem?]

/-- What passes log of entities is, up to the order, what they log at the places. -/
theorem filter_moved?_events_watch {passes : List (Snapshot × Int)}
    (h : (t.watch passes).outcome = .ok u) :
    ((t.watch passes).events.filter (·.moved?.isSome)).Perm
      ((List.range t.tracked.length).flatMap fun p => t.noticesAt p passes) := by
  induction passes generalizing t with
  | nil =>
    have hnothing : ((List.range t.tracked.length).flatMap fun p => t.noticesAt p []) = [] :=
      List.flatMap_eq_nil_iff.mpr fun _ _ => rfl
    rw [hnothing]
    exact .nil
  | cons pass rest ih =>
    obtain ⟨hfirst, hrest, hevents⟩ := outcome_watch_cons h
    have hlength : (t.observed pass.1 pass.2).tracked.length = t.tracked.length :=
      t.length_tracked_called (.reconcile pass.1 pass.2)
    have ih := ih hrest
    rw [hlength] at ih
    rw [hevents, List.filter_append, filter_moved?_events_reconcile hfirst]
    exact (ih.append_left _).trans (List.flatMap_append_perm ..)

/-! ### Totals -/

variable {v : Tracker} {first : Snapshot} {start : Int} {passes : List (Snapshot × Int)}

theorem tracked_of_recompute (h : u.recompute = .ok v) :
    v.tracked = u.tracked.map (Prod.map id fun e => ⟨e.downtimes, e.downtimes.total⟩) := by
  obtain rfl : v = u.called .recompute := eq_called_of_call h
  rw [tracked, called, List.flatMap_map, tracked, List.map_flatMap]
  exact List.flatMap_congr fun n _ => n.tracked_called_recompute

/-- At the start every history is empty. -/
theorem eq_empty_of_history? (h : ofSnapshot first start = .ok t) {p : Nat} {e : Entity}
    {d : Downtimes} (hp : t.history? p = some (e, d)) : d = .empty := by
  obtain ⟨⟨_, entry⟩, hentry, hd⟩ := Option.map_eq_some_iff.mp hp
  obtain ⟨n, hn, hmem⟩ := List.mem_flatMap.mp (List.mem_of_getElem? hentry)
  obtain ⟨-, rfl⟩ := Prod.mk.inj hd
  refine (fresh_of_ofSnapshot h n hn).eq_empty_of_mem_histories ?_
  rcases List.mem_append.mp hmem with hmem | hmem
  · obtain ⟨w, hw, hwe⟩ := List.mem_map.mp hmem
    obtain ⟨-, rfl⟩ := Prod.mk.inj hwe
    exact List.mem_append_left _ (List.mem_map_of_mem hw)
  · obtain ⟨-, rfl⟩ := Prod.mk.inj (List.mem_singleton.mp hmem)
    exact List.mem_append_right _ (List.mem_singleton.mpr rfl)

/-- What passes log at a place leads from an empty history to the one that is measured. -/
theorem exists_leads_of_recompute (ht : ofSnapshot first start = .ok t)
    (hu : (t.watch passes).outcome = .ok u) (hv : u.recompute = .ok v) {p : Nat} {e : Entity}
    {entry : Entry} (hp : v.tracked[p]? = some (e, entry)) :
    ∃ l, t.noticesAt p passes = l.flatMap (Transition.events e) ∧
      Downtimes.empty.Leads l entry.downtimes ∧ entry.seconds = entry.downtimes.total := by
  rw [tracked_of_recompute hv, List.getElem?_map] at hp
  obtain ⟨⟨_, before⟩, hbefore, hentry⟩ := Option.map_eq_some_iff.mp hp
  obtain ⟨rfl, rfl⟩ := Prod.mk.inj hentry
  have hlt : p < t.tracked.length := by
    rw [← length_tracked_of_watch hu]
    exact (List.getElem?_eq_some_iff.mp hbefore).1
  have hfirst : t.history? p = some (t.tracked[p].1, t.tracked[p].2.downtimes) := by
    rw [history?, List.getElem?_eq_getElem hlt]
    rfl
  obtain ⟨l, f, hl, hf, hleads⟩ := exists_leads hu hfirst
  rw [history?, hbefore] at hf
  obtain ⟨rfl, rfl⟩ := Prod.mk.inj (Option.some.inj hf)
  rw [eq_empty_of_history? ht hfirst] at hleads
  exact ⟨l, hl, hleads, rfl⟩

/-- A quantity that adds up over the log, whatever its order, is for an entity what it is at the
places of the entity. -/
theorem sum_about {M : Type} [AddCommMonoid M] {size : List Event → M} (hnil : size [] = 0)
    (happend : ∀ l m, size (l ++ m) = size l + size m)
    (hperm : ∀ l m : List Event, l.Perm m → size l = size m)
    (ht : ofSnapshot first start = .ok t) (hu : (t.watch passes).outcome = .ok u)
    (hv : u.recompute = .ok v) (e : Entity) {value : Entry → M}
    (hvalue : ∀ p entry, v.tracked[p]? = some (e, entry) →
      size (t.noticesAt p passes) = value entry) :
    size ((t.watch passes).events.filter (·.moved? = some e)) =
      ((v.tracked.filter (·.1 = e)).map (value ·.2)).sum := by
  have hflatMap (l : List Nat) (f : Nat → List Event) :
      size (l.flatMap f) = (l.map fun p => size (f p)).sum := by
    induction l with
    | nil => exact hnil
    | cons p rest ih => rw [List.flatMap_cons, happend, ih, List.map_cons, List.sum_cons]
  have habout : (t.watch passes).events.filter (·.moved? = some e) =
      ((t.watch passes).events.filter (·.moved?.isSome)).filter (·.moved? = some e) := by
    rw [List.filter_filter]
    refine List.filter_congr fun x _ => ?_
    cases x.moved? <;> simp
  have hlength : v.tracked.length = t.tracked.length := by
    rw [tracked_of_recompute hv, List.length_map, length_tracked_of_watch hu]
  have hplaces : ((List.range t.tracked.length).map fun p =>
        size ((t.noticesAt p passes).filter (·.moved? = some e))) =
      v.tracked.map fun x => if x.1 = e then value x.2 else 0 := by
    refine List.ext_getElem (by simp [hlength]) fun p _ hp => ?_
    rw [List.length_map] at hp
    rw [List.getElem_map, List.getElem_map, List.getElem_range]
    have hentry : v.tracked[p]? = some (v.tracked[p].1, v.tracked[p].2) :=
      List.getElem?_eq_getElem hp
    obtain ⟨l, hl, -⟩ := exists_leads_of_recompute ht hu hv hentry
    have hmoved : ∀ x ∈ t.noticesAt p passes, x.moved? = some v.tracked[p].1 :=
      fun x hx => Transition.moved?_of_mem_events (hl ▸ hx)
    split
    next heq =>
      rw [heq] at hentry hmoved
      rw [← hvalue p _ hentry, List.filter_eq_self.mpr fun x hx => by simp [hmoved x hx]]
    next hne =>
      rw [List.filter_eq_nil_iff.mpr fun x hx => by simp [hmoved x hx, hne], hnil]
  have hsum : (v.tracked.map fun x => if x.1 = e then value x.2 else 0).sum =
      ((v.tracked.filter (·.1 = e)).map (value ·.2)).sum := by
    simp [List.sum_map_ite]
  rw [habout, hperm _ _ ((filter_moved?_events_watch hu).filter _), List.filter_flatMap, hflatMap,
    hplaces, hsum]

/-- **What is told accounts for the totals.**  The transitions of marks on a history, wherever it
comes from, open and close by turns, closing first iff the history was open.  The history has one
more interval for each that opens, and if the total fits, it is larger by just the seconds that
those tell that close.  A transition says that nothing changes iff nothing does.

Over any passes of a tracker that a snapshot started, what is logged of the entity at a place
therefore adds up to its total, once that is up to date, and says once for each of its intervals
that it went down.  The same is true of the log as a whole and everything tracked under one name. -/
theorem sum_seconds_eq_total :
    (∀ (d e : Downtimes) (marks : List Mark) (l : List Transition), d.markAll marks = .ok (l, e) →
      (l.filterMap Transition.opens?).IsChain (· ≠ ·) ∧
      (∀ b ∈ (l.filterMap Transition.opens?).head?, b = false ↔ d.isOpen = true) ∧
      e.intervals.length = d.intervals.length + l.count .opened ∧
      (∀ n, e.checkedTotal = .ok n →
        ∃ m, d.checkedTotal = .ok m ∧ n = m + (l.filterMap Transition.seconds?).sum) ∧
      ∀ k < marks.length, ∃ f g, d.markAll (marks.take k) = .ok (l.take k, f) ∧
        d.markAll (marks.take (k + 1)) = .ok (l.take (k + 1), g) ∧
        ∃ x, l[k]? = some x ∧ (x = .unchanged ↔ g = f)) ∧
    ∀ (first : Snapshot) (start : Int) (t u v : Tracker) (passes : List (Snapshot × Int)),
      ofSnapshot first start = .ok t → (t.watch passes).outcome = .ok u → u.recompute = .ok v →
      (∀ p e entry, v.tracked[p]? = some (e, entry) →
        ((t.noticesAt p passes).filterMap Event.seconds?).sum = entry.seconds ∧
        (t.noticesAt p passes).count (.down e) = entry.downtimes.intervals.length) ∧
      ∀ e, (((t.watch passes).events.filter (·.moved? = some e)).filterMap Event.seconds?).sum =
          ((v.tracked.filter (·.1 = e)).map (·.2.seconds)).sum ∧
        (t.watch passes).events.count (.down e) =
          ((v.tracked.filter (·.1 = e)).map (·.2.downtimes.intervals.length)).sum := by
  constructor
  · intro d e marks l h
    have hleads := Downtimes.leads_of_markAll h
    refine ⟨hleads.isChain_opens?, ?_, hleads.length_eq, fun n => hleads.checkedTotal_eq, ?_⟩
    · intro b hb
      rw [hleads.eq_of_mem_head? b hb]
      cases d.isOpen <;> decide
    · intro k hk
      obtain ⟨x, hx, htells⟩ := Downtimes.exists_tells_of_markAll h hk
      exact ⟨_, _, Downtimes.markAll_take h k, Downtimes.markAll_take h (k + 1), x, hx,
        htells.eq_unchanged_iff⟩
  · intro first start t u v passes ht hu hv
    have hplace {p : Nat} {e : Entity} {entry : Entry} (hp : v.tracked[p]? = some (e, entry)) :
        ((t.noticesAt p passes).filterMap Event.seconds?).sum = entry.seconds ∧
        (t.noticesAt p passes).count (.down e) = entry.downtimes.intervals.length := by
      obtain ⟨l, hl, hleads, hseconds⟩ := exists_leads_of_recompute ht hu hv hp
      have htotal : entry.downtimes.total = 0 + (l.filterMap Transition.seconds?).sum :=
        hleads.total_eq
      have hlength : entry.downtimes.intervals.length = 0 + l.count .opened := hleads.length_eq
      rw [hl, Transition.filterMap_seconds?_events, Transition.count_down_events, hseconds, htotal,
        hlength, Int.zero_add, Nat.zero_add]
      exact ⟨rfl, rfl⟩
    refine ⟨fun p e entry hp => hplace hp, fun e => ⟨?_, ?_⟩⟩
    · refine sum_about rfl (fun l m => ?_) (fun l m h => (h.filterMap _).sum_eq) ht hu hv e
        fun p entry hp => (hplace hp).1
      rw [List.filterMap_append, List.sum_append]
    · have habout : (t.watch passes).events.count (.down e) =
          ((t.watch passes).events.filter (·.moved? = some e)).count (.down e) :=
        (List.count_filter (by simp [Event.moved?])).symm
      rw [habout]
      exact sum_about rfl (fun l m => List.count_append) (fun l m h => h.count_eq _) ht hu hv e
        fun p entry hp => (hplace hp).2

/-- Two workloads of one name go down and come up when the clock was set back, and a third one goes
down just then. -/
def namesakesRun : List (Snapshot × Int) :=
  [(.shop [("web", 0), ("db", 1)], 10), (.dark, 5), (.shop [("web", 1)], 4),
    (.shop [("web", 1), ("db", 1)], 30), (.shop [("db", 0)], 31)]

/-- A history with an open interval in the middle and one that ends before it starts. -/
theorem sum_seconds_eq_total_namesakesRun :
    ∃ l e m n, Downtimes.markAll ⟨[⟨1, none⟩, ⟨9, some 4⟩, ⟨5, none⟩]⟩
        [.down 2, .up 3, .seen false 1, .seen true 20] = .ok (l, e) ∧
      l = [.unchanged, .closed 0, .opened, .closed 15] ∧
      e.checkedTotal = .ok n ∧
      Downtimes.checkedTotal ⟨[⟨1, none⟩, ⟨9, some 4⟩, ⟨5, none⟩]⟩ = .ok m ∧
      n = m + (l.filterMap Transition.seconds?).sum ∧
      e.intervals.length = 3 + l.count .opened ∧
    ∃ u v, ofSnapshot (.shop [("web", 1), ("web", 1), ("db", 1)]) 0 =
        .ok (shop ["web", "web", "db"]) ∧
      ((shop ["web", "web", "db"]).watch namesakesRun).outcome = .ok u ∧ u.recompute = .ok v ∧
      ((shop ["web", "web", "db"]).noticesAt 1 namesakesRun).count
        (.down (.workload .deployment "shop" "web")) = 2 ∧
      ((((shop ["web", "web", "db"]).watch namesakesRun).events.filter
        (·.moved? = some (.namespaced "shop"))).filterMap Event.seconds?).sum = 20 := by
  obtain ⟨hhistory, htracker⟩ := sum_seconds_eq_total
  have hmarks : Downtimes.markAll ⟨[⟨1, none⟩, ⟨9, some 4⟩, ⟨5, none⟩]⟩
      [.down 2, .up 3, .seen false 1, .seen true 20] =
      .ok ([.unchanged, .closed 0, .opened, .closed 15],
        ⟨[⟨1, none⟩, ⟨9, some 4⟩, ⟨5, some 5⟩, ⟨5, some 20⟩]⟩) := rfl
  obtain ⟨-, -, hlength, htotal, -⟩ := hhistory _ _ _ _ hmarks
  obtain ⟨m, hm, hn⟩ := htotal 10 rfl
  have ht : ofSnapshot (.shop [("web", 1), ("web", 1), ("db", 1)]) 0 =
      .ok (shop ["web", "web", "db"]) := by decide
  obtain ⟨u, v, hu, hv, hweb, hshop⟩ : ∃ u v,
      ((shop ["web", "web", "db"]).watch namesakesRun).outcome = .ok u ∧ u.recompute = .ok v ∧
      v.tracked[1]? =
        some (.workload .deployment "shop" "web", ⟨⟨[⟨10, some 10⟩, ⟨31, none⟩]⟩, 0⟩) ∧
      v.tracked.filter (·.1 = .namespaced "shop") =
        [(.namespaced "shop", ⟨⟨[⟨10, some 30⟩, ⟨31, none⟩]⟩, 20⟩)] :=
    ⟨_, _, rfl, rfl, rfl, rfl⟩
  obtain ⟨hplace, habout⟩ := htracker _ _ _ _ _ _ ht hu hv
  refine ⟨_, _, m, 10, hmarks, rfl, rfl, hm, hn, hlength, u, v, ht, hu, hv, ?_, ?_⟩
  · exact (hplace _ _ _ hweb).2
  · rw [(habout (.namespaced "shop")).1, hshop]
    rfl

end Tracker

end OutageWatch
