import Mathlib.Algebra.BigOperators.Group.List.Basic
import Mathlib.Algebra.Ring.Int.Defs
import OutageWatch.Proofs.Downtimes.Marks
import OutageWatch.Proofs.Faults

/-!
# Transitions account for a history

What is told of a history is a list of transitions, one for each mark.  The list and the history are
measured apart from each other: a transition tells the length of the interval that it closes, while
the total adds up the lengths of all ended intervals.  Even so the transitions account for the
history, wherever it comes from: they open and close by turns, the history has one more interval for
each that opens, and its total is larger by what those that close tell.

## Main definitions

* `Transition.opens?`, `Transition.seconds?` : whether a transition opens, and the length it tells.
* `Downtimes.Tells`, `Downtimes.Leads` : what one transition says of the histories before and after
  it, and what transitions in a row say.

## Main results

* `Downtimes.tells_of_transition` : all that an observation does.
* `Downtimes.leads_of_markAll` : all that marks do.
* `Downtimes.Leads.isChain_opens?`, `Downtimes.Leads.length_eq`, `Downtimes.Leads.total_eq` : how
  transitions account for a history.
* `Downtimes.Leads.checkedTotal_eq` : if the total fits afterwards, it did before.
-/

namespace OutageWatch

namespace Transition

/-- Whether a transition opens an interval or closes one, if it does either. -/
def opens? : Transition → Option Bool
  | opened => some true
  | closed _ => some false
  | unchanged => none

/-- The length that a transition tells. -/
def seconds? : Transition → Option Int
  | closed seconds => some seconds
  | _ => none

end Transition

namespace Downtimes

/-! ### One transition -/

/-- What a transition says of the history before it and the one after it. -/
inductive Tells : Downtimes → Transition → Downtimes → Prop
  | unchanged {d : Downtimes} : Tells d .unchanged d
  | opened {d : Downtimes} (start : Int) (h : d.isOpen = false) :
    Tells d .opened ⟨d.intervals ++ [⟨start, none⟩]⟩
  | closed (l : List Interval) (start finish : Int) :
    Tells ⟨l ++ [⟨start, none⟩]⟩ (.closed (finish - start)) ⟨l ++ [⟨start, some finish⟩]⟩

/-- An observation that does not overflow does what its transition says. -/
theorem tells_of_transition {d : Downtimes} {up : Bool} {now : Int} {x : Transition}
    (h : d.transition up now = .ok x) : d.Tells x (d.observe up now) := by
  induction d using casesLast with
  | empty =>
    cases up with
    | true =>
      obtain rfl := Except.ok.inj h
      exact .unchanged
    | false =>
      obtain rfl := Except.ok.inj h
      exact .opened now rfl
  | opened l start =>
    cases up with
    | true =>
      simp only [transition, List.getLast?_concat] at h
      cases hlength : checkedSub (max now start) start with
      | error e => simp [hlength, Functor.map, Except.map] at h
      | ok seconds =>
        obtain ⟨-, rfl⟩ := checkedSub_eq_ok_iff.mp hlength
        rw [hlength] at h
        obtain rfl := Except.ok.inj h
        rw [observe_true, markUp_opened]
        exact .closed l start (max now start)
    | false =>
      simp only [transition, List.getLast?_concat] at h
      obtain rfl := Except.ok.inj h
      rw [observe_false, markDown_opened]
      exact .unchanged
  | ended l start finish =>
    cases up with
    | true =>
      simp only [transition, List.getLast?_concat] at h
      obtain rfl := Except.ok.inj h
      rw [observe_true, markUp_ended]
      exact .unchanged
    | false =>
      simp only [transition, List.getLast?_concat] at h
      obtain rfl := Except.ok.inj h
      rw [observe_false, markDown_ended]
      exact .opened _ (by simp [Interval.isOpen])

theorem addLengths_append (sum : Int) (l m : List Interval) :
    addLengths sum (l ++ m) = addLengths sum l >>= fun n => addLengths n m := by
  induction l generalizing sum with
  | nil => rfl
  | cons i rest ih =>
    rw [List.cons_append, addLengths, addLengths, bind_assoc]
    congr 1
    funext length
    cases length with
    | none => exact ih sum
    | some seconds => simp only [ih, bind_assoc]

theorem total_append (l m : List Interval) : total ⟨l ++ m⟩ = total ⟨l⟩ + total ⟨m⟩ := by
  change (lengths ⟨l ++ m⟩).sum = (lengths ⟨l⟩).sum + (lengths ⟨m⟩).sum
  rw [lengths, List.filterMap_append, List.sum_append]
  rfl

namespace Tells

variable {d e : Downtimes} {x : Transition}

/-- Nothing is said to change iff nothing does. -/
theorem eq_unchanged_iff (h : d.Tells x e) : x = .unchanged ↔ e = d := by
  cases h with
  | unchanged => simp
  | opened start =>
    refine iff_of_false nofun fun h => ?_
    have hlength := congrArg (fun d : Downtimes => d.intervals.length) h
    simp at hlength
  | closed l start finish => simp

/-- Only what is closed is opened, and the other way round. -/
theorem isOpen_of_mem (h : d.Tells x e) {b : Bool} (hb : b ∈ x.opens?) :
    d.isOpen = !b ∧ e.isOpen = b := by
  cases h with
  | unchanged => contradiction
  | opened start hopen =>
    obtain rfl := Option.some.inj hb
    exact ⟨hopen, by simp [Interval.isOpen]⟩
  | closed l start finish =>
    obtain rfl := Option.some.inj hb
    simp [Interval.isOpen]

theorem length_eq (h : d.Tells x e) :
    e.intervals.length = d.intervals.length + [x].count .opened := by
  cases h <;> simp

theorem total_eq (h : d.Tells x e) : e.total = d.total + x.seconds?.getD 0 := by
  cases h with
  | unchanged => exact (Int.add_zero _).symm
  | opened start => exact total_append d.intervals [⟨start, none⟩]
  | closed l start finish =>
    have hopen : total ⟨[⟨start, none⟩]⟩ = 0 := rfl
    have hended : total ⟨[⟨start, some finish⟩]⟩ = finish - start := Int.add_zero _
    rw [total_append, total_append, hopen, hended, Int.add_zero]
    rfl

/-- A sum on the way to the total before is one on the way to the total after. -/
theorem exists_checkedTotal (h : d.Tells x e) {n : Int} (hn : e.checkedTotal = .ok n) :
    ∃ m, d.checkedTotal = .ok m := by
  cases h with
  | unchanged => exact ⟨n, hn⟩
  | opened start =>
    rw [checkedTotal, addLengths_append] at hn
    obtain ⟨m, hm, -⟩ := bind_eq_ok_iff.mp hn
    exact ⟨m, hm⟩
  | closed l start finish =>
    rw [checkedTotal, addLengths_append] at hn
    obtain ⟨m, hm, -⟩ := bind_eq_ok_iff.mp hn
    refine ⟨m, ?_⟩
    rw [checkedTotal, addLengths_append, hm]
    rfl

end Tells

/-! ### Transitions in a row -/

/-- What transitions say of the history before the first and the one after the last. -/
inductive Leads : Downtimes → List Transition → Downtimes → Prop
  | nil (d : Downtimes) : Leads d [] d
  | cons {d e f : Downtimes} {x : Transition} {l : List Transition} (h : d.Tells x e)
    (hrest : Leads e l f) : Leads d (x :: l) f

/-- Marks that do not overflow do what their transitions say. -/
theorem leads_of_markAll {d e : Downtimes} {marks : List Mark} {l : List Transition}
    (h : d.markAll marks = .ok (l, e)) : d.Leads l e := by
  induction marks generalizing d l with
  | nil =>
    obtain ⟨rfl, rfl⟩ := Prod.mk.inj (Except.ok.inj h)
    exact .nil d
  | cons m rest ih =>
    obtain ⟨x, xs, hx, hrest, rfl⟩ := markAll_cons_eq_ok.mp h
    refine .cons ?_ (ih hrest)
    rw [marked_eq_sighted]
    exact tells_of_transition hx

/-- So does every single one of them. -/
theorem exists_tells_of_markAll {d e : Downtimes} {marks : List Mark} {l : List Transition}
    (h : d.markAll marks = .ok (l, e)) {k : Nat} (hk : k < marks.length) :
    ∃ x, l[k]? = some x ∧
      ((marks.take k).foldl marked d).Tells x ((marks.take (k + 1)).foldl marked d) := by
  induction marks generalizing d l k with
  | nil => exact absurd hk (Nat.not_lt_zero k)
  | cons m rest ih =>
    obtain ⟨x, xs, hx, hrest, rfl⟩ := markAll_cons_eq_ok.mp h
    cases k with
    | zero =>
      refine ⟨x, rfl, ?_⟩
      change d.Tells x (d.marked m)
      rw [marked_eq_sighted]
      exact tells_of_transition hx
    | succ k => exact ih hrest (Nat.lt_of_succ_lt_succ hk)

namespace Leads

variable {d e : Downtimes} {l : List Transition}

/-- The first transition that opens or closes does what the history lets it do. -/
theorem eq_of_mem_head? (h : d.Leads l e) : ∀ b ∈ (l.filterMap Transition.opens?).head?,
    b = !d.isOpen := by
  induction h with
  | nil => exact nofun
  | @cons d e f x l hx _ ih =>
    cases hb : x.opens? with
    | none =>
      obtain rfl : x = .unchanged := by cases x <;> trivial
      obtain rfl : e = d := hx.eq_unchanged_iff.mp rfl
      rwa [List.filterMap_cons_none hb]
    | some b =>
      rw [List.filterMap_cons_some hb]
      simp [(hx.isOpen_of_mem hb).1]

/-- Transitions open and close by turns. -/
theorem isChain_opens? (h : d.Leads l e) : (l.filterMap Transition.opens?).IsChain (· ≠ ·) := by
  induction h with
  | nil => exact List.IsChain.nil
  | @cons d e f x l hx hrest ih =>
    cases hb : x.opens? with
    | none => rwa [List.filterMap_cons_none hb]
    | some b =>
      rw [List.filterMap_cons_some hb, List.isChain_cons]
      refine ⟨fun c hc => ?_, ih⟩
      rw [hrest.eq_of_mem_head? c hc, (hx.isOpen_of_mem hb).2]
      exact (Bool.not_ne_self b).symm

/-- There is one more interval for each transition that opens. -/
theorem length_eq (h : d.Leads l e) :
    e.intervals.length = d.intervals.length + l.count .opened := by
  induction h with
  | nil => rfl
  | @cons d e f x l hx _ ih =>
    rw [ih, hx.length_eq, Nat.add_assoc, ← List.count_append, List.singleton_append]

/-- The total is larger by what the transitions that close tell. -/
theorem total_eq (h : d.Leads l e) : e.total = d.total + (l.filterMap Transition.seconds?).sum := by
  induction h with
  | nil => exact (Int.add_zero _).symm
  | @cons d e f x l hx _ ih =>
    rw [ih, hx.total_eq, Int.add_assoc]
    cases hs : x.seconds? with
    | none => rw [List.filterMap_cons_none hs, Option.getD_none, Int.zero_add]
    | some seconds => rw [List.filterMap_cons_some hs, Option.getD_some, List.sum_cons]

/-- If the total fits afterwards, it did before, and has grown by what is told. -/
theorem checkedTotal_eq (h : d.Leads l e) {n : Int} (hn : e.checkedTotal = .ok n) :
    ∃ m, d.checkedTotal = .ok m ∧ n = m + (l.filterMap Transition.seconds?).sum := by
  obtain ⟨m, hm⟩ : ∃ m, d.checkedTotal = .ok m := by
    induction h with
    | nil => exact ⟨n, hn⟩
    | cons hx _ ih =>
      obtain ⟨k, hk⟩ := ih hn
      exact hx.exists_checkedTotal hk
  refine ⟨m, hm, ?_⟩
  rw [eq_total_of_checkedTotal hn, eq_total_of_checkedTotal hm, h.total_eq]

end Leads

end Downtimes

end OutageWatch
