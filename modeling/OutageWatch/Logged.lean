import OutageWatch.Event
import OutageWatch.WordRange

/-!
# Computations that log

A computation logs events in order and then either gives a value or ends with an overflow.  What
was logged before the overflow stays logged.

## Main definitions

* `Logged` : such a computation.
* `Logged.log`, `Logged.lift` : an event, and a value that may overflow.

## Main results

* `Logged.outcome_bind`, `Logged.events_bind` : outcome and events of two computations in a row.
-/

namespace OutageWatch

/-- The events of a computation, and its value unless it overflowed. -/
structure Logged (α : Type) where
  events : List Event
  outcome : Except Overflow α

namespace Logged

variable {α β : Type}

/-- The second computation goes on after the first, unless that overflowed. -/
protected def bind (x : Logged α) (f : α → Logged β) : Logged β :=
  match x.outcome with
  | .ok a => ⟨x.events ++ (f a).events, (f a).outcome⟩
  | .error e => ⟨x.events, .error e⟩

instance : Monad Logged where
  pure a := ⟨[], .ok a⟩
  bind := Logged.bind

/-- Logs events. -/
def log (events : List Event) : Logged Unit := ⟨events, .ok ()⟩

/-- Logs nothing. -/
def lift (outcome : Except Overflow α) : Logged α := ⟨[], outcome⟩

@[simp] theorem outcome_pure (a : α) : (pure a : Logged α).outcome = .ok a := rfl

@[simp] theorem events_pure (a : α) : (pure a : Logged α).events = [] := rfl

@[simp] theorem outcome_log (events : List Event) : (log events).outcome = .ok () := rfl

@[simp] theorem events_log (events : List Event) : (log events).events = events := rfl

@[simp] theorem outcome_lift (r : Except Overflow α) : (lift r).outcome = r := rfl

@[simp] theorem events_lift (r : Except Overflow α) : (lift r).events = [] := rfl

@[simp] theorem outcome_bind (x : Logged α) (f : α → Logged β) :
    (x >>= f).outcome = x.outcome.bind fun a => (f a).outcome := by
  change (Logged.bind x f).outcome = _
  unfold Logged.bind
  cases x.outcome <;> rfl

theorem events_bind (x : Logged α) (f : α → Logged β) :
    (x >>= f).events =
      x.events ++ match x.outcome with | .ok a => (f a).events | .error _ => [] := by
  change (Logged.bind x f).events = _
  unfold Logged.bind
  cases x.outcome <;> simp

end Logged

end OutageWatch
