import Mathlib.Logic.Basic

/-!
# Results that may be faults

What is computed in steps, any of which may be at fault, has a value if and only if all its steps
have theirs.

## Main results

* `bind_eq_ok_iff`, `map_eq_ok_iff` : the value of steps in turn.
* `mapM_eq_ok_iff` : what is decoded if it is there.
-/

namespace OutageWatch

section

variable {ε ε' α β : Type}

theorem bind_eq_ok_iff {x : Except ε α} {f : α → Except ε β} {b : β} :
    (x >>= f) = .ok b ↔ ∃ a, x = .ok a ∧ f a = .ok b := by
  cases x with
  | error e => simp [bind, Except.bind]
  | ok a => simp [bind, Except.bind]

@[simp] theorem pure_eq_ok_iff {a b : α} : (pure a : Except ε α) = .ok b ↔ a = b := by
  simp [pure, Except.pure]

theorem map_eq_ok_iff {x : Except ε α} {f : α → β} {b : β} :
    f <$> x = .ok b ↔ ∃ a, x = .ok a ∧ f a = b := by
  cases x with
  | error e => simp [Functor.map, Except.map]
  | ok a => simp [Functor.map, Except.map]

/-- What may be missing is decoded to what is missing with it. -/
theorem mapM_eq_ok_iff {f : α → Except ε β} {a : Option α} {b : Option β} :
    a.mapM f = .ok b ↔ a = none ∧ b = none ∨ ∃ x y, a = some x ∧ f x = .ok y ∧ b = some y := by
  cases a with
  | none =>
    rw [Option.mapM_none, pure_eq_ok_iff, eq_comm]
    simp
  | some x =>
    rw [Option.mapM_some, map_eq_ok_iff]
    simp [eq_comm]

theorem isSome_eq_of_mapM {f : α → Except ε β} {a : Option α} {b : Option β}
    (h : a.mapM f = .ok b) : b.isSome = a.isSome := by
  obtain ⟨rfl, rfl⟩ | ⟨x, y, rfl, -, rfl⟩ := mapM_eq_ok_iff.1 h
  · rfl
  · rfl

end

end OutageWatch
