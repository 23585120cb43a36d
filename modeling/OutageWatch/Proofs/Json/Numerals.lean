import OutageWatch.Proofs.Json.Reading

/-!
# Reading numbers

A number is read part by part: its sign, the digits in front of the point, the fraction and the
exponent.  Each part is read to its end, so a number of the grammar is read as a whole as long as
what follows cannot go on with it.

## Main definitions

* `Json.Reader.sign`, `Json.Reader.whole`, `Json.Reader.fraction`, `Json.Reader.exponent` : the
  readers of the parts.
* `Json.Reader.Numeral.integer?` : the integer that a number is.

## Main results

* `Json.Reader.numeral_eq` : a number is read part by part.
* `Json.Reader.numeral_sound`, `Json.Reader.numeral_complete` : reading numbers.
* `Json.Reader.Numeral.asInt?_of_value?` : which numbers are read as integers.
-/

namespace OutageWatch.Json

/-- What may follow a value does not belong to a number. -/
theorem Ends.of_mem_head? {rest : List Char} (h : Ends rest) {c : Char} (hc : c ∈ rest.head?) :
    Digits.isDecimal c = false ∧ c ≠ '.' ∧ c ≠ 'e' ∧ c ≠ 'E' := by
  rcases h c hc with hblank | rfl | rfl | rfl
  · simp only [Reader.isBlank, Bool.or_eq_true, decide_eq_true_eq] at hblank
    rcases hblank with ((rfl | rfl) | rfl) | rfl <;> decide
  all_goals decide

theorem DigitRun.exists_eq_cons {ds : List Char} (h : DigitRun ds) :
    ∃ c cs, ds = c :: cs ∧ Digits.isDecimal c = true := by
  obtain ⟨c, cs, rfl⟩ := List.exists_cons_of_ne_nil h.ne_nil
  exact ⟨c, cs, rfl, h.isDecimal c List.mem_cons_self⟩

namespace Reader

/-! ### The parts of a number -/

/-- Takes the sign of a number. -/
def sign : Reader Bool := do
  if (← peek?) = some '-' then
    advance
    return true
  else return false

/-- Takes the digits in front of the point. -/
def whole (early : Fault) : Reader (List Char) := do
  let ds ← someDigits early
  if ds.length > 1 ∧ ds.head? = some '0' then malformed else return ds

/-- Takes the fraction, if there is one. -/
def fraction (early : Fault) : Reader (Option (List Char)) := do
  if (← peek?) = some '.' then
    advance
    return some (← someDigits early)
  else return none

/-- Takes the exponent, if there is one. -/
def exponent (early : Fault) : Reader (Option (Bool × List Char)) := do
  let c ← peek?
  if c = some 'e' ∨ c = some 'E' then
    advance
    let s ← peek?
    if s = some '+' ∨ s = some '-' then
      advance
      return some (decide (s = some '-'), ← someDigits early)
    else return some (decide (s = some '-'), ← someDigits early)
  else return none

/-- A number is read part by part. -/
theorem numeral_eq (early : Fault) : numeral early = do
    let negative ← sign
    let ds ← whole early
    let f ← fraction early
    let e ← exponent early
    return ⟨negative, ds, f, e⟩ := by
  have hmalformed {α β : Type} (f : α → Reader β) : (malformed >>= f) = malformed := rfl
  have hpeek {α : Type} (f : Option Char → Option Char → Reader α) :
      (peek? >>= fun a => peek? >>= f a) = peek? >>= fun a => f a a := rfl
  have hite {α β : Type} (p : Prop) [Decidable p] (x y : Reader α) (f : α → Reader β) :
      (if p then x else y) >>= f = if p then x >>= f else y >>= f := by split <;> rfl
  simp only [numeral, sign, whole, fraction, exponent, bind_assoc, pure_bind, hite, hmalformed,
    hpeek, decide_eq_true_eq]
  refine bind_congr fun a => ?_
  by_cases ha : a = some '-'
  · simp only [ha, decide_true, if_pos]
  · simp only [ha, decide_false, if_neg, not_false_eq_true]

/-- No digit follows. -/
def NoDigit (rest : List Char) : Prop := ∀ c ∈ rest.head?, Digits.isDecimal c = false

theorem run_digits (text : List Char) :
    digits.run text = .ok (text.takeWhile Digits.isDecimal, text.dropWhile Digits.isDecimal) := rfl

theorem someDigits_sound {early : Fault} {text ds rest : List Char}
    (h : (someDigits early).run text = .ok (ds, rest)) :
    DigitRun ds ∧ text = ds ++ rest := by
  rw [someDigits, run_bind_of_run (run_digits text)] at h
  split at h
  next heq =>
    obtain ⟨_, _, hget, h⟩ := run_bind_eq_ok.mp h
    split at h <;> contradiction
  next hne =>
    obtain ⟨rfl, rfl⟩ := Prod.mk.inj (Except.ok.inj h)
    refine ⟨⟨hne, fun c hc => ?_⟩, List.takeWhile_append_dropWhile.symm⟩
    exact List.all_eq_true.mp List.all_takeWhile c hc

theorem someDigits_complete {early : Fault} {ds rest : List Char} (hds : DigitRun ds)
    (hrest : NoDigit rest) : (someDigits early).run (ds ++ rest) = .ok (ds, rest) := by
  have htake : (ds ++ rest).takeWhile Digits.isDecimal = ds := by
    rw [List.takeWhile_append_of_pos hds.isDecimal]
    cases rest with
    | nil => simp
    | cons c cs => simp [hrest c rfl]
  have hdrop : (ds ++ rest).dropWhile Digits.isDecimal = rest := by
    rw [List.dropWhile_append_of_pos hds.isDecimal]
    cases rest with
    | nil => simp
    | cons c cs => simp [hrest c rfl]
  rw [someDigits, run_bind_of_run (run_digits _), htake, hdrop]
  split
  next => exact absurd rfl hds.ne_nil
  next => rfl

theorem sign_sound {text rest : List Char} {negative : Bool}
    (h : sign.run text = .ok (negative, rest)) : text = signText negative ++ rest := by
  rw [sign, run_peek?_bind] at h
  split at h
  next hc =>
    obtain ⟨rfl, rfl⟩ := Prod.mk.inj (Except.ok.inj h)
    obtain ⟨cs, rfl⟩ := List.head?_eq_some_iff.mp hc
    rfl
  next =>
    obtain ⟨rfl, rfl⟩ := Prod.mk.inj (Except.ok.inj h)
    rfl

theorem sign_complete {rest : List Char} (negative : Bool) (hrest : rest.head? ≠ some '-') :
    sign.run (signText negative ++ rest) = .ok (negative, rest) := by
  rw [sign, run_peek?_bind]
  cases negative with
  | true => rfl
  | false =>
    rw [signText, if_neg Bool.false_ne_true, List.nil_append, if_neg hrest]
    rfl

theorem whole_sound {early : Fault} {text ds rest : List Char}
    (h : (whole early).run text = .ok (ds, rest)) :
    DigitRun ds ∧ ¬ (ds.length > 1 ∧ ds.head? = some '0') ∧ text = ds ++ rest := by
  rw [whole] at h
  obtain ⟨es, mid, hes, h⟩ := run_bind_eq_ok.mp h
  split at h
  next => contradiction
  next hzero =>
    obtain ⟨rfl, rfl⟩ := Prod.mk.inj (Except.ok.inj h)
    obtain ⟨hrun, htext⟩ := someDigits_sound hes
    exact ⟨hrun, hzero, htext⟩

theorem whole_complete {early : Fault} {ds rest : List Char} (hds : DigitRun ds)
    (hzero : ¬ (ds.length > 1 ∧ ds.head? = some '0')) (hrest : NoDigit rest) :
    (whole early).run (ds ++ rest) = .ok (ds, rest) := by
  rw [whole, run_bind_of_run (someDigits_complete hds hrest), if_neg hzero]
  rfl

theorem fraction_sound {early : Fault} {text rest : List Char} {f : Option (List Char)}
    (h : (fraction early).run text = .ok (f, rest)) :
    ∃ ft, FractionText f ft ∧ text = ft ++ rest := by
  rw [fraction, run_peek?_bind] at h
  split at h
  next hc =>
    rw [run_advance_bind] at h
    obtain ⟨ds, mid, hds, h⟩ := run_bind_eq_ok.mp h
    obtain ⟨rfl, rfl⟩ := Prod.mk.inj (Except.ok.inj h)
    obtain ⟨hrun, htext⟩ := someDigits_sound hds
    obtain ⟨cs, rfl⟩ := List.head?_eq_some_iff.mp hc
    exact ⟨_, .point hrun, congrArg ('.' :: ·) htext⟩
  next =>
    obtain ⟨rfl, rfl⟩ := Prod.mk.inj (Except.ok.inj h)
    exact ⟨[], .absent, rfl⟩

theorem fraction_complete {early : Fault} {rest ft : List Char} {f : Option (List Char)}
    (h : FractionText f ft) (hrest : NoDigit rest) (hpoint : rest.head? ≠ some '.') :
    (fraction early).run (ft ++ rest) = .ok (f, rest) := by
  rw [fraction, run_peek?_bind]
  cases h with
  | absent =>
    rw [List.nil_append, if_neg hpoint]
    rfl
  | @point ds hrun =>
    rw [if_pos (by rfl), run_advance_bind]
    exact run_bind_of_run (someDigits_complete hrun hrest)

theorem exponent_sound {early : Fault} {text rest : List Char} {e : Option (Bool × List Char)}
    (h : (exponent early).run text = .ok (e, rest)) :
    ∃ et, ExponentText e et ∧ text = et ++ rest := by
  rw [exponent, run_peek?_bind] at h
  split at h
  next hc =>
    obtain ⟨c, cs, rfl, hE⟩ : ∃ c cs, text = c :: cs ∧ (c = 'e' ∨ c = 'E') := by
      rcases hc with hc | hc
      · obtain ⟨cs, rfl⟩ := List.head?_eq_some_iff.mp hc
        exact ⟨'e', cs, rfl, .inl rfl⟩
      · obtain ⟨cs, rfl⟩ := List.head?_eq_some_iff.mp hc
        exact ⟨'E', cs, rfl, .inr rfl⟩
    rw [run_advance_bind, List.tail_cons, run_peek?_bind] at h
    split at h
    next hs =>
      rw [run_advance_bind] at h
      obtain ⟨ds, mid, hds, h⟩ := run_bind_eq_ok.mp h
      obtain ⟨rfl, rfl⟩ := Prod.mk.inj (Except.ok.inj h)
      obtain ⟨hrun, htext⟩ := someDigits_sound hds
      rcases hs with hs | hs
      · obtain ⟨r, rfl⟩ := List.head?_eq_some_iff.mp hs
        exact ⟨_, .plus hE hrun, congrArg (c :: '+' :: ·) htext⟩
      · obtain ⟨r, rfl⟩ := List.head?_eq_some_iff.mp hs
        exact ⟨_, .minus hE hrun, congrArg (c :: '-' :: ·) htext⟩
    next hs =>
      obtain ⟨ds, mid, hds, h⟩ := run_bind_eq_ok.mp h
      obtain ⟨rfl, rfl⟩ := Prod.mk.inj (Except.ok.inj h)
      obtain ⟨hrun, htext⟩ := someDigits_sound hds
      rw [decide_eq_false (not_or.mp hs).2]
      exact ⟨_, .plain hE hrun, congrArg (c :: ·) htext⟩
  next =>
    obtain ⟨rfl, rfl⟩ := Prod.mk.inj (Except.ok.inj h)
    exact ⟨[], .absent, rfl⟩

theorem exponent_complete {early : Fault} {rest et : List Char} {e : Option (Bool × List Char)}
    (h : ExponentText e et) (hrest : NoDigit rest)
    (hE : rest.head? ≠ some 'e' ∧ rest.head? ≠ some 'E') :
    (exponent early).run (et ++ rest) = .ok (e, rest) := by
  have hletter {c : Char} (hc : c = 'e' ∨ c = 'E') (text : List Char) :
      (c :: text).head? = some 'e' ∨ (c :: text).head? = some 'E' := by
    rcases hc with rfl | rfl
    · exact .inl rfl
    · exact .inr rfl
  rw [exponent, run_peek?_bind]
  cases h with
  | absent =>
    rw [List.nil_append, if_neg (not_or.mpr hE)]
    rfl
  | @plain c ds hc hrun =>
    obtain ⟨d, cs, rfl, hd⟩ := hrun.exists_eq_cons
    have hplus : d ≠ '+' := by
      rintro rfl
      exact absurd hd (by decide)
    have hminus : d ≠ '-' := by
      rintro rfl
      exact absurd hd (by decide)
    rw [List.cons_append, if_pos (hletter hc _), run_advance_bind, List.tail_cons, run_peek?_bind,
      if_neg (by simp [hplus, hminus]),
      run_bind_of_run (someDigits_complete hrun hrest), run_pure]
    simp [hminus]
  | @plus c ds hc hrun =>
    rw [List.cons_append, if_pos (hletter hc _), run_advance_bind, List.tail_cons, run_peek?_bind,
      if_pos (.inl rfl), run_advance_bind]
    exact run_bind_of_run (someDigits_complete hrun hrest)
  | @minus c ds hc hrun =>
    rw [List.cons_append, if_pos (hletter hc _), run_advance_bind, List.tail_cons, run_peek?_bind,
      if_pos (.inr rfl), run_advance_bind]
    exact run_bind_of_run (someDigits_complete hrun hrest)

/-- What is read as a number is a number of the grammar. -/
theorem numeral_sound {early : Fault} {text rest : List Char} {s : Numeral}
    (h : (numeral early).run text = .ok (s, rest)) : s.Spans text rest := by
  rw [numeral_eq] at h
  obtain ⟨negative, t₁, hsign, h⟩ := run_bind_eq_ok.mp h
  obtain ⟨ds, t₂, hwhole, h⟩ := run_bind_eq_ok.mp h
  obtain ⟨f, t₃, hfraction, h⟩ := run_bind_eq_ok.mp h
  obtain ⟨e, t₄, hexponent, h⟩ := run_bind_eq_ok.mp h
  obtain ⟨rfl, rfl⟩ := Prod.mk.inj (Except.ok.inj h)
  obtain ⟨hrun, hzero, rfl⟩ := whole_sound hwhole
  obtain ⟨ft, hft, rfl⟩ := fraction_sound hfraction
  obtain ⟨et, het, rfl⟩ := exponent_sound hexponent
  rw [sign_sound hsign]
  exact .mk hrun hzero hft het

theorem mem_head?_of_fraction {f : Option (List Char)} {ft rest : List Char}
    (h : FractionText f ft) {c : Char} (hc : c ∈ (ft ++ rest).head?) :
    c = '.' ∨ c ∈ rest.head? := by
  cases h with
  | absent => exact .inr hc
  | point _ => exact .inl (Option.some.inj hc).symm

theorem mem_head?_of_exponent {e : Option (Bool × List Char)} {et rest : List Char}
    (h : ExponentText e et) {c : Char} (hc : c ∈ (et ++ rest).head?) :
    c = 'e' ∨ c = 'E' ∨ c ∈ rest.head? := by
  have hfirst : et = [] ∨ ∃ d ds, et = d :: ds ∧ (d = 'e' ∨ d = 'E') := by
    cases h with
    | absent => exact .inl rfl
    | plain he _ => exact .inr ⟨_, _, rfl, he⟩
    | plus he _ => exact .inr ⟨_, _, rfl, he⟩
    | minus he _ => exact .inr ⟨_, _, rfl, he⟩
  rcases hfirst with rfl | ⟨d, ds, rfl, hd⟩
  · exact .inr (.inr hc)
  · obtain rfl := Option.some.inj hc
    exact hd.elim .inl fun h => .inr (.inl h)

/-- A number of the grammar is read to its end, if what follows does not go on with it. -/
theorem numeral_complete (early : Fault) {text rest : List Char} {s : Numeral}
    (h : s.Spans text rest) (hrest : Ends rest) :
    (numeral early).run text = .ok (s, rest) := by
  cases h with | @mk fraction exponent _ hwhole hzero hfraction hexponent =>
  have hrest₀ : NoDigit rest := fun c hc => (hrest.of_mem_head? hc).1
  have hE : rest.head? ≠ some 'e' ∧ rest.head? ≠ some 'E' :=
    ⟨fun hc => (hrest.of_mem_head? hc).2.2.1 rfl, fun hc => (hrest.of_mem_head? hc).2.2.2 rfl⟩
  have hrest₁ : NoDigit (exponent ++ rest) := by
    intro c hc
    rcases mem_head?_of_exponent hexponent hc with rfl | rfl | hc
    · decide
    · decide
    · exact hrest₀ c hc
  have hpoint : (exponent ++ rest).head? ≠ some '.' := by
    intro hc
    rcases mem_head?_of_exponent hexponent hc with h | h | hc
    · exact absurd h (by decide)
    · exact absurd h (by decide)
    · exact (hrest.of_mem_head? hc).2.1 rfl
  have hrest₂ : NoDigit (fraction ++ (exponent ++ rest)) := by
    intro c hc
    rcases mem_head?_of_fraction hfraction hc with rfl | hc
    · decide
    · exact hrest₁ c hc
  have hsign : (s.whole ++ (fraction ++ (exponent ++ rest))).head? ≠ some '-' := by
    obtain ⟨c, cs, hcs, hc⟩ := hwhole.exists_eq_cons
    rw [hcs, List.cons_append, List.head?_cons]
    rintro ⟨⟩
    exact absurd hc (by decide)
  rw [numeral_eq, run_bind_of_run (sign_complete s.negative hsign),
    run_bind_of_run (whole_complete hwhole hzero hrest₂),
    run_bind_of_run (fraction_complete hfraction hrest₁ hpoint),
    run_bind_of_run (exponent_complete hexponent hrest₀ hE)]
  rfl

/-! ### What numbers mean -/

theorem le_foldl_digits (ds : List Char) (n : Nat) :
    n ≤ ds.foldl (fun n c => 10 * n + Digits.digitValue c) n := by
  induction ds generalizing n with
  | nil => exact Nat.le_refl n
  | cons c ds ih =>
    have h : n ≤ 10 * n + Digits.digitValue c := by omega
    exact Nat.le_trans h (ih _)

theorem significandOf_of_le (ds : List Char) (n : Nat)
    (h : ds.foldl (fun n c => 10 * n + Digits.digitValue c) n ≤ greatestNat) :
    significandOf n ds = (ds.foldl (fun n c => 10 * n + Digits.digitValue c) n, 0) := by
  induction ds generalizing n with
  | nil => rfl
  | cons c ds ih =>
    rw [List.foldl_cons] at h ⊢
    have := le_foldl_digits ds (10 * n + Digits.digitValue c)
    rw [significandOf, if_neg (by omega), ih _ h]

theorem significandOf_of_lt (ds : List Char) (n : Nat) (hn : n ≤ greatestNat)
    (h : greatestNat < ds.foldl (fun n c => 10 * n + Digits.digitValue c) n) :
    0 < (significandOf n ds).2 := by
  induction ds generalizing n with
  | nil => exact absurd h (Nat.not_lt.mpr hn)
  | cons c ds ih =>
    rw [significandOf]
    split
    next => exact Nat.succ_pos _
    next hm => exact ih _ (Nat.le_of_not_lt hm) h

/-- All digits of a number that fits 64 bits are taken up. -/
theorem significandOf_zero {ds : List Char} (h : Digits.value ds ≤ greatestNat) :
    significandOf 0 ds = (Digits.value ds, 0) :=
  significandOf_of_le ds 0 h

/-- Of a number that does not fit digits are left over. -/
theorem significandOf_dropped {ds : List Char} (h : greatestNat < Digits.value ds) :
    0 < (significandOf 0 ds).2 :=
  significandOf_of_lt ds 0 (Nat.zero_le _) h

/-- The integer that a number is: it is written without fraction and exponent, it is not minus zero,
and it fits the signed range. -/
def Numeral.integer? (s : Numeral) : Option Int :=
  let n : Int := if s.negative then -Digits.value s.whole else Digits.value s.whole
  if s.fraction = none ∧ s.exponent = none ∧ ¬ (s.negative ∧ n = 0) ∧ Fits n then some n else none

/-- A number that is written with a fraction or an exponent is read as a floating point number. -/
theorem Numeral.exists_real_of_value? {s : Numeral} {n : Number} (h : s.value? = some n)
    (hs : ¬ (s.fraction = none ∧ s.exponent = none)) : ∃ x, n = .real x := by
  rw [value?] at h
  split at h
  split at h
  next hfraction hexponent => exact absurd ⟨hfraction, hexponent⟩ hs
  next =>
    dsimp only at h
    split at h <;> split at h
    all_goals try split at h
    all_goals first
      | contradiction
      | exact ⟨_, (Option.some.inj h).symm⟩
      | obtain ⟨x, -, rfl⟩ := Option.map_eq_some_iff.mp h; exact ⟨x, rfl⟩

/-- A number that is written without them is an integer if its digits are all taken up, and its
minus sign does not lead out of the range. -/
theorem Numeral.value?_of_plain (negative : Bool) (whole : List Char) :
    value? ⟨negative, whole, none, none⟩ =
      if (significandOf 0 whole).2 = 0 ∧ ¬ negative then
        some (.integer (significandOf 0 whole).1)
      else if (significandOf 0 whole).2 = 0 ∧ 0 < (significandOf 0 whole).1 ∧
          leastInt ≤ -(significandOf 0 whole).1 then
        some (.integer (-(significandOf 0 whole).1))
      else (Binary64.scaleByTen? negative (significandOf 0 whole).1
        (significandOf 0 whole).2).map .real := rfl

theorem fits_neg {n : Nat} (h : leastInt ≤ -n) : Fits (-n) :=
  ⟨h, show -(n : Int) ≤ 9223372036854775807 by omega⟩

/-- A number beyond the unsigned range is beyond the signed range with either sign. -/
theorem not_fits_of_lt {n : Nat} (negative : Bool) (h : greatestNat < n) :
    ¬ Fits (if negative then -n else n) := by
  intro hfits
  have h : 18446744073709551615 < n := h
  have hlow : (-9223372036854775808 : Int) ≤ _ := hfits.1
  have hhigh : _ ≤ (9223372036854775807 : Int) := hfits.2
  cases negative with
  | false =>
    rw [if_neg Bool.false_ne_true] at hhigh
    omega
  | true =>
    rw [if_pos rfl] at hlow
    omega

/-- What is read of a number is an integer iff the number is one. -/
theorem Numeral.asInt?_of_value? {s : Numeral} {n : Number} (h : s.value? = some n) :
    Json.asInt? (.number n) = s.integer? := by
  by_cases hs : s.fraction = none ∧ s.exponent = none
  · obtain ⟨negative, whole, _, _⟩ := s
    obtain ⟨rfl, rfl⟩ := hs
    rw [value?_of_plain] at h
    simp only [integer?, true_and]
    by_cases hwhole : Digits.value whole ≤ greatestNat
    · rw [significandOf_zero hwhole] at h
      simp only [true_and] at h
      cases negative with
      | false =>
        obtain rfl := Option.some.inj h
        simp [Json.asInt?]
      | true =>
        -- minus zero and what is below the range are read as floating point numbers too
        simp only [not_true, if_false] at h
        simp only [if_true, true_and]
        split at h
        next hn =>
          obtain rfl := Option.some.inj h
          have hfits := fits_neg hn.2
          rw [if_pos ⟨by omega, hfits⟩]
          exact if_pos hfits
        next hn =>
          obtain ⟨x, -, rfl⟩ := Option.map_eq_some_iff.mp h
          exact (if_neg fun hint => hn ⟨by omega, hint.2.1⟩).symm
    · -- digits are left over, so the number is read as a floating point number
      have hdropped := significandOf_dropped (Nat.lt_of_not_le hwhole)
      rw [if_neg (by omega), if_neg (by omega)] at h
      obtain ⟨x, -, rfl⟩ := Option.map_eq_some_iff.mp h
      exact (if_neg fun hint =>
        not_fits_of_lt negative (Nat.lt_of_not_le hwhole) hint.2).symm
  · obtain ⟨x, rfl⟩ := exists_real_of_value? h hs
    exact (if_neg fun hint => hs ⟨hint.1, hint.2.1⟩).symm

end Reader

end OutageWatch.Json
