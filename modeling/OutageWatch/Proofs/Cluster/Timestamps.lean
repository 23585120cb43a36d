import Mathlib.Algebra.Ring.Nat
import Mathlib.Data.List.TakeWhile
import OutageWatch.Cluster.Timestamp

/-!
# Writing points in time

A point in time of the years from 0 to 9999 is written with four digits of the year and two of
everything else, and with how far clocks are ahead if they are.  That is read back, so texts of this
form tell every such point.

## Main definitions

* `Digits.decimalFixed` : decimal digits of a fixed width.
* `Timestamp.chars`, `Timestamp.text` : the text of a point in time.

## Main results

* `Timestamp.parse?_chars` : the text of a point in time is read as the point.
-/

namespace OutageWatch

/-! ### Digits of a fixed width -/

namespace Digits

/-- The last `width` decimal digits of a number. -/
def decimalFixed : Nat → Nat → List Char
  | 0, _ => []
  | width + 1, n => decimalFixed width (n / 10) ++ [digitChar (n % 10)]

@[simp] theorem length_decimalFixed (width n : Nat) : (decimalFixed width n).length = width := by
  induction width generalizing n with
  | zero => rfl
  | succ width ih => simp [decimalFixed, ih]

/-- Digits of a fixed width stand for their number if they are enough for it. -/
theorem value_decimalFixed (width : Nat) {n : Nat} (h : n < 10 ^ width) :
    value (decimalFixed width n) = n := by
  induction width generalizing n with
  | zero =>
    obtain rfl : n = 0 := by simpa using h
    rfl
  | succ width ih =>
    have hvalue := ih (n := n / 10) (by rw [Nat.pow_succ] at h; omega)
    rw [value] at hvalue ⊢
    rw [decimalFixed, List.foldl_append, hvalue, List.foldl_cons, List.foldl_nil,
      digitValue_digitChar (Nat.mod_lt n (by decide))]
    omega

theorem exists_of_mem_decimalFixed {width n : Nat} {c : Char} (h : c ∈ decimalFixed width n) :
    ∃ d < 10, c = digitChar d := by
  induction width generalizing n with
  | zero => simp [decimalFixed] at h
  | succ width ih =>
    rcases List.mem_append.mp h with h | h
    · exact ih h
    · exact ⟨n % 10, Nat.mod_lt n (by decide), List.mem_singleton.mp h⟩

theorem isDecimal_of_mem_decimalFixed {width n : Nat} {c : Char} (h : c ∈ decimalFixed width n) :
    isDecimal c = true := by
  obtain ⟨d, hd, rfl⟩ := exists_of_mem_decimalFixed h
  exact isDecimal_digitChar hd

/-- Digits of a fixed width begin with a digit, unless the width is 0. -/
theorem exists_decimalFixed_eq_cons (width n : Nat) :
    ∃ d < 10, ∃ cs, decimalFixed (width + 1) n = digitChar d :: cs := by
  obtain ⟨c, cs, heq⟩ : ∃ c cs, decimalFixed (width + 1) n = c :: cs :=
    List.exists_cons_of_length_eq_add_one (length_decimalFixed (width + 1) n)
  obtain ⟨d, hd, rfl⟩ := exists_of_mem_decimalFixed (heq ▸ List.mem_cons_self)
  exact ⟨d, hd, cs, heq⟩

end Digits

namespace Timestamp

open Digits (decimalFixed digitChar)

/-! ### The text of a point in time -/

/-- How far clocks are ahead: not at all at Greenwich, else by hours and minutes with a sign. -/
def aheadChars (ahead : Int) : List Char :=
  let shift := decimalFixed 2 (ahead.natAbs / 3600) ++
    ':' :: decimalFixed 2 (ahead.natAbs / 60 % 60)
  if ahead = 0 then ['Z'] else if 0 < ahead then '+' :: shift else '-' :: shift

/-- The characters of a point in time. -/
def chars (t : Timestamp) : List Char :=
  decimalFixed 4 t.year.toNat ++ '-' :: (decimalFixed 2 t.month ++ '-' :: (decimalFixed 2 t.day ++
    'T' :: (decimalFixed 2 t.hour ++ ':' :: (decimalFixed 2 t.minute ++
      ':' :: (decimalFixed 2 t.second ++ aheadChars t.ahead)))))

/-- The text of a point in time. -/
def text (t : Timestamp) : String := String.ofList t.chars

/-! ### Parts of the text -/

theorem isBlank_digitChar {d : Nat} (h : d < 10) : isBlank (digitChar d) = false := by
  revert h; revert d; decide

theorem run_blanks_cons {c : Char} (h : isBlank c = false) (rest : List Char) :
    blanks.run (c :: rest) = some ((), c :: rest) := by
  have hdrop : (c :: rest).dropWhile isBlank = c :: rest := by simp [h]
  exact congrArg (fun text => some ((), text)) hdrop

theorem run_bind_of_run {α β : Type} {x : Scan α} {f : α → Scan β} {text mid : List Char} {a : α}
    (h : x.run text = some (a, mid)) : (x >>= f).run text = (f a).run mid := by
  rw [StateT.run_bind, h]
  rfl

theorem run_guard {p : Prop} [Decidable p] (h : p) (text : List Char) :
    (guard p : Scan Unit).run text = some ((), text) := by
  have hguard : (guard p : Scan Unit) = pure () := if_pos h
  rw [hguard]
  rfl

theorem run_oneOf {c : Char} {cs : List Char} (h : c ∈ cs) (rest : List Char) :
    (oneOf cs).run (c :: rest) = some ((), rest) := by
  show (guard (c ∈ cs) >>= fun _ => set rest : Scan Unit).run (c :: rest) = some ((), rest)
  rw [run_bind_of_run (run_guard h _)]
  rfl

theorem run_mark {c : Char} (h : isBlank c = false) (rest : List Char) :
    (mark c).run (c :: rest) = some ((), rest) := by
  rw [mark, run_bind_of_run (run_blanks_cons h rest)]
  exact run_oneOf (List.mem_singleton.mpr rfl) rest

theorem run_blanks_digits (width n : Nat) (rest : List Char) :
    blanks.run (decimalFixed (width + 1) n ++ rest) =
      some ((), decimalFixed (width + 1) n ++ rest) := by
  obtain ⟨d, hd, cs, hcs⟩ := Digits.exists_decimalFixed_eq_cons width n
  rw [hcs]
  exact run_blanks_cons (isBlank_digitChar hd) _

theorem run_digits_of_takeWhile {width : Nat} {text ds : List Char}
    (h : (text.take width).takeWhile Digits.isDecimal = ds) (hne : ds ≠ []) :
    (digits width).run text = some (Digits.value ds, text.drop ds.length) := by
  have hget : (get : Scan (List Char)).run text = some (text, text) := rfl
  rw [digits, run_bind_of_run hget, h]
  dsimp only
  rw [run_bind_of_run (run_guard hne _)]
  rfl

theorem run_digits (width : Nat) {n : Nat} (h : n < 10 ^ (width + 1)) (rest : List Char) :
    (digits (width + 1)).run (decimalFixed (width + 1) n ++ rest) = some (n, rest) := by
  have hlength := Digits.length_decimalFixed (width + 1) n
  have htake : ((decimalFixed (width + 1) n ++ rest).take (width + 1)).takeWhile
      Digits.isDecimal = decimalFixed (width + 1) n := by
    rw [List.take_left' hlength, List.takeWhile_eq_self_iff]
    exact fun c => Digits.isDecimal_of_mem_decimalFixed
  have hne : decimalFixed (width + 1) n ≠ [] :=
    List.ne_nil_of_length_eq_add_one hlength
  rw [run_digits_of_takeWhile htake hne, Digits.value_decimalFixed (width + 1) h,
    List.drop_left' rfl]

theorem run_number {n : Nat} (h : n < 100) (rest : List Char) :
    number.run (decimalFixed 2 n ++ rest) = some (n, rest) := by
  rw [number, run_bind_of_run (run_blanks_digits 1 n rest)]
  exact run_digits 1 h rest

theorem run_yearNumber {year : Int} (h : 0 ≤ year ∧ year ≤ 9999) (rest : List Char) :
    yearNumber.run (decimalFixed 4 year.toNat ++ rest) = some (year, rest) := by
  obtain ⟨d, hd, cs, hcs⟩ := Digits.exists_decimalFixed_eq_cons 3 year.toNat
  have hsign : ∀ d < 10, digitChar d ≠ '-' ∧ digitChar d ≠ '+' := by decide
  have hdigits := run_digits 3 (show year.toNat < 10 ^ 4 by omega) rest
  have hyear : ((year.toNat : Nat) : Int) = year := by omega
  rw [yearNumber, run_bind_of_run (run_blanks_digits 3 _ rest)]
  simp only [hcs, List.cons_append] at hdigits ⊢
  simp [hsign d hd, hdigits, hyear]

theorem run_twoDigits {n : Nat} (h : n < 100) (rest : List Char) :
    twoDigits.run (decimalFixed 2 n ++ rest) = some (n, rest) := by
  have hvalue := Digits.value_decimalFixed 2 h
  have htens := Digits.isDecimal_digitChar (Nat.mod_lt (n / 10) (by decide))
  have hunits := Digits.isDecimal_digitChar (Nat.mod_lt n (by decide))
  simp only [decimalFixed, List.nil_append, List.cons_append] at hvalue ⊢
  generalize digitChar (n / 10 % 10) = tens at htens hvalue ⊢
  generalize digitChar (n % 10) = units at hunits hvalue ⊢
  show (guard (Digits.isDecimal tens ∧ Digits.isDecimal units) >>= fun _ =>
    set rest >>= fun _ => pure (Digits.value [tens, units]) : Scan Nat).run
      (tens :: units :: rest) = some (n, rest)
  rw [run_bind_of_run (run_guard ⟨htens, hunits⟩ _), hvalue]
  rfl

theorem run_hoursAndMinutes {hours minutes : Nat} (hhours : hours < 100) (hminutes : minutes < 60) :
    hoursAndMinutes.run (decimalFixed 2 hours ++ ':' :: decimalFixed 2 minutes) =
      some ((3600 * hours + 60 * minutes : Int), []) := by
  obtain ⟨d, hd, cs, hcs⟩ := Digits.exists_decimalFixed_eq_cons 1 minutes
  have hcolon : ∀ d < 10, digitChar d ≠ ':' := by decide
  have hdrop : (':' :: decimalFixed 2 minutes).dropWhile (fun c => c = ':' || isBlank c) =
      decimalFixed 2 minutes := by
    simp [hcs, hcolon d hd, isBlank_digitChar hd]
  have hmodify : (modify (·.dropWhile fun c => c = ':' || isBlank c) : Scan Unit).run
      (':' :: decimalFixed 2 minutes) = some ((), decimalFixed 2 minutes) :=
    congrArg (fun text => some ((), text)) hdrop
  have hdigits := run_twoDigits (n := minutes) (by omega) []
  rw [List.append_nil] at hdigits
  rw [hoursAndMinutes, run_bind_of_run (run_twoDigits hhours _), run_bind_of_run hmodify,
    run_bind_of_run hdigits, run_bind_of_run (run_guard (Nat.le_of_lt_succ hminutes) _)]
  rfl

theorem run_aheadNumber_plus (rest : List Char) :
    aheadNumber.run ('+' :: rest) = hoursAndMinutes.run rest := rfl

theorem run_aheadNumber_minus (rest : List Char) :
    aheadNumber.run ('-' :: rest) = (hoursAndMinutes >>= fun s => pure (-s)).run rest := rfl

/-- Clocks that are ahead by whole minutes of less than a day are read back. -/
theorem run_aheadNumber {ahead : Int} (hday : -secondsOfDay < ahead ∧ ahead < secondsOfDay)
    (hminutes : 60 ∣ ahead) : aheadNumber.run (aheadChars ahead) = some (ahead, []) := by
  rw [secondsOfDay] at hday
  have hshift := run_hoursAndMinutes (show ahead.natAbs / 3600 < 100 by omega)
    (show ahead.natAbs / 60 % 60 < 60 by omega)
  have hsum : (3600 * (ahead.natAbs / 3600 : Nat) + 60 * (ahead.natAbs / 60 % 60 : Nat) : Int) =
      ahead.natAbs := by omega
  rw [hsum] at hshift
  rcases Int.lt_trichotomy ahead 0 with hneg | rfl | hpos
  · have habs : -(ahead.natAbs : Int) = ahead := by omega
    rw [aheadChars, if_neg (by omega), if_neg (by omega), run_aheadNumber_minus,
      run_bind_of_run hshift, habs]
    rfl
  · rfl
  · have habs : (ahead.natAbs : Int) = ahead := by omega
    rw [aheadChars, if_neg (by omega), if_pos hpos, run_aheadNumber_plus, hshift, habs]

theorem exists_aheadChars_eq_cons (ahead : Int) :
    ∃ c ∈ ['Z', '+', '-'], ∃ cs, aheadChars ahead = c :: cs := by
  rcases Int.lt_trichotomy ahead 0 with hneg | rfl | hpos
  · exact ⟨'-', by simp, _, by rw [aheadChars, if_neg (by omega), if_neg (by omega)]⟩
  · exact ⟨'Z', by simp, _, rfl⟩
  · exact ⟨'+', by simp, _, by rw [aheadChars, if_neg (by omega), if_pos hpos]⟩

/-- What tells how far clocks are ahead is neither a fraction nor blank. -/
theorem run_fraction_blanks_aheadChars (ahead : Int) :
    fraction.run (aheadChars ahead) = some ((), aheadChars ahead) ∧
      blanks.run (aheadChars ahead) = some ((), aheadChars ahead) := by
  obtain ⟨c, hc, cs, hcs⟩ := exists_aheadChars_eq_cons ahead
  simp only [List.mem_cons, List.not_mem_nil, or_false] at hc
  have hblank : isBlank c = false := by rcases hc with rfl | rfl | rfl <;> rfl
  rw [hcs]
  refine ⟨?_, run_blanks_cons hblank cs⟩
  rcases hc with rfl | rfl | rfl <;> rfl

/-! ### Whole texts -/

theorem daysOfMonth_le (year : Int) (month : Nat) : daysOfMonth year month ≤ 31 := by
  rw [daysOfMonth.eq_def]
  split
  · split <;> decide
  all_goals decide

theorem run_scan {t : Timestamp} (h : t.IsValid) (hyear : 0 ≤ t.year ∧ t.year ≤ 9999)
    (hminutes : 60 ∣ t.ahead) : scan.run t.chars = some (t, []) := by
  obtain ⟨-, ⟨-, hmonth⟩, ⟨-, hday⟩, hhour, hminute, hsecond, hahead, -⟩ := h
  have hdays : t.day < 100 := by
    have := daysOfMonth_le t.year t.month
    omega
  obtain ⟨hfraction, hblanks⟩ := run_fraction_blanks_aheadChars t.ahead
  rw [scan, chars,
    run_bind_of_run (run_yearNumber hyear _), run_bind_of_run (run_mark rfl _),
    run_bind_of_run (run_number (show t.month < 100 by omega) _), run_bind_of_run (run_mark rfl _),
    run_bind_of_run (run_number hdays _), run_bind_of_run (run_oneOf List.mem_cons_self _),
    run_bind_of_run (run_number (show t.hour < 100 by omega) _), run_bind_of_run (run_mark rfl _),
    run_bind_of_run (run_number (show t.minute < 100 by omega) _), run_bind_of_run (run_mark rfl _),
    run_bind_of_run (run_number (show t.second < 100 by omega) _),
    run_bind_of_run hfraction, run_bind_of_run hblanks,
    run_bind_of_run (run_aheadNumber hahead hminutes)]
  rfl

/-- The text of a point in time of the years from 0 to 9999 is read as the point, if clocks are
ahead by whole minutes. -/
theorem parse?_chars {t : Timestamp} (h : t.IsValid) (hyear : 0 ≤ t.year ∧ t.year ≤ 9999)
    (hminutes : 60 ∣ t.ahead) : parse? t.chars = some t := by
  rw [parse?, run_scan h hyear hminutes]
  exact if_pos h

example : text ⟨2024, 2, 29, 8, 0, 0, 7200⟩ = "2024-02-29T08:00:00+02:00" := by decide

theorem isText_text {t : Timestamp} (h : t.IsValid) (hyear : 0 ≤ t.year ∧ t.year ≤ 9999)
    (hminutes : 60 ∣ t.ahead) : isText t.text = true := by
  rw [isText, text, String.toList_ofList, parse?_chars h hyear hminutes, Option.isSome_some]

end Timestamp

end OutageWatch
