import OutageWatch.Proofs.Json.Grammar

/-!
# Reading blanks and strings

A reader is sound if all that it reads is in the grammar, and complete if it reads all that is in
the grammar and stops there.  Here this is shown of the readers of blanks, words and strings.  A
string is read character by character with the pieces as the invariant: while the first half of a
surrogate pair waits for the second, it is the piece in front of those still to come.

## Main definitions

* `Json.Ends` : what may follow a value.

## Main results

* `Json.Reader.run_bind_eq_ok` : two readers in a row.
* `Json.Reader.quotedString_sound`, `Json.Reader.quotedString_complete` : reading strings.
-/

namespace OutageWatch.Json

/-! ### Blanks -/

namespace Gap

variable {text mid rest : List Char}

theorem trans (h : Gap text mid) (h' : Gap mid rest) : Gap text rest := by
  induction h with
  | nil => exact h'
  | cons hc _ ih => exact .cons hc (ih h')

theorem dropWhile_eq (h : Gap text rest) :
    text.dropWhile Reader.isBlank = rest.dropWhile Reader.isBlank := by
  induction h with
  | nil => rfl
  | cons hc _ ih => rw [List.dropWhile_cons_of_pos hc, ih]

theorem length_le (h : Gap text rest) : rest.length ≤ text.length := by
  induction h with
  | nil => exact Nat.le_refl _
  | cons _ _ ih => exact Nat.le_trans ih (Nat.le_succ _)

theorem of_dropWhile (text : List Char) : Gap text (text.dropWhile Reader.isBlank) := by
  induction text with
  | nil => exact .nil _
  | cons c cs ih =>
    by_cases hc : Reader.isBlank c = true
    · rw [List.dropWhile_cons_of_pos hc]
      exact .cons hc ih
    · rw [List.dropWhile_cons_of_neg hc]
      exact .nil _

/-- After a gap no blank is left. -/
theorem eq_of_dropWhile (h : Gap (text.dropWhile Reader.isBlank) rest) :
    rest = text.dropWhile Reader.isBlank := by
  have hfirst := List.head?_dropWhile_not Reader.isBlank text
  generalize text.dropWhile Reader.isBlank = start at h hfirst
  cases h with
  | nil => rfl
  | cons hc _ => simp [hc] at hfirst

/-- A gap ends in front of the first character that is not blank. -/
theorem dropWhile_cons {c : Char} {cs : List Char} (h : Gap text (c :: cs))
    (hc : Reader.isBlank c = false) : text.dropWhile Reader.isBlank = c :: cs := by
  rw [h.dropWhile_eq, List.dropWhile_cons_of_neg (by simp [hc])]

end Gap

/-- What may follow a value: nothing, a blank, or a character that goes on with or ends what the
value is part of. -/
def Ends (rest : List Char) : Prop :=
  ∀ c ∈ rest.head?, Reader.isBlank c = true ∨ c = ',' ∨ c = ']' ∨ c = '\x7d'

theorem ends_nil : Ends [] := by simp [Ends]

theorem ends_cons {c : Char} (h : Reader.isBlank c = true ∨ c = ',' ∨ c = ']' ∨ c = '\x7d')
    (rest : List Char) : Ends (c :: rest) := by
  rintro _ ⟨⟩
  exact h

theorem Gap.ends {text rest : List Char} (h : Gap text rest) (hrest : Ends rest) : Ends text := by
  cases h with
  | nil => exact hrest
  | cons hc _ => exact ends_cons (.inl hc) _

namespace Reader

variable {α β : Type}

/-! ### Steps of readers -/

theorem run_bind_of_run {x : Reader α} {f : α → Reader β} {text mid : List Char} {a : α}
    (h : x.run text = .ok (a, mid)) : (x >>= f).run text = (f a).run mid := by
  rw [StateT.run_bind, h]
  rfl

/-- Two readers in a row succeed iff the second one succeeds where the first one stopped. -/
theorem run_bind_eq_ok {x : Reader α} {f : α → Reader β} {text rest : List Char} {b : β} :
    (x >>= f).run text = .ok (b, rest) ↔
      ∃ a mid, x.run text = .ok (a, mid) ∧ (f a).run mid = .ok (b, rest) := by
  constructor
  · intro h
    rw [StateT.run_bind] at h
    cases hx : x.run text with
    | error e =>
      rw [hx] at h
      contradiction
    | ok p =>
      rw [hx] at h
      exact ⟨p.1, p.2, rfl, h⟩
  · rintro ⟨a, mid, hx, hf⟩
    rw [run_bind_of_run hx, hf]

@[simp] theorem run_pure (a : α) (text : List Char) :
    (pure a : Reader α).run text = .ok (a, text) := rfl

@[simp] theorem run_malformed (text : List Char) :
    (malformed : Reader α).run text = .error .malformed := rfl

@[simp] theorem run_truncated (text : List Char) :
    (truncated : Reader α).run text = .error .truncated := rfl

@[simp] theorem run_mismatch (m : Mismatch) (text : List Char) :
    (mismatch m : Reader α).run text = .error (.mismatch m) := rfl

theorem run_token?_bind (f : Option Char → Reader α) (text : List Char) :
    (token? >>= f).run text = (f (text.dropWhile isBlank).head?).run (text.dropWhile isBlank) := rfl

theorem run_peek?_bind (f : Option Char → Reader α) (text : List Char) :
    (peek? >>= f).run text = (f text.head?).run text := rfl

theorem run_advance_bind (f : Unit → Reader α) (text : List Char) :
    (advance >>= f).run text = (f ()).run text.tail := rfl

/-- Blanks in front of a token do not matter. -/
theorem run_token?_of_gap (f : Option Char → Reader α) {text rest : List Char} {c : Char}
    (h : Gap text (c :: rest)) (hc : Reader.isBlank c = false) :
    (token? >>= f).run text = (f (some c)).run (c :: rest) := by
  rw [run_token?_bind, h.dropWhile_cons hc, List.head?_cons]

/-- Reading the characters of a word. -/
theorem run_word_eq_ok {w text rest : List Char} {u : Unit} :
    (word w).run text = .ok (u, rest) ↔ text = w ++ rest := by
  induction w generalizing text with
  | nil =>
    rw [word, run_pure, List.nil_append, Except.ok.injEq, Prod.mk.injEq]
    simp
  | cons c cs ih =>
    rw [word, run_peek?_bind]
    cases text with
    | nil => simp
    | cons d ds =>
      simp only [List.head?_cons]
      split
      next h =>
        rw [run_advance_bind, List.tail_cons, ih, h, List.cons_append, List.cons.injEq]
        simp
      next h => simp [h]

theorem run_word (w rest : List Char) : (word w).run (w ++ rest) = .ok ((), rest) :=
  run_word_eq_ok.mpr rfl

/-! ### Strings -/

theorem stringBody_plain (lenient : Bool) (done : List Char) {rest : List Char} {c : Char}
    (hquote : c ≠ '"') (hslash : c ≠ '\\') (hc : 0x20 ≤ c.toNat) :
    stringBody lenient none done (c :: rest) = stringBody lenient none (c :: done) rest := by
  rw [stringBody]
  · rw [if_neg (by omega)]
  all_goals simp_all

theorem stringBody_letter (lenient : Bool) (done : List Char) {rest : List Char} {e c : Char}
    (h : escapedChar? e = some c) :
    stringBody lenient none done ('\\' :: e :: rest) =
      stringBody lenient none (c :: done) rest := by
  have hu : e ≠ 'u' := by
    rintro rfl
    simp [escapedChar?] at h
  rw [stringBody]
  · rw [h]
  all_goals simp [hu]

theorem stringBody_code (lenient : Bool) (done : List Char) {rest : List Char} {a b c d : Char}
    {n : Nat} (h : Digits.hexValue? [a, b, c, d] = some n) :
    stringBody lenient none done ('\\' :: 'u' :: a :: b :: c :: d :: rest) =
      if lenient then stringBody lenient none done rest
      else if Piece.IsLow n then .error .malformed
      else if Piece.IsHigh n then stringBody lenient (some n) done rest
      else stringBody lenient none (Char.ofNat n :: done) rest := by
  rw [stringBody, h]
  rfl

theorem stringBody_low (lenient : Bool) (done : List Char) {rest : List Char} {a b c d : Char}
    {high low : Nat} (h : Digits.hexValue? [a, b, c, d] = some low) (hlow : Piece.IsLow low) :
    stringBody lenient (some high) done ('\\' :: 'u' :: a :: b :: c :: d :: rest) =
      stringBody lenient none (Piece.paired high low :: done) rest := by
  rw [stringBody, if_neg (by simp), h]
  exact if_pos hlow

/-- What is read as a string consists of pieces.  The first half of a surrogate pair that waits for
the second counts as the first of them. -/
theorem stringBody_sound {lenient : Bool} {high : Option Nat} {done text out rest : List Char}
    (h : stringBody lenient high done text = .ok (out, rest))
    (hhigh : ∀ n ∈ high, lenient = false ∧ Piece.IsHigh n) :
    ∃ ps s, Piece.ListSpans ps text ('"' :: rest) ∧
      Piece.chars? lenient (high.toList.map .code ++ ps) = some s ∧ out = done.reverse ++ s := by
  fun_induction stringBody lenient high done text with
  | case5 high done c hc a b c' d text low hlow hrange ih =>
    -- the second half of a pair
    obtain ⟨ps, s, hps, hs, rfl⟩ := ih h (by simp)
    obtain ⟨rfl, hfirst⟩ := hhigh high rfl
    obtain rfl := Decidable.not_not.mp hc
    refine ⟨.code low :: ps, Piece.paired high low :: s, .cons (.code hlow) hps, ?_, by
      simp [Piece.paired]⟩
    exact (Piece.chars?_pair hfirst hrange ps).trans (congrArg _ hs)
  | case9 done rest' =>
    simp only [Except.ok.injEq, Prod.mk.injEq] at h
    obtain ⟨rfl, rfl⟩ := h
    exact ⟨[], [], .nil _, Piece.chars?_nil _, (List.append_nil _).symm⟩
  | case12 done a b c d text n hn hlenient ih =>
    -- a code that a lenient reading passes over
    obtain ⟨ps, s, hps, hs, rfl⟩ := ih h (by simp)
    obtain rfl := hlenient
    exact ⟨.code n :: ps, s, .cons (.code hn) hps,
      (Piece.chars?_code_of_lenient n ps).trans hs, rfl⟩
  | case14 done a b c d text n hn hlenient hlow hfirst ih =>
    -- the first half of a pair
    obtain ⟨ps, s, hps, hs, rfl⟩ := ih h (by simpa using ⟨by simpa using hlenient, hfirst⟩)
    exact ⟨.code n :: ps, s, .cons (.code hn) hps, hs, rfl⟩
  | case15 done a b c d text n hn hlenient hlow hfirst ih =>
    obtain ⟨ps, s, hps, hs, rfl⟩ := ih h (by simp)
    obtain rfl := Bool.eq_false_iff.mpr hlenient
    exact ⟨.code n :: ps, Char.ofNat n :: s, .cons (.code hn) hps,
      (Piece.chars?_code hfirst hlow ps).trans (congrArg _ hs), by simp⟩
  | case17 done e text _ _ c hc ih =>
    obtain ⟨ps, s, hps, hs, rfl⟩ := ih h (by simp)
    exact ⟨.char c :: ps, c :: s, .cons (.letter hc) hps,
      (Piece.chars?_char lenient c ps).trans (congrArg _ hs), by simp⟩
  | case20 done c text hquote hend _ _ hescape hc ih =>
    obtain ⟨ps, s, hps, hs, rfl⟩ := ih h (by simp)
    have hslash : c ≠ '\\' := by
      rintro rfl
      cases text with
      | nil => exact hend rfl rfl
      | cons e rest => exact hescape e rest rfl rfl
    exact ⟨.char c :: ps, c :: s, .cons (.plain hquote hslash (by omega)) hps,
      (Piece.chars?_char lenient c ps).trans (congrArg _ hs), by simp⟩
  | _ => contradiction

/-- Pieces that mean something are read as what they mean. -/
theorem stringBody_complete {lenient : Bool} {ps : List Piece} {text rest done s : List Char}
    (h : Piece.ListSpans ps text ('"' :: rest)) (hs : Piece.chars? lenient ps = some s) :
    stringBody lenient none done text = .ok (done.reverse ++ s, rest) := by
  fun_induction Piece.chars? lenient ps generalizing text done s with
  | case1 =>
    cases h
    obtain rfl := Option.some.inj hs
    rw [stringBody, List.append_nil]
  | case2 c ps ih =>
    obtain ⟨s, hs', rfl⟩ := Option.map_eq_some_iff.mp hs
    cases h with | cons hp hps =>
    cases hp with
    | plain hquote hslash hc =>
      rw [stringBody_plain lenient done hquote hslash hc, ih hps hs', List.reverse_cons,
        List.append_assoc]
      rfl
    | letter he =>
      rw [stringBody_letter lenient done he, ih hps hs', List.reverse_cons, List.append_assoc]
      rfl
  | case3 n ps hlenient ih =>
    cases h with | cons hp hps =>
    cases hp with | code hn =>
    rw [stringBody_code lenient done hn, if_pos hlenient, ih hps hs]
  | case5 n hlenient hlow hhigh m ps hm ih =>
    obtain ⟨s, hs', rfl⟩ := Option.map_eq_some_iff.mp hs
    cases h with | cons hp hps =>
    cases hp with | code hn =>
    cases hps with | cons hp hps =>
    cases hp with | code hm' =>
    rw [stringBody_code lenient done hn, if_neg hlenient, if_neg hlow, if_pos hhigh,
      stringBody_low lenient done hm' hm, ih hps hs', List.reverse_cons, List.append_assoc]
    rfl
  | case8 n ps hlenient hlow hhigh ih =>
    obtain ⟨s, hs', rfl⟩ := Option.map_eq_some_iff.mp hs
    cases h with | cons hp hps =>
    cases hp with | code hn =>
    rw [stringBody_code lenient done hn, if_neg hlenient, if_neg hlow, if_neg hhigh, ih hps hs',
      List.reverse_cons, List.append_assoc]
    rfl
  | _ => contradiction

theorem run_quotedString (lenient : Bool) (c : Char) (text : List Char) :
    (quotedString lenient).run (c :: text) =
      (stringBody lenient none [] text).map fun p => (String.ofList p.1, p.2) := by
  have hget : (get : Reader (List Char)).run text = .ok (text, text) := rfl
  rw [quotedString, run_advance_bind, List.tail_cons, run_bind_of_run hget]
  cases stringBody lenient none [] text with
  | error e => rfl
  | ok p => rfl

/-- What is read after an opening quote is a string of the grammar. -/
theorem quotedString_sound {lenient : Bool} {text rest : List Char} {name : String}
    (h : (quotedString lenient).run ('"' :: text) = .ok (name, rest)) :
    ∃ ps, Piece.Quoted ps ('"' :: text) rest ∧ Piece.name? lenient ps = some name := by
  rw [run_quotedString] at h
  cases hb : stringBody lenient none [] text with
  | error e =>
    rw [hb] at h
    contradiction
  | ok p =>
    rw [hb] at h
    obtain ⟨ps, s, hps, hs, hout⟩ := stringBody_sound hb (by simp)
    have h' := Prod.mk.inj (Except.ok.inj h)
    obtain ⟨rfl, rfl⟩ := h'
    refine ⟨ps, .mk hps, ?_⟩
    rw [hout]
    exact congrArg (Option.map String.ofList) hs

/-- A string of the grammar that means something is read as what it means. -/
theorem quotedString_complete {lenient : Bool} {ps : List Piece} {text rest : List Char}
    {name : String} (h : Piece.Quoted ps text rest) (hname : Piece.name? lenient ps = some name) :
    (quotedString lenient).run text = .ok (name, rest) := by
  obtain ⟨s, hs, rfl⟩ := Option.map_eq_some_iff.mp hname
  cases h with | mk hps =>
  rw [run_quotedString, stringBody_complete hps hs]
  rfl

end Reader

end OutageWatch.Json
