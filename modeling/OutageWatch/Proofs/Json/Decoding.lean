import OutageWatch.Proofs.Json.Numerals

/-!
# Reading what trees mean

A reader *decodes* what trees mean if it reads exactly those that mean something, and leaves what
comes after them.  Completeness is stated up to a length, since some readers go only so deep as
there are characters left.  Here this is shown of strings, numbers and truth values; decoders may be
changed by what is made of their results.

## Main definitions

* `Json.Sound`, `Json.CompleteUpTo`, `Json.Decodes` : what is read are trees with their meanings,
  and all of them.
* `Json.Tree.int?`, `Json.Tree.bool?` : the integer between two bounds and the truth value that a
  tree means.

## Main results

* `Json.Tree.Spans.length_lt`, `Json.Tree.Spans.exists_eq_cons` : where trees begin and end.
* `Json.Decodes.map`, `Json.Decodes.congr` : decoders made of others.
* `Json.Reader.decodes_string`, `Json.Reader.decodes_intBetween`, `Json.Reader.decodes_bool`,
  `Json.Reader.decodes_orNull`.
-/

namespace OutageWatch.Json

/-! ### Where trees begin and end -/

theorem Lead.length_le {first : Bool} {text rest : List Char} (h : Lead first text rest) :
    rest.length ≤ text.length := by
  cases h with
  | first h => exact h.length_le
  | next h h' =>
    have := h.length_le
    have := h'.length_le
    rw [List.length_cons] at *
    omega

theorem Colon.length_lt {text rest : List Char} (h : Colon text rest) :
    rest.length < text.length := by
  obtain ⟨mid, h, h'⟩ := h
  have := h.length_le
  have := h'.length_le
  rw [List.length_cons] at *
  omega

theorem Lead.trans_gap {first : Bool} {text mid rest : List Char} (h : Lead first text mid)
    (h' : Gap mid rest) : Lead first text rest := by
  cases h with
  | first h => exact .first (h.trans h')
  | next h h'' => exact .next h (h''.trans h')

theorem Lead.ends {text rest : List Char} (h : Lead false text rest) : Ends text := by
  cases h with | next h h' => exact h.ends (ends_cons (by simp) _)

namespace Piece

theorem Spans.length_lt {p : Piece} {text rest : List Char} (h : p.Spans text rest) :
    rest.length < text.length := by
  cases h <;> simp only [List.length_cons] <;> omega

theorem ListSpans.length_le {ps : List Piece} {text rest : List Char} (h : ListSpans ps text rest) :
    rest.length ≤ text.length := by
  induction h with
  | nil => exact Nat.le_refl _
  | cons hp _ ih => exact Nat.le_trans ih (Nat.le_of_lt hp.length_lt)

theorem Quoted.length_lt {ps : List Piece} {text rest : List Char} (h : Quoted ps text rest) :
    rest.length < text.length := by
  cases h with | mk h =>
  have := h.length_le
  rw [List.length_cons] at *
  omega

end Piece

theorem Reader.Numeral.Spans.length_lt {s : Reader.Numeral} {text rest : List Char}
    (h : s.Spans text rest) : rest.length < text.length := by
  cases h with | mk hwhole _ _ _ =>
  have := List.length_pos_iff.mpr hwhole.ne_nil
  simp only [List.length_append]
  omega

namespace Tree

mutual

theorem Spans.length_lt {t : Tree} {text rest : List Char} (h : t.Spans text rest) :
    rest.length < text.length := by
  cases h with
  | null => simp only [List.length_cons]; omega
  | boolTrue => simp only [List.length_cons]; omega
  | boolFalse => simp only [List.length_cons]; omega
  | number h => exact h.length_lt
  | string h => exact h.length_lt
  | array h =>
    have := ItemsSpan.length_le h
    simp only [List.length_cons] at *
    omega
  | object h =>
    have := MembersSpan.length_le h
    simp only [List.length_cons] at *
    omega

theorem ItemsSpan.length_le {first : Bool} {ts : List Tree} {text rest : List Char}
    (h : ItemsSpan first ts text rest) : rest.length ≤ text.length := by
  cases h with
  | nil h => exact h.length_le
  | cons hlead ht hts =>
    have := hlead.length_le
    have := Spans.length_lt ht
    have := ItemsSpan.length_le hts
    omega

theorem MembersSpan.length_le {first : Bool} {ms : List (List Piece × Tree)}
    {text rest : List Char} (h : MembersSpan first ms text rest) : rest.length ≤ text.length := by
  cases h with
  | nil h => exact h.length_le
  | cons hlead hname hcolon ht hms =>
    have := hlead.length_le
    have := hname.length_lt
    have := hcolon.length_lt
    have := Spans.length_lt ht
    have := MembersSpan.length_le hms
    omega

end

end Tree

theorem Tree.ItemsSpan.ends {ts : List Tree} {text rest : List Char}
    (h : ItemsSpan false ts text rest) (hrest : Ends rest) : Ends text := by
  cases h with
  | nil hgap => exact hgap.ends hrest
  | cons hlead _ _ => exact hlead.ends

theorem Tree.MembersSpan.ends {ms : List (List Piece × Tree)} {text rest : List Char}
    (h : MembersSpan false ms text rest) (hrest : Ends rest) : Ends text := by
  cases h with
  | nil hgap => exact hgap.ends hrest
  | cons hlead _ _ _ _ => exact hlead.ends

/-! ### First characters -/

theorem Reader.Numeral.Spans.exists_eq_cons {s : Reader.Numeral} {text rest : List Char}
    (h : s.Spans text rest) : ∃ c cs, text = c :: cs ∧ Reader.isNumberStart c = true := by
  cases h with | mk hwhole _ _ _ =>
  obtain ⟨c, cs, hcs, hc⟩ := hwhole.exists_eq_cons
  cases hn : s.negative with
  | true => exact ⟨'-', _, rfl, rfl⟩
  | false =>
    rw [signText, if_neg Bool.false_ne_true, List.nil_append, hcs, List.cons_append]
    exact ⟨c, _, rfl, by simp [Reader.isNumberStart, hc]⟩

/-- A tree begins with a character that is no blank and ends no array. -/
theorem Tree.Spans.exists_eq_cons {t : Tree} {text rest : List Char} (h : t.Spans text rest) :
    ∃ c cs, text = c :: cs ∧ Reader.isBlank c = false ∧ c ≠ ']' ∧ (c = 'n' → t = .null) := by
  cases h with
  | null => exact ⟨_, _, rfl, rfl, by decide, fun _ => rfl⟩
  | boolTrue => exact ⟨_, _, rfl, rfl, by decide, by simp⟩
  | boolFalse => exact ⟨_, _, rfl, rfl, by decide, by simp⟩
  | string h => cases h with | mk _ => exact ⟨_, _, rfl, rfl, by decide, by simp⟩
  | array _ => exact ⟨_, _, rfl, rfl, by decide, by simp⟩
  | object _ => exact ⟨_, _, rfl, rfl, by decide, by simp⟩
  | number h =>
    obtain ⟨c, cs, rfl, hc⟩ := h.exists_eq_cons
    refine ⟨c, cs, rfl, ?_, ?_, ?_⟩
    · rw [Bool.eq_false_iff]
      intro hblank
      simp only [Reader.isBlank, Bool.or_eq_true, decide_eq_true_eq] at hblank
      rcases hblank with ((rfl | rfl) | rfl) | rfl <;> exact absurd hc (by decide)
    · rintro rfl
      exact absurd hc (by decide)
    · rintro rfl
      exact absurd hc (by decide)

/-! ### Decoding -/

variable {α β σ : Type}

/-- All that a reader reads is a tree after what leads to it, and it gives what the tree means. -/
def Sound (lead : List Char → List Char → Prop) (r : Reader α) (f : Tree → Option α) : Prop :=
  ∀ ⦃text a rest⦄, r.run text = .ok (a, rest) →
    ∃ start t, lead text start ∧ t.Spans start rest ∧ f t = some a

/-- A reader reads every tree that means something, if at most `n` characters begin with it. -/
def CompleteUpTo (n : Nat) (lead : List Char → List Char → Prop) (r : Reader α)
    (f : Tree → Option α) : Prop :=
  ∀ ⦃text start rest t a⦄, start.length ≤ n → lead text start → t.Spans start rest →
    f t = some a → Ends rest → r.run text = .ok (a, rest)

/-- A reader reads exactly the trees that mean something, after what leads to them, and gives what
they mean. -/
structure Decodes (lead : List Char → List Char → Prop) (r : Reader α) (f : Tree → Option α) :
    Prop where
  sound : Sound lead r f
  complete (n : Nat) : CompleteUpTo n lead r f

section

variable {lead : List Char → List Char → Prop} {r : Reader α} {f : Tree → Option α}

theorem Decodes.run_eq_ok (h : Decodes lead r f) {text start rest : List Char} {t : Tree} {a : α}
    (hlead : lead text start) (ht : t.Spans start rest) (ha : f t = some a) (hrest : Ends rest) :
    r.run text = .ok (a, rest) :=
  h.complete start.length (Nat.le_refl _) hlead ht ha hrest

theorem Sound.map (h : Sound lead r f) (k : α → β) :
    Sound lead (r >>= fun a => pure (k a)) fun t => (f t).map k := by
  intro text b rest hrun
  obtain ⟨a, mid, ha, hrun⟩ := Reader.run_bind_eq_ok.mp hrun
  obtain ⟨rfl, rfl⟩ := Prod.mk.inj (Except.ok.inj hrun)
  obtain ⟨start, t, hlead, ht, hf⟩ := h ha
  exact ⟨start, t, hlead, ht, congrArg (Option.map k) hf⟩

theorem CompleteUpTo.map {n : Nat} (h : CompleteUpTo n lead r f) (k : α → β) :
    CompleteUpTo n lead (r >>= fun a => pure (k a)) fun t => (f t).map k := by
  intro text start rest t b hn hlead ht hb hrest
  obtain ⟨a, ha, rfl⟩ := Option.map_eq_some_iff.mp hb
  rw [Reader.run_bind_of_run (h hn hlead ht ha hrest), Reader.run_pure]

theorem decodes_mismatch (m : Mismatch) :
    Decodes lead (Reader.mismatch m : Reader α) fun _ => none :=
  ⟨fun _ _ _ h => absurd h (by simp), fun _ _ _ _ _ _ _ _ _ h => absurd h (by simp)⟩

theorem Decodes.congr {g : Tree → Option α} (h : Decodes lead r f) (hf : ∀ t, f t = g t) :
    Decodes lead r g :=
  funext hf ▸ h

/-- A decoder may go on to change what it has read. -/
theorem Decodes.map (h : Decodes lead r f) (k : α → β) :
    Decodes lead (r >>= fun a => pure (k a)) fun t => (f t).map k :=
  ⟨h.sound.map k, fun n => (h.complete n).map k⟩

theorem decodes_discard (h : Decodes lead r f) :
    Decodes lead (discard r) fun t => (f t).map fun _ => () :=
  h.map fun _ => ()

end

namespace Reader

/-- A reader that looks at a token has found one. -/
theorem exists_of_run_token? {f : Option Char → Reader α} {text : List Char}
    {p : α × List Char} (h : (token? >>= f).run text = .ok p)
    (hnone : (f none).run [] = .error .truncated) :
    ∃ c cs, Gap text (c :: cs) ∧ (f (some c)).run (c :: cs) = .ok p := by
  rw [run_token?_bind] at h
  have hgap := Gap.of_dropWhile text
  cases hd : text.dropWhile Reader.isBlank with
  | nil =>
    rw [hd, List.head?_nil, hnone] at h
    contradiction
  | cons c cs =>
    rw [hd] at h hgap
    exact ⟨c, cs, hgap, h⟩

/-- A reader that looks at a token may look at a tree. -/
theorem run_token?_of_spans (f : Option Char → Reader α) {text start rest : List Char} {t : Tree}
    (h : Gap text start) (ht : t.Spans start rest) :
    (token? >>= f).run text = (f start.head?).run start := by
  obtain ⟨c, cs, rfl, hc, -, -⟩ := ht.exists_eq_cons
  rw [run_token?_of_gap f h hc, List.head?_cons]

theorem run_unexpected_ne_ok (expected : String) (text : List Char) (p : α × List Char) :
    (unexpected expected : Reader α).run text ≠ .ok p := by
  intro h
  obtain ⟨_, _, _, h⟩ := run_bind_eq_ok.mp h
  contradiction

/-- Reading a word in place of which a value is given. -/
theorem run_word_pure_eq_ok {cs text rest : List Char} {a b : α} :
    (word cs >>= fun _ => pure a : Reader α).run text = .ok (b, rest) ↔
      text = cs ++ rest ∧ a = b := by
  rw [run_bind_eq_ok]
  constructor
  · rintro ⟨_, mid, hword, h⟩
    obtain ⟨rfl, rfl⟩ := Prod.mk.inj (Except.ok.inj h)
    exact ⟨run_word_eq_ok.mp hword, rfl⟩
  · rintro ⟨htext, rfl⟩
    exact ⟨(), rest, run_word_eq_ok.mpr htext, rfl⟩

/-! ### Strings and numbers -/

theorem string_complete (expected : String) {ps : List Piece} {text start rest : List Char}
    {name : String} (hgap : Gap text start) (hps : Piece.Quoted ps start rest)
    (hname : Piece.name? false ps = some name) :
    (Reader.string expected).run text = .ok (name, rest) := by
  rw [Reader.string, run_token?_of_spans _ hgap (.string hps)]
  cases hps with | mk hps => exact quotedString_complete (.mk hps) hname

theorem decodes_string (expected : String) :
    Decodes Gap (Reader.string expected) Tree.string? := by
  refine ⟨fun text a rest h => ?_, fun n text start rest t a _ hgap ht ha _ => ?_⟩
  · obtain ⟨c, cs, hgap, h⟩ := exists_of_run_token? h rfl
    split at h
    next => contradiction
    next heq =>
      obtain rfl := Option.some.inj heq
      obtain ⟨ps, hps, hname⟩ := quotedString_sound h
      exact ⟨_, .string ps, hgap, .string hps, hname⟩
    next => exact absurd h (run_unexpected_ne_ok _ _ _)
  · cases ht with
    | string hps => exact string_complete expected hgap hps ha
    | _ => contradiction

theorem number_sound {text rest : List Char} {n : Number} (h : number.run text = .ok (n, rest)) :
    ∃ s : Numeral, s.Spans text rest ∧ s.value? = some n := by
  rw [number] at h
  obtain ⟨s, mid, hs, h⟩ := run_bind_eq_ok.mp h
  split at h
  next m hm =>
    obtain ⟨rfl, rfl⟩ := Prod.mk.inj (Except.ok.inj h)
    exact ⟨s, numeral_sound hs, hm⟩
  next => contradiction

theorem number_complete {text rest : List Char} {s : Numeral} {n : Number} (h : s.Spans text rest)
    (hn : s.value? = some n) (hrest : Ends rest) : number.run text = .ok (n, rest) := by
  rw [number, run_bind_of_run (numeral_complete _ h hrest), hn]
  rfl

end Reader

/-- The truth value that a tree is. -/
def Tree.bool? : Tree → Option Bool
  | .bool b => some b
  | _ => none

/-- The integer between two bounds that a tree is. -/
def Tree.int? (low high : Int) (t : Tree) : Option Int :=
  match t.number? with
  | some (.integer n) => if low ≤ n ∧ n ≤ high then some n else none
  | _ => none

namespace Reader

theorem decodes_intBetween (low high : Int) (expected : String) :
    Decodes Gap (intBetween low high expected) (Tree.int? low high) := by
  refine ⟨fun text a rest h => ?_, fun n text start rest t a _ hgap ht ha hrest => ?_⟩
  · obtain ⟨c, cs, hgap, h⟩ := exists_of_run_token? h rfl
    split at h
    next => contradiction
    next heq =>
      obtain rfl := Option.some.inj heq
      split at h
      next hc =>
        obtain ⟨m, mid, hm, h⟩ := run_bind_eq_ok.mp h
        obtain ⟨s, hs, hvalue⟩ := number_sound hm
        split at h
        next k =>
          split at h
          next hk =>
            obtain ⟨rfl, rfl⟩ := Prod.mk.inj (Except.ok.inj h)
            refine ⟨_, .number s, hgap, .number hs, ?_⟩
            simp only [Tree.int?, Tree.number?, hvalue, if_pos hk]
          next => contradiction
        next => contradiction
      next => exact absurd h (run_unexpected_ne_ok _ _ _)
  · rw [intBetween, run_token?_of_spans _ hgap ht]
    cases ht with
    | @number s _ _ hs =>
      obtain ⟨c, cs, rfl, hc⟩ := hs.exists_eq_cons
      simp only [Tree.int?, Tree.number?] at ha
      split at ha
      next k hk =>
        split at ha
        next hbounds =>
          obtain rfl := Option.some.inj ha
          simp only [List.head?_cons, if_pos hc]
          rw [run_bind_of_run (number_complete hs hk hrest)]
          simp only [if_pos hbounds, run_pure]
        next => contradiction
      next => contradiction
    | _ => contradiction

theorem decodes_int64 : Decodes Gap int64 (Tree.int? leastInt greatestInt) :=
  decodes_intBetween _ _ _

theorem decodes_bool : Decodes Gap Reader.bool Tree.bool? := by
  refine ⟨fun text a rest h => ?_, fun n text start rest t a _ hgap ht ha _ => ?_⟩
  · obtain ⟨c, cs, hgap, h⟩ := exists_of_run_token? h rfl
    split at h
    next => contradiction
    next =>
      obtain ⟨htext, rfl⟩ := run_word_pure_eq_ok.mp h
      rw [htext] at hgap
      exact ⟨_, .bool true, hgap, .boolTrue _, rfl⟩
    next =>
      obtain ⟨htext, rfl⟩ := run_word_pure_eq_ok.mp h
      rw [htext] at hgap
      exact ⟨_, .bool false, hgap, .boolFalse _, rfl⟩
    next => exact absurd h (run_unexpected_ne_ok _ _ _)
  · rw [Reader.bool, run_token?_of_spans _ hgap ht]
    cases ht with
    | boolTrue =>
      obtain rfl := Option.some.inj ha
      exact run_bind_of_run (run_word ['t', 'r', 'u', 'e'] rest)
    | boolFalse =>
      obtain rfl := Option.some.inj ha
      exact run_bind_of_run (run_word ['f', 'a', 'l', 's', 'e'] rest)
    | _ => contradiction

/-- Reading `null` as nothing. -/
theorem decodes_orNull {r : Reader α} {f : Tree → Option α} (h : Decodes Gap r f) :
    Decodes Gap (orNull r) (Tree.orNull? f) := by
  refine ⟨fun text a rest hrun => ?_, fun n text start rest t a _ hgap ht ha hrest => ?_⟩
  · rw [orNull, run_token?_bind] at hrun
    have hgap := Gap.of_dropWhile text
    split at hrun
    next =>
      obtain ⟨_, mid, hword, hrun⟩ := run_bind_eq_ok.mp hrun
      obtain ⟨rfl, rfl⟩ := Prod.mk.inj (Except.ok.inj hrun)
      rw [run_word_eq_ok.mp hword] at hgap
      exact ⟨_, .null, hgap, .null _, rfl⟩
    next hc =>
      obtain ⟨b, mid, hb, hrun⟩ := run_bind_eq_ok.mp hrun
      obtain ⟨rfl, rfl⟩ := Prod.mk.inj (Except.ok.inj hrun)
      obtain ⟨start, t, hgap', ht, hf⟩ := h.sound hb
      obtain rfl := hgap'.eq_of_dropWhile
      have hnull : t ≠ .null := by
        rintro rfl
        cases hs : text.dropWhile Reader.isBlank with
        | nil => rw [hs] at ht; cases ht
        | cons c cs => rw [hs] at ht hc; cases ht; exact hc rfl
      exact ⟨_, t, hgap, ht, by rw [Tree.orNull?_of_ne f hnull, hf, Option.map_some]⟩
  · rw [orNull, run_token?_of_spans _ hgap ht]
    by_cases hnull : t = .null
    · subst hnull
      obtain rfl := Option.some.inj ha
      cases ht with | null =>
      rw [List.head?_cons, if_pos rfl]
      exact run_bind_of_run (run_word ['n', 'u', 'l', 'l'] rest)
    · rw [Tree.orNull?_of_ne f hnull] at ha
      obtain ⟨b, hb, rfl⟩ := Option.map_eq_some_iff.mp ha
      obtain ⟨c, cs, rfl, -, -, hc⟩ := ht.exists_eq_cons
      rw [List.head?_cons, if_neg fun h => hnull (hc (Option.some.inj h)),
        run_bind_of_run (h.run_eq_ok (.nil _) ht hb hrest), run_pure]

end Reader

end OutageWatch.Json
