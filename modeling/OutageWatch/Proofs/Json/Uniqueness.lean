import OutageWatch.Proofs.Json.Decoding

/-!
# One tree for each text

No text can be taken apart in two ways: a text begins with at most one tree that ends where a value
may end.  So what a text means is told by *the* tree of the text.

## Main results

* `Json.Piece.Quoted.unique`, `Json.Reader.Numeral.Spans.unique` : strings and numbers.
* `Json.Tree.Spans.unique`, `Json.Tree.IsText.unique` : trees.
-/

namespace OutageWatch.Json

/-! ### Blanks and marks -/

section

variable {text cs cs' : List Char} {c c' : Char}

theorem Gap.unique (h : Gap text (c :: cs)) (hc : Reader.isBlank c = false)
    (h' : Gap text (c' :: cs')) (hc' : Reader.isBlank c' = false) : c :: cs = c' :: cs' :=
  (h.dropWhile_cons hc).symm.trans (h'.dropWhile_cons hc')

theorem Colon.unique (h : Colon text (c :: cs)) (hc : Reader.isBlank c = false)
    (h' : Colon text (c' :: cs')) (hc' : Reader.isBlank c' = false) : c :: cs = c' :: cs' := by
  obtain ⟨mid, hcolon, hgap⟩ := h
  obtain ⟨mid', hcolon', hgap'⟩ := h'
  obtain ⟨-, rfl⟩ := List.cons.inj (hcolon.unique rfl hcolon' rfl)
  exact hgap.unique hc hgap' hc'

theorem Lead.unique {first : Bool} (h : Lead first text (c :: cs)) (hc : Reader.isBlank c = false)
    (h' : Lead first text (c' :: cs')) (hc' : Reader.isBlank c' = false) : c :: cs = c' :: cs' := by
  cases h with
  | first hgap => cases h' with | first hgap' => exact hgap.unique hc hgap' hc'
  | next hcomma hgap => cases h' with | next hcomma' hgap' =>
    obtain ⟨-, rfl⟩ := List.cons.inj (hcomma.unique rfl hcomma' rfl)
    exact hgap.unique hc hgap' hc'

/-- Where something is to come the end does not come. -/
theorem Lead.not_gap {first : Bool} (h : Lead first text (c :: cs)) (hc : Reader.isBlank c = false)
    (hc' : Reader.isBlank c' = false) (hne : c ≠ c') (hcomma : c' ≠ ',') :
    ¬ Gap text (c' :: cs') := by
  intro hend
  cases h with
  | first hgap => exact hne (List.cons.inj (hgap.unique hc hend hc')).1
  | next hgap _ => exact hcomma (List.cons.inj (hgap.unique rfl hend hc')).1.symm

end

/-! ### Strings and numbers -/

namespace Piece

theorem Spans.unique {p p' : Piece} {text mid mid' : List Char} (h : p.Spans text mid)
    (h' : p'.Spans text mid') : p = p' ∧ mid = mid' := by
  cases h with
  | plain hquote hslash _ =>
    cases h' with
    | plain _ _ _ => exact ⟨rfl, rfl⟩
    | letter _ => exact absurd rfl hslash
    | code _ => exact absurd rfl hslash
  | letter he =>
    cases h' with
    | plain _ hslash _ => exact absurd rfl hslash
    | letter he' => exact ⟨by rw [Option.some.inj (he.symm.trans he')], rfl⟩
    | code _ => contradiction
  | code hn =>
    cases h' with
    | plain _ hslash _ => exact absurd rfl hslash
    | letter he' => contradiction
    | code hn' => exact ⟨by rw [Option.some.inj (hn.symm.trans hn')], rfl⟩

theorem Spans.not_quote {p : Piece} {text mid : List Char} : ¬ p.Spans ('"' :: text) mid := by
  rintro (_ | _ | _)
  contradiction

theorem ListSpans.unique {ps ps' : List Piece} {text rest rest' : List Char}
    (h : ListSpans ps text ('"' :: rest)) (h' : ListSpans ps' text ('"' :: rest')) :
    ps = ps' ∧ rest = rest' := by
  induction ps generalizing ps' text with
  | nil =>
    cases h
    cases h' with
    | nil => exact ⟨rfl, rfl⟩
    | cons hp _ => exact absurd hp Spans.not_quote
  | cons p ps ih =>
    cases h with | cons hp hps =>
    cases h' with
    | nil => exact absurd hp Spans.not_quote
    | cons hp' hps' =>
      obtain ⟨rfl, rfl⟩ := hp.unique hp'
      obtain ⟨rfl, rfl⟩ := ih hps hps'
      exact ⟨rfl, rfl⟩

/-- A text begins with one string at most. -/
theorem Quoted.unique {ps ps' : List Piece} {text rest rest' : List Char}
    (h : Quoted ps text rest) (h' : Quoted ps' text rest') : ps = ps' ∧ rest = rest' := by
  cases h with | mk h =>
  cases h' with | mk h' =>
  exact h.unique h'

end Piece

/-- A text begins with one number at most that ends where a value may end. -/
theorem Reader.Numeral.Spans.unique {s s' : Numeral} {text rest rest' : List Char}
    (h : s.Spans text rest) (hrest : Ends rest) (h' : s'.Spans text rest') (hrest' : Ends rest') :
    s = s' ∧ rest = rest' :=
  Prod.mk.inj (Except.ok.inj
    ((numeral_complete .malformed h hrest).symm.trans (numeral_complete .malformed h' hrest')))

theorem Reader.Numeral.Spans.isNumberStart {s : Numeral} {c : Char} {cs rest : List Char}
    (h : s.Spans (c :: cs) rest) : Reader.isNumberStart c = true := by
  obtain ⟨d, ds, hd, hstart⟩ := h.exists_eq_cons
  exact (List.cons.inj hd).1 ▸ hstart

/-! ### Trees -/

section

variable {first : Bool} {t t' : Tree} {ps ps' : List Piece}
  {text start start' mid mid' cs : List Char}

theorem Colon.eq_of_spans (h : Colon text start) (ht : t.Spans start mid) (h' : Colon text start')
    (ht' : t'.Spans start' mid') : start = start' := by
  obtain ⟨c, cs, rfl, hc, -⟩ := ht.exists_eq_cons
  obtain ⟨c', cs', rfl, hc', -⟩ := ht'.exists_eq_cons
  exact h.unique hc h' hc'

namespace Lead

theorem eq_of_spans (h : Lead first text start) (ht : t.Spans start mid)
    (h' : Lead first text start') (ht' : t'.Spans start' mid') : start = start' := by
  obtain ⟨c, cs, rfl, hc, -⟩ := ht.exists_eq_cons
  obtain ⟨c', cs', rfl, hc', -⟩ := ht'.exists_eq_cons
  exact h.unique hc h' hc'

theorem eq_of_quoted (h : Lead first text start) (hps : Piece.Quoted ps start mid)
    (h' : Lead first text start') (hps' : Piece.Quoted ps' start' mid') : start = start' := by
  cases hps with | mk _ =>
  cases hps' with | mk _ =>
  exact h.unique rfl h' rfl

theorem not_gap_of_spans (h : Lead first text start) (ht : t.Spans start mid) :
    ¬ Gap text (']' :: cs) := by
  obtain ⟨c, _, rfl, hc, hne, -⟩ := ht.exists_eq_cons
  exact h.not_gap hc rfl hne (by decide)

theorem not_gap_of_quoted (h : Lead first text start) (hps : Piece.Quoted ps start mid) :
    ¬ Gap text ('\x7d' :: cs) := by
  cases hps with | mk _ =>
  exact h.not_gap rfl rfl (by decide) (by decide)

end Lead

end

theorem ends_bracket {rest : List Char} : Ends (']' :: rest) := ends_cons (by simp) rest

theorem ends_brace {rest : List Char} : Ends ('\x7d' :: rest) := ends_cons (by simp) rest

namespace Tree

mutual

/-- A text begins with one tree at most that ends where a value may end. -/
theorem Spans.unique {t t' : Tree} {text rest rest' : List Char} (h : t.Spans text rest)
    (hrest : Ends rest) (h' : t'.Spans text rest') (hrest' : Ends rest') :
    t = t' ∧ rest = rest' := by
  cases h with
  | null =>
    cases h' with
    | null => exact ⟨rfl, rfl⟩
    | number hs => exact absurd hs.isNumberStart (by decide)
    | string hps => cases hps
  | boolTrue =>
    cases h' with
    | boolTrue => exact ⟨rfl, rfl⟩
    | number hs => exact absurd hs.isNumberStart (by decide)
    | string hps => cases hps
  | boolFalse =>
    cases h' with
    | boolFalse => exact ⟨rfl, rfl⟩
    | number hs => exact absurd hs.isNumberStart (by decide)
    | string hps => cases hps
  | number hs =>
    cases h' with
    | number hs' =>
      obtain ⟨rfl, rfl⟩ := hs.unique hrest hs' hrest'
      exact ⟨rfl, rfl⟩
    | string hps => cases hps with | mk _ => exact absurd hs.isNumberStart (by decide)
    | _ => exact absurd hs.isNumberStart (by decide)
  | string hps =>
    cases h' with
    | string hps' =>
      obtain ⟨rfl, rfl⟩ := hps.unique hps'
      exact ⟨rfl, rfl⟩
    | number hs => cases hps with | mk _ => exact absurd hs.isNumberStart (by decide)
    | _ => cases hps
  | array hts =>
    cases h' with
    | array hts' =>
      obtain ⟨rfl, rfl⟩ := ItemsSpan.unique hts hts'
      exact ⟨rfl, rfl⟩
    | number hs => exact absurd hs.isNumberStart (by decide)
    | string hps => cases hps
  | object hms =>
    cases h' with
    | object hms' =>
      obtain ⟨rfl, rfl⟩ := MembersSpan.unique hms hms'
      exact ⟨rfl, rfl⟩
    | number hs => exact absurd hs.isNumberStart (by decide)
    | string hps => cases hps

theorem ItemsSpan.unique {first : Bool} {ts ts' : List Tree} {text rest rest' : List Char}
    (h : ItemsSpan first ts text (']' :: rest)) (h' : ItemsSpan first ts' text (']' :: rest')) :
    ts = ts' ∧ rest = rest' := by
  cases h with
  | nil hend =>
    cases h' with
    | nil hend' => exact ⟨rfl, (List.cons.inj (hend.unique rfl hend' rfl)).2⟩
    | cons hlead ht _ => exact absurd hend (hlead.not_gap_of_spans ht)
  | cons hlead ht hts =>
    cases h' with
    | nil hend => exact absurd hend (hlead.not_gap_of_spans ht)
    | cons hlead' ht' hts' =>
      obtain rfl := hlead.eq_of_spans ht hlead' ht'
      obtain ⟨rfl, rfl⟩ := Spans.unique ht (hts.ends ends_bracket) ht' (hts'.ends ends_bracket)
      obtain ⟨rfl, rfl⟩ := ItemsSpan.unique hts hts'
      exact ⟨rfl, rfl⟩

theorem MembersSpan.unique {first : Bool} {ms ms' : List (List Piece × Tree)}
    {text rest rest' : List Char} (h : MembersSpan first ms text ('\x7d' :: rest))
    (h' : MembersSpan first ms' text ('\x7d' :: rest')) : ms = ms' ∧ rest = rest' := by
  cases h with
  | nil hend =>
    cases h' with
    | nil hend' => exact ⟨rfl, (List.cons.inj (hend.unique rfl hend' rfl)).2⟩
    | cons hlead hname _ _ _ => exact absurd hend (hlead.not_gap_of_quoted hname)
  | cons hlead hname hcolon ht hms =>
    cases h' with
    | nil hend => exact absurd hend (hlead.not_gap_of_quoted hname)
    | cons hlead' hname' hcolon' ht' hms' =>
      obtain rfl := hlead.eq_of_quoted hname hlead' hname'
      obtain ⟨rfl, rfl⟩ := hname.unique hname'
      obtain rfl := hcolon.eq_of_spans ht hcolon' ht'
      obtain ⟨rfl, rfl⟩ := Spans.unique ht (hms.ends ends_brace) ht' (hms'.ends ends_brace)
      obtain ⟨rfl, rfl⟩ := MembersSpan.unique hms hms'
      exact ⟨rfl, rfl⟩

end

/-- **A text is the text of one tree at most.** -/
theorem IsText.unique {t t' : Tree} {text : List Char} (h : t.IsText text) (h' : t'.IsText text) :
    t = t' := by
  obtain ⟨start, tail, hstart, ht, htail⟩ := h
  obtain ⟨start', tail', hstart', ht', htail'⟩ := h'
  obtain rfl := (Lead.first hstart).eq_of_spans ht (.first hstart') ht'
  exact (ht.unique (htail.ends ends_nil) ht' (htail'.ends ends_nil)).1

end Tree

end OutageWatch.Json
