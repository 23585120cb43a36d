import OutageWatch.Proofs.Json.Decoding

/-!
# Decoding arrays and objects

Items and members are read one after the other and taken up into a state.  A reader that decodes
each of them, from where it stands, decodes the whole array or object, closing character included.
A structure may be written as an array of its fields or as an object.

## Main definitions

* `Json.Tree.foldMembers?`, `Json.Tree.fold?` : what members are taken up to.
* `Json.Reader.DecodesItems` : a reader decodes the fields of a structure written as an array, with
  `Json.Reader.andThen` and `Json.Reader.noMore` for what they mean.
* `Json.Reader.Settles` : a reader that consumes nothing.
* `Json.Tree.structured?` : what a structure means.

## Main results

* `Json.Reader.decodes_listOf`, `Json.Reader.decodes_objectOf` : arrays and objects.
* `Json.Reader.decodes_structured` : structures.
-/

namespace OutageWatch.Json

variable {α β σ : Type}

namespace Reader

/-! ### Closing characters -/

/-- Takes one character off the text, after blanks. -/
def taking (c : Char) : Reader Unit := do
  match ← token? with
  | none => truncated
  | some d => if d = c then advance else malformed

theorem taking_sound {c : Char} {text rest : List Char} {u : Unit}
    (h : (taking c).run text = .ok (u, rest)) : Gap text (c :: rest) := by
  obtain ⟨d, ds, hgap, h⟩ := exists_of_run_token? h rfl
  dsimp only at h
  split at h
  next hd =>
    obtain ⟨-, rfl⟩ := Prod.mk.inj (Except.ok.inj h)
    exact hd ▸ hgap
  next => contradiction

theorem taking_complete {c : Char} (hc : isBlank c = false) {text rest : List Char}
    (h : Gap text (c :: rest)) : (taking c).run text = .ok ((), rest) := by
  rw [taking, run_token?_of_gap _ h hc]
  exact congrFun (if_pos rfl) _

/-! ### Arrays -/

theorem moreItems_sound {first more : Bool} {text mid : List Char}
    (hrun : (moreItems first).run text = .ok (more, mid)) :
    (more = true ∧ Lead first text mid) ∨
      (more = false ∧ Gap text mid ∧ ∃ tail, mid = ']' :: tail) := by
  obtain ⟨c, cs, hgap, h⟩ := exists_of_run_token? hrun rfl
  split at h
  next => contradiction
  next heq =>
    obtain rfl := Option.some.inj heq
    obtain ⟨rfl, rfl⟩ := Prod.mk.inj (Except.ok.inj h)
    exact .inr ⟨rfl, hgap, cs, rfl⟩
  next heq =>
    obtain rfl := Option.some.inj heq
    split at h
    next hfirst =>
      obtain ⟨rfl, rfl⟩ := Prod.mk.inj (Except.ok.inj h)
      obtain rfl := hfirst
      exact .inl ⟨rfl, .first hgap⟩
    next hfirst =>
      obtain rfl := Bool.eq_false_iff.mpr hfirst
      split at h
      next hc =>
        subst hc
        rw [run_advance_bind, List.tail_cons] at h
        obtain ⟨d, ds, hgap', h⟩ := exists_of_run_token? h rfl
        split at h
        next => contradiction
        next => contradiction
        next =>
          obtain ⟨rfl, rfl⟩ := Prod.mk.inj (Except.ok.inj h)
          exact .inl ⟨rfl, .next hgap hgap'⟩
      next => contradiction

theorem moreItems_of_lead {first : Bool} {text cs : List Char} {c : Char}
    (h : Lead first text (c :: cs)) (hblank : Reader.isBlank c = false) (hc : c ≠ ']') :
    (moreItems first).run text = .ok (true, c :: cs) := by
  cases h with
  | first hgap =>
    rw [moreItems, run_token?_of_gap _ hgap hblank]
    split
    next heq => cases heq
    next heq => exact absurd (Option.some.inj heq) hc
    next => rfl
  | next hgap hgap' =>
    rw [moreItems, run_token?_of_gap _ hgap rfl]
    split
    next heq => cases heq
    next heq => exact absurd (Option.some.inj heq) (by decide)
    next heq =>
      obtain rfl := Option.some.inj heq
      rw [if_neg Bool.false_ne_true, if_pos rfl, run_advance_bind, List.tail_cons,
        run_token?_of_gap _ hgap' hblank]
      split
      next heq => cases heq
      next heq => exact absurd (Option.some.inj heq) hc
      next => rfl

theorem moreItems_of_gap (first : Bool) {text tail : List Char} (h : Gap text (']' :: tail)) :
    (moreItems first).run text = .ok (false, ']' :: tail) := by
  rw [moreItems, run_token?_of_gap _ h rfl]
  rfl

theorem endArray_eq : endArray = taking ']' := by
  refine bind_congr fun next => ?_
  split
  next => rfl
  next => rfl
  next c hc => exact (if_neg hc).symm

theorem endArray_sound {text rest : List Char} {u : Unit} (h : endArray.run text = .ok (u, rest)) :
    Gap text (']' :: rest) :=
  taking_sound (endArray_eq ▸ h)

theorem endArray_complete {text rest : List Char} (h : Gap text (']' :: rest)) :
    endArray.run text = .ok ((), rest) :=
  endArray_eq ▸ taking_complete rfl h

/-- A closing bracket is taken off where it comes next. -/
theorem endArray_cons {tail rest : List Char} {u : Unit}
    (h : endArray.run (']' :: tail) = .ok (u, rest)) : tail = rest :=
  (Prod.mk.inj (Except.ok.inj ((endArray_complete (.nil _)).symm.trans h))).2

theorem run_bound (text : List Char) : bound.run text = .ok (text.length + 1, text) := rfl

theorem foldItems_sound {step : σ → Reader σ} {g : σ → Tree → Option σ}
    (hstep : ∀ s, Sound Gap (step s) (g s)) {fuel : Nat} {first : Bool} {s s' : σ}
    {text rest : List Char} (h : (foldItems step fuel first s).run text = .ok (s', rest)) :
    ∃ ts, Tree.ItemsSpan first ts text rest ∧ ts.foldlM g s = some s' ∧
      ∃ tail, rest = ']' :: tail := by
  induction fuel generalizing first s text with
  | zero => contradiction
  | succ fuel ih =>
    obtain ⟨more, mid, hmore, h⟩ := run_bind_eq_ok.mp h
    rcases moreItems_sound hmore with ⟨rfl, hlead⟩ | ⟨rfl, hgap, tail, rfl⟩
    · obtain ⟨s₁, after, hs₁, h⟩ := run_bind_eq_ok.mp h
      obtain ⟨start, t, hgap, ht, hg⟩ := hstep s hs₁
      obtain ⟨ts, hts, hfold, htail⟩ := ih h
      refine ⟨t :: ts, .cons (hlead.trans_gap hgap) ht hts, ?_, htail⟩
      rw [List.foldlM_cons, hg]
      exact hfold
    · obtain ⟨rfl, rfl⟩ := Prod.mk.inj (Except.ok.inj h)
      exact ⟨[], .nil hgap, rfl, tail, rfl⟩

theorem foldItems_complete {step : σ → Reader σ} {g : σ → Tree → Option σ} {n : Nat}
    (hstep : ∀ s, CompleteUpTo n Gap (step s) (g s)) {fuel : Nat} {first : Bool} {s s' : σ}
    {ts : List Tree} {text tail : List Char} (h : Tree.ItemsSpan first ts text (']' :: tail))
    (hfold : ts.foldlM g s = some s') (hn : text.length ≤ n) (hfuel : text.length < fuel) :
    (foldItems step fuel first s).run text = .ok (s', ']' :: tail) := by
  -- every item takes a character, so the fuel outlasts the text
  induction fuel generalizing first s text ts with
  | zero => contradiction
  | succ fuel ih =>
    cases h with
    | nil hgap =>
      obtain rfl := Option.some.inj hfold
      rw [foldItems, run_bind_of_run (moreItems_of_gap first hgap)]
      rfl
    | @cons _ t ts _ start mid _ hlead ht hts =>
      rw [List.foldlM_cons] at hfold
      obtain ⟨s₁, hg, hfold⟩ := Option.bind_eq_some_iff.mp hfold
      have hstart := hlead.length_le
      have hmid := ht.length_lt
      obtain ⟨c, cs, rfl, hblank, hc, -⟩ := ht.exists_eq_cons
      rw [foldItems, run_bind_of_run (moreItems_of_lead hlead hblank hc), if_pos rfl,
        run_bind_of_run (hstep s (Nat.le_trans hstart hn) (.nil _) ht hg
          (hts.ends (ends_cons (by simp) tail)))]
      exact ih hts hfold (by omega) (by omega)

/-- Collecting what items mean, the last one first. -/
theorem foldlM_cons_eq (f : Tree → Option α) (ts : List Tree) (done : List α) :
    ts.foldlM (fun s t => (f t).map (· :: s)) done =
      (ts.mapM f).map fun as => as.reverse ++ done := by
  induction ts generalizing done with
  | nil => rfl
  | cons t ts ih =>
    rw [List.foldlM_cons, List.mapM_cons]
    cases f t with
    | none => rfl
    | some a =>
      have ih' := ih (a :: done)
      cases hm : ts.mapM f with
      | none => simpa [hm] using ih'
      | some as => simpa [hm] using ih'

theorem items_sound {item : Reader α} {f : Tree → Option α} (h : Sound Gap item f)
    {text rest : List Char} {as : List α} (hrun : (items item).run text = .ok (as, rest)) :
    ∃ ts, Tree.ItemsSpan true ts text (']' :: rest) ∧ ts.mapM f = some as := by
  rw [items, run_bind_of_run (run_bound text)] at hrun
  obtain ⟨rev, mid, hrev, hrun⟩ := run_bind_eq_ok.mp hrun
  obtain ⟨_, after, hend, hrun⟩ := run_bind_eq_ok.mp hrun
  obtain ⟨rfl, rfl⟩ := Prod.mk.inj (Except.ok.inj hrun)
  obtain ⟨ts, hts, hfold, tail, rfl⟩ := foldItems_sound (fun s => (h.map (· :: s))) hrev
  obtain rfl := endArray_cons hend
  rw [foldlM_cons_eq] at hfold
  obtain ⟨as, has, rfl⟩ := Option.map_eq_some_iff.mp hfold
  exact ⟨ts, hts, by rw [has, List.append_nil, List.reverse_reverse]⟩

theorem items_complete {n : Nat} {item : Reader α} {f : Tree → Option α}
    (h : CompleteUpTo n Gap item f) {ts : List Tree} {text rest : List Char} {as : List α}
    (hts : Tree.ItemsSpan true ts text (']' :: rest)) (has : ts.mapM f = some as)
    (hn : text.length ≤ n) : (items item).run text = .ok (as, rest) := by
  have hfold : ts.foldlM (fun s t => (f t).map (· :: s)) [] = some as.reverse := by
    rw [foldlM_cons_eq, has, Option.map_some, List.append_nil]
  rw [items, run_bind_of_run (run_bound text),
    run_bind_of_run (foldItems_complete (fun s => h.map (· :: s)) hts hfold hn
      (Nat.lt_succ_self _)),
    run_bind_of_run (endArray_complete (.nil _)), run_pure, List.reverse_reverse]

theorem decodes_listOf {item : Reader α} {f : Tree → Option α} (h : Decodes Gap item f) :
    Decodes Gap (listOf item) (Tree.items? f) := by
  refine ⟨fun text a rest hrun => ?_, fun n text start rest t a _ hgap ht ha hrest => ?_⟩
  · obtain ⟨c, cs, hgap, hrun⟩ := exists_of_run_token? hrun rfl
    split at hrun
    next => contradiction
    next heq =>
      obtain rfl := Option.some.inj heq
      rw [run_advance_bind, List.tail_cons] at hrun
      obtain ⟨ts, hts, has⟩ := items_sound h.sound hrun
      exact ⟨_, .array ts, hgap, .array hts, has⟩
    next => exact absurd hrun (run_unexpected_ne_ok _ _ _)
  · rw [listOf, run_token?_of_spans _ hgap ht]
    cases ht with
    | array hts =>
      show (advance >>= fun _ => items item).run _ = _
      rw [run_advance_bind]
      exact items_complete (h.complete _) hts ha (Nat.le_refl _)
    | _ => contradiction

/-! ### Objects -/

theorem moreMembers_sound {first more : Bool} {text mid : List Char}
    (hrun : (moreMembers first).run text = .ok (more, mid)) :
    (more = true ∧ Lead first text mid ∧ ∃ tail, mid = '"' :: tail) ∨
      (more = false ∧ Gap text mid ∧ ∃ tail, mid = '\x7d' :: tail) := by
  obtain ⟨c, cs, hgap, h⟩ := exists_of_run_token? hrun rfl
  split at h
  next => contradiction
  next heq =>
    obtain rfl := Option.some.inj heq
    obtain ⟨rfl, rfl⟩ := Prod.mk.inj (Except.ok.inj h)
    exact .inr ⟨rfl, hgap, cs, rfl⟩
  next heq =>
    obtain rfl := Option.some.inj heq
    split at h
    next hfirst =>
      split at h
      next hc =>
        obtain ⟨rfl, rfl⟩ := Prod.mk.inj (Except.ok.inj h)
        obtain rfl := hfirst
        exact .inl ⟨rfl, .first hgap, cs, by rw [hc]⟩
      next => contradiction
    next hfirst =>
      obtain rfl := Bool.eq_false_iff.mpr hfirst
      split at h
      next hc =>
        subst hc
        rw [run_advance_bind, List.tail_cons] at h
        obtain ⟨d, ds, hgap', h⟩ := exists_of_run_token? h rfl
        split at h
        next => contradiction
        next heq =>
          obtain rfl := Option.some.inj heq
          obtain ⟨rfl, rfl⟩ := Prod.mk.inj (Except.ok.inj h)
          exact .inl ⟨rfl, .next hgap hgap', ds, rfl⟩
        next => contradiction
      next => contradiction

theorem moreMembers_of_lead {first : Bool} {text cs : List Char} (h : Lead first text ('"' :: cs)) :
    (moreMembers first).run text = .ok (true, '"' :: cs) := by
  cases h with
  | first hgap =>
    rw [moreMembers, run_token?_of_gap _ hgap rfl]
    rfl
  | next hgap hgap' =>
    rw [moreMembers, run_token?_of_gap _ hgap rfl]
    show (advance >>= fun _ => token? >>= _).run _ = _
    rw [run_advance_bind, List.tail_cons, run_token?_of_gap _ hgap' rfl]
    rfl

theorem moreMembers_of_gap (first : Bool) {text tail : List Char} (h : Gap text ('\x7d' :: tail)) :
    (moreMembers first).run text = .ok (false, '\x7d' :: tail) := by
  rw [moreMembers, run_token?_of_gap _ h rfl]
  rfl

theorem colon_eq : colon = taking ':' := by
  refine bind_congr fun next => ?_
  split
  next => rfl
  next => rfl
  next c hc => exact (if_neg hc).symm

theorem colon_sound {text rest : List Char} {u : Unit} (h : colon.run text = .ok (u, rest)) :
    Gap text (':' :: rest) :=
  taking_sound (colon_eq ▸ h)

theorem colon_complete {text rest : List Char} (h : Gap text (':' :: rest)) :
    colon.run text = .ok ((), rest) :=
  colon_eq ▸ taking_complete rfl h

theorem endObject_eq : endObject = taking '\x7d' := by
  refine bind_congr fun next => ?_
  split
  next => rfl
  next => rfl
  next c hc => exact (if_neg hc).symm

theorem endObject_sound {text rest : List Char} {u : Unit}
    (h : endObject.run text = .ok (u, rest)) : Gap text ('\x7d' :: rest) :=
  taking_sound (endObject_eq ▸ h)

theorem endObject_complete {text rest : List Char} (h : Gap text ('\x7d' :: rest)) :
    endObject.run text = .ok ((), rest) :=
  endObject_eq ▸ taking_complete rfl h

theorem sound_colon {r : Reader α} {f : Tree → Option α} (h : Sound Gap r f) :
    Sound Colon (colon >>= fun _ => r) f := by
  intro text a rest hrun
  obtain ⟨_, mid, hcolon, hrun⟩ := run_bind_eq_ok.mp hrun
  obtain ⟨start, t, hgap, ht, hf⟩ := h hrun
  exact ⟨start, t, ⟨mid, colon_sound hcolon, hgap⟩, ht, hf⟩

theorem completeUpTo_colon {n : Nat} {r : Reader α} {f : Tree → Option α}
    (h : CompleteUpTo n Gap r f) : CompleteUpTo n Colon (colon >>= fun _ => r) f := by
  rintro text start rest t a hn ⟨mid, hcolon, hgap⟩ ht ha hrest
  rw [run_bind_of_run (colon_complete hcolon)]
  exact h hn hgap ht ha hrest

theorem decodes_colon {r : Reader α} {f : Tree → Option α} (h : Decodes Gap r f) :
    Decodes Colon (colon >>= fun _ => r) f :=
  ⟨sound_colon h.sound, fun n => completeUpTo_colon (h.complete n)⟩

end Reader

/-- Takes up members one after the other; each name must mean something. -/
def Tree.foldMembers? (lenient : Bool) (g : σ → String → Tree → Option σ) (s : σ)
    (ms : List (List Piece × Tree)) : Option σ :=
  ms.foldlM (fun s m => (Piece.name? lenient m.1).bind fun name => g s name m.2) s

namespace Reader

theorem foldMembers_sound {lenient : Bool} {step : σ → String → Reader σ}
    {g : σ → String → Tree → Option σ} (hstep : ∀ s name, Sound Colon (step s name) (g s name))
    {fuel : Nat} {first : Bool} {s s' : σ} {text rest : List Char}
    (h : (foldMembers lenient step fuel first s).run text = .ok (s', rest)) :
    ∃ ms, Tree.MembersSpan first ms text rest ∧ Tree.foldMembers? lenient g s ms = some s' ∧
      ∃ tail, rest = '\x7d' :: tail := by
  induction fuel generalizing first s text with
  | zero => contradiction
  | succ fuel ih =>
    obtain ⟨more, mid, hmore, h⟩ := run_bind_eq_ok.mp h
    rcases moreMembers_sound hmore with ⟨rfl, hlead, tail, rfl⟩ | ⟨rfl, hgap, tail, rfl⟩
    · obtain ⟨name, value, hname, h⟩ := run_bind_eq_ok.mp h
      obtain ⟨ps, hps, hname⟩ := quotedString_sound hname
      obtain ⟨s₁, after, hs₁, h⟩ := run_bind_eq_ok.mp h
      obtain ⟨start, t, hcolon, ht, hg⟩ := hstep s name hs₁
      obtain ⟨ms, hms, hfold, htail⟩ := ih h
      refine ⟨(ps, t) :: ms, .cons hlead hps hcolon ht hms, ?_, htail⟩
      rw [Tree.foldMembers?, List.foldlM_cons, hname, Option.bind_some, hg]
      exact hfold
    · obtain ⟨rfl, rfl⟩ := Prod.mk.inj (Except.ok.inj h)
      exact ⟨[], .nil hgap, rfl, tail, rfl⟩

theorem foldMembers_complete {lenient : Bool} {step : σ → String → Reader σ}
    {g : σ → String → Tree → Option σ} {n : Nat}
    (hstep : ∀ s name, CompleteUpTo n Colon (step s name) (g s name)) {fuel : Nat} {first : Bool}
    {s s' : σ} {ms : List (List Piece × Tree)} {text tail : List Char}
    (h : Tree.MembersSpan first ms text ('\x7d' :: tail))
    (hfold : Tree.foldMembers? lenient g s ms = some s') (hn : text.length ≤ n)
    (hfuel : text.length < fuel) :
    (foldMembers lenient step fuel first s).run text = .ok (s', '\x7d' :: tail) := by
  -- every member takes a character, so the fuel outlasts the text
  induction fuel generalizing first s text ms with
  | zero => contradiction
  | succ fuel ih =>
    cases h with
    | nil hgap =>
      obtain rfl := Option.some.inj hfold
      rw [foldMembers, run_bind_of_run (moreMembers_of_gap first hgap)]
      rfl
    | @cons _ ps t ms _ start name value mid _ hlead hps hcolon ht hms =>
      rw [Tree.foldMembers?, List.foldlM_cons] at hfold
      obtain ⟨s₁, hg, hfold⟩ := Option.bind_eq_some_iff.mp hfold
      obtain ⟨key, hkey, hg⟩ := Option.bind_eq_some_iff.mp hg
      have hstart := hlead.length_le
      have hname := hps.length_lt
      have hvalue := hcolon.length_lt
      have hmid := ht.length_lt
      obtain ⟨cs, rfl⟩ : ∃ cs, start = '"' :: cs := by
        cases hps with | mk _ => exact ⟨_, rfl⟩
      rw [foldMembers, run_bind_of_run (moreMembers_of_lead hlead), if_pos rfl,
        run_bind_of_run (quotedString_complete hps hkey),
        run_bind_of_run (hstep s key (by omega) hcolon ht hg
          (hms.ends (ends_cons (by simp) tail)))]
      exact ih hms hfold (by omega) (by omega)

/-- A closing brace is taken off where it comes next. -/
theorem endObject_cons {tail rest : List Char} {u : Unit}
    (h : endObject.run ('\x7d' :: tail) = .ok (u, rest)) : tail = rest :=
  (Prod.mk.inj (Except.ok.inj ((endObject_complete (.nil _)).symm.trans h))).2

end Reader

/-- Members mean what they are taken up to, if all their names mean something. -/
theorem Tree.foldMembers?_eq (g : σ → String → Tree → Option σ) (s : σ)
    (ms : List (List Piece × Tree)) :
    foldMembers? false g s ms =
      (fields? (.object ms)).bind (List.foldlM (fun s m => g s m.1 m.2) s) := by
  induction ms generalizing s with
  | nil => rfl
  | cons m ms ih =>
    rw [foldMembers?, List.foldlM_cons, fields?, List.mapM_cons]
    cases Piece.name? false m.1 with
    | none => rfl
    | some name =>
      simp only [Option.bind_eq_bind, Option.bind_some, Option.map_some] at ih ⊢
      cases hg : g s name m.2 with
      | none =>
        cases ms.mapM fun m => (Piece.name? false m.1).map (·, m.2) with
        | none => rfl
        | some fs => simp [hg]
      | some s₁ =>
        have ih' := ih s₁
        rw [foldMembers?, fields?] at ih'
        cases hm : ms.mapM fun m => (Piece.name? false m.1).map (·, m.2) with
        | none => simpa [hm] using ih'
        | some fs => simpa [hm, hg] using ih'

/-- What the members of an object are taken up to. -/
def Tree.fold? (g : σ → String → Tree → Option σ) (s : σ) (t : Tree) : Option σ :=
  t.fields?.bind (List.foldlM (fun s m => g s m.1 m.2) s)

namespace Reader

section

variable {step : σ → String → Reader σ} {g : σ → String → Tree → Option σ}
  (hstep : ∀ s name, Decodes Colon (step s name) (g s name)) {s₀ s : σ}

include hstep

theorem members_sound {text mid rest : List Char} {u : Unit}
    (h : (foldMembers false step (text.length + 1) true s₀).run text = .ok (s, mid))
    (hend : endObject.run mid = .ok (u, rest)) :
    ∃ ms, Tree.MembersSpan true ms text ('\x7d' :: rest) ∧
      Tree.fold? g s₀ (.object ms) = some s := by
  obtain ⟨ms, hms, hfold, tail, rfl⟩ := foldMembers_sound (fun s n => (hstep s n).sound) h
  obtain rfl := endObject_cons hend
  exact ⟨ms, hms, (Tree.foldMembers?_eq g s₀ ms).symm.trans hfold⟩

theorem members_complete {ms : List (List Piece × Tree)} {text rest : List Char}
    (hms : Tree.MembersSpan true ms text ('\x7d' :: rest))
    (hs : Tree.fold? g s₀ (.object ms) = some s) :
    (foldMembers false step (text.length + 1) true s₀).run text = .ok (s, '\x7d' :: rest) :=
  foldMembers_complete (fun s n => (hstep s n).complete text.length) hms
    ((Tree.foldMembers?_eq g s₀ ms).trans hs) (Nat.le_refl _) (Nat.lt_succ_self _)

end

theorem decodes_objectOf {step : σ → String → Reader σ} {g : σ → String → Tree → Option σ}
    (hstep : ∀ s name, Decodes Colon (step s name) (g s name)) (s₀ : σ) :
    Decodes Gap (objectOf s₀ step) (Tree.fold? g s₀) := by
  refine ⟨fun text s rest hrun => ?_, fun n text start rest t s _ hgap ht hs hrest => ?_⟩
  · obtain ⟨c, cs, hgap, hrun⟩ := exists_of_run_token? hrun rfl
    split at hrun
    next => contradiction
    next heq =>
      obtain rfl := Option.some.inj heq
      rw [run_advance_bind, List.tail_cons, run_bind_of_run (run_bound cs)] at hrun
      obtain ⟨s', mid, hs, hrun⟩ := run_bind_eq_ok.mp hrun
      obtain ⟨_, after, hend, hrun⟩ := run_bind_eq_ok.mp hrun
      obtain ⟨rfl, rfl⟩ := Prod.mk.inj (Except.ok.inj hrun)
      obtain ⟨ms, hms, hfold⟩ := members_sound hstep hs hend
      exact ⟨_, .object ms, hgap, .object hms, hfold⟩
    next => exact absurd hrun (run_unexpected_ne_ok _ _ _)
  · rw [objectOf, run_token?_of_spans _ hgap ht]
    cases ht with
    | @object ms cs _ hms =>
      show (advance >>= fun _ => bound >>= _).run _ = _
      rw [run_advance_bind, List.tail_cons, run_bind_of_run (run_bound cs),
        run_bind_of_run (members_complete hstep hms hs),
        run_bind_of_run (endObject_complete (.nil _)), run_pure]
    | _ => contradiction

/-! ### Structures -/

/-- A reader reads the items of an array that mean something, up to its closing bracket. -/
structure DecodesItems (first : Bool) (r : Reader α) (f : List Tree → Option α) : Prop where
  sound ⦃text mid rest : List Char⦄ ⦃a : α⦄ ⦃u : Unit⦄ (h : r.run text = .ok (a, mid))
    (hend : endArray.run mid = .ok (u, rest)) :
    ∃ ts, Tree.ItemsSpan first ts text (']' :: rest) ∧ f ts = some a
  complete ⦃text rest : List Char⦄ ⦃ts : List Tree⦄ ⦃a : α⦄
    (h : Tree.ItemsSpan first ts text (']' :: rest)) (ha : f ts = some a) :
    ∃ mid, r.run text = .ok (a, mid) ∧ Gap mid (']' :: rest)

/-- What the items of a structure mean after the last of them: there must be none left. -/
def noMore (a : α) : List Tree → Option α
  | [] => some a
  | _ => none

theorem decodesItems_pure (first : Bool) (a : α) : DecodesItems first (pure a) (noMore a) where
  sound := by
    intro text mid rest b u h hend
    obtain ⟨rfl, rfl⟩ := Prod.mk.inj (Except.ok.inj h)
    exact ⟨[], .nil (endArray_sound hend), rfl⟩
  complete := by
    intro text rest ts b h hb
    cases h with
    | nil hgap =>
      obtain rfl := Option.some.inj hb
      exact ⟨text, rfl, hgap⟩
    | cons _ _ _ => contradiction

/-- What the items of a structure mean of which the next is the given one. -/
def andThen (f : Tree → Option α) (g : α → List Tree → Option β) : List Tree → Option β
  | [] => none
  | t :: ts => (f t).bind (g · ts)

theorem decodesItems_itemAt {first : Bool} {index : Nat} {expected : String} {r : Reader α}
    {f : Tree → Option α} {k : α → Reader β} {g : α → List Tree → Option β}
    (hfirst : decide (index = 0) = first) (h : Decodes Gap r f)
    (hk : ∀ a, DecodesItems false (k a) (g a)) :
    DecodesItems first (itemAt index expected r >>= k) (andThen f g) where
  sound := by
    intro text mid rest b u hrun hend
    obtain ⟨a, after, hitem, hrun⟩ := run_bind_eq_ok.mp hrun
    rw [itemAt, hfirst] at hitem
    obtain ⟨more, next, hmore, hitem⟩ := run_bind_eq_ok.mp hitem
    rcases moreItems_sound hmore with ⟨rfl, hlead⟩ | ⟨rfl, -⟩
    · obtain ⟨start, t, hgap, ht, hf⟩ := h.sound hitem
      obtain ⟨ts, hts, hg⟩ := (hk a).sound hrun hend
      refine ⟨t :: ts, .cons (hlead.trans_gap hgap) ht hts, ?_⟩
      rw [andThen, hf, Option.bind_some, hg]
    · contradiction
  complete := by
    intro text rest ts b hts hb
    cases hts with
    | nil => contradiction
    | cons hlead ht hts =>
      obtain ⟨a, ha, hb⟩ := Option.bind_eq_some_iff.mp hb
      obtain ⟨mid, hmid, hgap⟩ := (hk a).complete hts hb
      refine ⟨mid, ?_, hgap⟩
      obtain ⟨c, cs, rfl, hblank, hc, -⟩ := ht.exists_eq_cons
      have hitem := h.run_eq_ok (.nil _) ht ha (hts.ends (ends_cons (by simp) _))
      rw [run_bind_of_run (a := a) (by
        rw [itemAt, hfirst, run_bind_of_run (moreItems_of_lead hlead hblank hc)]
        exact hitem), hmid]

/-- A reader that consumes nothing: it only tells whether there is a result. -/
def Settles (r : Reader α) (o : Option α) : Prop :=
  ∀ text a rest, r.run text = .ok (a, rest) ↔ rest = text ∧ o = some a

theorem settles_pure (a : α) : Settles (pure a : Reader α) (some a) := by
  intro text b rest
  rw [run_pure, Except.ok.injEq, Prod.mk.injEq, Option.some.injEq]
  exact ⟨fun h => ⟨h.2.symm, h.1⟩, fun h => ⟨h.2, h.1.symm⟩⟩

theorem settles_required (name : String) (slot : Option α) : Settles (required name slot) slot := by
  cases slot with
  | none => simp [Settles, required]
  | some a => exact settles_pure a

theorem Settles.bind {r : Reader α} {o : Option α} (h : Settles r o) {k : α → Reader β}
    {g : α → Option β} (hk : ∀ a, Settles (k a) (g a)) : Settles (r >>= k) (o.bind g) := by
  intro text b rest
  rw [run_bind_eq_ok, Option.bind_eq_some_iff]
  constructor
  · rintro ⟨a, mid, ha, hb⟩
    obtain ⟨rfl, ho⟩ := (h _ _ _).mp ha
    obtain ⟨rfl, hg⟩ := (hk a _ _ _).mp hb
    exact ⟨rfl, a, ho, hg⟩
  · rintro ⟨rfl, a, ho, hg⟩
    exact ⟨a, rest, (h _ _ _).mpr ⟨rfl, ho⟩, (hk a _ _ _).mpr ⟨rfl, hg⟩⟩

/-- A decoder may go on to tell whether what it has read will do. -/
theorem decodes_bind_settles {lead : List Char → List Char → Prop} {r : Reader α}
    {f : Tree → Option α} (h : Decodes lead r f) {k : α → Reader β} {o : α → Option β}
    (hk : ∀ a, Settles (k a) (o a)) : Decodes lead (r >>= k) fun t => (f t).bind o := by
  refine ⟨fun text b rest hrun => ?_, fun n text start rest t b hn hlead ht hb hrest => ?_⟩
  · obtain ⟨a, mid, ha, hrun⟩ := run_bind_eq_ok.mp hrun
    obtain ⟨rfl, ho⟩ := (hk a _ _ _).mp hrun
    obtain ⟨start, t, hlead, ht, hf⟩ := h.sound ha
    exact ⟨start, t, hlead, ht, Option.bind_eq_some_iff.mpr ⟨a, hf, ho⟩⟩
  · obtain ⟨a, ha, ho⟩ := Option.bind_eq_some_iff.mp hb
    rw [run_bind_of_run (h.complete n hn hlead ht ha hrest)]
    exact (hk a _ _ _).mpr ⟨rfl, ho⟩

end Reader

/-- What a structure means, written as an array or as an object. -/
def Tree.structured? (f : List Tree → Option α) (g : Tree → Option α) : Tree → Option α
  | .array ts => f ts
  | t => g t

namespace Reader

/-- Reading a structure. -/
theorem decodes_structured (expected : String) {ofItems : Reader α} {f : List Tree → Option α}
    (hitems : DecodesItems true ofItems f) {step : σ → String → Reader σ}
    {g : σ → String → Tree → Option σ} (hstep : ∀ s name, Decodes Colon (step s name) (g s name))
    (s₀ : σ) {finish : σ → Reader α} {o : σ → Option α} (hfinish : ∀ s, Settles (finish s) (o s)) :
    Decodes Gap
      (structured expected ofItems
        (bound >>= fun n => foldMembers false step n true s₀ >>= finish))
      (Tree.structured? f fun t => (t.fold? g s₀).bind o) := by
  refine ⟨fun text a rest hrun => ?_, fun n text start rest t a _ hgap ht ha hrest => ?_⟩
  · obtain ⟨c, cs, hgap, hrun⟩ := exists_of_run_token? hrun rfl
    split at hrun
    next => contradiction
    next heq =>
      obtain rfl := Option.some.inj heq
      rw [run_advance_bind, List.tail_cons] at hrun
      obtain ⟨a', mid, ha, hrun⟩ := run_bind_eq_ok.mp hrun
      obtain ⟨_, after, hend, hrun⟩ := run_bind_eq_ok.mp hrun
      obtain ⟨rfl, rfl⟩ := Prod.mk.inj (Except.ok.inj hrun)
      obtain ⟨ts, hts, hf⟩ := hitems.sound ha hend
      exact ⟨_, .array ts, hgap, .array hts, hf⟩
    next heq =>
      obtain rfl := Option.some.inj heq
      rw [run_advance_bind, List.tail_cons] at hrun
      obtain ⟨a', mid, ha, hrun⟩ := run_bind_eq_ok.mp hrun
      obtain ⟨_, after, hend, hrun⟩ := run_bind_eq_ok.mp hrun
      obtain ⟨rfl, rfl⟩ := Prod.mk.inj (Except.ok.inj hrun)
      rw [run_bind_of_run (run_bound cs)] at ha
      obtain ⟨s, before, hs, ha⟩ := run_bind_eq_ok.mp ha
      obtain ⟨rfl, ho⟩ := (hfinish s _ _ _).mp ha
      obtain ⟨ms, hms, hfold⟩ := members_sound hstep hs hend
      exact ⟨_, .object ms, hgap, .object hms, Option.bind_eq_some_iff.mpr ⟨s, hfold, ho⟩⟩
    next => exact absurd hrun (run_unexpected_ne_ok _ _ _)
  · rw [structured, run_token?_of_spans _ hgap ht]
    cases ht with
    | array hts =>
      obtain ⟨mid, hmid, hend⟩ := hitems.complete hts ha
      show (advance >>= fun _ => ofItems >>= _).run _ = _
      rw [run_advance_bind, List.tail_cons, run_bind_of_run hmid,
        run_bind_of_run (endArray_complete hend), run_pure]
    | @object ms cs _ hms =>
      obtain ⟨s, hs, ho⟩ := Option.bind_eq_some_iff.mp ha
      have hmembers : (bound >>= fun n => foldMembers false step n true s₀ >>= finish).run cs =
          .ok (a, '\x7d' :: rest) := by
        rw [run_bind_of_run (run_bound cs), run_bind_of_run (members_complete hstep hms hs)]
        exact (hfinish s _ _ _).mpr ⟨rfl, ho⟩
      show (advance >>= fun _ => (bound >>= _) >>= _).run _ = _
      rw [run_advance_bind, List.tail_cons, run_bind_of_run hmembers,
        run_bind_of_run (endObject_complete (.nil _)), run_pure]
    | _ => contradiction

end Reader

end OutageWatch.Json
