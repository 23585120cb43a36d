import OutageWatch.Proofs.Json.Structures

/-!
# Decoding whole values

Any value may be read or passed over.  Reading gives what its tree means; passing over takes any
tree at all, since its depth is bounded by the length of the text.  A whole text is read iff it
is a tree that means something, with blanks around it.

## Main results

* `Json.Reader.decodes_value`, `Json.Reader.decodes_skip` : any value, kept or passed over.
* `Json.Reader.readAll_eq_ok` : reading a whole text.
-/

namespace OutageWatch.Json

variable {α : Type}

namespace Reader

/-! ### Any value -/

/-- Collecting what members mean, the last one first. -/
theorem foldMembers?_cons_eq (f : Tree → Option α) (ms : List (List Piece × Tree))
    (done : List (String × α)) :
    Tree.foldMembers? false (fun s name t => (f t).map fun a => (name, a) :: s) done ms =
      (ms.mapM fun m => (Piece.name? false m.1).bind fun name => (f m.2).map (name, ·)).map
        fun as => as.reverse ++ done := by
  induction ms generalizing done with
  | nil => rfl
  | cons m ms ih =>
    rw [Tree.foldMembers?, List.foldlM_cons, List.mapM_cons]
    cases Piece.name? false m.1 with
    | none => rfl
    | some name =>
      cases f m.2 with
      | none => rfl
      | some a =>
        have ih' := ih ((name, a) :: done)
        rw [Tree.foldMembers?] at ih'
        cases hm : ms.mapM fun m => (Piece.name? false m.1).bind fun name =>
            (f m.2).map (name, ·) with
        | none => simpa [hm] using ih'
        | some as => simpa [hm] using ih'

/-- Reading any value, where the values inside it are read. -/
theorem value_sound_of {depth : Nat}
    (ih : ∀ d, depth = d + 1 → Sound Gap (value d) (Tree.value? d)) :
    Sound Gap (value depth) (Tree.value? depth) := by
  intro text a rest hrun
  rw [value.eq_def] at hrun
  obtain ⟨c, cs, hgap, hrun⟩ := exists_of_run_token? hrun rfl
  split at hrun
  next => contradiction
  next =>
    obtain ⟨htext, rfl⟩ := run_word_pure_eq_ok.mp hrun
    rw [htext] at hgap
    exact ⟨_, .null, hgap, .null _, by simp [Tree.value?]⟩
  next =>
    obtain ⟨htext, rfl⟩ := run_word_pure_eq_ok.mp hrun
    rw [htext] at hgap
    exact ⟨_, .bool true, hgap, .boolTrue _, by simp [Tree.value?]⟩
  next =>
    obtain ⟨htext, rfl⟩ := run_word_pure_eq_ok.mp hrun
    rw [htext] at hgap
    exact ⟨_, .bool false, hgap, .boolFalse _, by simp [Tree.value?]⟩
  next heq =>
    -- a string
    obtain rfl := Option.some.inj heq
    obtain ⟨name, mid, hname, hrun⟩ := run_bind_eq_ok.mp hrun
    obtain ⟨rfl, rfl⟩ := Prod.mk.inj (Except.ok.inj hrun)
    obtain ⟨ps, hps, hname⟩ := quotedString_sound hname
    exact ⟨_, .string ps, hgap, .string hps, by simp [Tree.value?, hname]⟩
  next heq =>
    -- an array, which is not too deep
    obtain rfl := Option.some.inj heq
    split at hrun
    next => contradiction
    next d _ =>
      rw [run_advance_bind, List.tail_cons] at hrun
      obtain ⟨as, mid, has, hrun⟩ := run_bind_eq_ok.mp hrun
      obtain ⟨rfl, rfl⟩ := Prod.mk.inj (Except.ok.inj hrun)
      obtain ⟨ts, hts, has⟩ := items_sound (ih d rfl) has
      exact ⟨_, .array ts, hgap, .array hts, by rw [Tree.value?, has, Option.map_some]⟩
  next heq =>
    -- an object, which is not too deep
    obtain rfl := Option.some.inj heq
    split at hrun
    next => contradiction
    next d _ =>
      rw [run_advance_bind, List.tail_cons, run_bind_of_run (run_bound cs)] at hrun
      obtain ⟨rev, mid, hrev, hrun⟩ := run_bind_eq_ok.mp hrun
      obtain ⟨_, after, hend, hrun⟩ := run_bind_eq_ok.mp hrun
      obtain ⟨rfl, rfl⟩ := Prod.mk.inj (Except.ok.inj hrun)
      obtain ⟨ms, hms, hfold, tail, rfl⟩ := foldMembers_sound
        (fun s name => sound_colon ((ih d rfl).map fun a => (name, a) :: s)) hrev
      obtain rfl := endObject_cons hend
      rw [foldMembers?_cons_eq] at hfold
      obtain ⟨as, has, rfl⟩ := Option.map_eq_some_iff.mp hfold
      exact ⟨_, .object ms, hgap, .object hms, by
        rw [Tree.value?, has, Option.map_some, List.append_nil, List.reverse_reverse]⟩
  next heq =>
    -- a number, or nothing at all
    obtain rfl := Option.some.inj heq
    split at hrun
    next hc =>
      obtain ⟨m, mid, hm, hrun⟩ := run_bind_eq_ok.mp hrun
      obtain ⟨rfl, rfl⟩ := Prod.mk.inj (Except.ok.inj hrun)
      obtain ⟨s, hs, hvalue⟩ := number_sound hm
      exact ⟨_, .number s, hgap, .number hs, by simp [Tree.value?, hvalue]⟩
    next => contradiction

theorem value_complete_of {n depth : Nat}
    (ih : ∀ d, depth = d + 1 → CompleteUpTo n Gap (value d) (Tree.value? d)) :
    CompleteUpTo n Gap (value depth) (Tree.value? depth) := by
  intro text start rest t a hn hgap ht ha hrest
  rw [value.eq_def, run_token?_of_spans _ hgap ht]
  cases ht with
  | null =>
    obtain rfl : Json.null = a := by simpa [Tree.value?] using ha
    exact run_bind_of_run (run_word ['n', 'u', 'l', 'l'] rest)
  | boolTrue =>
    obtain rfl : Json.bool true = a := by simpa [Tree.value?] using ha
    exact run_bind_of_run (run_word ['t', 'r', 'u', 'e'] rest)
  | boolFalse =>
    obtain rfl : Json.bool false = a := by simpa [Tree.value?] using ha
    exact run_bind_of_run (run_word ['f', 'a', 'l', 's', 'e'] rest)
  | @number s _ _ hs =>
    obtain ⟨m, hm, rfl⟩ : ∃ m, s.value? = some m ∧ Json.number m = a := by
      simpa [Tree.value?] using ha
    obtain ⟨c, cs, rfl, hc⟩ := hs.exists_eq_cons
    rw [List.head?_cons]
    split
    next heq => cases heq
    iterate 6 next heq => exact absurd hc (by rw [Option.some.inj heq]; decide)
    next heq =>
      obtain rfl := Option.some.inj heq
      rw [if_pos hc, run_bind_of_run (number_complete hs hm hrest), run_pure]
  | @string ps _ _ hps =>
    obtain ⟨name, hname, rfl⟩ : ∃ name, Piece.name? false ps = some name ∧ .string name = a := by
      simpa [Tree.value?] using ha
    cases hps with | mk hps =>
    show (quotedString false >>= _).run _ = _
    rw [run_bind_of_run (quotedString_complete (.mk hps) hname), run_pure]
  | @array ts cs _ hts =>
    cases depth with
    | zero => simp [Tree.value?] at ha
    | succ d =>
      rw [Tree.value?] at ha
      obtain ⟨as, has, rfl⟩ := Option.map_eq_some_iff.mp ha
      show (advance >>= fun _ => items (value d) >>= _).run _ = _
      rw [run_advance_bind, List.tail_cons,
        run_bind_of_run (items_complete (ih d rfl) hts has (Nat.le_of_succ_le hn)), run_pure]
  | @object ms cs _ hms =>
    cases depth with
    | zero => simp [Tree.value?] at ha
    | succ d =>
      rw [Tree.value?] at ha
      obtain ⟨as, has, rfl⟩ := Option.map_eq_some_iff.mp ha
      have hmembers := foldMembers_complete (s := [])
        (fun s name => completeUpTo_colon ((ih d rfl).map fun a => (name, a) :: s))
        hms (by rw [foldMembers?_cons_eq, has, Option.map_some]) (Nat.le_of_succ_le hn)
        (Nat.lt_succ_self _)
      show (advance >>= fun _ => bound >>= _).run _ = _
      rw [run_advance_bind, List.tail_cons, run_bind_of_run (run_bound cs),
        run_bind_of_run hmembers, run_bind_of_run (endObject_complete (.nil _)), run_pure,
        List.append_nil, List.reverse_reverse]

theorem decodes_value (depth : Nat) : Decodes Gap (value depth) (Tree.value? depth) := by
  induction depth with
  | zero => exact ⟨value_sound_of (by simp), fun n => value_complete_of (by simp)⟩
  | succ depth ih =>
    exact ⟨value_sound_of fun d hd => Nat.succ.inj hd ▸ ih.sound,
      fun n => value_complete_of fun d hd => Nat.succ.inj hd ▸ ih.complete n⟩

/-! ### Passing over a value -/

theorem exists_name?_of_lenient (ps : List Piece) : ∃ name, Piece.name? true ps = some name := by
  suffices h : ∃ cs, Piece.chars? true ps = some cs by
    obtain ⟨cs, hcs⟩ := h
    exact ⟨String.ofList cs, by rw [Piece.name?, hcs, Option.map_some]⟩
  induction ps with
  | nil => exact ⟨[], Piece.chars?_nil true⟩
  | cons p ps ih =>
    obtain ⟨cs, hcs⟩ := ih
    cases p with
    | char c => exact ⟨c :: cs, by rw [Piece.chars?_char, hcs, Option.map_some]⟩
    | code n => exact ⟨cs, by rw [Piece.chars?_code_of_lenient, hcs]⟩

theorem foldlM_unit (ts : List Tree) : ts.foldlM (fun _ _ => some ()) () = some () := by
  induction ts with
  | nil => rfl
  | cons t ts ih => exact ih

theorem foldMembers?_unit (ms : List (List Piece × Tree)) :
    Tree.foldMembers? true (fun _ _ _ => some ()) () ms = some () := by
  induction ms with
  | nil => rfl
  | cons m ms ih =>
    obtain ⟨name, hname⟩ := exists_name?_of_lenient m.1
    rw [Tree.foldMembers?, List.foldlM_cons, hname]
    exact ih

/-- Passing over a value, where the values inside it are passed over. -/
theorem skipWithin_sound_of {depth : Nat}
    (ih : ∀ d, depth = d + 1 → Sound Gap (skipWithin d) fun _ => some ()) :
    Sound Gap (skipWithin depth) fun _ => some () := by
  intro text a rest hrun
  rw [skipWithin.eq_def] at hrun
  obtain ⟨c, cs, hgap, hrun⟩ := exists_of_run_token? hrun rfl
  split at hrun
  next => contradiction
  next =>
    rw [run_word_eq_ok.mp hrun] at hgap
    exact ⟨_, .null, hgap, .null _, rfl⟩
  next =>
    rw [run_word_eq_ok.mp hrun] at hgap
    exact ⟨_, .bool true, hgap, .boolTrue _, rfl⟩
  next =>
    rw [run_word_eq_ok.mp hrun] at hgap
    exact ⟨_, .bool false, hgap, .boolFalse _, rfl⟩
  next heq =>
    -- a string
    obtain rfl := Option.some.inj heq
    obtain ⟨name, mid, hname, hrun⟩ := run_bind_eq_ok.mp hrun
    obtain ⟨-, rfl⟩ := Prod.mk.inj (Except.ok.inj hrun)
    obtain ⟨ps, hps, -⟩ := quotedString_sound hname
    exact ⟨_, .string ps, hgap, .string hps, rfl⟩
  next heq =>
    -- an array, which is not too deep
    obtain rfl := Option.some.inj heq
    split at hrun
    next => contradiction
    next d _ =>
      rw [run_advance_bind, List.tail_cons, run_bind_of_run (run_bound cs)] at hrun
      obtain ⟨_, mid, hitems, hend⟩ := run_bind_eq_ok.mp hrun
      obtain ⟨ts, hts, -, tail, rfl⟩ := foldItems_sound (fun _ => ih d rfl) hitems
      obtain rfl := endArray_cons hend
      exact ⟨_, .array ts, hgap, .array hts, rfl⟩
  next heq =>
    -- an object, which is not too deep
    obtain rfl := Option.some.inj heq
    split at hrun
    next => contradiction
    next d _ =>
      rw [run_advance_bind, List.tail_cons, run_bind_of_run (run_bound cs)] at hrun
      obtain ⟨_, mid, hmembers, hend⟩ := run_bind_eq_ok.mp hrun
      obtain ⟨ms, hms, -, tail, rfl⟩ :=
        foldMembers_sound (fun _ _ => sound_colon (ih d rfl)) hmembers
      obtain rfl := endObject_cons hend
      exact ⟨_, .object ms, hgap, .object hms, rfl⟩
  next heq =>
    -- a number, or nothing at all
    obtain rfl := Option.some.inj heq
    split at hrun
    next hc =>
      obtain ⟨s, mid, hs, hrun⟩ := run_bind_eq_ok.mp hrun
      obtain ⟨-, rfl⟩ := Prod.mk.inj (Except.ok.inj hrun)
      exact ⟨_, .number s, hgap, .number (numeral_sound hs), rfl⟩
    next => contradiction

theorem skipWithin_sound (depth : Nat) : Sound Gap (skipWithin depth) fun _ => some () := by
  induction depth with
  | zero => exact skipWithin_sound_of (by simp)
  | succ depth ih => exact skipWithin_sound_of fun d hd => Nat.succ.inj hd ▸ ih

/-- Each level takes a character, so a tree with no more characters than levels is passed over. -/
theorem skipWithin_complete (depth : Nat) :
    CompleteUpTo depth Gap (skipWithin depth) fun _ => some () := by
  induction depth with
  | zero =>
    intro text start rest t a hn _ ht
    obtain ⟨c, cs, rfl, -⟩ := ht.exists_eq_cons
    simp at hn
  | succ d ih =>
    intro text start rest t a hn hgap ht _ hrest
    rw [skipWithin, run_token?_of_spans _ hgap ht]
    cases ht with
    | null => exact run_word ['n', 'u', 'l', 'l'] rest
    | boolTrue => exact run_word ['t', 'r', 'u', 'e'] rest
    | boolFalse => exact run_word ['f', 'a', 'l', 's', 'e'] rest
    | @number s _ _ hs =>
      obtain ⟨c, cs, rfl, hc⟩ := hs.exists_eq_cons
      rw [List.head?_cons]
      split
      next heq => cases heq
      iterate 6 next heq => exact absurd hc (by rw [Option.some.inj heq]; decide)
      next heq =>
        obtain rfl := Option.some.inj heq
        rw [if_pos hc, run_bind_of_run (numeral_complete _ hs hrest), run_pure]
    | @string ps _ _ hps =>
      obtain ⟨name, hname⟩ := exists_name?_of_lenient ps
      cases hps with | mk hps =>
      show (quotedString true >>= _).run _ = _
      rw [run_bind_of_run (quotedString_complete (.mk hps) hname), run_pure]
    | @array ts cs _ hts =>
      show (advance >>= fun _ => bound >>= _).run _ = _
      rw [run_advance_bind, List.tail_cons, run_bind_of_run (run_bound cs),
        run_bind_of_run (foldItems_complete (fun _ => ih) hts (foldlM_unit ts)
          (Nat.le_of_succ_le_succ hn) (Nat.lt_succ_self _))]
      exact endArray_complete (.nil _)
    | @object ms cs _ hms =>
      show (advance >>= fun _ => bound >>= _).run _ = _
      rw [run_advance_bind, List.tail_cons, run_bind_of_run (run_bound cs),
        run_bind_of_run (foldMembers_complete (fun _ _ => completeUpTo_colon ih) hms
          (foldMembers?_unit ms) (Nat.le_of_succ_le_succ hn) (Nat.lt_succ_self _))]
      exact endObject_complete (.nil _)

/-- Every tree is passed over. -/
theorem decodes_skip : Decodes Gap skip fun _ => some () where
  sound := by
    intro text a rest hrun
    obtain ⟨n, mid, hn, hrun⟩ := run_bind_eq_ok.mp hrun
    obtain ⟨rfl, rfl⟩ := Prod.mk.inj (Except.ok.inj hn)
    exact skipWithin_sound _ hrun
  complete := by
    intro n text start rest t a _ hgap ht ha hrest
    rw [skip, run_bind_of_run (run_bound text)]
    exact skipWithin_complete _ (Nat.le_succ_of_le hgap.length_le) hgap ht ha hrest

theorem decodes_ignore : Decodes Colon ignore fun _ => some () := decodes_colon decodes_skip

/-! ### Members by name -/

end Reader

/-- What the value of a member means that must not have come before. -/
def Tree.once? (f : Tree → Option α) (slot : Option α) (t : Tree) : Option (Option α) :=
  if slot.isSome then none else (f t).map some

@[simp] theorem Tree.once?_none (f : Tree → Option α) (t : Tree) :
    t.once? f none = (f t).map some := rfl

namespace Reader

/-- Reading a member that must not have come before. -/
theorem decodes_once (name : String) (slot : Option α) {r : Reader α} {f : Tree → Option α}
    (h : Decodes Gap r f) : Decodes Colon (once name slot r) (Tree.once? f slot) := by
  cases slot with
  | none => exact decodes_colon (h.map some)
  | some a => exact decodes_mismatch _

/-! ### Whole texts -/

/-- A whole text is read iff it is a tree that means something. -/
theorem readAll_eq_ok {r : Reader α} {f : Tree → Option α} (h : Decodes Gap r f)
    {text : List Char} {a : α} :
    readAll r text = .ok a ↔ ∃ t, Tree.IsText t text ∧ f t = some a := by
  constructor
  · intro hrun
    rw [readAll] at hrun
    cases hr : r.run text with
    | error e =>
      rw [hr] at hrun
      contradiction
    | ok p =>
      obtain ⟨b, rest⟩ := p
      rw [hr] at hrun
      change (if (rest.dropWhile isBlank).isEmpty then pure b else throw Fault.malformed) = _
        at hrun
      split at hrun
      next hrest =>
        obtain rfl := Except.ok.inj hrun
        obtain ⟨start, t, hgap, ht, hf⟩ := h.sound hr
        refine ⟨t, ⟨start, rest, hgap, ht, ?_⟩, hf⟩
        rw [← List.isEmpty_iff.mp hrest]
        exact Gap.of_dropWhile rest
      next => contradiction
  · rintro ⟨t, ⟨start, rest, hgap, ht, hrest⟩, ha⟩
    rw [readAll, h.run_eq_ok hgap ht ha (hrest.ends ends_nil)]
    change (if (rest.dropWhile isBlank).isEmpty then pure a else throw Fault.malformed) = _
    rw [hrest.dropWhile_eq]
    rfl

end Reader

/-- A text is JSON that can be kept iff it is a tree that has a value. -/
theorem parse_eq_ok {text : String} {j : Json} :
    parse text = .ok j ↔ ∃ t, Tree.IsText t text.toList ∧ t.value? Reader.maxDepth = some j :=
  Reader.readAll_eq_ok (Reader.decodes_value _)

end OutageWatch.Json
