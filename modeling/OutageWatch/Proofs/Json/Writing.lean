import OutageWatch.Json.Writer
import OutageWatch.Proofs.Json.Values

/-!
# Written values

What is written of a value is a tree that means the value again.  Only characters below the blank
that have no letter of their own are escaped by their code, so no halves of surrogate pairs are
written; an integer is written without leading zeros, and its digits are taken up in full as long
as it fits 64 bits.

## Main definitions

* `Json.Piece.ofString`, `Json.Reader.Numeral.ofInt` : what is written of a string and an integer.
* `Json.Writes` : a tree is what is written of a value.

## Main results

* `Json.writes_string`, `Json.writes_int`, `Json.writes_array`, `Json.writes_object`.
* `Json.Writes.parse` : what is written of a value can be read again.
-/

namespace OutageWatch.Json

open Reader (Numeral)

/-! ### Strings -/

namespace Piece

/-- What is written of a character. -/
def ofChar (c : Char) : Piece :=
  if c.toNat < 0x20 ∧ c ∉ ['\x08', '\x0c', '\n', '\r', '\t'] then .code c.toNat else .char c

/-- What is written of a string. -/
def ofString (s : String) : List Piece := s.toList.map ofChar

theorem hexValue?_hexFixed {n : Nat} (h : n < 0x20) :
    Digits.hexValue? (Digits.hexFixed 4 n) = some n := by
  revert h; revert n; decide

theorem hexFixed_four (n : Nat) : ∃ a b c d, Digits.hexFixed 4 n = [a, b, c, d] :=
  ⟨_, _, _, _, rfl⟩

theorem spans_ofChar (c : Char) (rest : List Char) :
    (ofChar c).Spans (escapedChar c ++ rest) rest := by
  fun_cases escapedChar c with
  | case8 h₁ h₂ h₃ h₄ h₅ h₆ h₇ h =>
    rw [ofChar, if_pos (by simp_all)]
    obtain ⟨a, b, c', d, hfixed⟩ := hexFixed_four c.toNat
    have hvalue := hexValue?_hexFixed h
    rw [hfixed] at hvalue ⊢
    exact .code hvalue
  | case9 h₁ h₂ h₃ h₄ h₅ h₆ h₇ h =>
    rw [ofChar, if_neg (by simp_all)]
    exact .plain h₁ h₂ (by omega)
  | _ =>
    subst_vars
    exact .letter rfl

theorem spans_ofString (cs rest : List Char) :
    ListSpans (cs.map ofChar) (cs.flatMap escapedChar ++ rest) rest := by
  induction cs with
  | nil => exact .nil rest
  | cons c cs ih =>
    rw [List.map_cons, List.flatMap_cons, List.append_assoc]
    exact .cons (spans_ofChar c _) ih

theorem chars?_ofChar (c : Char) (ps : List Piece) :
    chars? false (ofChar c :: ps) = (chars? false ps).map (c :: ·) := by
  rw [ofChar]
  split
  next h =>
    have hhigh : ¬ IsHigh c.toNat := fun hhigh => by have := hhigh.1; omega
    have hlow : ¬ IsLow c.toNat := fun hlow => by have := hlow.1; omega
    rw [chars?_code hhigh hlow, Char.ofNat_toNat]
  next => exact chars?_char false c ps

theorem name?_ofString (s : String) : name? false (ofString s) = some s := by
  have h (cs : List Char) : chars? false (cs.map ofChar) = some cs := by
    induction cs with
    | nil => exact chars?_nil false
    | cons c cs ih => rw [List.map_cons, chars?_ofChar, ih, Option.map_some]
  rw [name?, ofString, h, Option.map_some, String.ofList_toList]

theorem quoted_ofString (s : String) (rest : List Char) :
    Quoted (ofString s) (stringText s ++ rest) rest := by
  have h := spans_ofString s.toList ('"' :: rest)
  rw [stringText, List.cons_append, List.append_assoc]
  exact .mk h

end Piece

/-! ### Integers -/

/-- The numeral that is written of an integer. -/
def Reader.Numeral.ofInt (n : Int) : Numeral := ⟨n < 0, Digits.decimal n.natAbs, none, none⟩

theorem decimalOnto_ne_nil (fuel n : Nat) (tail : List Char) (h : n < fuel) :
    Digits.decimalOnto fuel n tail ≠ [] := by
  induction fuel generalizing n tail with
  | zero => omega
  | succ fuel ih =>
    rw [Digits.decimalOnto]
    split
    next => exact List.cons_ne_nil _ _
    next hn => exact ih _ _ (by omega)

theorem digitChar_ne_zero {d : Nat} (hd : d < 10) (h : 0 < d) : Digits.digitChar d ≠ '0' := by
  revert h; revert hd; revert d; decide

/-- The first digit of a positive number is not zero. -/
theorem head?_decimalOnto (fuel n : Nat) (tail : List Char) (h : n < fuel) (hn : 0 < n) :
    (Digits.decimalOnto fuel n tail).head? ≠ some '0' := by
  induction fuel generalizing n tail with
  | zero => omega
  | succ fuel ih =>
    rw [Digits.decimalOnto]
    split
    next hlt =>
      rw [List.head?_cons, ne_eq, Option.some.injEq]
      exact digitChar_ne_zero hlt hn
    next => exact ih _ _ (by omega) (by omega)

theorem digitRun_decimal (n : Nat) : DigitRun (Digits.decimal n) where
  ne_nil := decimalOnto_ne_nil _ _ _ (Nat.lt_succ_self n)
  isDecimal := List.all_eq_true.mp (Digits.all_isDecimal_decimal n)

/-- No leading zeros are written. -/
theorem not_leadingZero_decimal (n : Nat) :
    ¬ ((Digits.decimal n).length > 1 ∧ (Digits.decimal n).head? = some '0') := by
  cases n with
  | zero => decide
  | succ n => exact fun h => head?_decimalOnto _ _ _ (Nat.lt_succ_self _) (Nat.succ_pos n) h.2

/-- An integer is written as its sign and its digits. -/
theorem int_eq_append (n : Int) :
    Digits.int n = signText (n < 0) ++ Digits.decimal n.natAbs := by
  cases n with
  | ofNat m => rfl
  | negSucc m => rw [decide_eq_true (Int.negSucc_lt_zero m)]; rfl

theorem spans_ofInt (n : Int) (rest : List Char) :
    (Numeral.ofInt n).Spans (Digits.int n ++ rest) rest := by
  rw [int_eq_append, List.append_assoc]
  exact .mk (s := Numeral.ofInt n) (digitRun_decimal _) (not_leadingZero_decimal _) .absent .absent

theorem significandOf_decimal {n : Nat} (h : n ≤ greatestNat) :
    Reader.significandOf 0 (Digits.decimal n) = (n, 0) := by
  rw [Reader.significandOf_zero (by rwa [Digits.value_decimal]), Digits.value_decimal]

theorem value?_ofInt {n : Int} (h : Fits n) : (Numeral.ofInt n).value? = some (.integer n) := by
  have hlow : -9223372036854775808 ≤ n := h.1
  have hhigh : n ≤ 9223372036854775807 := h.2
  have hs := significandOf_decimal (n := n.natAbs) (by
    show n.natAbs ≤ 18446744073709551615
    omega)
  simp only [Numeral.value?, Numeral.ofInt, hs]
  by_cases hn : n < 0
  · have habs : -(n.natAbs : Int) = n := by omega
    rw [if_neg (by simp [hn]), habs, if_pos ⟨trivial, by omega, hlow⟩]
  · have habs : (n.natAbs : Int) = n := by omega
    rw [if_pos (by simp [hn]), habs]

/-! ### Values -/

theorem mapM_map_eq_some {α β γ : Type} {f : β → Option γ} {g : α → β} {h : α → γ} {as : List α}
    (hfg : ∀ a ∈ as, f (g a) = some (h a)) : (as.map g).mapM f = some (as.map h) := by
  induction as with
  | nil => rfl
  | cons a as ih =>
    rw [List.forall_mem_cons] at hfg
    rw [List.map_cons, List.mapM_cons, hfg.1, ih hfg.2]
    rfl

namespace Tree

/-- What is written of an integer. -/
def ofInt (n : Int) : Tree := .number (Numeral.ofInt n)

/-- What is written of a string. -/
def ofString (s : String) : Tree := .string (Piece.ofString s)

/-- What is written of members. -/
def ofMembers (ms : List (String × Tree)) : Tree :=
  .object (ms.map fun m => (Piece.ofString m.1, m.2))

@[simp] theorem orNull?_ofString {α : Type} (f : Tree → Option α) (s : String) :
    orNull? f (ofString s) = (f (ofString s)).map some := rfl

@[simp] theorem orNull?_array {α : Type} (f : Tree → Option α) (ts : List Tree) :
    orNull? f (.array ts) = (f (.array ts)).map some := rfl

@[simp] theorem orNull?_ofMembers {α : Type} (f : Tree → Option α) (ms : List (String × Tree)) :
    orNull? f (ofMembers ms) = (f (ofMembers ms)).map some := rfl

@[simp] theorem string?_ofString (s : String) : (ofString s).string? = some s :=
  Piece.name?_ofString s

theorem int?_ofInt {low high n : Int} (h : Fits n) (hn : low ≤ n ∧ n ≤ high) :
    (ofInt n).int? low high = some n := by
  rw [int?, ofInt, number?, value?_ofInt h]
  exact if_pos hn

theorem fields?_ofMembers (ms : List (String × Tree)) : (ofMembers ms).fields? = some ms := by
  rw [ofMembers, fields?, mapM_map_eq_some (h := id) fun m _ => ?_, List.map_id]
  rw [Piece.name?_ofString]
  rfl

@[simp] theorem fold?_ofMembers {σ : Type} (g : σ → String → Tree → Option σ) (s : σ)
    (ms : List (String × Tree)) :
    (ofMembers ms).fold? g s = ms.foldlM (fun s m => g s m.1 m.2) s := by
  rw [fold?, fields?_ofMembers, Option.bind_some]

@[simp] theorem structured?_ofMembers {α : Type} (f : List Tree → Option α)
    (g : Tree → Option α) (ms : List (String × Tree)) :
    (ofMembers ms).structured? f g = g (ofMembers ms) := rfl

theorem items?_array_map {α : Type} {f : Tree → Option α} {g : α → Tree} {as : List α}
    (hfg : ∀ a ∈ as, f (g a) = some a) : items? f (.array (as.map g)) = some as := by
  rw [items?, mapM_map_eq_some (h := id) hfg, List.map_id]

end Tree

/-- A tree is what is written of a value with at most `depth` arrays and objects one inside the
other, and means that value again. -/
structure Writes (depth : Nat) (j : Json) (t : Tree) : Prop where
  spans (rest : List Char) : t.Spans (j.chars ++ rest) rest
  value : t.value? depth = some j

theorem writes_null (depth : Nat) : Writes depth .null .null where
  spans := Tree.Spans.null
  value := by simp [Tree.value?]

theorem writes_int (depth : Nat) {n : Int} (h : Fits n) :
    Writes depth (.ofInt n) (.ofInt n) where
  spans rest := .number (spans_ofInt n rest)
  value := by simp [Tree.ofInt, Tree.value?, value?_ofInt h]

theorem writes_string (depth : Nat) (s : String) :
    Writes depth (.string s) (.ofString s) where
  spans rest := .string (Piece.quoted_ofString s rest)
  value := by simp [Tree.ofString, Tree.value?, Piece.name?_ofString]

theorem itemChars_cons (j : Json) (js : List Json) :
    itemChars (j :: js) = j.chars ++ js.flatMap (',' :: ·.chars) := by
  induction js generalizing j with
  | nil => rw [itemChars, List.flatMap_nil, List.append_nil]
  | cons k js ih => rw [itemChars, ih, List.flatMap_cons, List.cons_append]

theorem memberChars_cons (m : String × Json) (ms : List (String × Json)) :
    memberChars (m :: ms) = stringText m.1 ++ ':' :: m.2.chars ++
      ms.flatMap fun m => ',' :: (stringText m.1 ++ ':' :: m.2.chars) := by
  induction ms generalizing m with
  | nil => rw [memberChars, List.flatMap_nil, List.append_nil]
  | cons k ms ih => rw [memberChars, ih, List.flatMap_cons, List.cons_append]

variable {α : Type} {depth : Nat}

/-- The items of a list are written one after the other. -/
theorem writes_array {f : α → Json} {g : α → Tree} {as : List α}
    (h : ∀ a ∈ as, Writes depth (f a) (g a)) :
    Writes (depth + 1) (.array (as.map f)) (.array (as.map g)) where
  spans rest := by
    have hnext (as : List α) (h : ∀ a ∈ as, Writes depth (f a) (g a)) :
        Tree.ItemsSpan false (as.map g) ((as.map f).flatMap (',' :: ·.chars) ++ ']' :: rest)
          (']' :: rest) := by
      induction as with
      | nil => exact .nil (.nil _)
      | cons a as ih =>
        rw [List.forall_mem_cons] at h
        rw [List.map_cons, List.map_cons, List.flatMap_cons, List.append_assoc, List.cons_append]
        exact .cons (.next (.nil _) (.nil _)) (h.1.spans _) (ih h.2)
    cases as with
    | nil => exact .array (.nil (.nil _))
    | cons a as =>
      rw [List.forall_mem_cons] at h
      rw [chars, List.map_cons (f := f), itemChars_cons, List.cons_append, List.append_assoc,
        List.append_assoc]
      exact .array (.cons (.first (.nil _)) (h.1.spans _) (hnext as h.2))
  value := by
    rw [Tree.value?, mapM_map_eq_some fun a ha => (h a ha).value, Option.map_some]

/-- The members of an object are written one after the other. -/
theorem writes_object (ms : List (String × Json × Tree))
    (h : ∀ m ∈ ms, Writes depth m.2.1 m.2.2) :
    Writes (depth + 1) (.object (ms.map fun m => (m.1, m.2.1)))
      (.ofMembers (ms.map fun m => (m.1, m.2.2))) where
  spans rest := by
    rw [Tree.ofMembers, List.map_map]
    have hnext (ms : List (String × Json × Tree)) (h : ∀ m ∈ ms, Writes depth m.2.1 m.2.2) :
        Tree.MembersSpan false (ms.map fun m => (Piece.ofString m.1, m.2.2))
          (((ms.map fun m => (m.1, m.2.1)).flatMap
            fun m => ',' :: (stringText m.1 ++ ':' :: m.2.chars)) ++ '\x7d' :: rest)
          ('\x7d' :: rest) := by
      induction ms with
      | nil => exact .nil (.nil _)
      | cons m ms ih =>
        rw [List.forall_mem_cons] at h
        rw [List.map_cons, List.map_cons, List.flatMap_cons, List.append_assoc, List.cons_append,
          List.append_assoc, List.cons_append]
        exact .cons (.next (.nil _) (.nil _)) (Piece.quoted_ofString _ _)
          ⟨_, .nil _, .nil _⟩ (h.1.spans _) (ih h.2)
    cases ms with
    | nil => exact .object (.nil (.nil _))
    | cons m ms =>
      rw [List.forall_mem_cons] at h
      rw [chars, List.map_cons (f := fun m : String × Json × Tree => (m.1, m.2.1)),
        memberChars_cons]
      simp only [List.cons_append, List.append_assoc]
      exact .object (.cons (.first (.nil _)) (Piece.quoted_ofString _ _)
        ⟨_, .nil _, .nil _⟩ (h.1.spans _) (hnext ms h.2))
  value := by
    rw [Tree.ofMembers, List.map_map, Tree.value?,
      mapM_map_eq_some (h := fun m => (m.1, m.2.1)) fun m hm => ?_, Option.map_some]
    show ((Piece.name? false (Piece.ofString m.1)).bind fun name => _) = _
    rw [Piece.name?_ofString, Option.bind_some]
    exact congrArg (Option.map _) (h m hm).value

/-- What is written of a value is a text of its own, and read as the value. -/
theorem Writes.isText {j : Json} {t : Tree} (h : Writes depth j t) : t.IsText j.chars :=
  ⟨j.chars, [], .nil _, by simpa using h.spans [], .nil _⟩

theorem Writes.parse {j : Json} {t : Tree} (h : Writes Reader.maxDepth j t) :
    parse j.text = .ok j := by
  rw [parse_eq_ok]
  exact ⟨t, by simpa [text] using h.isText, h.value⟩

end OutageWatch.Json
