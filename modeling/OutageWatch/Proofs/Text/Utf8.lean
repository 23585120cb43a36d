import OutageWatch.Text.Utf8

/-!
# Decoding UTF-8

A byte sequence can be decoded iff it is the encoding of a text, and then it is decoded as that
text.  Both directions go character by character: the bytes that `Utf8.first` accepts in front of
a sequence are those of the character that it gives.

## Main results

* `Utf8.first_sound`, `Utf8.first_complete` : the first character of a byte sequence.
* `Utf8.decode_eq_ok` : the byte sequences that can be decoded.
-/

namespace OutageWatch.Utf8

/-! ### One character -/

theorem toNat_ofNat {n : Nat} (h : n < 0xD800 ∨ 0xDFFF < n ∧ n < 0x110000) :
    (Char.ofNat n).val.toNat = n := by
  have hn : n.isValidChar := h
  rw [Char.ofNat, dif_pos hn]
  rfl

theorem ofNat_eq {n : Nat} {b : UInt8} (h : n = b.toNat) : UInt8.ofNat n = b := by
  rw [h, UInt8.ofNat_toNat]

/-- The widths by the ranges of the first byte. -/
theorem width_eq (a : UInt8) :
    width a =
      if a.toNat < 128 then 1
      else if 194 ≤ a.toNat ∧ a.toNat ≤ 223 then 2
      else if 224 ≤ a.toNat ∧ a.toNat ≤ 239 then 3
      else if 240 ≤ a.toNat ∧ a.toNat ≤ 244 then 4
      else 0 := rfl

theorem isTail_iff {b : UInt8} : isTail b = true ↔ 128 ≤ b.toNat ∧ b.toNat ≤ 191 := by
  simp [isTail, UInt8.le_iff_toNat_le]

theorem isSecondOfThree_iff {a b : UInt8} :
    isSecondOfThree a b = true ↔
      isTail b = true ∧ (a.toNat = 224 → 160 ≤ b.toNat) ∧ (a.toNat = 237 → b.toNat ≤ 159) := by
  rw [isSecondOfThree, isTail_iff]
  simp only [← UInt8.toNat_inj]
  split
  next h =>
    simp only [Bool.and_eq_true, decide_eq_true_eq, UInt8.le_iff_toNat_le, UInt8.reduceToNat] at h ⊢
    omega
  next h =>
    simp only [UInt8.reduceToNat] at h ⊢
    split
    next h' =>
      simp only [Bool.and_eq_true, decide_eq_true_eq, UInt8.le_iff_toNat_le, UInt8.reduceToNat]
      omega
    next h' => rw [isTail_iff]; omega

theorem isSecondOfFour_iff {a b : UInt8} :
    isSecondOfFour a b = true ↔
      isTail b = true ∧ (a.toNat = 240 → 144 ≤ b.toNat) ∧ (a.toNat = 244 → b.toNat ≤ 143) := by
  rw [isSecondOfFour, isTail_iff]
  simp only [← UInt8.toNat_inj]
  split
  next h =>
    simp only [Bool.and_eq_true, decide_eq_true_eq, UInt8.le_iff_toNat_le, UInt8.reduceToNat] at h ⊢
    omega
  next h =>
    simp only [UInt8.reduceToNat] at h ⊢
    split
    next h' =>
      simp only [Bool.and_eq_true, decide_eq_true_eq, UInt8.le_iff_toNat_le, UInt8.reduceToNat]
      omega
    next h' => rw [isTail_iff]; omega

/-- The bytes of a character that is given by its code. -/
theorem utf8EncodeChar_ofNat {n : Nat} (h : n < 0xD800 ∨ 0xDFFF < n ∧ n < 0x110000) :
    String.utf8EncodeChar (Char.ofNat n) =
      if n ≤ 127 then [UInt8.ofNat n]
      else if n ≤ 2047 then [UInt8.ofNat (n / 64 % 32 + 192), UInt8.ofNat (n % 64 + 128)]
      else if n ≤ 65535 then
        [UInt8.ofNat (n / 4096 % 16 + 224), UInt8.ofNat (n / 64 % 64 + 128),
          UInt8.ofNat (n % 64 + 128)]
      else
        [UInt8.ofNat (n / 262144 % 8 + 240), UInt8.ofNat (n / 4096 % 64 + 128),
          UInt8.ofNat (n / 64 % 64 + 128), UInt8.ofNat (n % 64 + 128)] := by
  simp only [String.utf8EncodeChar, toNat_ofNat h]

/-- The character that a sequence begins with is the one whose bytes it begins with. -/
theorem first_sound {a : UInt8} {rest : List UInt8} {c : Char} {n : Nat}
    (h : first a rest = .ok (c, n)) :
    ∃ after, a :: rest = String.utf8EncodeChar c ++ after ∧
      n = (String.utf8EncodeChar c).length := by
  have hwidth := width_eq a
  revert h
  fun_cases first a rest with
  | case1 hw =>
    intro h
    obtain ⟨rfl, rfl⟩ := Prod.mk.inj (Except.ok.inj h)
    have ha : a.toNat < 128 := by grind
    refine ⟨rest, ?_⟩
    rw [utf8EncodeChar_ofNat (by omega), if_pos (by omega), UInt8.ofNat_toNat]
    exact ⟨rfl, rfl⟩
  | case3 b r hw hb =>
    intro h
    obtain ⟨rfl, rfl⟩ := Prod.mk.inj (Except.ok.inj h)
    have ha : 194 ≤ a.toNat ∧ a.toNat ≤ 223 := by grind
    have hb := isTail_iff.mp hb
    refine ⟨r, ?_⟩
    rw [tailBits, utf8EncodeChar_ofNat (by omega), if_neg (by omega), if_pos (by omega),
      ofNat_eq (b := a) (by omega), ofNat_eq (b := b) (by omega)]
    exact ⟨rfl, rfl⟩
  | case7 b hw hb c r hc =>
    intro h
    obtain ⟨rfl, rfl⟩ := Prod.mk.inj (Except.ok.inj h)
    have ha : 224 ≤ a.toNat ∧ a.toNat ≤ 239 := by grind
    obtain ⟨hb, hlow, hhigh⟩ := isSecondOfThree_iff.mp hb
    have hb := isTail_iff.mp hb
    have hc := isTail_iff.mp hc
    refine ⟨r, ?_⟩
    rw [tailBits, tailBits, utf8EncodeChar_ofNat (by omega), if_neg (by omega), if_neg (by omega),
      if_pos (by omega), ofNat_eq (b := a) (by omega), ofNat_eq (b := b) (by omega),
      ofNat_eq (b := c) (by omega)]
    exact ⟨rfl, rfl⟩
  | case13 b hw hb c hc d r hd =>
    intro h
    obtain ⟨rfl, rfl⟩ := Prod.mk.inj (Except.ok.inj h)
    have ha : 240 ≤ a.toNat ∧ a.toNat ≤ 244 := by grind
    obtain ⟨hb, hlow, hhigh⟩ := isSecondOfFour_iff.mp hb
    have hb := isTail_iff.mp hb
    have hc := isTail_iff.mp hc
    have hd := isTail_iff.mp hd
    refine ⟨r, ?_⟩
    rw [tailBits, tailBits, tailBits, utf8EncodeChar_ofNat (by omega), if_neg (by omega),
      if_neg (by omega), if_neg (by omega), ofNat_eq (b := a) (by omega),
      ofNat_eq (b := b) (by omega), ofNat_eq (b := c) (by omega), ofNat_eq (b := d) (by omega)]
    exact ⟨rfl, rfl⟩
  | _ =>
    intro h
    contradiction

theorem ofNat_eq_char {n : Nat} {c : Char} (h : n = c.val.toNat) : Char.ofNat n = c := by
  rw [h]
  exact Char.ofNat_toNat c

theorem toNat_ofNat_byte {n : Nat} (h : n < 256) : (UInt8.ofNat n).toNat = n := by
  rw [UInt8.toNat_ofNat', Nat.mod_eq_of_lt h]

theorem first_of_one {a : UInt8} {rest : List UInt8} (hw : width a = 1) :
    first a rest = .ok (Char.ofNat a.toNat, 1) := by
  rw [first.eq_def, hw]
  rfl

theorem first_of_two {a b : UInt8} {rest : List UInt8} (hw : width a = 2)
    (hb : isTail b = true) :
    first a (b :: rest) = .ok (Char.ofNat (a.toNat % 32 * 64 + tailBits b), 2) := by
  rw [first.eq_def, hw]
  simp only [if_pos hb]

theorem first_of_three {a b c : UInt8} {rest : List UInt8} (hw : width a = 3)
    (hb : isSecondOfThree a b = true) (hc : isTail c = true) :
    first a (b :: c :: rest) =
      .ok (Char.ofNat ((a.toNat % 16 * 64 + tailBits b) * 64 + tailBits c), 3) := by
  rw [first.eq_def, hw]
  simp only [if_pos hb, if_pos hc]

theorem first_of_four {a b c d : UInt8} {rest : List UInt8} (hw : width a = 4)
    (hb : isSecondOfFour a b = true) (hc : isTail c = true) (hd : isTail d = true) :
    first a (b :: c :: d :: rest) =
      .ok (Char.ofNat
        (((a.toNat % 8 * 64 + tailBits b) * 64 + tailBits c) * 64 + tailBits d), 4) := by
  rw [first.eq_def, hw]
  simp only [if_pos hb, if_pos hc, if_pos hd]

/-- In front of any bytes, those of a character give the character. -/
theorem first_complete {a : UInt8} {rest after : List UInt8} {c : Char}
    (h : a :: rest = String.utf8EncodeChar c ++ after) :
    first a rest = .ok (c, (String.utf8EncodeChar c).length) := by
  have hvalid : c.val.toNat < 0xD800 ∨ 0xDFFF < c.val.toNat ∧ c.val.toNat < 0x110000 := c.valid
  simp only [String.utf8EncodeChar] at h ⊢
  generalize hv : c.val.toNat = v at h hvalid ⊢
  split at h
  next h₁ =>
    obtain ⟨rfl, rfl⟩ := List.cons.inj h
    have ha := toNat_ofNat_byte (n := v) (by omega)
    rw [if_pos h₁, first_of_one (by rw [width_eq, if_pos (by omega)]), ha, ofNat_eq_char hv.symm]
    rfl
  next h₁ =>
  rw [if_neg h₁]
  split at h
  next h₂ =>
    obtain ⟨rfl, rfl⟩ := List.cons.inj h
    have ha := toNat_ofNat_byte (n := v / 64 % 32 + 192) (by omega)
    have hb := toNat_ofNat_byte (n := v % 64 + 128) (by omega)
    show first _ (_ :: _) = _
    rw [if_pos h₂, first_of_two (by rw [width_eq, if_neg (by omega), if_pos (by omega)])
      (isTail_iff.mpr (by omega)), tailBits, ofNat_eq_char (c := c) (by omega)]
    rfl
  next h₂ =>
  rw [if_neg h₂]
  split at h
  next h₃ =>
    obtain ⟨rfl, rfl⟩ := List.cons.inj h
    have ha := toNat_ofNat_byte (n := v / 4096 % 16 + 224) (by omega)
    have hb := toNat_ofNat_byte (n := v / 64 % 64 + 128) (by omega)
    have hc := toNat_ofNat_byte (n := v % 64 + 128) (by omega)
    have hb' := (isTail_iff (b := UInt8.ofNat (v / 64 % 64 + 128))).mpr (by omega)
    have hc' := (isTail_iff (b := UInt8.ofNat (v % 64 + 128))).mpr (by omega)
    show first _ (_ :: _ :: _) = _
    rw [if_pos h₃, first_of_three
      (by rw [width_eq, if_neg (by omega), if_neg (by omega), if_pos (by omega)])
      (isSecondOfThree_iff.mpr ⟨hb', by omega, by omega⟩) hc', tailBits, tailBits,
      ofNat_eq_char (c := c) (by omega)]
    rfl
  next h₃ =>
    obtain ⟨rfl, rfl⟩ := List.cons.inj h
    have ha := toNat_ofNat_byte (n := v / 262144 % 8 + 240) (by omega)
    have hb := toNat_ofNat_byte (n := v / 4096 % 64 + 128) (by omega)
    have hc := toNat_ofNat_byte (n := v / 64 % 64 + 128) (by omega)
    have hd := toNat_ofNat_byte (n := v % 64 + 128) (by omega)
    have hb' := (isTail_iff (b := UInt8.ofNat (v / 4096 % 64 + 128))).mpr (by omega)
    have hc' := (isTail_iff (b := UInt8.ofNat (v / 64 % 64 + 128))).mpr (by omega)
    have hd' := (isTail_iff (b := UInt8.ofNat (v % 64 + 128))).mpr (by omega)
    show first _ (_ :: _ :: _ :: _) = _
    rw [if_neg h₃, first_of_four
      (by rw [width_eq, if_neg (by omega), if_neg (by omega), if_neg (by omega), if_pos (by omega)])
      (isSecondOfFour_iff.mpr ⟨hb', by omega, by omega⟩) hc' hd', tailBits, tailBits, tailBits,
      ofNat_eq_char (c := c) (by omega)]
    rfl

/-! ### Whole sequences -/

/-- Bytes of the character before are passed over. -/
theorem decodeFrom_append (pre rest : List UInt8) (index : Nat) (done : List Char) :
    decodeFrom index pre.length done (pre ++ rest) =
      decodeFrom (index + pre.length) 0 done rest := by
  induction pre generalizing index with
  | nil => rfl
  | cons b pre ih =>
    rw [List.length_cons, List.cons_append, decodeFrom, ih, Nat.add_right_comm]
    rfl

/-- A character in front is decoded. -/
theorem decodeFrom_encodeChar (c : Char) (rest : List UInt8) (index : Nat) (done : List Char) :
    decodeFrom index 0 done (String.utf8EncodeChar c ++ rest) =
      decodeFrom (index + (String.utf8EncodeChar c).length) 0 (c :: done) rest := by
  cases hc : String.utf8EncodeChar c with
  | nil => exact absurd hc String.utf8EncodeChar_ne_nil
  | cons a pre =>
    have hbytes : a :: (pre ++ rest) = String.utf8EncodeChar c ++ rest := by
      rw [hc, List.cons_append]
    rw [List.cons_append, decodeFrom, first_complete hbytes]
    simp only [hc, List.length_cons, Nat.add_sub_cancel]
    rw [decodeFrom_append, Nat.add_right_comm]
    rfl

theorem decodeFrom_encode (cs : List Char) (index : Nat) (done : List Char) :
    decodeFrom index 0 done (encode cs) = .ok (done.reverse ++ cs) := by
  induction cs generalizing index done with
  | nil => rw [encode, List.flatMap_nil, decodeFrom, List.append_nil]
  | cons c cs ih =>
    rw [encode, List.flatMap_cons, decodeFrom_encodeChar]
    exact (ih _ _).trans (by simp)

/-- What is decoded is the text that was encoded. -/
theorem exists_encode_of_decodeFrom {bytes : List UInt8} {index : Nat} {done text : List Char}
    (h : decodeFrom index 0 done bytes = .ok text) :
    ∃ cs, bytes = encode cs ∧ text = done.reverse ++ cs := by
  induction hn : bytes.length using Nat.strongRecOn generalizing bytes index done with
  | _ n ih =>
  cases bytes with
  | nil =>
    rw [decodeFrom] at h
    exact ⟨[], rfl, by rw [List.append_nil, Except.ok.inj h]⟩
  | cons a rest =>
    cases hfirst : first a rest with
    | error length =>
      rw [decodeFrom, hfirst] at h
      contradiction
    | ok p =>
      obtain ⟨after, hbytes, -⟩ := first_sound (c := p.1) (n := p.2) hfirst
      have hlength := congrArg List.length hbytes
      have hpos := List.length_pos_iff.mpr (String.utf8EncodeChar_ne_nil (c := p.1))
      rw [List.length_append] at hlength
      rw [hbytes, decodeFrom_encodeChar] at h
      obtain ⟨cs, rfl, rfl⟩ := ih after.length (by omega) h rfl
      exact ⟨p.1 :: cs, by rw [hbytes, encode, encode, List.flatMap_cons], by simp⟩

/-- **A byte sequence is decoded as a text iff it is the encoding of the text.** -/
theorem decode_eq_ok {bytes : List UInt8} {text : List Char} :
    decode bytes = .ok text ↔ bytes = encode text := by
  constructor
  · intro h
    obtain ⟨cs, rfl, rfl⟩ := exists_encode_of_decodeFrom h
    rfl
  · rintro rfl
    exact decodeFrom_encode text 0 []

/-- Different texts have different encodings. -/
theorem encode_injective {cs ds : List Char} (h : encode cs = encode ds) : cs = ds := by
  have hcs := decode_eq_ok.mpr h
  rw [decode_eq_ok.mpr (rfl : encode cs = encode cs)] at hcs
  exact Except.ok.inj hcs

end OutageWatch.Utf8
