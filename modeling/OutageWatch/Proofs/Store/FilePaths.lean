import Mathlib.Data.List.Induction
import Mathlib.Logic.Relation
import OutageWatch.Store.Location

/-!
# File paths without two dots

Two dots take back the name in front of them.  To take back one name after the other, in whatever
order, is a rewriting of the parts of a path, and to read the parts from left to right and to keep
the names that are not taken back yet is one way to do it.  As taking back two adjacent parts never
changes what this reading ends with, the order does not matter; and reading gets stuck only where
more names are to be taken back than there are.

## Main definitions

* `FilePath.IsPart` : what can be a part of a path.
* `FilePath.Cancels` : a name is taken back.

## Main results

* `FilePath.cancel?_eq_none_iff` : when two dots lead above the root.
* `FilePath.cancel?_eq_some_iff` : what is left.
* `FilePath.parts_text` : the parts of the text of a path.
* `FilePath.normalise?_lexical` : paths from the root on, without two dots.
* `Location.ofFile_eq_aboveRoot_iff` : when a path of a file is refused for leading above the root.
-/

namespace OutageWatch

/-! ### Splitting -/

namespace Text

/-- Text without a separator is one part. -/
theorem split_of_not_mem {sep : Char} {cs : List Char} (h : sep ∉ cs) : split sep cs = [cs] := by
  induction cs with
  | nil => rfl
  | cons c cs ih =>
    rw [List.mem_cons, not_or] at h
    rw [split, if_neg (Ne.symm h.1), ih h.2]

/-- At a separator the parts in front of it end. -/
theorem split_append_cons (sep : Char) (front cs : List Char) :
    split sep (front ++ sep :: cs) = split sep front ++ split sep cs := by
  induction front with
  | nil => simp [split]
  | cons c front ih =>
    rw [List.cons_append, split, split, ih]
    split
    · rfl
    · cases h : split sep front with
      | nil => exact absurd h (split_ne_nil sep front)
      | cons part parts => rfl

end Text

namespace FilePath

/-! ### Parts -/

/-- What can be a part of a path. -/
structure IsPart (part : String) : Prop where
  ne_empty : part ≠ ""
  ne_dot : part ≠ "."
  not_mem : '/' ∉ part.toList

theorem isPart_of_mem_parts {path part : String} (h : part ∈ parts path) : IsPart part := by
  obtain ⟨hmem, hcounts⟩ := List.mem_filter.mp h
  obtain ⟨cs, hcs, rfl⟩ := List.mem_map.mp hmem
  simp only [Bool.and_eq_true, decide_eq_true_eq] at hcounts
  exact ⟨hcounts.1, hcounts.2, by simpa using Text.not_mem_of_mem_split hcs⟩

theorem isPart_of_mem_absolute {directory : List String}
    (hdirectory : ∀ part ∈ directory, IsPart part) {path part : String}
    (h : part ∈ absolute directory path) : IsPart part := by
  rw [absolute] at h
  split at h
  · exact isPart_of_mem_parts h
  · rcases List.mem_append.mp h with h | h
    · exact hdirectory part h
    · exact isPart_of_mem_parts h

/-- At a slash the parts in front of it end. -/
theorem parts_append_slash (front rest : String) :
    parts (front ++ "/" ++ rest) = parts front ++ parts rest := by
  have hchars : (front ++ "/" ++ rest).toList = front.toList ++ '/' :: rest.toList := by simp
  rw [parts, hchars, Text.split_append_cons, List.map_append, List.filter_append]
  rfl

/-- A part is a path of its own. -/
theorem IsPart.parts_eq {name : String} (h : IsPart name) : parts name = [name] := by
  simp [parts, Text.split_of_not_mem h.not_mem, h.ne_empty, h.ne_dot]

theorem isAbsolute_text (path : List String) : isAbsolute (text path) = true := by
  cases path with
  | nil => rfl
  | cons part rest => simp [text, isAbsolute]

/-- The parts of the text of a path are those of the path. -/
theorem parts_text {path : List String} (h : ∀ part ∈ path, IsPart part) :
    parts (text path) = path := by
  have hjoin : parts (String.join (path.map ("/" ++ ·))) = path := by
    induction path using List.reverseRecOn with
    | nil => rfl
    | append_singleton path part ih =>
      have hlast := h part (by simp)
      have hjoin : String.join ((path ++ [part]).map ("/" ++ ·)) =
          String.join (path.map ("/" ++ ·)) ++ "/" ++ part := by simp [String.append_assoc]
      rw [hjoin, parts_append_slash, ih fun part hpart => h part (by simp [hpart]), hlast.parts_eq]
  cases path with
  | nil => rfl
  | cons part rest => exact hjoin

/-! ### Taking names back -/

/-- A name is taken back by the two dots behind it. -/
inductive Cancels : List String → List String → Prop
  | step (front : List String) {name : String} (hname : name ≠ up) (rest : List String) :
    Cancels (front ++ name :: up :: rest) (front ++ rest)

theorem cancelOnto_step (kept front : List String) {name : String} (hname : name ≠ up)
    (rest : List String) :
    cancelOnto kept (front ++ name :: up :: rest) = cancelOnto kept (front ++ rest) := by
  induction front generalizing kept with
  | nil => simp [cancelOnto, hname]
  | cons part front ih => simp only [List.cons_append, cancelOnto, ih]

/-- Taking back a name does not change what is left. -/
theorem Cancels.cancel?_eq {path left : List String} (h : Cancels path left) :
    cancel? path = cancel? left := by
  cases h with
  | step front hname rest => exact cancelOnto_step [] front hname rest

/-- Every part that is left was there before. -/
theorem Cancels.subset {path left : List String} (h : Cancels path left) : left ⊆ path := by
  cases h with
  | step front hname rest =>
    intro part hpart
    rcases List.mem_append.mp hpart with hpart | hpart <;> simp [hpart]

/-- What is left is left when names are taken back one by one. -/
theorem reflTransGen_of_cancelOnto {kept path left : List String} (hkept : up ∉ kept)
    (h : cancelOnto kept path = some left) :
    Relation.ReflTransGen Cancels (kept.reverse ++ path) left := by
  induction path generalizing kept with
  | nil =>
    obtain rfl := Option.some.inj h
    rw [List.append_nil]
  | cons part rest ih =>
    rw [cancelOnto] at h
    split at h
    next hup =>
      subst hup
      cases kept with
      | nil => simp at h
      | cons name kept =>
        rw [List.mem_cons, not_or] at hkept
        have hstep : Cancels ((name :: kept).reverse ++ up :: rest) (kept.reverse ++ rest) := by
          simpa using Cancels.step kept.reverse (Ne.symm hkept.1) rest
        exact .head hstep (ih hkept.2 (by simpa using h))
    next hname =>
      have hrest : Relation.ReflTransGen Cancels ((part :: kept).reverse ++ rest) left :=
        ih (by simp [Ne.symm hname, hkept]) h
      simpa using hrest

/-- What is left is what names can be taken back to until there are no two dots. -/
theorem cancel?_eq_some_iff {path left : List String} :
    cancel? path = some left ↔ Relation.ReflTransGen Cancels path left ∧ up ∉ left := by
  constructor
  · intro h
    exact ⟨reflTransGen_of_cancelOnto List.not_mem_nil h, not_mem_of_cancel? h⟩
  · rintro ⟨h, hleft⟩
    rw [← cancel?_of_not_mem hleft]
    induction h using Relation.ReflTransGen.head_induction_on with
    | refl => rfl
    | head hstep _ ih => exact hstep.cancel?_eq.trans ih

/-- The first parts of a path are none, or its first part and the first few of the others. -/
theorem exists_prefix_cons_iff {α : Type} {a : α} {l : List α} {p : List α → Prop} :
    (∃ front, front <+: a :: l ∧ p front) ↔ p [] ∨ ∃ front, front <+: l ∧ p (a :: front) := by
  constructor
  · rintro ⟨front, hprefix, hfront⟩
    rcases List.prefix_cons_iff.mp hprefix with rfl | ⟨rest, rfl, hrest⟩
    · exact .inl hfront
    · exact .inr ⟨rest, hrest, hfront⟩
  · rintro (hnil | ⟨front, hprefix, hfront⟩)
    · exact ⟨[], List.nil_prefix, hnil⟩
    · exact ⟨a :: front, List.cons_prefix_cons.mpr ⟨rfl, hprefix⟩, hfront⟩

/-- Behind names that are kept, two dots lead above the root iff in some first parts there are more
of them than names, including those that are kept. -/
theorem cancelOnto_eq_none_iff {kept path : List String} :
    cancelOnto kept path = none ↔
      ∃ front, front <+: path ∧ kept.length + front.countP (· ≠ up) < front.count up := by
  induction path generalizing kept with
  | nil => simp [cancelOnto]
  | cons part rest ih =>
    rw [exists_prefix_cons_iff, cancelOnto]
    split
    next hup =>
      subst hup
      cases kept with
      | nil =>
        -- nothing is kept, so these two dots alone are too many
        simp only [List.isEmpty_nil, if_true, true_iff]
        exact .inr ⟨[], List.nil_prefix, by simp⟩
      | cons name kept =>
        simp only [List.isEmpty_cons, Bool.false_eq_true, if_false, List.tail_cons, ih,
          List.countP_nil, List.count_nil, Nat.not_lt_zero, false_or]
        refine exists_congr fun front => and_congr_right fun _ => ?_
        simp
        omega
    next hname =>
      simp only [ih, List.countP_nil, List.count_nil, Nat.not_lt_zero, false_or]
      refine exists_congr fun front => and_congr_right fun _ => ?_
      simp [hname]
      omega

/-- Two dots lead above the root iff in some first parts there are more of them than names. -/
theorem cancel?_eq_none_iff {path : List String} :
    cancel? path = none ↔ ∃ front, front <+: path ∧ front.countP (· ≠ up) < front.count up := by
  have h : cancelOnto [] path = none ↔ ∃ front, front <+: path ∧
      ([] : List String).length + front.countP (· ≠ up) < front.count up := cancelOnto_eq_none_iff
  simpa [cancel?] using h

/-! ### Paths from the root on -/

/-- What is left of a path from the root on are parts again. -/
theorem isPart_of_mem_normalise? {directory : List String}
    (hdirectory : ∀ part ∈ directory, IsPart part) {path : String} {left : List String}
    (h : normalise? directory path = some left) : ∀ part ∈ left, IsPart part := by
  have hsubset : left ⊆ absolute directory path := by
    obtain ⟨hcancels, -⟩ := cancel?_eq_some_iff.mp h
    clear h
    induction hcancels with
    | refl => exact fun _ hpart => hpart
    | tail _ hstep ih => exact fun _ hpart => ih (hstep.subset hpart)
  exact fun part hpart => isPart_of_mem_absolute hdirectory (hsubset hpart)

/-- Without two dots, the text of a path stands for the path, wherever it is read. -/
theorem normalise?_text {path : List String} (h : ∀ part ∈ path, IsPart part) (hup : up ∉ path)
    (directory : List String) : normalise? directory (text path) = some path := by
  rw [normalise?, absolute, if_pos (isAbsolute_text path), parts_text h, cancel?_of_not_mem hup]

/-- A name that is taken back at once makes no difference, wherever it is put. -/
theorem normalise?_eq_of_parts {longer path name : String} {front rest : List String}
    (habsolute : isAbsolute longer = isAbsolute path)
    (hlonger : parts longer = front ++ name :: up :: rest) (hpath : parts path = front ++ rest)
    (hname : name ≠ up) (directory : List String) :
    normalise? directory longer = normalise? directory path := by
  rw [normalise?, absolute, habsolute, hlonger, normalise?, absolute, hpath]
  split
  · exact (Cancels.step front hname rest).cancel?_eq
  · rw [← List.append_assoc, ← List.append_assoc]
    exact (Cancels.step (directory ++ front) hname rest).cancel?_eq

/-- Whether a path starts at the root is settled by what is in front of a slash. -/
theorem isAbsolute_append_slash (front rest other : String) :
    isAbsolute (front ++ "/" ++ rest) = isAbsolute (front ++ "/" ++ other) := by
  have hchars (s : String) : (front ++ "/" ++ s).toList = front.toList ++ '/' :: s.toList := by
    simp
  rw [isAbsolute, hchars, isAbsolute, hchars]
  cases front.toList <;> rfl

/-- **Two dots are cancelled as far as the text goes.**  Seen from a directory, a path leads above
the root iff some of its first parts, from the root on, hold more two dots than names.  Otherwise it
leaves what names can be taken back to, each by two dots right behind it, until there are no two
dots; the text of that starts at the root, has what was left as its parts, and is left as it is from
wherever it is seen.  A name with two dots behind it, put between any parts, changes neither what is
left nor whether anything is. -/
theorem normalise?_lexical {directory : List String}
    (hdirectory : ∀ part ∈ directory, IsPart part) (path : String) :
    (normalise? directory path = none ↔ ∃ front, front <+: absolute directory path ∧
      front.countP (· ≠ up) < front.count up) ∧
    (∀ left, normalise? directory path = some left ↔
      Relation.ReflTransGen Cancels (absolute directory path) left ∧ up ∉ left) ∧
    (∀ left, normalise? directory path = some left →
      isAbsolute (text left) = true ∧ parts (text left) = left ∧
      ∀ elsewhere, normalise? elsewhere (text left) = some left) ∧
    (∀ front rest name, absolute directory path = front ++ rest → name ≠ up →
      cancel? (front ++ name :: up :: rest) = normalise? directory path) ∧
    (∀ longer front rest name, isAbsolute longer = isAbsolute path →
      parts path = front ++ rest → name ≠ up → parts longer = front ++ name :: up :: rest →
      normalise? directory longer = normalise? directory path) ∧
    ∀ front rest name, path = front ++ "/" ++ rest → IsPart name → name ≠ up →
      normalise? directory (front ++ "/" ++ (name ++ "/" ++ (up ++ "/" ++ rest))) =
        normalise? directory path := by
  refine ⟨cancel?_eq_none_iff, fun left => cancel?_eq_some_iff, ?_, ?_, ?_, ?_⟩
  · intro left h
    have hparts := isPart_of_mem_normalise? hdirectory h
    exact ⟨isAbsolute_text left, parts_text hparts,
      normalise?_text hparts (not_mem_of_cancel? h)⟩
  · intro front rest name habsolute hname
    rw [normalise?, habsolute]
    exact (Cancels.step front hname rest).cancel?_eq
  · intro longer front rest name habsolute hpath hname hlonger
    exact normalise?_eq_of_parts habsolute hlonger hpath hname directory
  · rintro front rest name rfl hpart hname
    have hup : IsPart up := ⟨by decide, by decide, by decide⟩
    refine normalise?_eq_of_parts (isAbsolute_append_slash front _ _) ?_
      (parts_append_slash front rest) hname directory
    · rw [parts_append_slash, parts_append_slash, parts_append_slash, hpart.parts_eq, hup.parts_eq]
      rfl

/-- Two directories are left again on the way to a file. -/
theorem normalise?_lexical_downtime :
    normalise? ["home", "me"] "../report//./today/../downtime.json" =
        some ["home", "report", "downtime.json"] ∧
      text ["home", "report", "downtime.json"] = "/home/report/downtime.json" ∧
      normalise? [] "/home/report/downtime.json" = some ["home", "report", "downtime.json"] ∧
      normalise? ["home", "me"] "../report//./today/../tmp/../downtime.json" =
        some ["home", "report", "downtime.json"] ∧
      Relation.ReflTransGen Cancels
        ["home", "me", "..", "report", "today", "..", "downtime.json"]
        ["home", "report", "downtime.json"] ∧
      normalise? ["home", "me"] "../../../me/downtime.json" = none := by
  have hdirectory : ∀ part ∈ ["home", "me"], IsPart part :=
    List.forall_mem_cons.mpr ⟨⟨by decide, by decide, by decide⟩,
      List.forall_mem_singleton.mpr ⟨by decide, by decide, by decide⟩⟩
  have hleft : normalise? ["home", "me"] "../report//./today/../downtime.json" =
      some ["home", "report", "downtime.json"] := by decide
  obtain ⟨-, hcancels, htext, -, -, hinsert⟩ :=
    normalise?_lexical hdirectory "../report//./today/../downtime.json"
  obtain ⟨habove, -⟩ := normalise?_lexical hdirectory "../../../me/downtime.json"
  refine ⟨hleft, rfl, (htext _ hleft).2.2 [], ?_, ((hcancels _).mp hleft).1, habove.mpr ?_⟩
  · exact (hinsert "../report//./today/.." "downtime.json" "tmp" rfl
      ⟨by decide, by decide, by decide⟩ (by decide)).trans hleft
  · exact ⟨["home", "me", "..", "..", ".."], ⟨["me", "downtime.json"], by decide⟩, by decide⟩

/-- An exact balance leads to the root, and one step more above it, even if names follow. -/
example : normalise? ["home"] ".." = some [] ∧ normalise? ["home"] "../../home" = none := by decide

end FilePath

/-- A path of a file is refused for leading above the root iff it does, and is not empty. -/
theorem Location.ofFile_eq_aboveRoot_iff {directory : List String} {path : String} :
    ofFile directory path = .error (.aboveRoot path) ↔
      path ≠ "" ∧ FilePath.normalise? directory path = none := by
  rw [ofFile]
  by_cases hpath : path = ""
  · subst hpath
    simp [throw, throwThe, MonadExceptOf.throw, bind, Except.bind]
  · cases h : FilePath.normalise? directory path with
    | none => simp [hpath, throw, throwThe, MonadExceptOf.throw]
    | some left =>
      cases hleft : ObjectPath.parse (FilePath.text left) with
      | error fault => simp [hpath, hleft, Except.mapError, bind, Except.bind]
      | ok object => simp [hpath, hleft, Except.mapError, bind, Except.bind, pure, Except.pure]

end OutageWatch
