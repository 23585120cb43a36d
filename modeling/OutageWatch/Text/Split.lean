/-!
# Splitting text

A text is split at each separator; there is one part more than there are separators.

## Main definitions

* `Text.split` : the parts between the separators.

## Main results

* `Text.split_ne_nil` : there is a part.
* `Text.not_mem_of_mem_split` : no part holds a separator.
-/

namespace OutageWatch.Text

/-- The parts between the separators. -/
def split (sep : Char) : List Char → List (List Char)
  | [] => [[]]
  | c :: cs =>
    if c = sep then [] :: split sep cs
    else
      match split sep cs with
      | [] => [[c]]
      | part :: parts => (c :: part) :: parts

theorem split_ne_nil (sep : Char) (cs : List Char) : split sep cs ≠ [] := by
  cases cs with
  | nil => simp [split]
  | cons c cs => rw [split]; split <;> (try split) <;> simp

/-- No part holds a separator. -/
theorem not_mem_of_mem_split {sep : Char} {cs part : List Char} (h : part ∈ split sep cs) :
    sep ∉ part := by
  induction cs generalizing part with
  | nil => simp [split] at h; simp [h]
  | cons c cs ih =>
    rw [split] at h
    split at h
    · rcases List.mem_cons.1 h with rfl | h
      · simp
      · exact ih h
    · cases hs : split sep cs with
      | nil => exact absurd hs (split_ne_nil sep cs)
      | cons q qs =>
        simp only [hs, List.mem_cons] at h ih
        rcases h with rfl | h
        · have := ih (.inl rfl)
          simp_all [eq_comm]
        · exact ih (.inr h)

end OutageWatch.Text
