/-!
# Listings

A listing is the answer to one query.  That nothing was found is an answer like any other; a query
that failed tells nothing.

## Main definitions

* `Listing`, `Listing.ofList` : an answer, and the answer that found the given records.
* `Listing.items`, `Listing.isFailed` : what it found, and whether it tells nothing.
-/

namespace OutageWatch

/-- The answer to one query. -/
inductive Listing (α : Type) where
  | records (items : List α)
  | empty
  | failed (reason : String)
  deriving DecidableEq, Repr

namespace Listing

variable {α : Type}

/-- The answer that found these records. -/
def ofList : List α → Listing α
  | [] => .empty
  | items => .records items

/-- What was found. -/
def items : Listing α → List α
  | .records items => items
  | _ => []

/-- Whether the query failed. -/
def isFailed : Listing α → Bool
  | .failed _ => true
  | _ => false

@[simp] theorem items_ofList (xs : List α) : (ofList xs).items = xs := by cases xs <;> rfl

@[simp] theorem isFailed_ofList (xs : List α) : (ofList xs).isFailed = false := by cases xs <;> rfl

end Listing

end OutageWatch
