set_option relaxedAutoImplicit false
set_option autoImplicit false

/-!
# Ascending lists

Two lists in ascending order merge into one.

## Main definitions

* `Ascending.place` — one more element in front of a merge.
* `Ascending.merge` — the elements of two ascending lists in order.

## Design

Each of the two functions is recursive on the structure of one list, so that closed terms evaluate.
-/

namespace Daybook.Ascending

variable {α : Type}

/-- An element put into an ascending list, behind the elements that belong in front of it; what
remains of the list goes on to `behind`. -/
def place (le : α → α → Bool) (x : α) (behind : List α → List α) : List α → List α
  | [] => x :: behind []
  | y :: ys => if le x y then x :: behind (y :: ys) else y :: place le x behind ys

/-- The elements of two ascending lists in order, those of the first list in front of equal ones. -/
def merge (le : α → α → Bool) : List α → List α → List α
  | [], ys => ys
  | x :: xs, ys => place le x (merge le xs) ys

end Daybook.Ascending
