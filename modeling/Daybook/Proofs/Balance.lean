import Mathlib.Data.List.Basic
import Daybook.Balance

set_option relaxedAutoImplicit false
set_option autoImplicit false

/-!
# Sums of commodities

Balances grow by numbers that are added to one commodity at a time. This file says what every
single sum becomes: it takes up the numbers of its own commodity, from left to right, and is there
as soon as there is one.

## Main definitions

* `Balance.plus` — a sum that may be missing, and numbers added to it.
* `Balance.numbersOf` — the numbers of one commodity.

## Main results

* `Balance.getElem?_foldl_addNumber` — a sum after numbers of several commodities.
* `Balance.getElem?_ofAmounts` — a sum of amounts.
* `Balance.getElem?_foldl_add` — a sum of balances.
-/

namespace Daybook.Balance

/-! ## One sum -/

/-- Numbers added to a sum one by one. A sum that is missing begins with zero at the first of
them. -/
def plus (sum : Option Float) (numbers : List Float) : Option Float :=
  numbers.foldl (fun sum x => some (sum.getD 0 + x)) sum

/-- Without numbers a sum stays what it is, else it is there and they have been added from left to
right. -/
theorem plus_eq (sum : Option Float) (numbers : List Float) :
    plus sum numbers =
      if numbers = [] then sum else some (numbers.foldl (· + ·) (sum.getD 0)) := by
  cases numbers with
  | nil => rfl
  | cons x numbers =>
    rw [if_neg (List.cons_ne_nil x numbers), plus, List.foldl_cons, List.foldl_cons]
    generalize sum.getD 0 + x = y
    induction numbers generalizing y with
    | nil => rfl
    | cons z numbers ih => exact ih (y + z)

/-- Numbers can be added in two turns. -/
theorem plus_append (sum : Option Float) (before after : List Float) :
    plus sum (before ++ after) = plus (plus sum before) after :=
  List.foldl_append

/-! ## Numbers of several commodities -/

/-- The numbers of one commodity among several, in their order. -/
def numbersOf (c : Commodity) (sums : List (Commodity × Float)) : List Float :=
  (sums.filter fun sum => sum.1 = c).map Prod.snd

/-- The numbers of a commodity, one sum after another. -/
theorem numbersOf_cons (c : Commodity) (sum : Commodity × Float)
    (sums : List (Commodity × Float)) :
    numbersOf c (sum :: sums) =
      if sum.1 = c then sum.2 :: numbersOf c sums else numbersOf c sums := by
  by_cases hc : sum.1 = c <;> simp [numbersOf, hc]

/-- A number changes the sum of its commodity and no other one. -/
theorem getElem?_addNumber (b : Balance) (c d : Commodity) (x : Float) :
    (b.addNumber c x)[d]? = if c = d then some (b[c]?.getD 0 + x) else b[d]? := by
  simp only [addNumber, Std.TreeMap.getElem?_alter, Std.LawfulEqOrd.compare_eq_iff_eq]

/-- A sum takes up the numbers of its commodity. -/
theorem getElem?_foldl_addNumber (sums : List (Commodity × Float)) (b : Balance) (c : Commodity) :
    (sums.foldl (fun b sum => b.addNumber sum.1 sum.2) b)[c]? = plus b[c]? (numbersOf c sums) := by
  induction sums generalizing b with
  | nil => rfl
  | cons sum sums ih =>
    rw [List.foldl_cons, ih, getElem?_addNumber, numbersOf_cons]
    by_cases hc : sum.1 = c
    · rw [if_pos hc, if_pos hc, hc]
      rfl
    · rw [if_neg hc, if_neg hc]

/-- A sum of amounts is that of the amounts of its commodity, and is there if there is one. -/
theorem getElem?_ofAmounts (amounts : List Amount) (c : Commodity) :
    (ofAmounts amounts)[c]? =
      plus none (numbersOf c (amounts.map fun a => (a.commodity, a.number))) := by
  have hsum := getElem?_foldl_addNumber (amounts.map fun a => (a.commodity, a.number)) ∅ c
  rwa [List.foldl_map, Std.TreeMap.getElem?_emptyc] at hsum

/-! ## Balances -/

/-- There is no number of a commodity that does not occur. -/
theorem numbersOf_eq_nil {sums : List (Commodity × Float)} {c : Commodity}
    (h : ∀ sum ∈ sums, sum.1 ≠ c) : numbersOf c sums = [] := by
  rw [numbersOf, List.map_eq_nil_iff, List.filter_eq_nil_iff]
  simpa using h

/-- Among sums of different commodities there is one number of a commodity if it occurs. -/
theorem numbersOf_eq_singleton {sums : List (Commodity × Float)} {c : Commodity} {x : Float}
    (hsums : sums.Pairwise fun s s' => s.1 ≠ s'.1) (hx : (c, x) ∈ sums) :
    numbersOf c sums = [x] := by
  induction sums with
  | nil => cases hx
  | cons sum sums ih =>
    obtain ⟨hfirst, hrest⟩ := List.pairwise_cons.mp hsums
    rw [numbersOf_cons]
    rcases List.mem_cons.mp hx with rfl | hx
    · rw [if_pos rfl, numbersOf_eq_nil fun s hs => (hfirst s hs).symm]
    · rw [if_neg (hfirst _ hx), ih hrest hx]

/-- The commodities of a balance are different. -/
theorem pairwise_toList (b : Balance) : b.toList.Pairwise fun s s' => s.1 ≠ s'.1 := by
  refine Std.TreeMap.distinct_keys_toList.imp fun hne heq => hne ?_
  rw [heq]
  exact Std.ReflCmp.compare_self

/-- A balance has one number of each of its commodities. -/
theorem numbersOf_toList (b : Balance) (c : Commodity) : numbersOf c b.toList = b[c]?.toList := by
  cases hc : b[c]? with
  | none =>
    refine numbersOf_eq_nil fun sum hsum heq => ?_
    rw [← heq, Std.TreeMap.mem_toList_iff_getElem?_eq_some.mp hsum] at hc
    cases hc
  | some x =>
    exact numbersOf_eq_singleton (pairwise_toList b)
      (Std.TreeMap.mem_toList_iff_getElem?_eq_some.mpr hc)

/-- A sum takes up the sum of its commodity in another balance. -/
theorem getElem?_add (b other : Balance) (c : Commodity) :
    (b.add other)[c]? = plus b[c]? other[c]?.toList := by
  rw [add, getElem?_foldl_addNumber, numbersOf_toList]

/-- A sum takes up the sums of its commodity in several balances, one after another. -/
theorem getElem?_foldl_add (others : List Balance) (b : Balance) (c : Commodity) :
    (others.foldl add b)[c]? = plus b[c]? (others.filterMap fun other => other[c]?) := by
  induction others generalizing b with
  | nil => rfl
  | cons other others ih =>
    rw [List.foldl_cons, ih, getElem?_add, ← plus_append, List.filterMap_cons]
    cases other[c]? <;> rfl

end Daybook.Balance
