import Std.Data.TreeMap.Basic
import Daybook.Amount

set_option relaxedAutoImplicit false
set_option autoImplicit false

/-!
# Balances

A balance holds one sum for every commodity that occurs, in the order of commodities.

## Main definitions

* `Balance` — sums by commodity.
* `Balance.post`, `Balance.add` — an amount or another balance added.
* `Balance.ofAmounts` — the sums of a list of amounts.
* `Balance.conversion?` — two commodities exchanged for one another.
* `Balance.unbalanced?` — the first commodity whose sum is not zero.
-/

namespace Daybook

/-- Sums by commodity, in the order of commodities. -/
abbrev Balance := Std.TreeMap Commodity Float

namespace Balance

/-- A number added to the sum of one commodity, which is zero at first. -/
def addNumber (b : Balance) (c : Commodity) (number : Float) : Balance :=
  b.alter c fun sum => some (sum.getD 0 + number)

/-- An amount added to the sum of its commodity. -/
def post (b : Balance) (a : Amount) : Balance :=
  b.addNumber a.commodity a.number

/-- The sums of another balance added one by one. -/
def add (b other : Balance) : Balance :=
  other.toList.foldl (fun total sum => total.addNumber sum.1 sum.2) b

/-- The sums of a list of amounts, added in its order. -/
def ofAmounts (amounts : List Amount) : Balance :=
  amounts.foldl post ∅

/-! ## Verification -/

/-- A sum smaller than this in size counts as zero. -/
def tolerance : Float := 1e-8

/-- Whether a sum counts as zero. What is not a number does not. -/
def isNegligible (sum : Float) : Bool :=
  sum.abs < tolerance

/-- Whether a sum is wrong where zero is wanted. -/
def isOff (sum : Float) : Bool :=
  sum.isNaN || tolerance ≤ sum.abs

/-- Two commodities, with the sum of each, that have been exchanged for one another. -/
structure Conversion where
  first : Commodity
  firstSum : Float
  second : Commodity
  secondSum : Float
  deriving Repr

/-- The exchange that a balance shows: it has exactly two commodities, both sums are finite, and
exactly one of them is less than zero. -/
def conversion? (b : Balance) : Option Conversion :=
  match b.toList with
  | [(c, x), (d, y)] =>
    if x.isFinite && y.isFinite && (decide (x < 0) != decide (y < 0)) then some ⟨c, x, d, y⟩
    else none
  | _ => none

/-- The first commodity with a sum that is not zero, and that sum. -/
def unbalanced? (b : Balance) : Option (Commodity × Float) :=
  b.toList.find? fun sum => isOff sum.2

end Balance

end Daybook
