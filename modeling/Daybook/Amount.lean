import Daybook.Commodity
import Daybook.Decimal.Shortest

set_option relaxedAutoImplicit false
set_option autoImplicit false

/-!
# Amounts

A number of some commodity, and the arithmetic of amounts.

## Main definitions

* `Amount` — a number of a commodity.
* `Amount.combine` — arithmetic on two amounts whose commodities unify.
* `Amount.withSignOf` — a magnitude with the sign of another amount.
* `Amount.text` — the text of an amount.
-/

namespace Daybook

/-- A number of a commodity. Two amounts are compared number by number, so that one that is not a
number differs from itself. -/
structure Amount where
  number : Float
  commodity : Commodity
  deriving Repr, BEq, Inhabited

namespace Amount

/-- A number whose commodity is not known. -/
def bare (number : Float) : Amount :=
  ⟨number, .unknown⟩

/-- The number, followed by the commodity if it is known. -/
def text (a : Amount) : String :=
  match a.commodity with
  | .unknown => numberText a.number
  | .known symbol => numberText a.number ++ " " ++ symbol

/-- Whether the number is less than zero. Minus zero is not. -/
def isNegative (a : Amount) : Bool :=
  a.number < 0

/-- The amount of the opposite sign. -/
def negate (a : Amount) : Amount :=
  { a with number := -a.number }

/-- The magnitude of `a` with the sign of `other`. -/
def withSignOf (a other : Amount) : Amount :=
  { a with number := if other.isNegative then -a.number.abs else a.number.abs }

/-- The result of an operation on the two numbers, provided that the commodities unify. -/
def combine (operation : Float → Float → Float) (a b : Amount) : Option Amount :=
  (a.commodity.unify b.commodity).map fun commodity =>
    ⟨operation a.number b.number, commodity⟩

/-- The sum of two amounts. -/
def add (a b : Amount) : Option Amount :=
  combine (· + ·) a b

/-- The difference of two amounts. -/
def subtract (a b : Amount) : Option Amount :=
  combine (· - ·) a b

/-- The product of two amounts. -/
def multiply (a b : Amount) : Option Amount :=
  combine (· * ·) a b

/-- The quotient of two amounts. -/
def divide (a b : Amount) : Option Amount :=
  combine (· / ·) a b

end Amount

end Daybook
