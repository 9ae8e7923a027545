import Daybook.Decimal.Basic
import Daybook.Decimal.Binary64

set_option relaxedAutoImplicit false
set_option autoImplicit false

/-!
# The shortest decimal of a double

Every real number near a double is read as that double. Of the decimals among them the shortest
one is written: the one on the coarsest decimal grid that has a point there, and of two such
points the one nearer to the double.

## Main definitions

* `RoundingInterval` — the reals that are read as one double.
* `RoundingInterval.pointOn` — the point of a decimal grid in that interval.
* `shortestDecimal` — the decimal on the coarsest grid.
* `numberText` — the text of a double.

## Design

A grid is given by its exponent `k`: its points are the multiples of `10 ^ k`. If one of them lies
in the interval then so does one of the two neighbours of the double on that grid, so only these
are tried. The search starts above every point of the interval and goes down; it ends at the
latest on the grid of the double itself, since `2 ^ q` is a multiple of `10 ^ q` for negative `q`.
All of it is exact arithmetic on whole numbers.
-/

namespace Daybook

/-! ## The interval of a double -/

/-- The reals that are read as one double, as fractions over one denominator. -/
structure RoundingInterval where
  low : Nat
  centre : Nat
  high : Nat
  denominator : Nat
  /-- Whether the two ends are read as this double, too. -/
  closed : Bool
  deriving Repr, DecidableEq

namespace RoundingInterval

/-- The interval around `significand * 2 ^ exponent`, which reaches half way to each neighbour. The
neighbour below a power of two is only half as far away as the one above it. Ties are read as the
double with the even significand. -/
def ofParts (significand : Nat) (exponent : Int) : RoundingInterval :=
  let scale := Nat.pow 2 (exponent - 2).toNat
  let below :=
    if significand = Binary64.leastNormal ∧ Binary64.leastExponent < exponent then 1 else 2
  { low := (4 * significand - below) * scale
    centre := 4 * significand * scale
    high := (4 * significand + 2) * scale
    denominator := Nat.pow 2 (2 - exponent).toNat
    closed := significand % 2 == 0 }

/-- Whether the fraction `n / denominator` lies in the interval. -/
def contains (i : RoundingInterval) (n : Nat) : Bool :=
  if i.closed then i.low ≤ n && n ≤ i.high else i.low < n && n < i.high

/-- The interval measured in units of `10 ^ k`. -/
def inUnits (i : RoundingInterval) (k : Int) : RoundingInterval :=
  let up := Nat.pow 10 (-k).toNat
  { low := i.low * up
    centre := i.centre * up
    high := i.high * up
    denominator := i.denominator * Nat.pow 10 k.toNat
    closed := i.closed }

/-- The whole number in the interval that is nearest to its centre, if one of the centre's two
neighbours lies in it. A tie goes to the greater one. -/
def nearestWhole (i : RoundingInterval) : Option Nat :=
  let n := i.centre / i.denominator
  let below := n * i.denominator
  let above := (n + 1) * i.denominator
  match i.contains below, i.contains above with
  | false, false => none
  | true, false => some n
  | false, true => some (n + 1)
  | true, true => if i.centre - below < above - i.centre then some n else some (n + 1)

/-- The point of the grid of `10 ^ k` that lies in the interval. -/
def pointOn (i : RoundingInterval) (k : Int) : Option Decimal :=
  (i.inUnits k).nearestWhole.map fun n => ⟨n, k⟩

/-- The point on the coarsest of the `tries + 1` grids from `10 ^ k` down that has one. -/
def coarsestPoint (i : RoundingInterval) : Nat → Int → Decimal
  | 0, k => ⟨(i.inUnits k).centre / (i.inUnits k).denominator, k⟩
  | tries + 1, k => (i.pointOn k).getD (coarsestPoint i tries (k - 1))

end RoundingInterval

/-! ## Text -/

/-- The shortest decimal that is read as `significand * 2 ^ exponent`. -/
def shortestDecimal (significand : Nat) (exponent : Int) : Decimal :=
  let interval := RoundingInterval.ofParts significand exponent
  let length := (Nat.toDigits 10 (interval.high / interval.denominator)).length
  interval.coarsestPoint (length + (-exponent).toNat) length

/-- The digits of a double's magnitude. -/
def magnitudeText (significand : Nat) (exponent : Int) : String :=
  if significand = 0 then "0" else (shortestDecimal significand exponent).text

/-- The text of a double: its shortest decimal, positionally, after a minus sign if the sign is
set. Zero keeps its sign; what is not a number has none. -/
def numberText (x : Float) : String :=
  match Binary64.ofFloat x with
  | .notANumber => "NaN"
  | .infinite negative => if negative then "-inf" else "inf"
  | .finite negative significand exponent =>
    (if negative then "-" else "") ++ magnitudeText significand exponent

end Daybook
