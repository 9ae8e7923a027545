set_option relaxedAutoImplicit false
set_option autoImplicit false

/-!
# Decimals

A decimal is a whole coefficient and a power of ten. It is written positionally, without an
exponent, and read to the nearest double.

## Main definitions

* `Decimal` — a coefficient times a power of ten.
* `Decimal.text` — the positional text of a decimal.
* `Decimal.ofDigits` — the decimal that a run of digits and a run of fraction digits stand for.
* `Decimal.toFloat` — the nearest double.
-/

namespace Daybook

/-- The number `coefficient * 10 ^ exponent`. -/
structure Decimal where
  coefficient : Nat
  exponent : Int
  deriving Repr, DecidableEq

namespace Decimal

/-! ## Writing -/

/-- The digits of a whole number, filled up with zeros on the left to a given width. -/
def paddedDigits (width n : Nat) : List Char :=
  let digits := Nat.toDigits 10 n
  List.replicate (width - digits.length) '0' ++ digits

/-- The positional digits of a decimal. The fraction has as many places as the exponent says, and
no point is written when there are none. -/
def digits (d : Decimal) : List Char :=
  let places := (-d.exponent).toNat
  let scaled := d.coefficient * Nat.pow 10 d.exponent.toNat
  if places = 0 then
    Nat.toDigits 10 scaled
  else
    let unit := Nat.pow 10 places
    Nat.toDigits 10 (scaled / unit) ++ '.' :: paddedDigits places (scaled % unit)

/-- The positional text of a decimal. -/
def text (d : Decimal) : String :=
  String.ofList d.digits

/-! ## Reading -/

/-- The whole number that a run of decimal digits stands for. -/
def natOfDigits (cs : List Char) : Nat :=
  cs.foldl (fun n c => 10 * n + (c.toNat - '0'.toNat)) 0

/-- The decimal with the given digits before and after the point. -/
def ofDigits (whole fraction : List Char) : Decimal :=
  ⟨natOfDigits (whole ++ fraction), -(fraction.length : Int)⟩

/-- The double nearest to a decimal; an infinity when it lies beyond the greatest of them. -/
def toFloat (d : Decimal) : Float :=
  Float.ofScientific d.coefficient (d.exponent < 0) d.exponent.natAbs

end Decimal

end Daybook
