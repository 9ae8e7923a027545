set_option relaxedAutoImplicit false
set_option autoImplicit false

/-!
# Doubles taken apart

A double is a sign, a whole significand and a power of two, or an infinity, or not a number. The
rest of the library reads a double's exact value here and does its arithmetic on whole numbers.

## Main definitions

* `Binary64` — what the bits of a double stand for.
* `Binary64.ofFloat` — the parts of a double.
-/

namespace Daybook

/-- What the bits of a double stand for. -/
inductive Binary64 where
  | notANumber
  | infinite (negative : Bool)
  /-- Plus or minus `significand * 2 ^ exponent`. -/
  | finite (negative : Bool) (significand : Nat) (exponent : Int)
  deriving Repr, DecidableEq

namespace Binary64

/-- The least exponent, that of the doubles next to zero. -/
def leastExponent : Int := -1074

/-- The least significand of a double that is not next to zero: a one and 52 zeros in binary. -/
def leastNormal : Nat := 0x10000000000000

/-- The parts that a sign, an exponent field of 11 bits and a fraction of 52 bits encode. -/
def ofFields (negative : Bool) (field fraction : Nat) : Binary64 :=
  if field = 2047 then
    if fraction = 0 then infinite negative else notANumber
  else if field = 0 then
    finite negative fraction leastExponent
  else
    finite negative (leastNormal + fraction) (leastExponent + (field - 1 : Nat))

/-- The parts of a double. -/
def ofFloat (x : Float) : Binary64 :=
  let bits := x.toBits.toNat
  ofFields (bits >>> 63 == 1) ((bits >>> 52) % 2048) (bits % leastNormal)

end Binary64

end Daybook
