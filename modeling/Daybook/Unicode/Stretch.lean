set_option relaxedAutoImplicit false
set_option autoImplicit false

/-!
# Tables of code points

A property of characters is a table of stretches, evenly spaced runs of code points; a case
relation is a table of shifts, stretches that all move by one distance.

## Main definitions

* `Stretch`, `Table` — evenly spaced runs of code points, in ascending order.
* `Table.contains` — membership of a character.
* `Shift`, `shifted` — the character that a table of shifts assigns.

## Design

In many alphabets the capitals and the small letters alternate, so that each of the two classes
takes every second code point. The step of a stretch keeps their tables short.

The tables are those of version 16.0 of the character database, which patterns keep to. Text other
than patterns follows version 17.0: what that adds is in tables of its own.
-/

namespace Daybook.Unicode

/-! ## Membership -/

/-- The code points `first`, `first + step`, and so on, as far as `last`. -/
structure Stretch where
  first : Nat
  last : Nat
  step : Nat
  deriving Repr, DecidableEq

/-- A code point is in a stretch if it lies between its ends and on its grid. -/
def Stretch.contains (s : Stretch) (code : Nat) : Bool :=
  s.first ≤ code && code ≤ s.last && (code - s.first) % s.step == 0

/-- The code points of a stretch. -/
def Stretch.codes (s : Stretch) : List Nat :=
  (List.range ((s.last - s.first) / s.step + 1)).map fun n => s.first + n * s.step

/-- Stretches in ascending order, none of which begins before the one in front of it has ended. -/
abbrev Table := List Stretch

namespace Table

/-- Whether a code point is in one of the stretches. The search ends at the first stretch that
begins after it, because the table is in ascending order. -/
def containsCode : Table → Nat → Bool
  | [], _ => false
  | s :: rest, code => if code < s.first then false else s.contains code || containsCode rest code

/-- Whether a character is in the table. -/
def contains (t : Table) (c : Char) : Bool :=
  containsCode t c.toNat

end Table

/-! ## Shifts -/

/-- The code points of a stretch, each related to the one that lies `distance` further on. -/
structure Shift extends Stretch where
  distance : Int
  deriving Repr, DecidableEq

/-- The code point that a table of shifts assigns to `code`: `code` itself outside the table. -/
def shiftedCode : List Shift → Nat → Nat
  | [], code => code
  | s :: rest, code =>
    if code < s.first then code
    else if s.contains code then ((code : Int) + s.distance).toNat
    else shiftedCode rest code

/-- The character that a table of shifts assigns to `c`. -/
def shifted (table : List Shift) (c : Char) : Char :=
  Char.ofNat (shiftedCode table c.toNat)

/-- The code points of a table of shifts, each with the one that it is assigned. -/
def shiftedPairs (table : List Shift) : List (Nat × Nat) :=
  table.flatMap fun s => s.codes.map fun code => (code, ((code : Int) + s.distance).toNat)

end Daybook.Unicode
