import Daybook.Ascending
import Daybook.Unicode.Stretch

set_option relaxedAutoImplicit false
set_option autoImplicit false

/-!
# Sets of code points

A set of code points is kept as the intervals that it consists of.

## Main definitions

* `Interval` — the code points from one to another.
* `CodeSet` — intervals in ascending order, between any two of which something is missing.
* `CodeSet.contains` — membership of a character.
* `CodeSet.union`, `inter`, `diff`, `symmDiff`, `compl` — the operations on sets.
* `CodeSet.closure` — a set with all that a relation joins to its members.

## Design

The intervals of a set are as long as they can be, so that two sets with the same members are
equal, and the number of intervals measures how complicated a set is. Surrogates are no characters:
the neighbours of `0xD7FF` and `0xE000` are each other, although an interval may go on across the
gap.
-/

namespace Daybook.Unicode

/-- The code points from `first` to `last`. -/
structure Interval where
  first : Nat
  last : Nat
  deriving Repr, DecidableEq

/-- Code points as intervals in ascending order, between any two of which something is missing. -/
structure CodeSet where
  intervals : List Interval
  deriving Repr, DecidableEq

/-! ## Code points -/

/-- The greatest code point. -/
def greatestCode : Nat := 0x10FFFF

/-- The code point of the next character. -/
def nextCode (code : Nat) : Nat :=
  if code = 0xD7FF then 0xE000 else code + 1

/-- The code point of the character before. -/
def previousCode (code : Nat) : Nat :=
  if code = 0xE000 then 0xD7FF else code - 1

namespace Interval

/-- The interval between two ends, in whatever order they come. -/
def between (a b : Nat) : Interval :=
  ⟨min a b, max a b⟩

/-- The common code points of two intervals. -/
def meet? (i j : Interval) : Option Interval :=
  let first := max i.first j.first
  let last := min i.last j.last
  if first ≤ last then some ⟨first, last⟩ else none

/-- An interval together with ascending ones that do not begin before it. What overlaps or touches
becomes one. -/
def join (i : Interval) : List Interval → List Interval
  | [] => [i]
  | j :: rest =>
    if j.first ≤ i.last + 1 then join ⟨i.first, max i.last j.last⟩ rest else i :: join j rest

/-- What remains of an interval without the ascending ones. -/
def minus (i : Interval) : List Interval → List Interval
  | [] => [i]
  | j :: rest =>
    if j.last < i.first then i.minus rest
    else if i.last < j.first then [i]
    else
      let front := if i.first < j.first then [⟨i.first, previousCode j.first⟩] else []
      front ++ if j.last < i.last then minus ⟨nextCode j.last, i.last⟩ rest else []

/-- Whether one of ascending intervals holds a code point. The search ends at the first one that
begins after it. -/
def anyHolds : List Interval → Nat → Bool
  | [], _ => false
  | i :: rest, code =>
    if code < i.first then false else code ≤ i.last || anyHolds rest code

end Interval

namespace CodeSet

/-! ## Membership -/

/-- Whether a code point is in a set. -/
def holds (s : CodeSet) (code : Nat) : Bool :=
  Interval.anyHolds s.intervals code

/-- Whether a character is in a set. -/
def contains (s : CodeSet) (c : Char) : Bool :=
  s.holds c.toNat

/-! ## Building -/

/-- No code point. -/
def empty : CodeSet := ⟨[]⟩

/-- All code points. -/
def full : CodeSet := ⟨[⟨0, greatestCode⟩]⟩

/-- The characters from one to another. -/
def range (first last : Char) : CodeSet :=
  ⟨[⟨first.toNat, last.toNat⟩]⟩

/-- A single character. -/
def single (c : Char) : CodeSet :=
  range c c

/-- The set of ascending intervals, which may overlap or touch. -/
def ofAscending : List Interval → CodeSet
  | [] => empty
  | i :: rest => ⟨i.join rest⟩

/-- The code points of either set. -/
def union (s t : CodeSet) : CodeSet :=
  ofAscending (Ascending.merge (fun i j => decide (i.first ≤ j.first)) s.intervals t.intervals)

/-- The code points of one of several sets. -/
def unions (sets : List CodeSet) : CodeSet :=
  sets.foldl union empty

/-- Neighbours of a list united, so that half as many remain. -/
def unitePairs : List CodeSet → List CodeSet
  | s :: t :: rest => s.union t :: unitePairs rest
  | sets => sets

/-- The set of code points in any order. They are united by twos, and `rounds` of that have to be
enough to leave one set. -/
def ofCodes (codes : List Nat) : CodeSet :=
  let rec unite : Nat → List CodeSet → CodeSet
    | 0, sets => unions sets
    | _ + 1, [] => empty
    | _ + 1, [s] => s
    | rounds + 1, sets => unite rounds (unitePairs sets)
  unite codes.length (codes.map fun code => ⟨[⟨code, code⟩]⟩)

/-- The intervals of a stretch: one, or one for each of its code points. -/
def intervalsOf (s : Stretch) : List Interval :=
  if s.step = 1 then [⟨s.first, s.last⟩]
  else s.codes.map fun code => ⟨code, code⟩

/-- The code points of a table. -/
def ofTable (t : Table) : CodeSet :=
  ofAscending (t.flatMap intervalsOf)

/-- The code points of one of several tables. -/
def ofTables (tables : List Table) : CodeSet :=
  unions (tables.map ofTable)

/-! ## Operations -/

/-- The code points of both sets. -/
def inter (s t : CodeSet) : CodeSet :=
  ⟨s.intervals.flatMap fun i =>
    let others := (t.intervals.dropWhile fun j => j.last < i.first).takeWhile (·.first ≤ i.last)
    others.filterMap i.meet?⟩

/-- The code points of one set that are not in another. -/
def diff (s t : CodeSet) : CodeSet :=
  ⟨s.intervals.flatMap fun i => i.minus t.intervals⟩

/-- The code points of exactly one of two sets. -/
def symmDiff (s t : CodeSet) : CodeSet :=
  (s.union t).diff (s.inter t)

/-- The intervals between those of a set, and the one behind the last. Where two intervals are
divided by the surrogates alone there is nothing between them, and the characters on both sides of
the gap are taken. -/
def gapsAfter (last : Nat) : List Interval → List Interval
  | [] => if last < greatestCode then [⟨nextCode last, greatestCode⟩] else []
  | i :: rest => .between (nextCode last) (previousCode i.first) :: gapsAfter i.last rest

/-- The code points that are not in a set. -/
def compl (s : CodeSet) : CodeSet :=
  match s.intervals with
  | [] => full
  | i :: rest =>
    ⟨(if 0 < i.first then [⟨0, previousCode i.first⟩] else []) ++ gapsAfter i.last rest⟩

/-- The set with all code points that are joined to its members. Each pair joins a code point to
the one that stands for its class. -/
def closure (pairs : List (Nat × Nat)) (s : CodeSet) : CodeSet :=
  let touched := pairs.filterMap fun p => if s.holds p.1 || s.holds p.2 then some p.2 else none
  if touched.isEmpty then s
  else
    let classes := ofCodes touched
    let others := pairs.filterMap fun p => if classes.holds p.2 then some p.1 else none
    (s.union classes).union (ofCodes others)

end CodeSet

end Daybook.Unicode
