import Std.Data.TreeMap.Basic

set_option relaxedAutoImplicit false
set_option autoImplicit false

/-!
# Room for automata

How much room the states of an automaton take, and how it is remembered which states there are.

## Main definitions

* `Room` — the states of an automaton, and the room for what leads from them to others.
* `Room.within?` — the limit.
* `Memory` — the states that can be shared.

## Design

States that lead on in the same way are shared, as far as that is remembered. A memory has a fixed
number of places; a state goes to the place that a hash of its ways on selects, and what has been
there is forgotten. The hash depends on the numbers of other states, and so states are counted in
the order in which they are made.
-/

namespace Daybook.Regex

/-! ## Room -/

/-- The states of an automaton, and the room for what leads from them to others, in bytes. -/
structure Room where
  states : Nat
  ways : Nat
  deriving Repr, DecidableEq

namespace Room

/-- The room for a state, in bytes. -/
def stateSize : Nat := 32

/-- The room for a way that is taken for a range of bytes. -/
def rangeSize : Nat := 8

/-- The room for a way that is taken without reading. -/
def forkSize : Nat := 4

/-- The greatest room for an automaton, in bytes. -/
def limit : Nat := 10485760

/-- No states. -/
def zero : Room := ⟨0, 0⟩

/-- The room in bytes. -/
def size (r : Room) : Nat :=
  r.states * stateSize + r.ways

/-- More states, and more room for ways. -/
def add (r : Room) (states ways : Nat) : Room :=
  ⟨r.states + states, r.ways + ways⟩

/-- The room after the end of a part has been led on, which takes more of it if that is a fork. -/
def linkIf (r : Room) (fork : Bool) : Room :=
  if fork then r.add 0 forkSize else r

/-- The room, if it is within the limit. -/
def within? (r : Room) : Option Room :=
  if r.size ≤ limit then some r else none

/-- One thing made several times, as long as there is room. -/
def times? (make : Room → Option Room) : Nat → Room → Option Room
  | 0, r => some r
  | n + 1, r =>
    match make r with
    | none => none
    | some next => times? make n next

end Room

/-! ## Memory -/

/-- A hash of numbers: they are mixed in one after the other, each by an exclusive or and a
multiplication. -/
def hashOf (numbers : List Nat) : UInt64 :=
  numbers.foldl (fun h n => (h ^^^ n.toUInt64) * 1099511628211) 14695981039346656037

/-- States that are remembered by what they stand for, at most one at each place. -/
structure Memory (α : Type) where
  /-- How many places there are. -/
  places : Nat
  kept : Std.TreeMap Nat (α × Nat)

namespace Memory

variable {α : Type} [DecidableEq α]

/-- Nothing is remembered. -/
def fresh (places : Nat) : Memory α :=
  ⟨places, ∅⟩

/-- The place of a hash. -/
def place (m : Memory α) (hash : UInt64) : Nat :=
  hash.toNat % m.places

/-- The state for `a`, if it is remembered. -/
def known? (m : Memory α) (hash : UInt64) (a : α) : Option Nat :=
  match m.kept[m.place hash]? with
  | some (b, state) => if a = b then some state else none
  | none => none

/-- The state for `a` is remembered, and what was at its place is forgotten. -/
def remember (m : Memory α) (hash : UInt64) (a : α) (state : Nat) : Memory α :=
  { m with kept := m.kept.insert (m.place hash) (a, state) }

end Memory

end Daybook.Regex
