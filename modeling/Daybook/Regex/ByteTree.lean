import Daybook.Regex.Room
import Daybook.Unicode.Utf8

set_option relaxedAutoImplicit false
set_option autoImplicit false

/-!
# Sets of characters in automata

An automaton reads bytes, and so a set of characters is read by several states.

## Main definitions

* `ByteTree` — the encodings of a set of characters, sorted by their first bytes.
* `ByteTree.forward` — the room for the states that read a set forwards.
* `backward` — the room for the states that read a set backwards.

## Design

Forwards, states are shared by encodings that end in the same way, and they are made from the last
byte to the first. Backwards, the first byte of a character is read last, and states are shared by
encodings that begin in the same way.
-/

namespace Daybook.Regex

open Unicode (CodeSet)
open Unicode.Utf8 (ByteRange)

/-! ## Reading forwards -/

/-- Encodings in ascending order, sorted by their first bytes: those of one byte lead to the end,
the others to the bytes behind. -/
inductive ByteTree where
  | nil
  | last (range : ByteRange) (next : ByteTree)
  | more (range : ByteRange) (behind next : ByteTree)

namespace ByteTree

/-- The tree of a single encoding. -/
def single : List ByteRange → ByteTree
  | [] => nil
  | [r] => last r nil
  | r :: behind => more r (single behind) nil

/-- One more encoding, greater than all before. -/
def push : ByteTree → List ByteRange → ByteTree
  | nil, e => single e
  | last r nil, e => last r (single e)
  | more r behind nil, e =>
    match e with
    | s :: rest => if r = s then more r (behind.push rest) nil else more r behind (single e)
    | [] => more r behind nil
  | last r next, e => last r (next.push e)
  | more r behind next, e => more r behind (next.push e)

/-- The tree of a set. -/
def ofSet (set : CodeSet) : ByteTree :=
  (set.intervals.flatMap Unicode.Utf8.sequences).foldl push nil

end ByteTree

/-- A way from a state: the bytes for which it is taken, and the state that it leads to. -/
structure Way where
  range : ByteRange
  target : Nat
  deriving DecidableEq

/-- An automaton while a set is added to it. -/
structure Growth where
  room : Room
  memory : Memory (List Way)

/-- How many states with ways for bytes are remembered. -/
def forwardPlaces : Nat := 10000

/-- The state with the given ways, which is made unless it is remembered. -/
def Growth.state (p : Growth) (ways : List Way) : Nat × Growth :=
  let hash := hashOf (ways.flatMap fun w => [w.range.first, w.range.last, w.target])
  match p.memory.known? hash ways with
  | some state => (state, p)
  | none =>
    let state := p.room.states
    (state,
      ⟨p.room.add 1 (ways.length * Room.rangeSize), p.memory.remember hash ways state⟩)

/-- The ways for the encodings of a tree, `finish` being the state behind the last byte. The states
behind a byte are made before those behind a greater one. -/
def ByteTree.ways (finish : Nat) : ByteTree → Growth → List Way × Growth
  | nil, p => ([], p)
  | last r next, p =>
    let (others, p) := next.ways finish p
    (⟨r, finish⟩ :: others, p)
  | more r behind next, p =>
    let (inner, p) := behind.ways finish p
    let (state, p) := p.state inner
    let (others, p) := next.ways finish p
    (⟨r, state⟩ :: others, p)

/-- The room after the states for a tree have been made. -/
def ByteTree.forward (t : ByteTree) (r : Room) : Room :=
  let (ways, p) := t.ways r.states ⟨r.add 1 0, .fresh forwardPlaces⟩
  (p.state ways).2.room

/-! ## Reading backwards -/

/-- How many states with one way are remembered. -/
def backwardPlaces : Nat := 1000

/-- The room after the states for encodings have been made. Backwards the first byte of a character
is read last, and so states are shared by encodings that begin in the same way. -/
def backward (encodings : List (List ByteRange)) (r : Room) : Room :=
  let finish := r.states + 1
  let step (q : Nat × Room × Memory Way) (range : ByteRange) : Nat × Room × Memory Way :=
    let (behind, r, memory) := q
    let hash := hashOf [behind, range.first, range.last]
    match memory.known? hash ⟨range, behind⟩ with
    | some state => (state, r, memory)
    | none => (r.states, r.add 1 0, memory.remember hash ⟨range, behind⟩ r.states)
  let result := encodings.foldl (fun q e =>
    let (_, r, memory) := e.foldl step (finish, q)
    (r.add 0 Room.forkSize, memory)) (r.add 2 0, Memory.fresh backwardPlaces)
  result.1

end Daybook.Regex
