import Daybook.Regex.ByteTree
import Daybook.Regex.Reduced

set_option relaxedAutoImplicit false
set_option autoImplicit false

/-!
# Automata of patterns

A pattern is matched by two automata that read the bytes of a text, one forwards and one backwards.
How much room they take is limited, so that no pattern, however short, asks for more than a fixed
effort.

## Main definitions

* `Part` — a part of an automaton, and how parts are put together.
* `textChoice` — the room for a choice between texts.
* `setPart` — the part that reads a character of a set.
* `Reduced.part` — the part that a pattern is.
* `Node.isAcceptable` — whether a pattern is within the limits.

## Design

Only the room of the states is counted, and no state is kept. Repetitions are written out, one copy
after the other, until there is no room left.
-/

namespace Daybook.Regex

open Unicode (CodeSet)

/-! ## Parts of an automaton -/

/-- A part of an automaton: the room after it, if that is within the limit, and whether its end is a
fork, which takes more room when it is led on. -/
structure Part where
  room? : Room → Option Room
  endsInFork : Bool

namespace Part

/-- So many states in a row. -/
def ofStates (n : Nat) : Part :=
  ⟨fun r => (r.add n 0).within?, false⟩

/-- The room after a part whose end has been led on. -/
def linked? (p : Part) (r : Room) : Option Room :=
  (p.room? r).map fun r => r.linkIf p.endsInFork

/-- One part behind another. -/
def behind (q p : Part) : Part :=
  ⟨fun r => p.linked? r >>= q.room?, q.endsInFork⟩

/-- Parts in a row. -/
def row : List Part → Part
  | [] => ofStates 1
  | [p] => p
  | p :: rest => (row rest).behind p

/-- A group that captures: a state in front of it, and one behind it. -/
def captured (p : Part) : Part :=
  ⟨fun r => do
    let r ← p.linked? (r.add 1 0)
    (r.add 1 0).within?, false⟩

/-- A part several times in a row. -/
def times (p : Part) : Nat → Part
  | 0 => ofStates 1
  | n + 1 => ⟨fun r => Room.times? p.linked? n r >>= p.room?, p.endsInFork⟩

/-- A part that may be left out. -/
def optional (p : Part) : Part :=
  ⟨fun r => do
    let r ← p.linked? (r.add 1 (2 * Room.forkSize))
    (r.add 1 0).within?, false⟩

/-- A part as often as wanted, but not without reading. -/
def star (p : Part) : Part :=
  ⟨fun r => do
    let r ← p.linked? (r.add 1 Room.forkSize)
    r.within?, true⟩

/-- A part that may be passed without reading, as often as wanted. -/
def thinStar (p : Part) : Part :=
  ⟨fun r => do
    let r ← p.linked? r
    (r.add 3 (4 * Room.forkSize)).within?, false⟩

/-- A part so many times or more. -/
def atLeast (p : Part) (least : Nat) : Part :=
  ⟨fun r => do
    let r ← (p.times least).linked? r
    (r.add 1 Room.forkSize).within?, true⟩

/-- A part so many times, and up to `further` times more. -/
def upTo (p : Part) (least further : Nat) : Part :=
  ⟨fun r => do
    let r ← (p.times least).linked? r
    let fork (r : Room) : Option Room := p.linked? (r.add 1 (2 * Room.forkSize))
    let r ← Room.times? fork further (r.add 1 0)
    r.within?, false⟩

/-- The room after branches, `n` being how many have been made before. The fork itself and the end
of the branches are made behind the second branch. -/
def branches? (n : Nat) : List Part → Room → Option Room
  | [], r => some r
  | p :: rest, r => do
    let r ← p.linked? r
    branches? (n + 1) rest (r.add (if n = 1 then 2 else 0) Room.forkSize)

/-- A choice between parts. -/
def fork (parts : List Part) : Part :=
  ⟨branches? 0 parts, false⟩

end Part

/-! ## Choices between texts -/

/-- The texts between those that are empty. Empty ones at the beginning count as one. -/
def chunks (texts : List (List Nat)) : List (List (List Nat)) :=
  let (finished, others) := texts.span List.isEmpty
  (finished.take 1 ++ others).splitOnP List.isEmpty

/-- The room for a choice between texts, given as bytes, in which equal beginnings are shared;
`depth` is more than the length of any text. Where one of the texts ends, those in front of it are
preferred to it and those behind it are not, and so the two do not share what they begin with. -/
def textChoice : Nat → List (List Nat) → Room → Room
  | 0, _, r => r
  | depth + 1, texts, r =>
    let parts := chunks texts
    let (r, forks) := parts.foldl (fun (q : Room × Nat) chunk =>
      let bytes := (chunk.filterMap List.head?).eraseDups
      let r := bytes.foldl (fun r b =>
        let behind := chunk.filterMap fun t => if t.head? = some b then t.tail? else none
        if behind.all List.isEmpty then r else textChoice depth behind r) q.1
      match bytes with
      | [] => q
      | [_] => (r.add 1 0, q.2 + 1)
      | _ => (r.add 1 (bytes.length * Room.rangeSize), q.2 + 1)) (r, parts.length - 1)
    r.add 1 (forks * Room.forkSize)

/-! ## Sets in an automaton -/

/-- A set of characters. Within ASCII a single state has ways for all its intervals. -/
def setPart (backwards : Bool) (set : CodeSet) : Part :=
  if set.intervals.all fun i => i.last < 0x80 then
    ⟨fun r => (r.add 2 (set.intervals.length * Room.rangeSize)).within?, false⟩
  else if backwards then
    let encodings := set.intervals.flatMap Unicode.Utf8.sequences
    ⟨fun r => (backward encodings r).within?, false⟩
  else
    let tree := ByteTree.ofSet set
    ⟨fun r => (tree.forward r).within?, false⟩

/-- The room for a set of which no states are shared, at most. An interval has at most 16 encodings
of four bytes. -/
def generousPart (set : CodeSet) : Part :=
  let states := 2 + set.intervals.length * 64
  ⟨fun r => (r.add states (states * Room.rangeSize)).within?, false⟩

namespace Reduced

/-! ## Whole automata -/

/-- The bytes of a text. -/
def bytesOf (cs : List Char) : List Nat :=
  cs.flatMap fun c => Unicode.Utf8.encode c.toNat

/-- The text of a pattern that is one. -/
def text? : Reduced → Option (List Char)
  | text cs => some cs
  | _ => none

/-- A choice between texts as a part. -/
def textPart (backwards : Bool) (texts : List (List Char)) : Part :=
  let texts := texts.map fun cs => if backwards then (bytesOf cs).reverse else bytesOf cs
  let depth := texts.foldl (fun n t => max n t.length) 0 + 1
  ⟨fun r => (textChoice depth texts (r.add 1 0)).within?, false⟩

/-- A pattern as a part of an automaton, in which sets become what `sets` makes of them. -/
def part (sets : CodeSet → Part) (backwards : Bool) : Reduced → Part
  | empty => .ofStates 1
  | text cs => .ofStates (bytesOf cs).length
  | chars set => sets set
  | look _ => .ofStates 1
  | sequence inner =>
    let parts := partsOf inner
    .row (if backwards then parts.reverse else parts)
  | choice branches =>
    match branches.mapM text? with
    | some texts => textPart backwards texts
    | none => .fork (partsOf branches)
  | group inner =>
    let p := inner.part sets backwards
    if backwards then p else p.captured
  | repeated inner least most _ =>
    let p := inner.part sets backwards
    match most with
    | none =>
      if 0 < least then p.atLeast least
      else if inner.isNeverEmpty then p.star
      else p.thinStar
    | some most =>
      if least = 0 ∧ most = 1 then p.optional
      else if least = most then p.times least
      else p.upTo least (most - least)
where
  /-- Several patterns as parts. -/
  partsOf : List Reduced → List Part
    | [] => []
    | r :: rest => r.part sets backwards :: partsOf rest

/-- Whether there is room for the automaton of a whole pattern. In front of the pattern any bytes
are passed over, unless all matches begin where the automaton does. -/
def hasRoom (sets : CodeSet → Part) (backwards : Bool) (pattern : Reduced) : Bool :=
  let anchored := if backwards then pattern.untilEnd else pattern.fromStart
  let front :=
    if anchored then Room.zero.add 1 0
    else Room.zero.add 3 (Room.rangeSize + 2 * Room.forkSize)
  let p := pattern.part sets backwards
  let whole := (Part.ofStates 1).behind (if backwards then p else p.captured)
  (whole.room? front).isSome

end Reduced

/-! ## Limits -/

namespace Node

/-- The greatest depth of a pattern. -/
def greatestDepth : Nat := 250

/-- Whether there is room for both automata of a pattern. If there is without sharing any states,
the states need not be made. -/
def hasRoom (n : Node) : Bool :=
  let pattern := n.reduce
  let both (sets : Bool → CodeSet → Part) : Bool :=
    pattern.hasRoom (sets false) false && pattern.hasRoom (sets true) true
  both (fun _ => generousPart) || both setPart

/-- Whether a pattern is within the limits. -/
def isAcceptable (n : Node) : Bool :=
  n.depth ≤ greatestDepth && n.hasRoom

end Node

end Daybook.Regex
