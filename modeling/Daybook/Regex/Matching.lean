import Daybook.Regex.Reader

set_option relaxedAutoImplicit false
set_option autoImplicit false

/-!
# Matching

Whether some part of a text matches a pattern.

## Main definitions

* `Look.holds` — a condition at a place of a text.
* `Node.advance` — where a pattern ends that begins at one of several places.
* `isMatch?` — whether a text matches a pattern, if the pattern can be read at all.

## Design

A place of a text is the number of characters in front of it. A pattern is a function from sets of
places, kept as ascending lists, to sets of places. It distributes over union, and so a repetition
without a bound is reached once no further place is added, which takes no more rounds than there
are places.
-/

namespace Daybook.Regex

/-! ## Conditions -/

namespace Look

/-- Whether the character at a place belongs to words. -/
def wordAt (ascii : Bool) : Option Char → Bool
  | none => false
  | some c => (if ascii then CharClass.asciiWordChars else CharClass.wordChars).contains c

/-- Whether a condition holds between two characters, each of which is missing at an end of the
text. -/
def holdsBetween (before after : Option Char) : Look → Bool
  | textStart => before.isNone
  | textEnd => after.isNone
  | lineStart crlf =>
    before.isNone || before == some '\n' || (crlf && before == some '\r' && after != some '\n')
  | lineEnd crlf =>
    after.isNone ||
      if crlf then after == some '\r' || (after == some '\n' && before != some '\r')
      else after == some '\n'
  | wordBoundary ascii => wordAt ascii before != wordAt ascii after
  | noWordBoundary ascii => wordAt ascii before == wordAt ascii after
  | wordStart ascii => !wordAt ascii before && wordAt ascii after
  | wordEnd ascii => wordAt ascii before && !wordAt ascii after
  | wordStartHalf ascii => !wordAt ascii before
  | wordEndHalf ascii => !wordAt ascii after

/-- Whether a condition holds at a place of a text. -/
def holds (text : Array Char) (condition : Look) (place : Nat) : Bool :=
  condition.holdsBetween (if place = 0 then none else text[place - 1]?) text[place]?

end Look

/-! ## Sets of places -/

/-- Places in ascending order. -/
abbrev Places := List Nat

namespace Places

/-- The union of two sets of places. -/
def union (a b : Places) : Places :=
  (Ascending.merge (fun p q => decide (p ≤ q)) a b).eraseReps

/-- What becomes of places after `n` rounds of `f`. -/
def iterate (f : Places → Places) : Nat → Places → Places
  | 0, ps => ps
  | n + 1, ps =>
    let next := f ps
    if next == ps then ps else iterate f n next

/-- All that is reached from places in `n` rounds of `f` or less. -/
def reach (f : Places → Places) : Nat → Places → Places
  | 0, ps => ps
  | n + 1, ps =>
    let next := union ps (f ps)
    if next == ps then ps else reach f n next

end Places

/-! ## Patterns -/

namespace Node

/-- The places where a pattern ends that begins at one of the given places. -/
def advance (text : Array Char) : Node → Places → Places
  | empty, ps => ps
  | flags, ps => ps
  | chars set _, ps => (ps.filter fun p => text[p]?.any set.contains).map (· + 1)
  | look condition, ps => ps.filter fun p => condition.holds text p
  | sequence parts, ps => advanceAll text parts ps
  | choice branches, ps => advanceAny text branches ps
  | group _ inner, ps => inner.advance text ps
  | repeated inner least most _, ps =>
    let once := inner.advance text
    let rounds := most.elim (text.size + 1) (· - least)
    Places.reach once rounds (Places.iterate once least ps)
where
  /-- The places where the last of several parts in a row ends. -/
  advanceAll (text : Array Char) : List Node → Places → Places
    | [], ps => ps
    | n :: rest, ps => advanceAll text rest (n.advance text ps)
  /-- The places where one of several branches ends. -/
  advanceAny (text : Array Char) : List Node → Places → Places
    | [], _ => []
    | n :: rest, ps => Places.union (n.advance text ps) (advanceAny text rest ps)

/-- Whether some part of a text matches a pattern. -/
def matchesIn (n : Node) (text : String) : Bool :=
  let cs := text.toList.toArray
  !(n.advance cs (List.range (cs.size + 1))).isEmpty

end Node

/-- Whether some part of a text matches a pattern; nothing if the pattern cannot be read. -/
def isMatch? (pattern text : String) : Option Bool :=
  (read? pattern).map fun n => n.matchesIn text

end Daybook.Regex
