import Daybook.Regex.Escape

set_option relaxedAutoImplicit false
set_option autoImplicit false

/-!
# Classes in brackets

A class in brackets is a union of characters, ranges and classes, and unions are combined by
intersection, difference and symmetric difference.

## Main definitions

* `Bracket` — a class that is still open.
* `openBracket` — the beginning of a class.
* `posixClass?` — a class with a name between colons.
* `readRange` — an item, or a range between two.
* `readClass` — a whole class.

## Design

Classes are nested, and the ones that are still open are kept on a stack, so that nothing but the
text that remains bounds the work.
-/

namespace Daybook.Regex

open Unicode (CodeSet)

/-! ## Open classes -/

/-- A part of a class in brackets, and how deeply it is nested. -/
structure Piece where
  set : CodeSet
  nesting : Nat

/-- A class in brackets that is still open. -/
structure Bracket where
  negated : Bool
  /-- What stands in front of the last operator between sets, waiting for the other side. -/
  pending : Option (Piece × (CodeSet → CodeSet → CodeSet))
  /-- What has been read since, last first. -/
  items : List Piece

namespace Bracket

/-- One more item. -/
def push (b : Bracket) (p : Piece) : Bracket :=
  { b with items := p :: b.items }

/-- The union of the items. -/
def union (b : Bracket) : Piece :=
  match b.items.reverse with
  | [] => ⟨.empty, 0⟩
  | [p] => p
  | ps => ⟨.unions (ps.map Piece.set), 1 + (ps.map Piece.nesting).foldl max 0⟩

/-- All that has been read. Operators apply from the left, to sets closed under changes of case. -/
def content (f : Flags) (b : Bracket) : Piece :=
  let right := b.union
  match b.pending with
  | none => right
  | some (left, operator) =>
    ⟨operator (f.fold left.set) (f.fold right.set), 1 + max left.nesting right.nesting⟩

/-- The class after an operator. -/
def operate (f : Flags) (b : Bracket) (operator : CodeSet → CodeSet → CodeSet) : Bracket :=
  ⟨b.negated, some (b.content f, operator), []⟩

/-- The class when it is closed. -/
def close? (f : Flags) (b : Bracket) : Option Piece := do
  let p := b.content f
  let set ← f.negate? b.negated (f.fold p.set)
  return ⟨set, p.nesting + 1⟩

end Bracket

/-- Hyphens at the beginning of a class, which stand for themselves. -/
def takeHyphens (f : Flags) : List Char → List Piece × List Char
  | '-' :: rest =>
    let (others, back) := takeHyphens f (f.skip rest)
    (⟨.single '-', 0⟩ :: others, back)
  | s => ([], s)
termination_by s => s.length
decreasing_by
  have := f.length_skip_le rest
  simp only [List.length_cons]
  omega

/-- A class whose bracket has been read. A closing bracket at its beginning stands for itself. -/
def openBracket (f : Flags) (s : List Char) : Option (Bracket × List Char) :=
  let s := f.skip s
  let (negated, s) :=
    match s with
    | '^' :: rest => (true, f.skip rest)
    | _ => (false, s)
  let (hyphens, s) := takeHyphens f s
  match hyphens, s with
  | _, [] => none
  | [], ']' :: rest =>
    let rest := f.skip rest
    if rest.isEmpty then none else some (⟨negated, none, [⟨.single ']', 0⟩]⟩, rest)
  | _, _ => some (⟨negated, none, hyphens⟩, s)

/-- A name between colons and brackets, and whether the complement of its class is meant. -/
def posixClass? (s : List Char) : Option ((CodeSet × Bool) × List Char) :=
  match s with
  | '[' :: ':' :: rest => do
    let (negated, rest) :=
      match rest with
      | '^' :: others => (true, others)
      | _ => (false, rest)
    let (name, back) := rest.span (· != ':')
    let set ← CharClass.posix? (String.ofList name)
    match back with
    | ':' :: ']' :: back => some ((set, negated), back)
    | _ => none
  | _ => none

/-- One item of a class: an escape, or a character. -/
def readItem (f : Flags) : List Char → Option (Atom × List Char)
  | [] => none
  | '\\' :: rest => readEscape f rest
  | c :: rest => some (.literal c false, rest)

/-- A character as a member of a class; without Unicode only ASCII can be one. -/
def member? (f : Flags) : Atom → Option Char
  | .literal c _ => if f.unicode || Unicode.isAscii c then some c else none
  | _ => none

/-- An item that is no end of a range. -/
def Atom.set? (f : Flags) : Atom → Option CodeSet
  | .set s => some s
  | a => (member? f a).map CodeSet.single

/-- An item, or a range between two of them. A hyphen makes no range in front of a closing bracket
or of another hyphen. -/
def readRange (f : Flags) (s : List Char) : Option (Piece × List Char) := do
  let (first, rest) ← readItem f s
  let alone (rest : List Char) : Option (Piece × List Char) :=
    (first.set? f).map fun set => (⟨set, 0⟩, rest)
  match f.skip rest with
  | [] => none
  | '-' :: others =>
    match f.skip others with
    | [] => none
    | ']' :: _ => alone ('-' :: others)
    | '-' :: _ => alone ('-' :: others)
    | others => do
      let (last, back) ← readItem f others
      let low ← member? f first
      let high ← member? f last
      guard (low ≤ high)
      return (⟨.range low high, 0⟩, back)
  | rest => alone rest

/-- What remains of a class, the innermost of the open brackets being `b`. -/
def readClassFrom (f : Flags) (b : Bracket) (outer : List Bracket) (s : List Char) :
    Option (Piece × List Char) :=
  let next : Option (Except Piece (Bracket × List Bracket) × List Char) :=
    match f.skip s with
    | [] => none
    | '[' :: rest =>
      match posixClass? ('[' :: rest) with
      | some ((set, negated), back) => do
        let set ← f.negate? negated (f.fold set)
        return (.ok (b.push ⟨set, 0⟩, outer), back)
      | none => do
        let (inner, back) ← openBracket f rest
        return (.ok (inner, b :: outer), back)
    | ']' :: rest => do
      let p ← b.close? f
      match outer with
      | [] => return (.error p, rest)
      | o :: others => return (.ok (o.push p, others), rest)
    | '&' :: '&' :: rest => some (.ok (b.operate f .inter, outer), rest)
    | '-' :: '-' :: rest => some (.ok (b.operate f .diff, outer), rest)
    | '~' :: '~' :: rest => some (.ok (b.operate f .symmDiff, outer), rest)
    | s => do
      let (p, back) ← readRange f s
      return (.ok (b.push p, outer), back)
  match next with
  | none => none
  | some (.error p, rest) => some (p, rest)
  | some (.ok (b, outer), rest) =>
    if rest.length < s.length then readClassFrom f b outer rest else none
termination_by s.length

/-- A class in brackets, the first of which has been read. -/
def readClass (f : Flags) (s : List Char) : Option (Node × List Char) := do
  let (b, rest) ← openBracket f s
  let (p, back) ← readClassFrom f b [] rest
  return (.chars p.set p.nesting, back)

end Daybook.Regex
