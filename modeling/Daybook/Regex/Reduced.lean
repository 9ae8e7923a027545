import Daybook.Regex.Node

set_option relaxedAutoImplicit false
set_option autoImplicit false

/-!
# Reduced patterns

What remains of a pattern when all that has no bearing on its matches is left out.

## Main definitions

* `Reduced` — a reduced pattern.
* `Reduced.leastLength`, `Reduced.greatestLength` — how many characters its matches have.
* `Reduced.concat`, `Reduced.alternation`, `Reduced.repetition` — reduced patterns from others.
* `Node.reduce` — the reduced form of a pattern.

## Design

Characters in a row are one text. A choice between characters or between sets is a set, and what all
branches of a choice begin with is taken out of it. Groups remain only where they capture, and what
has no width is repeated at most once.
-/

namespace Daybook.Regex

open Unicode (CodeSet)

/-- A reduced pattern. -/
inductive Reduced where
  | empty
  | text (cs : List Char)
  | chars (set : CodeSet)
  | look (condition : Look)
  | sequence (parts : List Reduced)
  | choice (branches : List Reduced)
  | group (inner : Reduced)
  | repeated (inner : Reduced) (least : Nat) (most : Option Nat) (greedy : Bool)

namespace Reduced

/-! ## Length of matches -/

/-- The least number of characters of a match, if there are matches at all. -/
def leastLength : Reduced → Option Nat
  | empty => some 0
  | text cs => some cs.length
  | chars set => if set.intervals.isEmpty then none else some 1
  | look _ => some 0
  | sequence parts => total parts
  | choice branches => least branches
  | group inner => inner.leastLength
  | repeated inner n _ _ => inner.leastLength.map (n * ·)
where
  /-- The sum over parts in a row. -/
  total : List Reduced → Option Nat
    | [] => some 0
    | r :: rest => do return (← r.leastLength) + (← total rest)
  /-- The least over branches, each of which has to have matches. -/
  least : List Reduced → Option Nat
    | [] => none
    | [r] => r.leastLength
    | r :: rest => do return min (← r.leastLength) (← least rest)

/-- The greatest number of characters of a match, if there are matches and they are bounded. -/
def greatestLength : Reduced → Option Nat
  | empty => some 0
  | text cs => some cs.length
  | chars set => if set.intervals.isEmpty then none else some 1
  | look _ => some 0
  | sequence parts => total parts
  | choice branches => greatest branches
  | group inner => inner.greatestLength
  | repeated inner _ most _ => do return (← most) * (← inner.greatestLength)
where
  /-- The sum over parts in a row. -/
  total : List Reduced → Option Nat
    | [] => some 0
    | r :: rest => do return (← r.greatestLength) + (← total rest)
  /-- The greatest over branches, each of which has to be bounded. -/
  greatest : List Reduced → Option Nat
    | [] => none
    | [r] => r.greatestLength
    | r :: rest => do return max (← r.greatestLength) (← greatest rest)

/-- Whether all matches are empty. -/
def isEmptyWidth (r : Reduced) : Bool :=
  r.greatestLength == some 0

/-- Whether no match is empty. -/
def isNeverEmpty (r : Reduced) : Bool :=
  r.leastLength.any (0 < ·)

/-! ## Ends of the text -/

/-- Whether every match begins at the beginning of the text. -/
def fromStart : Reduced → Bool
  | look condition => condition == .textStart
  | sequence parts => leading parts
  | choice branches => all branches
  | group inner => inner.fromStart
  | repeated inner least _ _ => 0 < least && inner.fromStart
  | _ => false
where
  /-- Whether one of the parts does in front of which there is nothing with width. -/
  leading : List Reduced → Bool
    | [] => false
    | r :: rest => r.fromStart || (r.isEmptyWidth && leading rest)
  /-- Whether all branches do. -/
  all : List Reduced → Bool
    | [] => true
    | r :: rest => r.fromStart && all rest

/-- Whether every match ends at the end of the text. -/
def untilEnd : Reduced → Bool
  | look condition => condition == .textEnd
  | sequence parts => (trailing parts).1
  | choice branches => all branches
  | group inner => inner.untilEnd
  | repeated inner least _ _ => 0 < least && inner.untilEnd
  | _ => false
where
  /-- Whether one of the parts does behind which there is nothing with width, and whether none of
  the parts has width. -/
  trailing : List Reduced → Bool × Bool
    | [] => (false, true)
    | r :: rest =>
      let (found, thin) := trailing rest
      (found || (thin && r.untilEnd), thin && r.isEmptyWidth)
  /-- Whether all branches do. -/
  all : List Reduced → Bool
    | [] => true
    | r :: rest => r.untilEnd && all rest

/-! ## Comparison -/

/-- Whether two patterns are the same. No group is the same as another one. -/
def same : Reduced → Reduced → Bool
  | empty, empty => true
  | text cs, text ds => cs == ds
  | chars s, chars t => s == t
  | look p, look q => p == q
  | sequence ps, sequence qs => sameAll ps qs
  | choice ps, choice qs => sameAll ps qs
  | repeated p least most greedy, repeated q least' most' greedy' =>
    least == least' && most == most' && greedy == greedy' && p.same q
  | _, _ => false
where
  /-- Whether two lists have the same patterns. -/
  sameAll : List Reduced → List Reduced → Bool
    | [], [] => true
    | p :: ps, q :: qs => p.same q && sameAll ps qs
    | _, _ => false

/-- How many patterns two lists have in common at the beginning. -/
def commonLength : List Reduced → List Reduced → Nat
  | p :: ps, q :: qs => if p.same q then commonLength ps qs + 1 else 0
  | _, _ => 0

/-! ## Building -/

/-- A set of characters; a single one is a text. -/
def ofSet (set : CodeSet) : Reduced :=
  match set.intervals with
  | [i] => if i.first = i.last then text [Char.ofNat i.first] else chars set
  | _ => chars set

/-- Texts that follow each other joined. -/
def joinTexts : List Reduced → List Reduced
  | [] => []
  | text cs :: rest =>
    match joinTexts rest with
    | text ds :: others => text (cs ++ ds) :: others
    | others => text cs :: others
  | r :: rest => r :: joinTexts rest

/-- Patterns in a row. -/
def concat (parts : List Reduced) : Reduced :=
  let flat := parts.flatMap fun
    | empty => []
    | sequence inner => inner
    | r => [r]
  match joinTexts flat with
  | [] => empty
  | [r] => r
  | rs => sequence rs

/-- The set that a text of one character is. -/
def singleton? : Reduced → Option CodeSet
  | text [c] => some (.single c)
  | _ => none

/-- The set of a pattern that is one. -/
def set? : Reduced → Option CodeSet
  | chars set => some set
  | _ => none

/-- The parts of a pattern that is a row. -/
def parts? : Reduced → Option (List Reduced)
  | sequence parts => some parts
  | _ => none

/-- A choice between patterns. Choices among them are dissolved, and a choice between characters or
between sets is a set. -/
def choose (branches : List Reduced) : Reduced :=
  let flat := branches.flatMap fun
    | choice inner => inner
    | r => [r]
  match flat with
  | [] => chars .empty
  | [r] => r
  | rs =>
    match (rs.mapM singleton?).or (rs.mapM set?) with
    | some sets => ofSet (.unions sets)
    | none => choice rs

/-- A choice between patterns, what all of them begin with taken out. -/
def alternation (branches : List Reduced) : Reduced :=
  match choose branches with
  | choice rs =>
    match rs.mapM parts? with
    | some (first :: others) =>
      let n := others.foldl (fun n parts => min n (commonLength first parts)) first.length
      if n = 0 then choice rs
      else
        let tails := (first :: others).map fun parts => concat (parts.drop n)
        concat (first.take n ++ [choose tails])
    | _ => choice rs
  | r => r

/-- A pattern repeated. -/
def repetition (inner : Reduced) (least : Nat) (most : Option Nat) (greedy : Bool) : Reduced :=
  let thin := inner.isEmptyWidth
  let least := if thin then min least 1 else least
  let most := if thin then some (min (most.getD 1) 1) else most
  if most = some 0 then empty
  else if least = 1 ∧ most = some 1 then inner
  else repeated inner least most greedy

end Reduced

/-! ## Reduction -/

/-- The reduced form of a pattern. -/
def Node.reduce : Node → Reduced
  | empty => .empty
  | flags => .empty
  | chars set _ => .ofSet set
  | look condition => .look condition
  | sequence parts => .concat (reduceAll parts)
  | choice branches => .alternation (reduceAll branches)
  | group captures inner => if captures then .group inner.reduce else inner.reduce
  | repeated inner least most greedy => .repetition inner.reduce least most greedy
where
  /-- The reduced forms of several patterns. -/
  reduceAll : List Node → List Reduced
    | [] => []
    | n :: rest => n.reduce :: reduceAll rest

end Daybook.Regex
