import Daybook.Unicode.CodeSet

set_option relaxedAutoImplicit false
set_option autoImplicit false

/-!
# Patterns as trees

The parts of a pattern, as they are written.

## Main definitions

* `Look` — the conditions on a place in a text.
* `Node` — a pattern.
* `Node.depth` — how deeply a pattern is nested.
-/

namespace Daybook.Regex

/-! ## Conditions on a place -/

/-- A condition on a place in a text. Lines may also end in a carriage return, if `crlf` is set;
word characters may be those of ASCII alone, if `ascii` is set. -/
inductive Look where
  | textStart
  | textEnd
  | lineStart (crlf : Bool)
  | lineEnd (crlf : Bool)
  | wordBoundary (ascii : Bool)
  | noWordBoundary (ascii : Bool)
  | wordStart (ascii : Bool)
  | wordEnd (ascii : Bool)
  | wordStartHalf (ascii : Bool)
  | wordEndHalf (ascii : Bool)
  deriving Repr, DecidableEq

/-! ## Patterns -/

/-- A pattern. -/
inductive Node where
  | empty
  /-- A change of flags, which matches like the empty pattern. -/
  | flags
  /-- One character of a set. A class in brackets counts as nested as its own brackets are. -/
  | chars (set : Unicode.CodeSet) (nesting : Nat)
  | look (condition : Look)
  | sequence (parts : List Node)
  | choice (branches : List Node)
  | group (captures : Bool) (inner : Node)
  /-- A repetition; `greedy` tells which of several matches is preferred. -/
  | repeated (inner : Node) (least : Nat) (most : Option Nat) (greedy : Bool)

namespace Node

/-- Several parts in a row, which need no node of their own if there are less than two. -/
def ofParts : List Node → Node
  | [] => empty
  | [part] => part
  | parts => sequence parts

/-- Several branches, which need no node of their own if there is only one. -/
def ofBranches : List Node → Node
  | [] => empty
  | [branch] => branch
  | branches => choice branches

/-- Whether an operator of repetition can stand after the pattern. -/
def isRepeatable : Node → Bool
  | empty => false
  | flags => false
  | _ => true

/-! ## Nesting -/

/-- How deeply a pattern is nested. -/
def depth : Node → Nat
  | empty => 0
  | flags => 0
  | chars _ nesting => nesting
  | look _ => 0
  | sequence parts => 1 + greatest parts
  | choice branches => 1 + greatest branches
  | group _ inner => 1 + inner.depth
  | repeated inner _ _ _ => 1 + inner.depth
where
  /-- The greatest depth of several patterns. -/
  greatest : List Node → Nat
    | [] => 0
    | n :: rest => max n.depth (greatest rest)

end Node

end Daybook.Regex
