import Daybook.Decimal.Basic
import Daybook.Regex.Bracket
import Daybook.Regex.Part

set_option relaxedAutoImplicit false
set_option autoImplicit false

/-!
# Reading patterns

How the text of a pattern becomes a tree, or is refused.

## Main definitions

* `readRepetition` — the operators of repetition.
* `readGroup` — what an opening parenthesis introduces.
* `Progress` — how far a pattern has been read.
* `read?` — a whole pattern.

## Design

Groups are read with a stack of the ones that are still open, so that nothing but the text that
remains bounds the work. Looking ahead and looking behind are refused.
-/

namespace Daybook.Regex

/-! ## Repetition -/

/-- A run of digits, blanks and comments between them passed over. -/
def takeDigits (f : Flags) : List Char → List Char × List Char
  | [] => ([], [])
  | c :: rest =>
    if Unicode.isDigit c then
      let (digits, back) := takeDigits f (f.skip rest)
      (c :: digits, back)
    else ([], c :: rest)
termination_by s => s.length
decreasing_by
  have := f.length_skip_le rest
  simp only [List.length_cons]
  omega

/-- The greatest count of a repetition: 32 bits, all of them set. -/
def greatestCount : Nat := 0xFFFFFFFF

/-- A decimal number, with blanks of any kind on both sides. -/
def readCount (f : Flags) (s : List Char) : Option (Nat × List Char) :=
  let (digits, rest) := takeDigits f (s.dropWhile Unicode.isBlank)
  let n := Decimal.natOfDigits digits
  if digits.isEmpty || greatestCount < n then none
  else some (n, rest.dropWhile Unicode.isBlank)

/-- The bounds of a repetition, and whether it prefers long matches. -/
structure Repetition where
  least : Nat
  most : Option Nat
  greedy : Bool

/-- A question mark behind an operator of repetition, which turns round what is preferred. -/
def withPreference (f : Flags) (least : Nat) (most : Option Nat) (s : List Char) :
    Repetition × List Char :=
  match s with
  | '?' :: rest => (⟨least, most, f.lazy⟩, rest)
  | _ => (⟨least, most, !f.lazy⟩, s)

/-- The bounds of a repetition in braces, the first of which has been read. -/
def readBounds (f : Flags) (s : List Char) : Option (Repetition × List Char) := do
  let (least, rest) ← readCount f (f.skip s)
  let (most, rest) ←
    match rest with
    | ',' :: others =>
      match f.skip others with
      | '\x7d' :: _ => some (none, f.skip others)
      | others => do
        let (most, back) ← readCount f others
        some (some most, back)
    | _ => some (some least, rest)
  match rest with
  | '\x7d' :: back =>
    guard (most.all (least ≤ ·))
    return withPreference f least most (f.skip back)
  | _ => none

/-- The bounds that an operator of repetition stands for. -/
def readRepetition (f : Flags) : List Char → Option (Repetition × List Char)
  | '?' :: rest => some (withPreference f 0 (some 1) rest)
  | '*' :: rest => some (withPreference f 0 none rest)
  | '+' :: rest => some (withPreference f 1 none rest)
  | '\x7b' :: rest => readBounds f rest
  | _ => none

/-! ## Groups -/

/-- What an opening parenthesis introduces. -/
inductive Opening where
  | group (name : Option (List Char)) (captures : Bool) (flags : Flags)
  | flags (flags : Flags)

/-- Whether a character can stand in the name of a group. -/
def isNameChar (c : Char) : Bool :=
  c == '_' || c == '.' || c == '[' || c == ']' || Unicode.isAlphanumeric c

/-- The name of a group, up to an angle bracket. -/
def readName (f : Flags) (s : List Char) : Option (Opening × List Char) :=
  let (name, rest) := s.span (· != '>')
  match name, rest with
  | c :: others, '>' :: back =>
    if (c == '_' || Unicode.isAlphabetic c) && others.all isNameChar then
      some (.group (some (c :: others)) true f, back)
    else none
  | _, _ => none

/-- What an opening parenthesis introduces, the parenthesis having been read. -/
def readGroup (f : Flags) (s : List Char) : Option (Opening × List Char) :=
  match f.skip s with
  | '?' :: '=' :: _ => none
  | '?' :: '!' :: _ => none
  | '?' :: '<' :: '=' :: _ => none
  | '?' :: '<' :: '!' :: _ => none
  | '?' :: 'P' :: '<' :: rest => readName f rest
  | '?' :: '<' :: rest => readName f rest
  | '?' :: rest => do
    let (signs, back) := rest.span fun c => c != ':' && c != ')'
    let inner ← f.read? signs
    match back with
    | ':' :: back => some (.group none false inner, back)
    | ')' :: back => if signs.isEmpty then none else some (.flags inner, back)
    | _ => none
  | rest => some (.group none true f, rest)

/-! ## Whole patterns -/

/-- The parts of the branch that is being read, and the branches before it, both last first. -/
structure Level where
  parts : List Node
  branches : List Node

namespace Level

/-- Nothing has been read yet. -/
def fresh : Level := ⟨[], []⟩

/-- One more part. -/
def push (l : Level) (n : Node) : Level :=
  { l with parts := n :: l.parts }

/-- All branches, the last one with what has been read of it. -/
def allBranches (l : Level) : List Node :=
  .ofParts l.parts.reverse :: l.branches

/-- A new branch begins. -/
def branch (l : Level) : Level :=
  ⟨[], l.allBranches⟩

/-- The pattern that has been read. -/
def node (l : Level) : Node :=
  .ofBranches l.allBranches.reverse

/-- The last part repeated. -/
def repeat? (l : Level) (r : Repetition) : Option Level :=
  match l.parts with
  | last :: others =>
    if last.isRepeatable then
      some { l with parts := .repeated last r.least r.most r.greedy :: others }
    else none
  | [] => none

end Level

/-- A group that is still open: what stands in front of it, and the flags there. -/
structure OpenGroup where
  outside : Level
  flags : Flags
  captures : Bool

/-- How far a pattern has been read. -/
structure Progress where
  flags : Flags
  level : Level
  groups : List OpenGroup
  /-- The names that groups have been given. -/
  names : List (List Char)

namespace Progress

/-- Nothing has been read yet. -/
def initial : Progress :=
  ⟨.initial, .fresh, [], []⟩

/-- One more part. -/
def push (p : Progress) (n : Node) : Progress :=
  { p with level := p.level.push n }

/-- What an opening parenthesis introduces. No two groups may have one name. -/
def enter? (p : Progress) : Opening → Option Progress
  | .flags inner => some { p.push .flags with flags := inner }
  | .group name captures inner =>
    if name.any p.names.contains then none
    else some ⟨inner, .fresh, ⟨p.level, p.flags, captures⟩ :: p.groups, name.toList ++ p.names⟩

/-- The innermost group is closed, and the flags are what they were in front of it. -/
def leave? (p : Progress) : Option Progress :=
  match p.groups with
  | [] => none
  | g :: others =>
    some ⟨g.flags, g.outside.push (.group g.captures p.level.node), others, p.names⟩

/-- The next part of a pattern. -/
def step (p : Progress) (s : List Char) : Option (Progress × List Char) :=
  let f := p.flags
  let atom (a : Atom) (rest : List Char) : Option (Progress × List Char) := do
    let n ← a.node? f
    return (p.push n, rest)
  match s with
  | [] => none
  | '(' :: rest => do
    let (opening, back) ← readGroup f rest
    let p ← p.enter? opening
    return (p, back)
  | ')' :: rest => p.leave?.map fun p => (p, rest)
  | '|' :: rest => some ({ p with level := p.level.branch }, rest)
  | '[' :: rest => do
    let (n, back) ← readClass f rest
    return (p.push n, back)
  | '\\' :: rest => do
    let (a, back) ← readEscape f rest
    atom a back
  | '.' :: rest => do
    let set ← f.dot?
    atom (.set set) rest
  | '^' :: rest => atom (.look (if f.multiLine then .lineStart f.crlf else .textStart)) rest
  | '$' :: rest => atom (.look (if f.multiLine then .lineEnd f.crlf else .textEnd)) rest
  | c :: rest =>
    if c == '?' || c == '*' || c == '+' || c == '\x7b' then do
      let (repetition, back) ← readRepetition f (c :: rest)
      let level ← p.level.repeat? repetition
      return ({ p with level := level }, back)
    else atom (.literal c false) rest

/-- The pattern that the rest of a text completes. -/
def finish? (p : Progress) (s : List Char) : Option Node :=
  match p.flags.skip s with
  | [] => if p.groups.isEmpty then some p.level.node else none
  | c :: others =>
    match p.step (c :: others) with
    | none => none
    | some (next, rest) => if rest.length < s.length then finish? next rest else none
termination_by s.length

end Progress

/-- The pattern that a text is, if it is one and within the limits. -/
def read? (pattern : String) : Option Node :=
  (Progress.initial.finish? pattern.toList).filter Node.isAcceptable

end Daybook.Regex
