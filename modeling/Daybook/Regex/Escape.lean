import Daybook.Regex.Class
import Daybook.Regex.Flags
import Daybook.Regex.Node

set_option relaxedAutoImplicit false
set_option autoImplicit false

/-!
# Characters and escapes

The parts of a pattern that stand for themselves, and what a backslash introduces.

## Main definitions

* `Atom` — a character, a set of characters, or a condition on a place.
* `Atom.node?` — an atom as a pattern.
* `readEscape` — what a backslash introduces.

## Design

Without Unicode a set never has a member beyond ASCII, because a match must not begin or end within
a character. So a negated class is refused there, and so is a byte beyond ASCII. Referring back to
a group is always refused.
-/

namespace Daybook.Regex

open Unicode (CodeSet)

/-! ## Atoms -/

/-- A part of a pattern that stands for itself. -/
inductive Atom where
  /-- A character; `byte` tells whether it is written as one byte in two hexadecimal digits. -/
  | literal (c : Char) (byte : Bool)
  | set (set : CodeSet)
  | look (condition : Look)

/-- A set, closed under changes of case if the flags say so. -/
def Flags.fold (f : Flags) (set : CodeSet) : CodeSet :=
  if f.ignoreCase then
    if f.unicode then Unicode.closeCase set else Unicode.closeAsciiCase set
  else set

/-- The complement of a set, if it is wanted. Without Unicode it would have parts of characters
among its members. -/
def Flags.negate? (f : Flags) (negated : Bool) (set : CodeSet) : Option CodeSet :=
  if negated then
    if f.unicode then some set.compl else none
  else some set

/-- The set that a dot stands for. -/
def Flags.dot? (f : Flags) : Option CodeSet :=
  if !f.unicode then none
  else if f.dotAll then some .full
  else if f.crlf then some (CharClass.ranges [('\n', '\n'), ('\r', '\r')]).compl
  else some (CodeSet.single '\n').compl

/-- The pattern that an atom by itself is. -/
def Atom.node? (f : Flags) : Atom → Option Node
  | literal c byte =>
    if byte && !f.unicode && !Unicode.isAscii c then none
    else if !f.unicode && !Unicode.isAscii c then some (.chars (.single c) 0)
    else some (.chars (f.fold (.single c)) 0)
  | .set s => some (.chars s 0)
  | look condition => some (.look condition)

/-! ## Characters by number -/

/-- Whether a character is a hexadecimal digit. -/
def isHexDigit (c : Char) : Bool :=
  Unicode.isDigit c || ('a' ≤ c && c ≤ 'f') || ('A' ≤ c && c ≤ 'F')

/-- The value of a hexadecimal digit. -/
def hexDigitValue (c : Char) : Nat :=
  if Unicode.isDigit c then c.toNat - '0'.toNat else c.toLower.toNat - 'a'.toNat + 10

/-- The character whose code point is given by hexadecimal digits. -/
def charOfHex? (digits : List Char) : Option Char :=
  let n := digits.foldl (fun n c => 16 * n + hexDigitValue c) 0
  if n.isValidChar then some (Char.ofNat n) else none

/-! ## Escapes -/

/-- The characters up to a closing brace, blanks and comments between them passed over. -/
def takeBraced (f : Flags) : List Char → Option (List Char × List Char)
  | [] => none
  | '\x7d' :: rest => some ([], rest)
  | c :: rest => do
    let (others, back) ← takeBraced f (f.skip rest)
    return (c :: others, back)
termination_by s => s.length
decreasing_by
  have := f.length_skip_le rest
  simp only [List.length_cons]
  omega

/-- A given number of hexadecimal digits, blanks and comments between them passed over. -/
def takeHex (f : Flags) : Nat → List Char → Option (List Char × List Char)
  | 0, s => some ([], s)
  | _ + 1, [] => none
  | n + 1, c :: rest =>
    if isHexDigit c then do
      let (others, back) ← takeHex f n (f.skip rest)
      return (c :: others, back)
    else none

/-- A character by its code point: in braces, or in as many digits as the letter asks for. -/
def readHex (f : Flags) (width : Nat) (s : List Char) : Option (Atom × List Char) :=
  match f.skip s with
  | '\x7b' :: rest => do
    let (digits, back) ← takeBraced f (f.skip rest)
    guard (!digits.isEmpty && digits.all isHexDigit)
    let c ← charOfHex? digits
    return (.literal c false, back)
  | s => do
    let (digits, back) ← takeHex f width s
    let c ← charOfHex? digits
    return (.literal c (width == 2), back)

/-- The part in front of the first occurrence of some characters, and the part behind it. -/
def breakAt (mark : List Char) : List Char → Option (List Char × List Char)
  | [] => none
  | c :: rest =>
    if mark.isPrefixOf (c :: rest) then some ([], (c :: rest).drop mark.length)
    else do
      let (front, back) ← breakAt mark rest
      return (c :: front, back)

/-- The class that a name in braces stands for, and whether its complement is meant. -/
def namedClass? (name : List Char) : Option (CodeSet × Bool) :=
  let valued (parts : List Char × List Char) (negated : Bool) :=
    (Unicode.classOf? (String.ofList parts.1) (String.ofList parts.2)).map fun k => (k, negated)
  match breakAt ['!', '='] name with
  | some parts => valued parts true
  | none =>
    match (breakAt [':'] name).or (breakAt ['='] name) with
    | some parts => valued parts false
    | none => (Unicode.classNamed? (String.ofList name)).map fun k => (k, false)

/-- A class by the name of a property: in braces, or by one letter. -/
def readProperty (f : Flags) (negated : Bool) (s : List Char) : Option (Atom × List Char) := do
  guard f.unicode
  let (name, back) ←
    match f.skip s with
    | [] => none
    | '\x7b' :: rest => takeBraced f (f.skip rest)
    | c :: rest => if c == '\\' then none else some ([c], rest)
  let (members, opposite) ← namedClass? name
  let set ← f.negate? (negated != opposite) (f.fold members)
  return (.set set, back)

/-- A class that has a letter of its own, in upper case for its complement. -/
def letterClass? (f : Flags) (c : Char) : Option CodeSet :=
  let set :=
    match c.toLower with
    | 'd' => if f.unicode then CharClass.digits else CharClass.asciiDigits
    | 's' => if f.unicode then CharClass.blanks else CharClass.asciiBlanks
    | _ => if f.unicode then CharClass.wordChars else CharClass.asciiWordChars
  f.negate? (c != c.toLower) set

/-- What stands in braces behind a word boundary, if it is a word at all. -/
def readBoundary (f : Flags) (s : List Char) : Option (Look × List Char) :=
  let plain := some (.wordBoundary (!f.unicode), s)
  let isPart (c : Char) : Bool := c.isAlpha || c == '-'
  match s with
  | '\x7b' :: rest =>
    match f.skip rest with
    | [] => none
    | c :: others =>
      if isPart c then do
        let (name, back) ← takeBraced f (c :: others)
        let condition ←
          match String.ofList name with
          | "start" => some Look.wordStart
          | "end" => some Look.wordEnd
          | "start-half" => some Look.wordStartHalf
          | "end-half" => some Look.wordEndHalf
          | _ => none
        return (condition (!f.unicode), back)
      else plain
  | _ => plain

/-- The characters with a meaning of their own, which a backslash takes from them. -/
def isMeta (c : Char) : Bool :=
  "\\.+*?()|[]\x7b\x7d^$#&-~".toList.contains c

/-- Whether a backslash in front of a character leaves it as it is. This goes for everything in
ASCII but letters, digits and angle brackets. -/
def isEscapable (c : Char) : Bool :=
  isMeta c || (Unicode.isAscii c && !c.isAlphanum && c != '<' && c != '>')

/-- What a backslash introduces. -/
def readEscape (f : Flags) : List Char → Option (Atom × List Char)
  | [] => none
  | c :: rest =>
    let ascii := !f.unicode
    match c with
    | 'x' => readHex f 2 rest
    | 'u' => readHex f 4 rest
    | 'U' => readHex f 8 rest
    | 'p' => readProperty f false rest
    | 'P' => readProperty f true rest
    | 'd' | 's' | 'w' | 'D' | 'S' | 'W' => (letterClass? f c).map fun set => (.set set, rest)
    | 'a' => some (.literal '\x07' false, rest)
    | 'f' => some (.literal '\x0c' false, rest)
    | 't' => some (.literal '\t' false, rest)
    | 'n' => some (.literal '\n' false, rest)
    | 'r' => some (.literal '\r' false, rest)
    | 'v' => some (.literal '\x0b' false, rest)
    | 'A' => some (.look .textStart, rest)
    | 'z' => some (.look .textEnd, rest)
    | 'b' => (readBoundary f rest).map fun (condition, back) => (.look condition, back)
    | 'B' => some (.look (.noWordBoundary ascii), rest)
    | '<' => some (.look (.wordStart ascii), rest)
    | '>' => some (.look (.wordEnd ascii), rest)
    | _ => if isEscapable c then some (.literal c false, rest) else none

end Daybook.Regex
