import Daybook.Grammar.Statement
import Daybook.Text.Quoted

set_option relaxedAutoImplicit false
set_option autoImplicit false

/-!
# Whole sources

A source is a sequence of statements with blank lines between them. Reading stops at the first
statement that cannot be read, and the error tells where.

## Main definitions

* `Position` — a line and a column.
* `SyntaxError`, `SyntaxError.message` — why a source cannot be read.
* `statements` — the statements that can be read, and where reading stopped.
* `parse` — the statements of a source.

## Design

An error stands where the furthest attempt failed. There is one exception: where the first line of
a transaction or of a rule is complete and nothing but blanks follows it, what is missing is the
lines after it, and so the error stands at the end of the source.
-/

namespace Daybook.Grammar

open Grammar.Parser

/-! ## Positions -/

/-- A line and a column, both counted from one. -/
structure Position where
  line : Nat
  column : Nat
  deriving Repr, DecidableEq

/-- The position after the given characters. -/
def Position.after (consumed : List Char) : Position :=
  ⟨consumed.count '\n' + 1, (consumed.reverse.takeWhile (· != '\n')).length + 1⟩

/-- The position of a place in a source, given by what remains from there on. -/
def Position.of (source place : List Char) : Position :=
  Position.after (source.take (source.length - place.length))

/-- A line without the line feed that ends it, and without a carriage return in front of that. -/
def firstLine (s : List Char) : List Char :=
  let line := s.takeWhile (· != '\n')
  if line.length < s.length && line.getLast? == some '\r' then line.dropLast else line

/-! ## Errors -/

/-- Why a source cannot be read. -/
inductive SyntaxError where
  /-- The rest of a line, which nothing can begin with. -/
  | unexpectedInput (position : Position) (found : String)
  /-- The end of the source, where further lines are missing. -/
  | unexpectedEnd (position : Position)
  deriving Repr, DecidableEq

/-- The text of an error. -/
def SyntaxError.message : SyntaxError → String
  | unexpectedInput p found =>
    s!"unexpected input at line {p.line}, column {p.column}: {Text.quoted found}"
  | unexpectedEnd p => s!"unexpected end of input at line {p.line}, column {p.column}"

/-! ## Statements -/

/-- The characters of blank lines. -/
def isBlankLineChar (c : Char) : Bool :=
  isSpace c || isLineBreak c

/-- A statement, up to the end of its line. -/
def statementLine (lexicon : Lexicon) : Parser Statement := do
  let s ← statement lexicon
  spaces
  lineEnd
  return s

/-- A statement that cannot be read. -/
structure Failure where
  /-- What remains where the statement begins. -/
  start : List Char
  /-- What remains where the furthest attempt at it failed. -/
  place : List Char
  deriving Repr, DecidableEq

/-- The statements up to the first one that cannot be read, and that one if there is one. -/
def statements (lexicon : Lexicon) (s : List Char) : List Statement × Option Failure :=
  match s.dropWhile isBlankLineChar with
  | [] => ([], none)
  | c :: cs =>
    match statementLine lexicon (c :: cs) with
    | .stuck place => ([], some ⟨c :: cs, place⟩)
    | .done first rest =>
      if rest.length < s.length then
        let (others, failure) := statements lexicon rest
        (first :: others, failure)
      else ([first], none)
termination_by s.length

/-- Whether a transaction or a rule begins here that has no line but the first. -/
def lacksLines (lexicon : Lexicon) (s : List Char) : Bool :=
  let firstLine : Parser Unit := do
    (do let _ ← header; return ()) <|> (do let _ ← ruleHeader lexicon; return ())
    spaces
    lineEnd
  match firstLine s with
  | .done _ rest => rest.all Unicode.isBlank
  | .stuck _ => false

/-- The error for a statement that cannot be read. -/
def Failure.error (lexicon : Lexicon) (source : List Char) (f : Failure) : SyntaxError :=
  if lacksLines lexicon f.start then .unexpectedEnd (Position.of source [])
  else .unexpectedInput (Position.of source f.place) (String.ofList (firstLine f.place))

end Daybook.Grammar

namespace Daybook

/-- The statements of a source, read with the commodity symbols of a lexicon. -/
def parse (lexicon : Lexicon) (source : String) : Except Grammar.SyntaxError (List Statement) :=
  match Grammar.statements lexicon source.toList with
  | (statements, none) => .ok statements
  | (_, some failure) => .error (failure.error lexicon source.toList)

end Daybook
