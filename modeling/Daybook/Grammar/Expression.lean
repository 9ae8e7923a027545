import Daybook.Expression.Basic
import Daybook.Grammar.Token

set_option relaxedAutoImplicit false
set_option autoImplicit false

/-!
# The grammar of expressions

Operators bind on five levels, each of them to the left: `||` loosest, then `&&`, the comparisons,
`+` and `-`, and `*` and `/` tightest. An operand is a literal, a name, or an expression in
parentheses.

## Main definitions

* `Precedence`, `Precedence.operators` — the five levels.
* `chain` — operands joined by the operators of one level.
* `primitive` — literals and names.
* `expression`, `parenthesized` — expressions.

## Design

What stands in parentheses is read by the same grammar one level further in, and the depth is
bounded by the length of the text, since every level takes one character at least.
-/

namespace Daybook.Grammar

open Grammar.Parser

/-! ## Operators -/

/-- How tightly an operator binds. -/
inductive Precedence where
  | disjunction
  | conjunction
  | comparison
  | additive
  | multiplicative
  deriving Repr, DecidableEq

/-- The operators of a level, in the order in which they are tried: where the sign of one is the
beginning of another's, the longer one comes first. -/
def Precedence.operators : Precedence → List Operator
  | disjunction => [.or]
  | conjunction => [.and]
  | comparison =>
    [.equal, .notEqual, .lessOrEqual, .greaterOrEqual, .matching, .notMatching, .less, .greater]
  | additive => [.add, .subtract]
  | multiplicative => [.multiply, .divide]

/-- One of the given operators. -/
def operatorOf (operators : List Operator) : Parser Operator := fun s =>
  match operators.find? fun o => o.symbol.toList.isPrefixOf s with
  | some o => .done o (s.drop o.symbol.length)
  | none => .stuck s

/-- Further operands, each after an operator, joined to `left` from the left. After an operator
there has to be an operand. -/
def chainFrom (level : Precedence) (operand : Parser Expression) (left : Expression)
    (s : List Char) : Outcome Expression :=
  match lexeme (operatorOf level.operators) s with
  | .stuck _ => .done left s
  | .done operator rest =>
    match operand rest with
    | .stuck place => .stuck place
    | .done right rest' =>
      if rest'.length < s.length then
        chainFrom level operand (.binary operator left right) rest'
      else .done (.binary operator left right) rest'
termination_by s.length

/-- Operands joined from the left by the operators of one level. -/
def chain (level : Precedence) (operand : Parser Expression) : Parser Expression := do
  let left ← operand
  chainFrom level operand left

/-! ## Literals and names -/

/-- One of the two truth values, not followed by a further character of an identifier. -/
def boolean : Parser Expression := do
  let w ← word "true" <|> word "false"
  notFollowedBy (satisfy isIdentifierChar)
  return .bool (w == "true")

/-- A literal or a name. What can be read as an amount is one; a string stands between double or
single quotes. -/
def primitive (lexicon : Lexicon) : Parser Expression :=
  (Expression.amount <$> amount lexicon) <|>
  (Expression.regex <$> delimitedBy '/') <|>
  (Expression.string <$> (delimitedBy '"' <|> delimitedBy '\'')) <|>
  boolean <|>
  (Expression.name <$> identifier)

/-! ## Expressions -/

/-- What `inner` reads between parentheses. -/
def betweenParentheses (inner : Parser Expression) : Parser Expression := do
  let _ ← lexeme (char '(')
  let e ← inner
  let _ ← lexeme (char ')')
  return e

/-- An operand: what `inner` reads between parentheses, or a literal or a name. -/
def operandOf (lexicon : Lexicon) (inner : Parser Expression) : Parser Expression :=
  betweenParentheses inner <|> lexeme (primitive lexicon)

/-- An expression with the given operands. -/
def levels (operand : Parser Expression) : Parser Expression :=
  chain .disjunction <| chain .conjunction <| chain .comparison <| chain .additive <|
    chain .multiplicative operand

/-- An expression in which parentheses are nested less than `depth` times. -/
def expressionWithin (lexicon : Lexicon) : (depth : Nat) → Parser Expression
  | 0 => fun s => .stuck s
  | depth + 1 => levels (operandOf lexicon (expressionWithin lexicon depth))

/-- An expression. -/
def expression (lexicon : Lexicon) : Parser Expression := fun s =>
  expressionWithin lexicon (s.length + 1) s

/-- An expression in parentheses. -/
def parenthesized (lexicon : Lexicon) : Parser Expression :=
  betweenParentheses (expression lexicon)

end Daybook.Grammar
