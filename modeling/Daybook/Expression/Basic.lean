import Daybook.Amount

set_option relaxedAutoImplicit false
set_option autoImplicit false

/-!
# Expressions

The expressions of the ledger language and the text that stands for each of them.

## Main definitions

* `Operator`, `Operator.symbol` — the binary operators.
* `Expression` — literals, names, and operators applied to two operands.
* `Expression.text` — an expression with parentheses around every operator.
-/

namespace Daybook

/-! ## Operators -/

/-- The binary operators. -/
inductive Operator where
  | multiply | divide
  | add | subtract
  | equal | notEqual | less | lessOrEqual | greater | greaterOrEqual | matching | notMatching
  | and
  | or
  deriving Repr, DecidableEq, Inhabited

/-- The sign of an operator. -/
def Operator.symbol : Operator → String
  | multiply => "*"
  | divide => "/"
  | add => "+"
  | subtract => "-"
  | equal => "=="
  | notEqual => "!="
  | less => "<"
  | lessOrEqual => "<="
  | greater => ">"
  | greaterOrEqual => ">="
  | matching => "=~"
  | notMatching => "!~"
  | and => "&&"
  | or => "||"

/-! ## Expressions -/

/-- An expression of the ledger language. -/
inductive Expression where
  | amount (value : Amount)
  | bool (value : Bool)
  | string (text : String)
  | regex (pattern : String)
  | name (identifier : String)
  | binary (operator : Operator) (left right : Expression)
  deriving Repr, BEq, Inhabited

namespace Expression

/-- The text of an expression. Every operator stands between parentheses with its operands. -/
def text : Expression → String
  | amount value => value.text
  | bool value => if value then "true" else "false"
  | string text => "\"" ++ text ++ "\""
  | regex pattern => "/" ++ pattern ++ "/"
  | .name identifier => identifier
  | binary operator left right =>
    "(" ++ left.text ++ " " ++ operator.symbol ++ " " ++ right.text ++ ")"

end Expression

end Daybook
