import Daybook.Expression.Basic
import Daybook.Expression.Value
import Daybook.Regex.Matching

set_option relaxedAutoImplicit false
set_option autoImplicit false

/-!
# Evaluation

The value of an expression, given the values of names. Both operands of an operator are evaluated,
the left one first, whatever the operator.

## Main definitions

* `EvalError`, `EvalError.message` — why an expression has no value.
* `Operator.apply` — an operator applied to two values.
* `Expression.evaluate` — the value of an expression.

## Design

Numbers of different known commodities cannot be combined or ordered, but they can be compared for
equality: values that differ in kind or in commodity are unequal, and no error arises. What is not
a number is unordered, so that every comparison with it is false.
-/

namespace Daybook

/-! ## Errors -/

/-- Why an expression has no value. -/
inductive EvalError where
  | undefinedName (name : String)
  | commodityMismatch (left right : Commodity)
  | kindMismatch (operator : Operator) (left right : Kind)
  | invalidRegex (pattern : String)
  deriving Repr, DecidableEq

/-- The text of an error. -/
def EvalError.message : EvalError → String
  | undefinedName name => s!"variable {name} not defined"
  | commodityMismatch left right =>
    s!"commodities {left.text} and {right.text} cannot be unified"
  | kindMismatch operator left right =>
    s!"operator {operator.symbol} cannot be applied to {left.text} and {right.text}"
  | invalidRegex pattern => s!"invalid regular expression /{pattern}/"

/-! ## Operators -/

namespace Operator

/-- The error of an operator that is not defined for the kinds of its operands. -/
def mismatch (o : Operator) (x y : Value) : EvalError :=
  .kindMismatch o x.kind y.kind

/-- An operation on two amounts. -/
def arithmetic (o : Operator) (operation : Amount → Amount → Option Amount) (x y : Value) :
    Except EvalError Value :=
  match x, y with
  | .amount a, .amount b =>
    match operation a b with
    | some c => .ok (.amount c)
    | none => .error (.commodityMismatch a.commodity b.commodity)
  | _, _ => .error (o.mismatch x y)

/-- An operation on two truth values. -/
def logical (o : Operator) (operation : Bool → Bool → Bool) (x y : Value) :
    Except EvalError Value :=
  match x, y with
  | .bool a, .bool b => .ok (.bool (operation a b))
  | _, _ => .error (o.mismatch x y)

/-- How two numbers are ordered. What is not a number is unordered. -/
def numberOrdering (a b : Float) : Option Ordering :=
  if a < b then some .lt
  else if a == b then some .eq
  else if b < a then some .gt
  else none

/-- How two amounts or two dates are ordered. -/
def ordering (o : Operator) (x y : Value) : Except EvalError (Option Ordering) :=
  match x, y with
  | .amount a, .amount b =>
    if (a.commodity.unify b.commodity).isSome then .ok (numberOrdering a.number b.number)
    else .error (.commodityMismatch a.commodity b.commodity)
  | .date a, .date b => .ok (some (compare a b))
  | _, _ => .error (o.mismatch x y)

/-- A condition on the order of two values, false where they are unordered. -/
def comparison (o : Operator) (accepts : Ordering → Bool) (x y : Value) :
    Except EvalError Value := do
  let order ← o.ordering x y
  return .bool (order.any accepts)

/-- Whether the text of the first value matches the pattern that the second one is. -/
def isMatch (o : Operator) (x y : Value) : Except EvalError Bool :=
  match x.matchedText, y with
  | some text, .regex pattern =>
    match Regex.isMatch? pattern text with
    | some answer => .ok answer
    | none => .error (.invalidRegex pattern)
  | _, _ => .error (o.mismatch x y)

/-- The value of an operator applied to two values. -/
def apply (o : Operator) (x y : Value) : Except EvalError Value :=
  match o with
  | multiply => o.arithmetic Amount.multiply x y
  | divide => o.arithmetic Amount.divide x y
  | add => o.arithmetic Amount.add x y
  | subtract => o.arithmetic Amount.subtract x y
  | equal => .ok (.bool (x == y))
  | notEqual => .ok (.bool (x != y))
  | less => o.comparison (· == .lt) x y
  | lessOrEqual => o.comparison (· != .gt) x y
  | greater => o.comparison (· == .gt) x y
  | greaterOrEqual => o.comparison (· != .lt) x y
  | matching => (o.isMatch x y).map .bool
  | notMatching => (o.isMatch x y).map fun answer => .bool !answer
  | and => o.logical (· && ·) x y
  | or => o.logical (· || ·) x y

end Operator

/-! ## Expressions -/

namespace Expression

/-- The value of an expression under a lookup. -/
def evaluate (lookup : Lookup) : Expression → Except EvalError Value
  | amount value => .ok (.amount value)
  | bool value => .ok (.bool value)
  | string text => .ok (.string text)
  | regex pattern => .ok (.regex pattern)
  | .name identifier =>
    match lookup identifier with
    | some value => .ok value
    | none => .error (.undefinedName identifier)
  | binary operator left right => do
    let x ← evaluate lookup left
    let y ← evaluate lookup right
    operator.apply x y

end Expression

end Daybook
