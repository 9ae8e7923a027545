import Daybook.Date
import Daybook.Expression.Basic

set_option relaxedAutoImplicit false
set_option autoImplicit false

/-!
# Statements

The statements of a ledger source: declarations, comments, transactions and the rules that add
postings to later transactions.

## Main definitions

* `Posting`, `Cost` — one line of a transaction.
* `Transaction` — a dated list of postings.
* `Rule`, `Template` — postings to be added to every posting that a condition holds for.
* `Statement` — any statement.
-/

namespace Daybook

/-! ## Transactions -/

/-- What the cost of a posting is the price of. -/
inductive CostKind where
  | perUnit
  | total
  deriving Repr, DecidableEq, Inhabited

/-- The cost of a posting. -/
structure Cost where
  kind : CostKind
  amount : Amount
  deriving Repr, BEq, Inhabited

/-- One line of a transaction. A posting without a value balances the others. -/
structure Posting where
  account : String
  value : Option Expression
  cost : Option Cost
  /-- The balance that the account is claimed to have. -/
  balance : Option Amount
  /-- Whether the account stands in brackets. -/
  isVirtual : Bool
  notes : List String
  deriving Repr, BEq, Inhabited

/-- How far a transaction has been confirmed. -/
inductive Status where
  | cleared
  | pending
  deriving Repr, DecidableEq, Inhabited

/-- The sign of a status. -/
def Status.symbol : Status → String
  | cleared => "*"
  | pending => "!"

/-- A dated list of postings. -/
structure Transaction where
  date : WrittenDate
  status : Option Status
  title : String
  notes : List String
  postings : List Posting
  deriving Repr, BEq, Inhabited

/-! ## Rules -/

/-- A posting that a rule adds. A value without a commodity is a multiple of the amount of the
posting that the rule applies to. -/
structure Template where
  account : String
  value : Expression
  isVirtual : Bool
  deriving Repr, BEq, Inhabited

/-- An automated transaction: its templates are added for every posting of a later transaction that
the condition holds for. -/
structure Rule where
  condition : Expression
  templates : List Template
  deriving Repr, BEq, Inhabited

/-! ## Statements -/

/-- A statement of a ledger source. -/
inductive Statement where
  | year (year : Int)
  | definition (name : String) (expression : Expression)
  | account (name : String)
  | commodity (name : String)
  | tag (name : String)
  | comment (text : String)
  | transaction (transaction : Transaction)
  | rule (rule : Rule)
  deriving Repr, BEq, Inhabited

end Daybook
