import Daybook.Expression.Evaluation
import Daybook.Ledger.Basic

set_option relaxedAutoImplicit false
set_option autoImplicit false

/-!
# Booking transactions

How a transaction becomes a list of entries: its values are evaluated, a posting without a value
takes what the others leave open, the sums are verified, and the rules add their postings.

## Main definitions

* `LedgerError`, `LedgerError.message` — why a statement cannot be applied.
* `Ledger.entryOf` — the entry of a posting with a value.
* `Ledger.balancing` — the entries of the posting without one.
* `verify` — whether the sums are zero.
* `Ledger.additions` — the entries that the rules add.
* `Ledger.book` — all of it.

## Design

The names in the value of a posting are looked up in the posting, then in the transaction, then in
the ledger. A condition of a rule also knows the commodity of the entry it is put to; the templates
of a rule know nothing of the entry. What the rules add is not matched again.
-/

namespace Daybook

/-! ## Errors -/

/-- Why a statement cannot be applied. -/
inductive LedgerError where
  | noYear (date : WrittenDate)
  | severalWithoutValue (count : Nat)
  | notAnAmount (account : String)
  | unbalanced (commodity : Commodity) (residual : Float)
  | notABoolean
  | evaluation (error : EvalError)
  deriving Repr

/-- The text of an error. -/
def LedgerError.message : LedgerError → String
  | noYear date => s!"no year specified for {date.text}"
  | severalWithoutValue count => s!"{count} postings without value, at most one is allowed"
  | notAnAmount account => s!"posting value for {account} does not evaluate to an amount"
  | unbalanced commodity residual =>
    s!"postings of commodity {commodity.text} not balanced: {numberText residual}"
  | notABoolean => "automated transaction expression does not evaluate to a boolean"
  | evaluation error => error.message

/-! ## Names -/

/-- The names that the date of a transaction gives values to. -/
def Date.lookup (d : Date) : Lookup
  | "date" => some (.date d)
  | "year" => some (.bare (Float.ofInt d.year))
  | "month" => some (.bare (Float.ofNat d.month))
  | "day" => some (.bare (Float.ofNat d.day))
  | _ => none

/-- The name that a posting gives a value to before its value is known. -/
def Posting.lookup (p : Posting) : Lookup
  | "account" => some (.string p.account)
  | _ => none

/-- The names that an entry gives values to. -/
def Entry.lookup (e : Entry) : Lookup
  | "account" => some (.string e.account)
  | "commodity" => some (.string e.amount.commodity.symbolText)
  | _ => none

/-! ## Values -/

/-- The value of an expression, which has to be an amount, for the account it is meant for. -/
def evaluateAmount (lookup : Lookup) (account : String) (e : Expression) :
    Except LedgerError Amount :=
  match e.evaluate lookup with
  | .error error => .error (.evaluation error)
  | .ok (.amount a) => .ok a
  | .ok _ => .error (.notAnAmount account)

/-- The cost that counts in the balance. The price of a unit does not. -/
def Cost.counted (amount : Amount) (c : Cost) : Option Amount :=
  match c.kind with
  | .total => some (c.amount.withSignOf amount)
  | .perUnit => none

namespace Ledger

/-- The entry of a posting with the value `e`. -/
def entryOf (l : Ledger) (date : Date) (p : Posting) (e : Expression) :
    Except LedgerError Entry := do
  let lookup := Lookup.layers [p.lookup, date.lookup, l.lookup]
  let amount ← evaluateAmount lookup p.account e
  return ⟨p.account, amount, p.cost.bind (Cost.counted amount), p.isVirtual⟩

/-- The entries of the postings with a value, in their order. -/
def valuedEntries (l : Ledger) (date : Date) (postings : List Posting) :
    Except LedgerError (List Entry) :=
  (postings.filterMap fun p => p.value.map fun e => (p, e)).mapM fun (p, e) => l.entryOf date p e

/-! ## The posting without a value -/

/-- The entries with which a posting without a value balances the others: one for every commodity
whose sum is not negligible, in the order of commodities. -/
def balancing (entries : List Entry) (p : Posting) : List Entry :=
  ((Balance.ofEntries entries).toList.filter fun sum => !Balance.isNegligible sum.2).map
    fun sum => ⟨p.account, ⟨-sum.2, sum.1⟩, none, p.isVirtual⟩

/-! ## Verification -/

/-- Every sum has to be zero, unless two commodities have been exchanged for one another. -/
def verify (b : Balance) : Except LedgerError Unit :=
  if b.conversion?.isSome then .ok ()
  else
    match b.unbalanced? with
    | some (commodity, residual) => .error (.unbalanced commodity residual)
    | none => .ok ()

/-! ## Rules -/

/-- Whether the condition of a rule holds for an entry. -/
def holds (l : Ledger) (date : Date) (r : Rule) (e : Entry) : Except LedgerError Bool :=
  match r.condition.evaluate (Lookup.layers [e.lookup, date.lookup, l.lookup]) with
  | .error error => .error (.evaluation error)
  | .ok (.bool answer) => .ok answer
  | .ok _ => .error .notABoolean

/-- The amount that a template stands for at an entry: without a commodity it is a multiple of the
amount of the entry. -/
def scaled (a : Amount) (e : Entry) : Amount :=
  match a.commodity with
  | .known _ => a
  | .unknown => ⟨a.number * e.amount.number, e.amount.commodity⟩

/-- The entry that a template adds. -/
def instanceOf (l : Ledger) (date : Date) (e : Entry) (t : Template) :
    Except LedgerError Entry := do
  let a ← evaluateAmount (Lookup.layers [date.lookup, l.lookup]) t.account t.value
  return ⟨t.account, scaled a e, none, t.isVirtual⟩

/-- The entries that a rule adds at an entry. -/
def additionsOf (l : Ledger) (date : Date) (e : Entry) (r : Rule) :
    Except LedgerError (List Entry) := do
  if ← l.holds date r e then r.templates.mapM (l.instanceOf date e) else return []

/-- Every entry with every rule, the rules running faster. -/
def occasions (l : Ledger) (entries : List Entry) : List (Entry × Rule) :=
  entries.flatMap fun e => l.rules.map fun r => (e, r)

/-- The entries that the rules add. -/
def additions (l : Ledger) (date : Date) (entries : List Entry) :
    Except LedgerError (List Entry) := do
  let added ← (l.occasions entries).mapM fun (e, r) => l.additionsOf date e r
  return added.flatten

/-! ## Transactions -/

/-- The date of a transaction. -/
def dateOf (l : Ledger) (t : Transaction) : Except LedgerError Date :=
  match t.date.resolve l.year with
  | some date => .ok date
  | none => .error (.noYear t.date)

/-- The postings without a value, of which there may be one at most. -/
def withoutValue (t : Transaction) : Except LedgerError (Option Posting) :=
  match t.postings.filter fun p => p.value.isNone with
  | [] => .ok none
  | [p] => .ok (some p)
  | several => .error (.severalWithoutValue several.length)

/-- The entries of the transaction itself, before the rules add theirs and before they are
verified. -/
def baseEntries (l : Ledger) (date : Date) (t : Transaction) : Except LedgerError (List Entry) := do
  let open? ← withoutValue t
  let valued ← l.valuedEntries date t.postings
  return valued ++ open?.elim [] (balancing valued)

/-- The booking of a transaction. The ledger is only looked at. -/
def book (l : Ledger) (t : Transaction) : Except LedgerError Booking := do
  let date ← l.dateOf t
  let base ← l.baseEntries date t
  verify (Balance.ofEntries base)
  let added ← l.additions date base
  return ⟨t.title, date, t.status, base ++ added⟩

end Ledger

end Daybook
