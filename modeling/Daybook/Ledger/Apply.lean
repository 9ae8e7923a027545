import Daybook.Ledger.Booking

set_option relaxedAutoImplicit false
set_option autoImplicit false

/-!
# Applying statements

How the statements of a source change a ledger, one after another.

## Main definitions

* `Ledger.apply` — one statement; a ledger comes out only if it succeeds.
* `Ledger.applyAll` — all statements, up to the first that fails.
* `Ledger.applyEach` — all statements, passing over those that fail.
-/

namespace Daybook

namespace Ledger

/-- The ledger after a statement. -/
def apply (l : Ledger) : Statement → Except LedgerError Ledger
  | .year year => .ok { l with year := some year }
  | .definition name e =>
    match e.evaluate l.lookup with
    | .ok value => .ok { l with definitions := l.definitions.insert name value }
    | .error error => .error (.evaluation error)
  | .account name => .ok { l with accounts := l.accounts.insert name }
  | .commodity name => .ok { l with commodities := l.commodities.insert name }
  | .tag name => .ok { l with tags := l.tags.insert name }
  | .comment _ => .ok l
  | .rule rule => .ok { l with rules := l.rules ++ [rule] }
  | .transaction t =>
    match l.book t with
    | .ok booking => .ok (l.commit booking)
    | .error error => .error error

end Ledger

/-! ## Several statements -/

/-- A statement that failed, by its index, and the ledger with every statement before it. -/
structure StatementError where
  index : Nat
  source : LedgerError
  ledger : Ledger

/-- The text of an error. -/
def StatementError.message (e : StatementError) : String :=
  s!"statement {e.index} failed: {e.source.message}"

namespace Ledger

/-- The ledger after statements of which the first has the given index, or the first failure. -/
def applyFrom (index : Nat) (l : Ledger) : List Statement → Except StatementError Ledger
  | [] => .ok l
  | s :: rest =>
    match l.apply s with
    | .ok next => applyFrom (index + 1) next rest
    | .error source => .error ⟨index, source, l⟩

/-- The ledger that a list of statements makes of the empty one, or the first failure. -/
def applyAll (statements : List Statement) : Except StatementError Ledger :=
  applyFrom 0 empty statements

/-- The ledger after a statement, which is the one before it if the statement fails. -/
def step (l : Ledger) (s : Statement) : Ledger :=
  match l.apply s with
  | .ok next => next
  | .error _ => l

/-- What becomes of each statement in turn, a failure leaving the ledger as it is, and the ledger in
the end. -/
def applyEach (l : Ledger) : List Statement → List (Option LedgerError) × Ledger
  | [] => ([], l)
  | s :: rest =>
    let (results, last) := applyEach (l.step s) rest
    match l.apply s with
    | .ok _ => (none :: results, last)
    | .error error => (some error :: results, last)

end Ledger

end Daybook
