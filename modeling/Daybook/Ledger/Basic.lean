import Std.Data.TreeSet.Basic
import Daybook.Balance
import Daybook.Expression.Value
import Daybook.Statement

set_option relaxedAutoImplicit false
set_option autoImplicit false

/-!
# Ledgers

A ledger is what has become of the statements applied so far: declarations, rules, the transactions
booked, and the running balance of every account.

## Main definitions

* `Entry` — a posting whose value is known.
* `Booking` — a transaction whose postings are known.
* `Ledger` — the state.
* `Ledger.lookup` — the values that a ledger gives to names.
* `Ledger.commit` — a booking entered into the balances.
-/

namespace Daybook

/-! ## Entries and bookings -/

/-- A posting whose value is known. -/
structure Entry where
  account : String
  amount : Amount
  /-- The total cost, of the same sign as the amount. -/
  cost : Option Amount
  isVirtual : Bool
  deriving Repr, BEq, Inhabited

/-- What an entry adds to the balance of its account: its cost if it has one, else its amount. -/
def Entry.contribution (e : Entry) : Amount :=
  e.cost.getD e.amount

/-- The sums of what a list of entries contributes. -/
def Balance.ofEntries (entries : List Entry) : Balance :=
  Balance.ofAmounts (entries.map Entry.contribution)

/-- A transaction whose date and postings are known. -/
structure Booking where
  title : String
  date : Date
  status : Option Status
  entries : List Entry
  deriving Repr, BEq, Inhabited

/-- The sums of what a booking contributes. -/
def Booking.balance (b : Booking) : Balance :=
  Balance.ofEntries b.entries

/-! ## Ledgers -/

/-- What has become of the statements applied so far. -/
structure Ledger where
  year : Option Int
  definitions : Std.TreeMap String Value
  accounts : Std.TreeSet String
  commodities : Std.TreeSet String
  tags : Std.TreeSet String
  balance : Std.TreeMap String Balance
  rules : List Rule
  bookings : List Booking

namespace Ledger

/-- The ledger that no statement has been applied to. -/
def empty : Ledger :=
  ⟨none, ∅, ∅, ∅, ∅, ∅, [], []⟩

/-- The values of names: definitions, and the declared year under its own name. -/
def lookup (l : Ledger) : Lookup := fun name =>
  match l.definitions[name]? with
  | some value => some value
  | none =>
    if name = "year" then l.year.map fun year => Value.bare (Float.ofInt year) else none

/-- The balance of an account, if anything was posted to it. -/
def accountBalance (l : Ledger) (account : String) : Option Balance :=
  l.balance[account]?

/-- An entry added to the running balance of its account. -/
def postEntry (balance : Std.TreeMap String Balance) (e : Entry) : Std.TreeMap String Balance :=
  balance.alter e.account fun sums => some ((sums.getD ∅).post e.contribution)

/-- A booking entered into the balances and put behind the earlier ones. -/
def commit (l : Ledger) (b : Booking) : Ledger :=
  { l with balance := b.entries.foldl postEntry l.balance, bookings := l.bookings ++ [b] }

end Ledger

end Daybook
