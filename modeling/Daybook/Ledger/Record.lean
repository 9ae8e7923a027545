import Daybook.Ledger.Apply

set_option relaxedAutoImplicit false
set_option autoImplicit false

/-!
# Records

What is put on record while a statement is applied. A statement that fails in the end leaves the
records of what went well before.

## Main definitions

* `Record`, `Record.text` — one record.
* `Ledger.bookingRecords` — the records of evaluating a transaction.
* `Ledger.records` — the records of applying a statement.
-/

namespace Daybook

/-- One record. -/
inductive Record where
  | defined (name : String) (value : Value)
  | ruleAdded (condition : Expression)
  | converted (conversion : Balance.Conversion)
  | ruleApplied (account : String) (condition : Expression)
  | booked (booking : Booking)
  deriving Repr

namespace Record

/-- The level of a record. Only an exchange that could not be verified is worth a warning. -/
def level : Record → String
  | converted _ => "WARN"
  | _ => "DEBUG"

/-- What a record says. -/
def body : Record → String
  | defined name value => s!"define {name} = {value.text}"
  | ruleAdded condition => s!"automated transaction on {condition.text}"
  | converted c =>
    s!"implicit conversion between {c.first.text} ({numberText c.firstSum}) and " ++
      s!"{c.second.text} ({numberText c.secondSum}), balance not verified"
  | ruleApplied account condition => s!"{account} matches automated transaction {condition.text}"
  | booked b => s!"{b.date.text} {b.title}: {b.entries.length} postings"

/-- The level and the text of a record. -/
def text (r : Record) : String :=
  r.level ++ " " ++ r.body

end Record

namespace Ledger

/-- The records of applying the rules on the given occasions, as far as nothing fails. -/
def additionRecords (l : Ledger) (date : Date) : List (Entry × Rule) → List Record
  | [] => []
  | (e, r) :: rest =>
    match l.holds date r e, l.additionsOf date e r with
    | .ok true, .ok _ => .ruleApplied e.account r.condition :: additionRecords l date rest
    | .ok true, .error _ => [.ruleApplied e.account r.condition]
    | .ok false, _ => additionRecords l date rest
    | .error _, _ => []

/-- The records of evaluating a transaction. -/
def bookingRecords (l : Ledger) (t : Transaction) : List Record :=
  match l.dateOf t with
  | .error _ => []
  | .ok date =>
    match l.baseEntries date t with
    | .error _ => []
    | .ok base =>
      let sums := Balance.ofEntries base
      let conversion := (sums.conversion?.map Record.converted).toList
      match verify sums with
      | .error _ => conversion
      | .ok _ => conversion ++ l.additionRecords date (l.occasions base)

/-- The records of applying a statement. -/
def records (l : Ledger) : Statement → List Record
  | .definition name e =>
    match e.evaluate l.lookup with
    | .ok value => [.defined name value]
    | .error _ => []
  | .rule r => [.ruleAdded r.condition]
  | .transaction t =>
    l.bookingRecords t ++
      match l.book t with
      | .ok booking => [.booked booking]
      | .error _ => []
  | _ => []

/-- The records of applying each statement in turn, a failure leaving the ledger as it is. -/
def eachRecords (l : Ledger) : List Statement → List Record
  | [] => []
  | s :: rest => l.records s ++ eachRecords (l.step s) rest

end Ledger

end Daybook
