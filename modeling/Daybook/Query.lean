import Daybook.Ledger.Basic
import Daybook.Text.Words
import Daybook.Unicode.LetterCase

set_option relaxedAutoImplicit false
set_option autoImplicit false

/-!
# Queries

Transactions are searched by a query of words. Years and months select a period; every other word
is searched for in titles, accounts and amounts.

## Main definitions

* `QueryWord`, `QueryWord.ofString` — what a word of a query means.
* `Filter` — a condition on transactions.
* `Filter.ofQuery` — the filters of a query.
* `Filter.matchesEntry`, `Filter.matchesBooking` — whether a filter lets something pass.
-/

namespace Daybook

/-! ## Words -/

/-- What a word of a query means. -/
inductive QueryWord where
  | year (year : Int)
  | month (month : Nat)
  | other (text : String)
  deriving Repr, DecidableEq

namespace QueryWord

/-- The names of the months. -/
def monthNames : List String :=
  ["january", "february", "march", "april", "may", "june", "july", "august", "september",
    "october", "november", "december"]

/-- The first letters of a month's name, which stand for it. -/
def abbreviation (name : String) : String :=
  String.ofList (name.toList.take 3)

/-- The year that a word means: four digits, from 1900 to 2099. -/
def year? (word : String) : Option Nat :=
  let digits := word.toList
  if digits.length = 4 && digits.all Unicode.isDigit then
    let n := Decimal.natOfDigits digits
    if 1900 ≤ n && n < 2100 then some n else none
  else none

/-- The month that a word means: its name or the first three letters of it, in any case. -/
def month? (word : String) : Option Nat :=
  let lower := Unicode.lowerCase word
  (monthNames.findIdx? fun name => name == lower || abbreviation name == lower).map (· + 1)

/-- What a word means. -/
def ofString (word : String) : QueryWord :=
  match year? word with
  | some n => year n
  | none =>
    match month? word with
    | some n => month n
    | none => other word

/-- The words of a query. -/
def ofQuery (query : String) : List QueryWord :=
  (Text.words query).map ofString

/-- The year, if the word is one. -/
def asYear : QueryWord → Option Int
  | year n => some n
  | _ => none

/-- The month, if the word is one. -/
def asMonth : QueryWord → Option Nat
  | month n => some n
  | _ => none

/-- The text, if the word is neither a year nor a month. -/
def asText : QueryWord → Option String
  | other text => some text
  | _ => none

end QueryWord

/-! ## Filters -/

/-- A condition on transactions. -/
inductive Filter where
  /-- The name of an account begins with a text. -/
  | account (beginning : String)
  /-- A text occurs in the title, in an account or in an amount, in any case. -/
  | text (text : String)
  /-- The date lies between two dates or is one of them. -/
  | period (first last : Date)
  deriving Repr, DecidableEq

namespace Filter

/-- The last day of a month, in so far as periods go. -/
def lastDay : Nat := 31

/-- The period that a year and a month select. A month without a year is one of the current
year. -/
def periodOf (currentYear : Int) : Option Int → Option Nat → Option Filter
  | none, none => none
  | some year, none => some (period ⟨year, 1, 1⟩ ⟨year, 12, lastDay⟩)
  | year, some month =>
    let year := year.getD currentYear
    some (period ⟨year, month, 1⟩ ⟨year, month, lastDay⟩)

/-- The filters of the words of a query: their texts, and then the period that the last year and
the last month select. -/
def ofWords (currentYear : Int) (words : List QueryWord) : List Filter :=
  (words.filterMap QueryWord.asText).map text ++
    (periodOf currentYear (words.filterMap QueryWord.asYear).getLast?
      (words.filterMap QueryWord.asMonth).getLast?).toList

/-- The filters of a query. -/
def ofQuery (query : String) (currentYear : Int) : List Filter :=
  ofWords currentYear (QueryWord.ofQuery query)

/-- Whether a text occurs in another one, in any case. -/
def occursInAnyCase (part text : String) : Bool :=
  Text.containsText (Unicode.lowerCase text) (Unicode.lowerCase part)

/-- Whether an entry passes a filter. No entry passes a period, because it has no date. -/
def matchesEntry (f : Filter) (e : Entry) : Bool :=
  match f with
  | account beginning => Text.beginsWith beginning e.account
  | text part => occursInAnyCase part e.account || occursInAnyCase part e.amount.text
  | period _ _ => false

/-- Whether a booking passes a filter: by one of its entries, by its title or by its date. -/
def matchesBooking (f : Filter) (b : Booking) : Bool :=
  match f with
  | account _ => b.entries.any f.matchesEntry
  | text part => occursInAnyCase part b.title || b.entries.any f.matchesEntry
  | period first last => (compare first b.date).isLE && (compare b.date last).isLE

end Filter

/-- Whether a booking passes all filters. -/
def Booking.passes (b : Booking) (filters : List Filter) : Bool :=
  filters.all fun f => f.matchesBooking b

namespace Ledger

/-- The bookings that pass all filters. -/
def filtered (l : Ledger) (filters : List Filter) : List Booking :=
  l.bookings.filter fun b => b.passes filters

end Ledger

end Daybook
