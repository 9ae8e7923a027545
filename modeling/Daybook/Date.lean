import Daybook.Decimal.Basic

set_option relaxedAutoImplicit false
set_option autoImplicit false

/-!
# Dates

A date in the source may leave out its year, which is then the one declared last. No calendar is
consulted: month and day are any two numbers.

## Main definitions

* `Date` — a date with its year; dates are ordered by year, month and day.
* `WrittenDate` — a date as it stands in the source.
* `WrittenDate.resolve` — the date that a written date stands for.
-/

namespace Daybook

/-! ## Dates with their year -/

/-- A year, a month and a day. -/
structure Date where
  year : Int
  month : Nat
  day : Nat
  deriving Repr, DecidableEq, Inhabited

namespace Date

/-- By year, then by month, then by day. -/
instance : Ord Date where
  compare a b :=
    (compare a.year b.year).then ((compare a.month b.month).then (compare a.day b.day))

/-- The three numbers as they are, between slashes. -/
def text (d : Date) : String :=
  s!"{d.year}/{d.month}/{d.day}"

end Date

/-! ## Dates as written -/

/-- A month and a day, and a year unless it is left open. -/
structure WrittenDate where
  year : Option Int
  month : Nat
  day : Nat
  deriving Repr, DecidableEq, Inhabited

namespace WrittenDate

/-- The date that `d` stands for where `defaultYear` is declared; none if no year is known. -/
def resolve (d : WrittenDate) (defaultYear : Option Int) : Option Date :=
  (d.year.or defaultYear).map fun year => ⟨year, d.month, d.day⟩

/-- A month or a day in two digits, or more if it has more. -/
def twoDigits (n : Nat) : String :=
  String.ofList (Decimal.paddedDigits 2 n)

/-- The year, if there is one, and the month and the day in two digits. -/
def text (d : WrittenDate) : String :=
  let monthAndDay := twoDigits d.month ++ "/" ++ twoDigits d.day
  match d.year with
  | some year => s!"{year}/{monthAndDay}"
  | none => monthAndDay

end WrittenDate

end Daybook
