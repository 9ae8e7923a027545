import Daybook.Amount
import Daybook.Date

set_option relaxedAutoImplicit false
set_option autoImplicit false

/-!
# Values

What expressions evaluate to, and where the values of names come from.

## Main definitions

* `Value`, `Kind` — a value and which kind of value it is.
* `Value.text` — the text of a value.
* `Value.matchedText` — the text that a regular expression is matched against.
* `Lookup` — the values of names; `Lookup.layers` puts several of them in front of each other.
-/

namespace Daybook

/-! ## Values -/

/-- The kinds of values. -/
inductive Kind where
  | amount | string | regex | bool | date
  deriving Repr, DecidableEq

/-- The word for a kind of value. -/
def Kind.text : Kind → String
  | amount => "amount"
  | string => "string"
  | regex => "regex"
  | bool => "bool"
  | date => "date"

/-- What an expression evaluates to. -/
inductive Value where
  | amount (value : Amount)
  | string (text : String)
  | regex (pattern : String)
  | bool (value : Bool)
  | date (value : Date)
  deriving Repr, BEq, Inhabited

namespace Value

/-- The kind of a value. -/
def kind : Value → Kind
  | amount _ => .amount
  | string _ => .string
  | regex _ => .regex
  | bool _ => .bool
  | date _ => .date

/-- The text of a value. A string stands for itself, without quotes. -/
def text : Value → String
  | amount value => value.text
  | string text => text
  | regex pattern => "/" ++ pattern ++ "/"
  | bool value => if value then "true" else "false"
  | date value => value.text

/-- The text that a regular expression is matched against. Only strings and dates have one. -/
def matchedText : Value → Option String
  | string text => some text
  | date value => some value.text
  | _ => none

/-- A number without a commodity. -/
def bare (number : Float) : Value :=
  amount (Amount.bare number)

end Value

/-! ## The values of names -/

/-- The values of names. -/
abbrev Lookup := String → Option Value

namespace Lookup

/-- The lookup that knows no name. -/
def empty : Lookup :=
  fun _ => none

/-- Several lookups as one: the first that knows a name gives its value. -/
def layers (ls : List Lookup) : Lookup :=
  fun name => ls.findSome? fun l => l name

end Lookup

end Daybook
