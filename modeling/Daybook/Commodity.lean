set_option relaxedAutoImplicit false
set_option autoImplicit false

/-!
# Commodities

What an amount counts: a currency, a share, any unit with a symbol. An amount whose commodity is
not known takes on the commodity of the amount it is combined with.

## Main definitions

* `Commodity` — a symbol, or not known.
* `Commodity.unify` — the commodity of a combination.
* `Commodity.text` — the text of a commodity in a message.

The order of commodities puts the unknown one first and the symbols after it, by code point.
-/

namespace Daybook

/-- What an amount counts. -/
inductive Commodity where
  | unknown
  | known (symbol : String)
  deriving Repr, DecidableEq, Inhabited

namespace Commodity

/-- The symbol of a commodity, if it is known. -/
def symbol? : Commodity → Option String
  | unknown => none
  | known symbol => some symbol

/-- The commodity with a symbol that may be missing. -/
def ofSymbol? : Option String → Commodity
  | none => unknown
  | some symbol => known symbol

/-- Whether the commodity is known. -/
def isKnown (c : Commodity) : Bool :=
  c.symbol?.isSome

/-- The symbol of a commodity, empty if it is not known. -/
def symbolText (c : Commodity) : String :=
  c.symbol?.getD ""

/-- The text of a commodity in a message. -/
def text (c : Commodity) : String :=
  c.symbol?.getD "(none)"

/-- The commodity of two amounts combined: an unknown one gives way to the other. Two known
commodities combine only if they are the same. -/
def unify : Commodity → Commodity → Option Commodity
  | unknown, c => some c
  | c, unknown => some c
  | known a, known b => if a = b then some (known a) else none

/-- The unknown commodity comes first, then the symbols by code point. -/
instance : Ord Commodity :=
  ⟨compareOn symbol?⟩

instance : Std.TransOrd Commodity :=
  inferInstanceAs (Std.TransCmp (compareOn symbol?))

instance : Std.LawfulEqOrd Commodity where
  eq_of_compare {a b} h := by
    have h' : compare a.symbol? b.symbol? = .eq := h
    have same := Std.LawfulEqCmp.eq_of_compare h'
    cases a <;> cases b <;> simp_all [symbol?]

end Commodity

end Daybook
