import Daybook.Unicode.CodeSet
import Daybook.Unicode.Table.Letter
import Daybook.Unicode.Table.Mark
import Daybook.Unicode.Table.Number
import Daybook.Unicode.Table.Punctuation
import Daybook.Unicode.Table.Symbol
import Daybook.Unicode.Table.Separator

set_option relaxedAutoImplicit false
set_option autoImplicit false

/-!
# General categories

Every assigned code point belongs to exactly one general category. A category is its table, and
the groups of categories (letters, marks, numbers and so on) are lists of tables.

## Main definitions

* `Category` — the general categories.
* `Category.anyContains` — whether a character has one of several categories.
* `Category.members` — the code points of a category.
* `Category.letters`, `Category.marks`, … — the groups of categories.
-/

namespace Daybook.Unicode

/-- The general category of a code point. -/
inductive Category where
  | upperCaseLetter | lowerCaseLetter | titleCaseLetter | modifierLetter | otherLetter
  | nonspacingMark | spacingMark | enclosingMark
  | decimalNumber | letterNumber | otherNumber
  | connectorPunctuation | dashPunctuation | openPunctuation | closePunctuation
  | initialPunctuation | finalPunctuation | otherPunctuation
  | mathSymbol | currencySymbol | modifierSymbol | otherSymbol
  | spaceSeparator | lineSeparator | paragraphSeparator
  | control | format | surrogate | privateUse | unassigned
  deriving Repr, DecidableEq

namespace Category

/-! ## Groups -/

/-- The letters that have case. -/
def casedLetters : List Category := [upperCaseLetter, lowerCaseLetter, titleCaseLetter]

/-- All letters. -/
def letters : List Category := casedLetters ++ [modifierLetter, otherLetter]

/-- All marks. -/
def marks : List Category := [nonspacingMark, spacingMark, enclosingMark]

/-- All numbers. -/
def numbers : List Category := [decimalNumber, letterNumber, otherNumber]

/-- All punctuation. -/
def punctuation : List Category :=
  [connectorPunctuation, dashPunctuation, openPunctuation, closePunctuation, initialPunctuation,
    finalPunctuation, otherPunctuation]

/-- All symbols. -/
def symbols : List Category := [mathSymbol, currencySymbol, modifierSymbol, otherSymbol]

/-- All separators. -/
def separators : List Category := [spaceSeparator, lineSeparator, paragraphSeparator]

/-- Every category of assigned code points that are not separators, controls or the like: those
that draw something. -/
def graphic : List Category := letters ++ marks ++ numbers ++ punctuation ++ symbols

/-- Controls, format characters, and the areas that are reserved or not assigned. -/
def others : List Category := [control, format, surrogate, privateUse, unassigned]

/-! ## Membership -/

/-- The table of a category. The unassigned code points have none: they are those in no other
table. -/
def table : Category → Table
  | upperCaseLetter => Table.upperCaseLetter
  | lowerCaseLetter => Table.lowerCaseLetter
  | titleCaseLetter => Table.titleCaseLetter
  | modifierLetter => Table.modifierLetter
  | otherLetter => Table.otherLetter
  | nonspacingMark => Table.nonspacingMark
  | spacingMark => Table.spacingMark
  | enclosingMark => Table.enclosingMark
  | decimalNumber => Table.decimalNumber
  | letterNumber => Table.letterNumber
  | otherNumber => Table.otherNumber
  | connectorPunctuation => Table.connectorPunctuation
  | dashPunctuation => Table.dashPunctuation
  | openPunctuation => Table.openPunctuation
  | closePunctuation => Table.closePunctuation
  | initialPunctuation => Table.initialPunctuation
  | finalPunctuation => Table.finalPunctuation
  | otherPunctuation => Table.otherPunctuation
  | mathSymbol => Table.mathSymbol
  | currencySymbol => Table.currencySymbol
  | modifierSymbol => Table.modifierSymbol
  | otherSymbol => Table.otherSymbol
  | spaceSeparator => Table.spaceSeparator
  | lineSeparator => Table.lineSeparator
  | paragraphSeparator => Table.paragraphSeparator
  | control => Table.control
  | format => Table.format
  | surrogate => Table.surrogate
  | privateUse => Table.privateUse
  | unassigned => []

/-- Whether a character has one of the categories, which are those of assigned code points. -/
def anyContains (categories : List Category) (c : Char) : Bool :=
  categories.any fun category => category.table.contains c

/-- The code points that have a category in the tables. -/
def assigned : CodeSet :=
  CodeSet.ofTables
    ((graphic ++ separators ++ [control, format, surrogate, privateUse]).map table)

/-- The code points of a category. -/
def members : Category → CodeSet
  | unassigned => assigned.compl
  | other => CodeSet.ofTable other.table

/-- The code points of several categories. -/
def unionOf (categories : List Category) : CodeSet :=
  CodeSet.unions (categories.map members)

end Category

end Daybook.Unicode
