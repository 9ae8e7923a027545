import Daybook.Unicode.Category
import Daybook.Unicode.Table.Derived
import Daybook.Unicode.Table.Listed

set_option relaxedAutoImplicit false
set_option autoImplicit false

/-!
# Derived classes of characters

The classes of characters that are unions and differences of general categories and of tables, as
version 16.0 of the character database has them.

## Main definitions

* `CharClass.alphabetic`, `lowerCase`, `upperCase`, … — the derived properties.
* `CharClass.identifierStart`, `identifierContinue` — the characters of identifiers.
* `CharClass.wordChar` — the characters of words.
-/

namespace Daybook.Unicode.CharClass

/-- Blanks of every kind. -/
def whiteSpace : CodeSet :=
  .ofTable Table.whiteSpace

/-- The characters of ASCII. -/
def ascii : CodeSet :=
  .range '\x00' '\x7f'

/-! ## Letters -/

/-- Letters, letter numbers and the code points that count as such. -/
def alphabetic : CodeSet :=
  (Category.unionOf (.letterNumber :: Category.letters)).union (.ofTable Table.otherAlphabetic)

/-- Small letters and the code points that count as such. -/
def lowerCase : CodeSet :=
  .ofTables [Table.lowerCaseLetter, Table.otherLowerCase]

/-- Capitals and the code points that count as such. -/
def upperCase : CodeSet :=
  .ofTables [Table.upperCaseLetter, Table.otherUpperCase]

/-- Characters that have case. -/
def cased : CodeSet :=
  (lowerCase.union upperCase).union (.ofTable Table.titleCaseLetter)

/-- Characters that are passed over when the case of their neighbours is decided. -/
def caseIgnorable : CodeSet :=
  (Category.unionOf
    [.nonspacingMark, .enclosingMark, .format, .modifierLetter, .modifierSymbol]).union
    (.ofTable Table.wordBreakIgnorable)

/-! ## Graphemes -/

/-- Characters that combine with the one before them. -/
def graphemeExtend : CodeSet :=
  .ofTables [Table.nonspacingMark, Table.enclosingMark, Table.otherGraphemeExtend]

/-- Characters that are neither invisible nor extend the one before them. -/
def graphemeBase : CodeSet :=
  (Category.unionOf (.spaceSeparator :: Category.graphic)).diff graphemeExtend

/-! ## Mathematics -/

/-- Mathematical characters. -/
def math : CodeSet :=
  .ofTables [Table.mathSymbol, Table.otherMath]

/-! ## Identifiers and words -/

/-- Characters that may begin an identifier. -/
def identifierStart : CodeSet :=
  ((Category.unionOf (.letterNumber :: Category.letters)).union (.ofTable Table.otherStart)).diff
    (.ofTable Table.Listed.notStart)

/-- Characters that may go on an identifier. -/
def identifierContinue : CodeSet :=
  CodeSet.unions
    [identifierStart,
      Category.unionOf [.nonspacingMark, .spacingMark, .decimalNumber, .connectorPunctuation],
      .ofTable Table.otherContinue]

/-- Characters that may begin an identifier in every normal form. -/
def normalIdentifierStart : CodeSet :=
  identifierStart.diff (.ofTable Table.Listed.notNormalStart)

/-- Characters that may go on an identifier in every normal form. -/
def normalIdentifierContinue : CodeSet :=
  identifierContinue.diff (.ofTable Table.Listed.notNormalContinue)

/-- The characters of words: alphabetic characters, marks, digits, connecting punctuation and the
controls of joining. -/
def wordChar : CodeSet :=
  CodeSet.unions
    [alphabetic, Category.unionOf (Category.marks ++ [.decimalNumber, .connectorPunctuation]),
      .ofTable Table.Listed.joinControl]

end Daybook.Unicode.CharClass
