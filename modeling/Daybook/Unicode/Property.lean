import Daybook.Unicode.Category
import Daybook.Unicode.Table.Derived
import Daybook.Unicode.Table.Recent

set_option relaxedAutoImplicit false
set_option autoImplicit false

/-!
# Properties of characters in text

The character classes that ledger text depends on: blanks, the characters of identifiers, and the
characters that can be shown as they are. They follow version 17.0 of the character database.

## Main definitions

* `isBlank` — the property `White_Space`.
* `isAlphanumeric` — alphabetic characters and numbers of all kinds.
* `isPrintable` — characters that draw something, and the plain space.
* `extendsGrapheme` — combining characters.
* `isCased`, `isCaseIgnorable` — what decides between the two small forms of sigma.

## Design

Each class is made from the tables of version 16.0, and from what version 17.0 has added to it. The
tables are searched only outside ASCII. Within it each class is a plain range test, so that closed
terms about ordinary text evaluate at once.
-/

namespace Daybook.Unicode

/-- The characters of the first 128 code points. -/
def isAscii (c : Char) : Bool :=
  c.toNat < 0x80

/-- Blanks of every kind, the line ends among them. -/
def isBlank (c : Char) : Bool :=
  Table.whiteSpace.contains c

/-- The decimal digits `0` to `9`. -/
def isDigit (c : Char) : Bool :=
  '0' ≤ c && c ≤ '9'

/-- Letters, letter numbers and the code points that count as such. -/
def isAlphabetic (c : Char) : Bool :=
  if isAscii c then ('a' ≤ c && c ≤ 'z') || ('A' ≤ c && c ≤ 'Z')
  else Category.anyContains (.letterNumber :: Category.letters) c ||
    Table.otherAlphabetic.contains c || Table.Recent.alphabetic.contains c

/-- Numbers of every kind, fractions and superscripts among them. -/
def isNumeric (c : Char) : Bool :=
  if isAscii c then isDigit c
  else Category.anyContains Category.numbers c || Table.Recent.numeric.contains c

/-- The characters of words: alphabetic ones and numbers. -/
def isAlphanumeric (c : Char) : Bool :=
  isAlphabetic c || isNumeric c

/-- Characters that combine with the one before them. -/
def extendsGrapheme (c : Char) : Bool :=
  if isAscii c then false
  else Category.anyContains [.nonspacingMark, .enclosingMark] c ||
    Table.otherGraphemeExtend.contains c || Table.Recent.graphemeExtend.contains c

/-- Characters that can be shown as they are. Of the blanks only the plain space can. -/
def isPrintable (c : Char) : Bool :=
  if isAscii c then ' ' ≤ c && c ≤ '~'
  else Category.anyContains Category.graphic c || Table.Recent.graphic.contains c

/-- Characters that have case: small letters, capitals, and what counts as such. -/
def isCased (c : Char) : Bool :=
  if isAscii c then ('a' ≤ c && c ≤ 'z') || ('A' ≤ c && c ≤ 'Z')
  else
    (Category.anyContains Category.casedLetters c || Table.otherLowerCase.contains c ||
      Table.otherUpperCase.contains c || Table.Recent.cased.contains c) &&
      !Table.Recent.uncased.contains c

/-- Characters that are passed over when the case of their neighbours is decided. -/
def isCaseIgnorable (c : Char) : Bool :=
  Category.anyContains
      [.nonspacingMark, .enclosingMark, .format, .modifierLetter, .modifierSymbol] c ||
    Table.wordBreakIgnorable.contains c || Table.Recent.caseIgnorable.contains c

end Daybook.Unicode
