import Daybook.Unicode.Name

set_option relaxedAutoImplicit false
set_option autoImplicit false

/-!
# Classes of characters in patterns

The classes that a pattern has short names for.

## Main definitions

* `CharClass.digits`, `blanks`, `wordChars` — the classes with a letter of their own, and their
  ASCII parts.
* `CharClass.posix?` — the classes with a name between colons.
-/

namespace Daybook.Regex.CharClass

open Unicode (CodeSet)

/-- The union of ranges of characters. -/
def ranges (ends : List (Char × Char)) : CodeSet :=
  CodeSet.unions (ends.map fun e => .range e.1 e.2)

/-! ## Classes with a letter of their own -/

/-- The digits of all scripts. -/
def digits : CodeSet :=
  .ofTable Unicode.Table.decimalNumber

/-- The ASCII digits. -/
def asciiDigits : CodeSet :=
  .range '0' '9'

/-- The blanks of all kinds. -/
def blanks : CodeSet :=
  Unicode.CharClass.whiteSpace

/-- The ASCII blanks. -/
def asciiBlanks : CodeSet :=
  ranges [('\t', '\r'), (' ', ' ')]

/-- The characters of words. -/
def wordChars : CodeSet :=
  Unicode.CharClass.wordChar

/-- The ASCII characters of words. -/
def asciiWordChars : CodeSet :=
  ranges [('0', '9'), ('A', 'Z'), ('_', '_'), ('a', 'z')]

/-! ## Classes with a name between colons -/

/-- The ASCII class with a name. -/
def posix? (name : String) : Option CodeSet :=
  match name with
  | "alnum" => some (ranges [('0', '9'), ('A', 'Z'), ('a', 'z')])
  | "alpha" => some (ranges [('A', 'Z'), ('a', 'z')])
  | "ascii" => some (.range '\x00' '\x7f')
  | "blank" => some (ranges [('\t', '\t'), (' ', ' ')])
  | "cntrl" => some (ranges [('\x00', '\x1f'), ('\x7f', '\x7f')])
  | "digit" => some asciiDigits
  | "graph" => some (.range '!' '~')
  | "lower" => some (.range 'a' 'z')
  | "print" => some (.range ' ' '~')
  | "punct" => some (ranges [('!', '/'), (':', '@'), ('[', '\x60'), ('\x7b', '~')])
  | "space" => some asciiBlanks
  | "upper" => some (.range 'A' 'Z')
  | "word" => some asciiWordChars
  | "xdigit" => some (ranges [('0', '9'), ('A', 'F'), ('a', 'f')])
  | _ => none

end Daybook.Regex.CharClass
