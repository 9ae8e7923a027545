import Daybook.Unicode.Property
import Daybook.Unicode.Table.LetterCase

set_option relaxedAutoImplicit false
set_option autoImplicit false

/-!
# Letter case

Lower-casing a text, and the classes of characters that differ in case alone. Lower-casing follows
version 17.0 of the character database, and the classes version 16.0.

## Main definitions

* `lowerCase` — the lower-case form of a text.
* `closeCase` — a set with all that differs from its members in case alone.
* `closeAsciiCase` — the same for the ASCII letters alone.

## Design

Two characters have a lower-case form of their own. A dotted capital I becomes two characters, so
that its dot is kept. A capital sigma at the end of a word becomes the final sigma; a word ends
where no cased character follows, characters that case ignores being passed over.
-/

namespace Daybook.Unicode

/-! ## Lower-casing -/

/-- The lower-case form of a character that is not a sigma. -/
def lowerCaseOf (c : Char) : List Char :=
  if c = 'İ' then ['i', '\u0307'] else [shifted Table.lowerCase c]

/-- Whether the first character that case does not ignore is a cased one. -/
def meetsCased (cs : List Char) : Bool :=
  match cs.dropWhile isCaseIgnorable with
  | [] => false
  | c :: _ => isCased c

/-- Lower-cases `cs`, which stands after the characters `before`, the nearest first. -/
def lowerCaseAfter (before : List Char) : List Char → List Char
  | [] => []
  | c :: rest =>
    let here :=
      if c = 'Σ' then
        if meetsCased before && !meetsCased rest then ['ς'] else ['σ']
      else lowerCaseOf c
    here ++ lowerCaseAfter (c :: before) rest

/-- The lower-case form of a text. -/
def lowerCase (text : String) : String :=
  String.ofList (lowerCaseAfter [] text.toList)

/-! ## Case classes -/

/-- The code points that case folding changes, each with what it becomes. -/
def casePairs : List (Nat × Nat) :=
  shiftedPairs Table.caseFold

/-- A set with all code points that differ from its members in case alone. -/
def closeCase (s : CodeSet) : CodeSet :=
  s.closure casePairs

/-- The ASCII capitals, each with its small letter. -/
def asciiCasePairs : List (Nat × Nat) :=
  shiftedPairs [⟨⟨'A'.toNat, 'Z'.toNat, 1⟩, 32⟩]

/-- A set with all code points that differ from its members in the case of an ASCII letter
alone. -/
def closeAsciiCase (s : CodeSet) : CodeSet :=
  s.closure asciiCasePairs

end Daybook.Unicode
