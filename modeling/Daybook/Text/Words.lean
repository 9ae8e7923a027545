import Daybook.Unicode.Property

set_option relaxedAutoImplicit false
set_option autoImplicit false

/-!
# Pieces of a text

Cutting a text at separators, and finding one text in another.

## Main definitions

* `pieces` — the parts between separators, empty ones included.
* `words` — the parts between blanks, without the empty ones.
* `beginsWith`, `occursIn` — one text at the beginning of another, or anywhere in it.
-/

namespace Daybook.Text

/-- The parts of a text between the characters that pass a test. There is one more of them than
there are such characters, and some may be empty. -/
def pieces (separates : Char → Bool) : List Char → List (List Char)
  | [] => [[]]
  | c :: rest =>
    match pieces separates rest with
    | [] => [[c]]
    | first :: others =>
      if separates c then [] :: first :: others else (c :: first) :: others

/-- The words of a text, which blanks of any kind separate. -/
def words (text : String) : List String :=
  ((pieces Unicode.isBlank text.toList).filter fun piece => !piece.isEmpty).map String.ofList

/-- Whether a text begins with another one. -/
def beginsWith (beginning text : String) : Bool :=
  beginning.toList.isPrefixOf text.toList

/-- Whether a list of characters occurs in another one. -/
def occursIn (part : List Char) : List Char → Bool
  | [] => part.isEmpty
  | c :: rest => part.isPrefixOf (c :: rest) || occursIn part rest

/-- Whether a text contains another one. -/
def containsText (text part : String) : Bool :=
  occursIn part.toList text.toList

end Daybook.Text
