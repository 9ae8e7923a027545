import Daybook.Unicode.Property

set_option relaxedAutoImplicit false
set_option autoImplicit false

/-!
# Quoted text

Text shown inside a message stands between double quotes, and every character that would not show
as itself is escaped.

## Main definitions

* `quoted` — the quoted form of a text.
* `escaped` — the quoted form of one character.
-/

namespace Daybook.Text

/-- A character given by its code point in lower-case hexadecimal digits. -/
def codePointEscape (c : Char) : List Char :=
  "\\u\x7b".toList ++ Nat.toDigits 16 c.toNat ++ ['\x7d']

/-- The characters that stand for `c` between quotes. Six characters have an escape of their own.
The others are given by their code point if they draw nothing or combine with what is before
them. -/
def escaped (c : Char) : List Char :=
  match c with
  | '\t' => ['\\', 't']
  | '\r' => ['\\', 'r']
  | '\n' => ['\\', 'n']
  | '\x00' => ['\\', '0']
  | '"' => ['\\', '"']
  | '\\' => ['\\', '\\']
  | c => if Unicode.extendsGrapheme c || !Unicode.isPrintable c then codePointEscape c else [c]

/-- The text between double quotes. -/
def quoted (text : String) : String :=
  String.ofList ('"' :: text.toList.flatMap escaped ++ ['"'])

end Daybook.Text
