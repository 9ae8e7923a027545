import Daybook.Amount
import Daybook.Date
import Daybook.Lexicon
import Daybook.Grammar.Parser
import Daybook.Unicode.Property

set_option relaxedAutoImplicit false
set_option autoImplicit false

/-!
# Tokens

The smallest parts of a ledger source: blanks and line ends, words, numbers, dates, amounts,
account names and notes.

## Main definitions

* `lexeme` — a token and the blanks after it.
* `lineEnding`, `lineEnd`, `spacer` — what separates lines and fields.
* `natural`, `number`, `identifier`, `delimitedBy`, `noteBody` — tokens.
* `amount` — a number with its commodity symbol before or after it.
* `date` — a date with or without its year.
* `account` — an account name; `bracketed` tells whether it is virtual.

## Design

Within a line only the space and the tab are blanks. An account name may hold single spaces, and so
two blanks or a tab are needed to end it; every other kind of blank ends it, too.
-/

namespace Daybook.Grammar

open Grammar.Parser

/-! ## Blanks and line ends -/

/-- The blanks within a line. -/
def isSpace (c : Char) : Bool :=
  c == ' ' || c == '\t'

/-- The characters that a line ends at. -/
def isLineBreak (c : Char) : Bool :=
  c == '\r' || c == '\n'

/-- Blanks within a line, or none. -/
def spaces : Parser Unit := do
  let _ ← takeWhile isSpace
  return ()

/-- Blanks within a line, at least one. -/
def spaces1 : Parser Unit := do
  let _ ← takeWhile1 isSpace
  return ()

/-- Reads with `p` and passes over the blanks that follow. -/
def lexeme {α : Type} (p : Parser α) : Parser α := do
  let a ← p
  spaces
  return a

/-- A line feed, or a carriage return and a line feed. -/
def lineEnding : Parser Unit
  | '\n' :: rest => .done () rest
  | '\r' :: '\n' :: rest => .done () rest
  | s => .stuck s

/-- The end of a line or of the text. -/
def lineEnd : Parser Unit :=
  lineEnding <|> endOfText

/-- What separates two fields: a tab, or two blanks the first of which is a space. -/
def spacer : Parser Unit
  | '\t' :: rest => .done () rest
  | ' ' :: c :: rest => if isSpace c then .done () rest else .stuck (c :: rest)
  | [' '] => .stuck []
  | s => .stuck s

/-- Everything up to the end of the line. -/
def restOfLine : Parser String := do
  let cs ← takeWhile (fun c => !isLineBreak c)
  return String.ofList cs

/-- What `p` reads on a further line, which begins with a blank. -/
def indented {α : Type} (p : Parser α) : Parser α := do
  lineEnding
  spaces1
  p

/-! ## Words and numbers -/

/-- The characters of identifiers. -/
def isIdentifierChar (c : Char) : Bool :=
  Unicode.isAlphanumeric c || c == '_'

/-- A run of identifier characters. -/
def identifier : Parser String := do
  let cs ← takeWhile1 isIdentifierChar
  return String.ofList cs

/-- The greatest number that can be read as a natural one: 32 bits, all of them set. -/
def greatestNatural : Nat := 0xFFFFFFFF

/-- The greatest year: 31 bits, all of them set. -/
def greatestYear : Nat := 0x7FFFFFFF

/-- A run of digits that stands for a number of 32 bits. -/
def natural : Parser Nat :=
  checked (takeWhile1 Unicode.isDigit) fun digits =>
    let n := Decimal.natOfDigits digits
    if n ≤ greatestNatural then some n else none

/-- A decimal number with an optional minus sign and fraction. After the first digit commas are
passed over, wherever they stand in front of the point. -/
def number : Parser Float := do
  let minus ← optional (char '-')
  let first ← takeWhile1 Unicode.isDigit
  let others ← takeWhile fun c => Unicode.isDigit c || c == ','
  let fraction ← optional do
    let _ ← char '.'
    takeWhile1 Unicode.isDigit
  let whole := (first ++ others).filter (· != ',')
  let magnitude := (Decimal.ofDigits whole (fraction.getD [])).toFloat
  return if minus.isSome then -magnitude else magnitude

/-- The text between two of the given characters; it may run over several lines. -/
def delimitedBy (delimiter : Char) : Parser String := do
  let _ ← char delimiter
  let cs ← takeWhile (· != delimiter)
  let _ ← char delimiter
  return String.ofList cs

/-- A note: a semicolon, and the rest of the line without the blanks in front. -/
def noteBody : Parser String := do
  let _ ← lexeme (char ';')
  restOfLine

/-! ## Amounts -/

/-- A commodity symbol of the lexicon. -/
def symbol (lexicon : Lexicon) : Parser String := fun s =>
  match lexicon.leading? s with
  | some found => .done found (s.drop found.length)
  | none => .stuck s

/-- A symbol followed by a number; a minus sign may also stand in front of the symbol. -/
def amountAfterSymbol (lexicon : Lexicon) : Parser Amount := do
  let minus ← optional (lexeme (char '-'))
  let found ← lexeme (symbol lexicon)
  let n ← number
  let amount : Amount := ⟨n, .known found⟩
  return if minus.isSome then amount.negate else amount

/-- A number, which a symbol may follow. -/
def amountBeforeSymbol (lexicon : Lexicon) : Parser Amount := do
  let n ← lexeme number
  let found ← optional (symbol lexicon)
  return ⟨n, .ofSymbol? found⟩

/-- An amount, with its symbol on either side. -/
def amount (lexicon : Lexicon) : Parser Amount :=
  amountAfterSymbol lexicon <|> amountBeforeSymbol lexicon

/-! ## Dates -/

/-- One or two further numbers of a date, each after the same separator. -/
def datePart (separator : Char) : Parser (Nat × Option Nat) := do
  let _ ← char separator
  let second ← natural
  let third ← optional do
    let _ ← char separator
    natural
  return (second, third)

/-- The date that two or three numbers stand for. Three of them begin with the year, which must not
be beyond the greatest one. -/
def dateOfNumbers : Nat × Nat × Option Nat → Option WrittenDate
  | (month, day, none) => some ⟨none, month, day⟩
  | (year, month, some day) => if year ≤ greatestYear then some ⟨some year, month, day⟩ else none

/-- A date: month and day, or year, month and day, between slashes or hyphens. -/
def date : Parser WrittenDate :=
  checked
    (do
      let first ← natural
      let (second, third) ← datePart '/' <|> datePart '-'
      return (first, second, third))
    dateOfNumbers

/-! ## Account names -/

/-- Whether an account name ends in front of what remains: at a blank, unless it is a space with a
character after it that is no blank. -/
def endsAccount : List Char → Bool
  | [] => true
  | [c] => Unicode.isBlank c
  | c :: next :: _ => Unicode.isBlank c && !(c == ' ' && !Unicode.isBlank next)

/-- An account name as it is written. -/
def account : Parser (List Char)
  | [] => .stuck []
  | c :: rest => if Unicode.isBlank c then .stuck (c :: rest) else takeUntil endsAccount (c :: rest)

/-- The name of an account, and whether it is virtual, which is to say written in brackets. -/
def bracketed : List Char → String × Bool
  | '[' :: inner =>
    if inner.getLast? = some ']' then (String.ofList inner.dropLast, true)
    else (String.ofList ('[' :: inner), false)
  | name => (String.ofList name, false)

end Daybook.Grammar
