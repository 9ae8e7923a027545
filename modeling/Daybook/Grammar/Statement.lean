import Daybook.Statement
import Daybook.Grammar.Expression

set_option relaxedAutoImplicit false
set_option autoImplicit false

/-!
# The grammar of statements

Every statement begins in a line of its own. Transactions and rules go on in indented lines.

## Main definitions

* `posting`, `transaction` — transactions and their lines.
* `ruleHeader`, `rule` — rules.
* `statement` — any statement.
-/

namespace Daybook.Grammar

open Grammar.Parser

/-! ## Postings -/

/-- The value of a posting: an amount, or an expression in parentheses. -/
def postingValue (lexicon : Lexicon) : Parser Expression :=
  (Expression.amount <$> amount lexicon) <|> parenthesized lexicon

/-- The sign in front of a cost. -/
def costKind : Parser CostKind :=
  (do let _ ← word "@@"; return CostKind.total) <|> (do let _ ← word "@"; return CostKind.perUnit)

/-- The cost of a posting. -/
def cost (lexicon : Lexicon) : Parser Cost := do
  let kind ← lexeme costKind
  let amount ← amount lexicon
  return ⟨kind, amount⟩

/-- The balance that the account of a posting is claimed to have. -/
def claimedBalance (lexicon : Lexicon) : Parser Amount := do
  let _ ← lexeme (char '=')
  amount lexicon

/-- A posting. All but the account may be left out. -/
def posting (lexicon : Lexicon) : Parser Posting := do
  let written ← lexeme account
  let value ← optional (lexeme (postingValue lexicon))
  let cost ← optional (lexeme (cost lexicon))
  let balance ← optional (lexeme (claimedBalance lexicon))
  let note ← optional noteBody
  let (name, isVirtual) := bracketed written
  return ⟨name, value, cost, balance, isVirtual, note.toList⟩

/-! ## Transactions -/

/-- The sign of a status. -/
def status : Parser Status :=
  (do let _ ← char '*'; return Status.cleared) <|> (do let _ ← char '!'; return Status.pending)

/-- Whether a note begins here, after what separates fields. -/
def startsTrailingNote : List Char → Bool
  | '\t' :: ';' :: _ => true
  | ' ' :: c :: ';' :: _ => isSpace c
  | _ => false

/-- Whether a title ends in front of what remains: at the end of the line or at a note. -/
def endsTitle (s : List Char) : Bool :=
  startsTrailingNote s || s.head?.any isLineBreak

/-- A title, which may be empty. -/
def title : Parser String := do
  let cs ← takeUntil endsTitle
  return String.ofList cs

/-- The first line of a transaction. -/
structure Header where
  date : WrittenDate
  status : Option Status
  title : String
  note : Option String
  deriving Repr, BEq

/-- The first line of a transaction: date, status, title and note. -/
def header : Parser Header := do
  let date ← lexeme date
  let status ← lexeme (optional status)
  let title ← title
  let note ← optional do
    spacer
    noteBody
  return ⟨date, status, title, note⟩

/-- A further line of a transaction. -/
inductive Line where
  | note (text : String)
  | posting (posting : Posting)
  deriving Repr, BEq

/-- A further line of a transaction: a note or a posting. -/
def line (lexicon : Lexicon) : Parser Line :=
  (Line.note <$> lexeme noteBody) <|> (Line.posting <$> lexeme (posting lexicon))

/-- The notes in front of the first posting. -/
def leadingNotes : List Line → List String
  | .note text :: rest => text :: leadingNotes rest
  | _ => []

/-- The postings. Each of them takes the notes that follow it. -/
def postingsOf : List Line → List Posting
  | [] => []
  | .note _ :: rest => postingsOf rest
  | .posting p :: rest => { p with notes := p.notes ++ leadingNotes rest } :: postingsOf rest

/-- The transaction that a first line and the further lines make up. -/
def Header.transaction (h : Header) (lines : List Line) : Transaction :=
  ⟨h.date, h.status, h.title, h.note.toList ++ leadingNotes lines, postingsOf lines⟩

/-- A transaction, which has one further line at least. -/
def transaction (lexicon : Lexicon) : Parser Transaction := do
  let h ← header
  let lines ← many1 (indented (line lexicon))
  return h.transaction lines

/-! ## Rules -/

/-- The condition that an account matches a pattern. -/
def accountMatches (pattern : String) : Expression :=
  .binary .matching (.name "account") (.regex pattern)

/-- An expression in single quotes after the word for it. -/
def quotedCondition (lexicon : Lexicon) : Parser Expression := do
  let _ ← lexeme (word "expr")
  let _ ← lexeme (char '\'')
  let condition ← lexeme (expression lexicon)
  let _ ← char '\''
  return condition

/-- The first line of a rule. A pattern by itself is matched against the account. -/
def ruleHeader (lexicon : Lexicon) : Parser Expression := do
  let _ ← lexeme (char '=')
  quotedCondition lexicon <|> (accountMatches <$> delimitedBy '/')

/-- A further line of a rule. -/
def template (lexicon : Lexicon) : Parser Template := do
  let written ← lexeme account
  let value ← postingValue lexicon
  let (name, isVirtual) := bracketed written
  return ⟨name, value, isVirtual⟩

/-- A rule, which has one further line at least. -/
def rule (lexicon : Lexicon) : Parser Rule := do
  let condition ← lexeme (ruleHeader lexicon)
  let templates ← many1 (indented (lexeme (template lexicon)))
  return ⟨condition, templates⟩

/-! ## Statements -/

/-- A word that opens a statement, and the blanks after it. -/
def keyword (w : String) : Parser Unit := do
  let _ ← word w
  spaces1

/-- The declaration of the year. -/
def yearDeclaration : Parser Statement :=
  checked
    (do
      keyword "year"
      natural)
    fun n => if n ≤ greatestYear then some (.year n) else none

/-- The declaration of a commodity. -/
def commodityDeclaration : Parser Statement := do
  keyword "commodity"
  let cs ← takeWhile1 fun c => !Unicode.isBlank c
  return .commodity (String.ofList cs)

/-- The characters that open a comment. -/
def opensComment (c : Char) : Bool :=
  c == ';' || c == '#' || c == '%' || c == '|' || c == '*'

/-- A comment of one line. -/
def comment : Parser Statement := do
  let _ ← satisfy opensComment
  spaces
  let text ← restOfLine
  return .comment text

/-- The declaration of an account. -/
def accountDeclaration : Parser Statement := do
  keyword "account"
  let name ← account
  return .account (String.ofList name)

/-- The definition of a name. -/
def definition (lexicon : Lexicon) : Parser Statement := do
  keyword "define"
  let name ← lexeme identifier
  let _ ← lexeme (char '=')
  let e ← expression lexicon
  return .definition name e

/-- The declaration of a tag. -/
def tagDeclaration : Parser Statement := do
  keyword "tag"
  let name ← identifier
  return .tag name

/-- A statement. -/
def statement (lexicon : Lexicon) : Parser Statement :=
  (Statement.transaction <$> transaction lexicon) <|>
  yearDeclaration <|>
  commodityDeclaration <|>
  comment <|>
  accountDeclaration <|>
  definition lexicon <|>
  tagDeclaration <|>
  (Statement.rule <$> rule lexicon)

end Daybook.Grammar
