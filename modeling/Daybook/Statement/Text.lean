import Daybook.Statement

set_option relaxedAutoImplicit false
set_option autoImplicit false

/-!
# The text of statements

Statements are written the way they are read. The lines of transactions and rules are indented by
a text that the caller chooses, and a blank line follows them.

## Main definitions

* `Posting.text`, `Transaction.text`, `Rule.text` — the parts.
* `Statement.text` — a statement with its line end.
* `sourceText` — a whole source.
-/

namespace Daybook

/-! ## Lines -/

/-- A line after the first one, behind the line feed that begins it. -/
def indentedLine (indent line : String) : String :=
  "\n" ++ indent ++ line

/-- A note on a line of its own. -/
def noteLine (indent note : String) : String :=
  indentedLine indent ("; " ++ note)

/-- An account name, in brackets if it is virtual. -/
def accountText (account : String) (isVirtual : Bool) : String :=
  if isVirtual then "[" ++ account ++ "]" else account

/-- The value of a posting. All but a plain amount stands in parentheses, which an operator brings
with it. -/
def Expression.valueText (e : Expression) : String :=
  match e with
  | .amount _ | .binary .. => e.text
  | _ => "(" ++ e.text ++ ")"

/-! ## Transactions -/

/-- The sign of a cost. -/
def CostKind.symbol : CostKind → String
  | perUnit => "@"
  | total => "@@"

/-- A cost after its sign. -/
def Cost.text (c : Cost) : String :=
  c.kind.symbol ++ " " ++ c.amount.text

/-- A posting, and its notes on lines of their own. -/
def Posting.text (indent : String) (p : Posting) : String :=
  accountText p.account p.isVirtual ++
    (p.value.elim "" fun value => "  " ++ value.valueText) ++
    (p.cost.elim "" fun cost => " " ++ cost.text) ++
    (p.balance.elim "" fun balance => " = " ++ balance.text) ++
    String.join (p.notes.map (noteLine indent))

/-- A transaction without the end of its last line. -/
def Transaction.text (indent : String) (t : Transaction) : String :=
  t.date.text ++
    (t.status.elim "" fun status => " " ++ status.symbol) ++
    (if t.title.isEmpty then "" else " " ++ t.title) ++
    String.join (t.notes.map (noteLine indent)) ++
    String.join (t.postings.map fun p => indentedLine indent (p.text indent))

/-! ## Rules -/

/-- A template. -/
def Template.text (t : Template) : String :=
  accountText t.account t.isVirtual ++ "  " ++ t.value.valueText

/-- The first line of a rule. That the account matches a pattern is said by the pattern alone. -/
def Rule.headerText (r : Rule) : String :=
  match r.condition with
  | .binary .matching (.name "account") (.regex pattern) => "= /" ++ pattern ++ "/"
  | condition => "= expr '" ++ condition.text ++ "'"

/-- A rule without the end of its last line. -/
def Rule.text (indent : String) (r : Rule) : String :=
  r.headerText ++ String.join (r.templates.map fun t => indentedLine indent t.text)

/-! ## Statements -/

/-- A statement with its line end, and with a blank line after a transaction or a rule. -/
def Statement.text (indent : String) : Statement → String
  | year n => s!"year {n}\n"
  | definition name e => "define " ++ name ++ " = " ++ e.text ++ "\n"
  | account name => "account " ++ name ++ "\n"
  | commodity name => "commodity " ++ name ++ "\n"
  | tag name => "tag " ++ name ++ "\n"
  | comment text => "; " ++ text ++ "\n"
  | transaction t => t.text indent ++ "\n\n"
  | rule r => r.text indent ++ "\n\n"

/-- The text of a whole source. -/
def sourceText (indent : String) (statements : List Statement) : String :=
  String.join (statements.map (Statement.text indent))

end Daybook
