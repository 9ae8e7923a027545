import Daybook.Proofs.Decimal.Reading
import Daybook.Proofs.Grammar.Progress
import Daybook.Proofs.Grammar.WellFormed

set_option relaxedAutoImplicit false
set_option autoImplicit false

/-!
# What is read is well-formed

Whatever the text is and whatever symbols are known, the statements that are read have the form that
their grammar gives them: names, titles and notes are of the right characters, numbers are numbers,
and no list is empty that must not be. Each parser is looked at by itself, and what it ensures of
its values follows from what its parts ensure.

## Main definitions

* `Grammar.Ensures` — what all values that a parser reads have in common.
* `Amount.Sound`, `Expression.Sound`, `Posting.Sound`, `Transaction.Sound`, `Rule.Sound`,
  `Statement.Sound` — the form of what is read.

## Main results

* `Grammar.ensures_number` — no number that is read is not a number.
* `Grammar.ensures_expression`, `Grammar.ensures_transaction`, `Grammar.ensures_statement` — the
  form of expressions, transactions and statements.
* `sound_of_parse` — everything that is read from a source is sound.

## Design

A sound statement need not be well-formed in the sense of being read again from its own text: a
number may be infinite, and a string may have double quotes. On the other hand, the form that is
asked for here does not depend on what the symbols are, which may even be empty.
-/

namespace Daybook

open Grammar Grammar.Parser

/-! ## The form of the parts -/

/-- A number, of a commodity of the lexicon or of none. -/
structure Amount.Sound (lexicon : Lexicon) (a : Amount) : Prop where
  number : a.number.isNaN = false
  symbol : a.InSource lexicon

/-- Every literal stands between its delimiters, and every name is one that is no truth value. -/
def Expression.Sound (lexicon : Lexicon) : Expression → Prop
  | .amount value => value.Sound lexicon
  | .bool _ => True
  | .string text => '"' ∉ text.toList ∨ '\'' ∉ text.toList
  | .regex pattern => '/' ∉ pattern.toList
  | .name identifier => IsIdentifier identifier.toList ∧ identifier ≠ "true" ∧ identifier ≠ "false"
  | .binary _ left right => left.Sound lexicon ∧ right.Sound lexicon

/-- The parts of a posting are sound, and its account does not look like a note. -/
structure Posting.Sound (lexicon : Lexicon) (p : Posting) : Prop where
  account : AccountWellFormed p.account p.isVirtual
  noNote : p.isVirtual = false → p.account.toList.head? ≠ some ';'
  value : ∀ e ∈ p.value, e.Sound lexicon
  cost : ∀ c ∈ p.cost, c.amount.Sound lexicon
  balance : ∀ a ∈ p.balance, a.Sound lexicon
  notes : ∀ note ∈ p.notes, IsLineText note.toList

/-- The parts of a transaction are sound, its title does not look like a status where there is none,
and there is a note or a posting. -/
structure Transaction.Sound (lexicon : Lexicon) (t : Transaction) : Prop where
  date : t.date.WellFormed
  title : IsTitleText t.title.toList
  noStatus : t.status = none → ∀ c, t.title.toList.head? = some c → c ≠ '*' ∧ c ≠ '!'
  notes : ∀ note ∈ t.notes, IsLineText note.toList
  postings : ∀ p ∈ t.postings, p.Sound lexicon
  hasLines : t.notes ≠ [] ∨ t.postings ≠ []

/-- The account and the value of a template are sound. -/
structure Template.Sound (lexicon : Lexicon) (t : Template) : Prop where
  account : AccountWellFormed t.account t.isVirtual
  value : t.value.Sound lexicon

/-- The condition and the templates of a rule are sound, and there is a template. -/
structure Rule.Sound (lexicon : Lexicon) (r : Rule) : Prop where
  condition : r.condition.Sound lexicon
  templates : ∀ t ∈ r.templates, t.Sound lexicon
  hasTemplates : r.templates ≠ []

/-- The parts of a statement are sound. -/
def Statement.Sound (lexicon : Lexicon) : Statement → Prop
  | .year y => 0 ≤ y ∧ y ≤ greatestYear
  | .definition name e => IsIdentifier name.toList ∧ e.Sound lexicon
  | .account name => IsAccountName name.toList
  | .commodity name => name.toList ≠ [] ∧ ∀ c ∈ name.toList, Unicode.isBlank c = false
  | .tag name => IsIdentifier name.toList
  | .comment text => IsLineText text.toList
  | .transaction t => t.Sound lexicon
  | .rule r => r.Sound lexicon

namespace Grammar

/-! ## What parsers ensure -/

section Ensures

variable {α β : Type} {p q : Parser α} {P : α → Prop}

/-- All values that a parser reads have a property. -/
def Ensures (p : Parser α) (P : α → Prop) : Prop :=
  ∀ ⦃s a rest⦄, p s = .done a rest → P a

/-- Every parser reads something. -/
theorem Ensures.trivial : Ensures p fun _ => True :=
  fun _ _ _ _ => True.intro

/-- A value that is given. -/
theorem Ensures.pure {a : α} (h : P a) : Ensures (pure a) P := by
  intro s b rest hread
  cases hread
  exact h

/-- What the second of two parsers reads behind the first. -/
theorem Ensures.bind {f : α → Parser β} {Q : β → Prop} (hp : Ensures p P)
    (hf : ∀ a, P a → Ensures (f a) Q) : Ensures (p >>= f) Q := by
  intro s b rest h
  obtain ⟨a, r, ha, hb⟩ := bind_eq_done.mp h
  exact hf a (hp ha) hb

/-- What is read and mapped. -/
theorem Ensures.map {f : α → β} {Q : β → Prop} (hp : Ensures p P) (hf : ∀ a, P a → Q (f a)) :
    Ensures (f <$> p) Q := by
  intro s b rest h
  obtain ⟨a, ha, rfl⟩ := map_eq_done.mp h
  exact hf a (hp ha)

/-- What both alternatives ensure. -/
theorem Ensures.orElse (hp : Ensures p P) (hq : Ensures q P) : Ensures (p <|> q) P := by
  intro s a rest h
  obtain h | ⟨-, h⟩ := orElse_eq_done.mp h
  · exact hp h
  · exact hq h

/-- What may be left out. -/
theorem Ensures.optional (hp : Ensures p P) : Ensures (optional p) fun a? => ∀ a ∈ a?, P a := by
  intro s a? rest h
  obtain ⟨a, ha, rfl⟩ | ⟨-, rfl, -⟩ := optional_eq_done.mp h
  · intro b hb
    cases hb
    exact hp ha
  · exact nofun

/-- What is read with the blanks after it. -/
theorem Ensures.lexeme (hp : Ensures p P) : Ensures (lexeme p) P :=
  hp.bind fun _ ha => Ensures.trivial.bind fun _ _ => .pure ha

/-- What is read on a further line. -/
theorem Ensures.indented (hp : Ensures p P) : Ensures (indented p) P :=
  Ensures.trivial.bind fun _ _ => Ensures.trivial.bind fun _ _ => hp

/-- What is read at least once. -/
theorem Ensures.many1 (hp : Ensures p P) :
    Ensures (many1 p) fun as => as ≠ [] ∧ ∀ a ∈ as, P a := by
  intro s as rest h
  obtain ⟨a, r, as', ha, has, rfl⟩ := many1_eq_done.mp h
  have hothers := forall_mem_repeated (p := p) (fun _ _ _ h => hp h) r
  rw [has] at hothers
  exact ⟨List.cons_ne_nil _ _, List.forall_mem_cons.mpr ⟨hp ha, hothers⟩⟩

end Ensures

variable {lexicon : Lexicon}

/-! ## Tokens -/

/-- What is read as a number is one. -/
theorem ensures_number : Ensures number fun x => x.isNaN = false := by
  refine Ensures.trivial.bind fun minus _ => Ensures.trivial.bind fun first _ =>
    Ensures.trivial.bind fun others _ => Ensures.trivial.bind fun fraction _ => .pure ?_
  have hread (d : Decimal) : d.toFloat.isNaN = false := by
    rw [← Bool.not_eq_true, Binary64.isNaN_iff]
    exact d.ofFloat_toFloat_ne
  split_ifs
  · rw [Binary64.isNaN_neg, hread]
  · exact hread _

/-- Amounts. -/
theorem ensures_amount : Ensures (amount lexicon) (Amount.Sound lexicon) := by
  have hnumber : Ensures (amount lexicon) fun a => a.number.isNaN = false := by
    refine .orElse ?_ ?_
    · refine Ensures.trivial.bind fun minus _ => Ensures.trivial.bind fun found _ =>
        ensures_number.bind fun x hx => .pure ?_
      split_ifs
      · exact (Binary64.isNaN_neg x).trans hx
      · exact hx
    · exact ensures_number.lexeme.bind fun x hx => Ensures.trivial.bind fun found _ => .pure hx
  exact fun _ _ _ h => ⟨hnumber h, (amount_eq_done h).1⟩

/-- Identifiers. -/
theorem ensures_identifier : Ensures identifier fun name => IsIdentifier name.toList := by
  intro s name rest h
  obtain ⟨-, hne, hall, -⟩ := identifier_eq_done h
  exact ⟨hne, hall⟩

/-- Texts between delimiters. -/
theorem ensures_delimitedBy (d : Char) : Ensures (delimitedBy d) fun text => d ∉ text.toList :=
  fun _ _ _ h => (delimitedBy_eq_done.mp h).2

/-- Notes. -/
theorem ensures_noteBody : Ensures noteBody fun note => IsLineText note.toList :=
  fun _ _ _ h => (noteBody_eq_done h).1

/-! ## Expressions -/

/-- Names are what no truth value is. -/
theorem ensures_name : Ensures (boolean <|> (Expression.name <$> identifier))
    (Expression.Sound lexicon) := by
  intro s e rest h
  obtain h | ⟨hboolean, h⟩ := orElse_eq_done.mp h
  · obtain ⟨b, rfl, -⟩ := boolean_eq_done h
    trivial
  · obtain ⟨name, hread, rfl⟩ := map_eq_done.mp h
    obtain ⟨rfl, hne, hall, hrest⟩ := identifier_eq_done hread
    obtain ⟨htrue, hfalse⟩ := ne_boolean_of_fails hrest hboolean
    exact ⟨⟨hne, hall⟩, mt (congrArg String.toList) htrue, mt (congrArg String.toList) hfalse⟩

/-- Amounts as literals. -/
theorem ensures_amountLiteral :
    Ensures (Expression.amount <$> amount lexicon) (Expression.Sound lexicon) :=
  ensures_amount.map fun _ ha => ha

/-- Literals and names. -/
theorem ensures_primitive : Ensures (primitive lexicon) (Expression.Sound lexicon) := by
  have hregex : Ensures (Expression.regex <$> delimitedBy '/') (Expression.Sound lexicon) :=
    (ensures_delimitedBy '/').map fun _ h => h
  have hstring : Ensures (Expression.string <$> (delimitedBy '"' <|> delimitedBy '\''))
      (Expression.Sound lexicon) := by
    intro s e rest h
    obtain ⟨text, hread, rfl⟩ := map_eq_done.mp h
    exact (orElse_eq_done.mp hread).imp (ensures_delimitedBy '"' ·)
      fun h => ensures_delimitedBy '\'' h.2
  exact ensures_amountLiteral.orElse (hregex.orElse (hstring.orElse ensures_name))

/-- Expressions in parentheses. -/
theorem Ensures.betweenParentheses {p : Parser Expression} {P : Expression → Prop}
    (hp : Ensures p P) : Ensures (betweenParentheses p) P :=
  Ensures.trivial.bind fun _ _ => hp.bind fun _ he => Ensures.trivial.bind fun _ _ => .pure he

/-- Further operands. -/
theorem ensures_chainFrom {p : Parser Expression} (hp : Ensures p (Expression.Sound lexicon))
    (level : Precedence) {left : Expression} (hleft : left.Sound lexicon) :
    Ensures (chainFrom level p left) (Expression.Sound lexicon) := by
  intro s e rest h
  fun_induction chainFrom level p left s with
  | case1 left s place hoperator =>
    cases h
    exact hleft
  | case2 left s o r hoperator place hright => cases h
  | case3 left s o r hoperator right r' hright hlt ih => exact ih ⟨hleft, hp hright⟩ h
  | case4 left s o r hoperator right r' hright hlt =>
    cases h
    exact ⟨hleft, hp hright⟩

/-- Operands joined by the operators of a level. -/
theorem Ensures.chain {p : Parser Expression} (hp : Ensures p (Expression.Sound lexicon))
    (level : Precedence) : Ensures (chain level p) (Expression.Sound lexicon) :=
  hp.bind fun _ hleft => ensures_chainFrom hp level hleft

/-- Expressions up to a depth. -/
theorem ensures_expressionWithin (depth : Nat) :
    Ensures (expressionWithin lexicon depth) (Expression.Sound lexicon) := by
  induction depth with
  | zero => exact nofun
  | succ depth ih =>
    have hoperand : Ensures (operandOf lexicon (expressionWithin lexicon depth))
        (Expression.Sound lexicon) :=
      ih.betweenParentheses.orElse ensures_primitive.lexeme
    exact ((((hoperand.chain _).chain _).chain _).chain _).chain _

/-- Expressions. -/
theorem ensures_expression : Ensures (expression lexicon) (Expression.Sound lexicon) :=
  fun s _ _ h => ensures_expressionWithin (s.length + 1) h

/-! ## Postings and templates -/

/-- An account name that has been read is well-formed, whether it stands in brackets or not. -/
theorem ensures_account : Ensures account fun written =>
    AccountWellFormed (bracketed written).1 (bracketed written).2 :=
  fun _ _ _ h => accountWellFormed_iff.mpr (accountInSource_bracketed (account_eq_done h).1)

/-- The values of postings. -/
theorem ensures_postingValue : Ensures (postingValue lexicon) (Expression.Sound lexicon) :=
  ensures_amountLiteral.orElse ensures_expression.betweenParentheses

/-- The costs of postings. -/
theorem ensures_cost : Ensures (cost lexicon) fun c => c.amount.Sound lexicon :=
  Ensures.trivial.bind fun _ _ => ensures_amount.bind fun _ ha => .pure ha

/-- The balances of postings. -/
theorem ensures_claimedBalance : Ensures (claimedBalance lexicon) (Amount.Sound lexicon) :=
  Ensures.trivial.bind fun _ _ => ensures_amount

/-- Postings, where no note is. -/
theorem posting_sound {s rest : List Char} {p : Posting} (hnote : s.head? ≠ some ';')
    (h : posting lexicon s = .done p rest) : p.Sound lexicon := by
  obtain ⟨written, r₁, hwritten, h⟩ := bind_eq_done.mp h
  obtain ⟨value, r₂, hvalue, h⟩ := bind_eq_done.mp h
  obtain ⟨cost, r₃, hcost, h⟩ := bind_eq_done.mp h
  obtain ⟨balance, r₄, hbalance, h⟩ := bind_eq_done.mp h
  obtain ⟨note, r₅, hnotes, hposting⟩ := bind_eq_done.mp h
  have hposting : Outcome.done (Posting.mk (bracketed written).1 value cost balance
      (bracketed written).2 note.toList) r₅ = .done p rest := hposting
  obtain ⟨rfl, rfl⟩ := Outcome.done.inj hposting
  obtain ⟨r, hname, -⟩ := lexeme_eq_done.mp hwritten
  obtain ⟨-, rfl⟩ := account_eq_done hname
  refine ⟨ensures_account hname, ?_, ensures_postingValue.lexeme.optional hvalue,
    ensures_cost.lexeme.optional hcost, ensures_claimedBalance.lexeme.optional hbalance,
    fun text htext => ensures_noteBody.optional hnotes text (Option.mem_toList.mp htext)⟩
  refine head?_accountText_iff.mp fun hsemicolon => hnote ?_
  rw [toList_accountText_bracketed] at hsemicolon
  rw [List.head?_append, hsemicolon]
  rfl

/-- Templates. -/
theorem ensures_template : Ensures (template lexicon) (Template.Sound lexicon) :=
  ensures_account.lexeme.bind fun _ haccount => ensures_postingValue.bind fun _ hvalue =>
    .pure ⟨haccount, hvalue⟩

/-! ## Transactions and rules -/

/-- A further line of a transaction is sound. -/
def Line.Sound (lexicon : Lexicon) : Line → Prop
  | .note text => IsLineText text.toList
  | .posting p => p.Sound lexicon

/-- The further lines of transactions. -/
theorem ensures_line : Ensures (line lexicon) (Line.Sound lexicon) := by
  intro s l rest h
  obtain h | ⟨hnote, h⟩ := orElse_eq_done.mp h
  · obtain ⟨text, hread, rfl⟩ := map_eq_done.mp h
    exact ensures_noteBody.lexeme hread
  · obtain ⟨p, hread, rfl⟩ := map_eq_done.mp h
    obtain ⟨r, hposting, -⟩ := lexeme_eq_done.mp hread
    exact posting_sound (head?_ne_of_fails_note hnote) hposting

/-- The notes and the postings of sound lines are sound. -/
theorem sound_postingsOf {ls : List Line} (h : ∀ l ∈ ls, l.Sound lexicon) :
    (∀ note ∈ leadingNotes ls, IsLineText note.toList) ∧
      ∀ p ∈ postingsOf ls, p.Sound lexicon := by
  induction ls with
  | nil => exact ⟨nofun, nofun⟩
  | cons l ls ih =>
    rw [List.forall_mem_cons] at h
    obtain ⟨hnotes, hpostings⟩ := ih h.2
    cases l with
    | note text => exact ⟨List.forall_mem_cons.mpr ⟨h.1, hnotes⟩, hpostings⟩
    | posting p =>
      have hp : p.Sound lexicon := h.1
      refine ⟨nofun, List.forall_mem_cons.mpr ⟨{ hp with notes := fun note hnote => ?_ }, hpostings⟩⟩
      exact (List.mem_append.mp hnote).elim (hp.notes note) (hnotes note)

/-- Of lines there is a note in front or a posting. -/
theorem leadingNotes_or_postingsOf_ne_nil {ls : List Line} (h : ls ≠ []) :
    leadingNotes ls ≠ [] ∨ postingsOf ls ≠ [] := by
  cases ls with
  | nil => exact absurd rfl h
  | cons l ls =>
    cases l with
    | note text => exact .inl (List.cons_ne_nil _ _)
    | posting p => exact .inr (List.cons_ne_nil _ _)

/-- Transactions. -/
theorem ensures_transaction : Ensures (transaction lexicon) (Transaction.Sound lexicon) := by
  have hheader : Ensures header Header.InSource := fun _ _ _ h => (header_eq_done h).1
  refine hheader.bind fun h hh => ensures_line.indented.many1.bind fun ls hls => .pure ?_
  obtain ⟨hnotes, hpostings⟩ := sound_postingsOf hls.2
  refine
    { date := WrittenDate.wellFormed_iff.mpr hh.date
      title := isTitleText_iff.mpr ⟨hh.title, hh.noSpace⟩
      noStatus := hh.noStatus
      notes := fun note hnote => ?_
      postings := hpostings
      hasLines := (leadingNotes_or_postingsOf_ne_nil hls.1).imp_left fun hne hnil => ?_ }
  · rcases List.mem_append.mp hnote with hnote | hnote
    · exact hh.note note (Option.mem_toList.mp hnote)
    · exact hnotes note hnote
  · exact hne (List.append_eq_nil_iff.mp hnil).2

/-- The first lines of rules. -/
theorem ensures_ruleHeader : Ensures (ruleHeader lexicon) (Expression.Sound lexicon) := by
  have hquoted : Ensures (quotedCondition lexicon) (Expression.Sound lexicon) :=
    Ensures.trivial.bind fun _ _ => Ensures.trivial.bind fun _ _ =>
      ensures_expression.lexeme.bind fun _ he => Ensures.trivial.bind fun _ _ => .pure he
  refine Ensures.trivial.bind fun _ _ => hquoted.orElse
    ((ensures_delimitedBy '/').map fun pattern h => ⟨⟨?_, by decide⟩, h⟩)
  have hname : IsName lexicon "account".toList := isName_account
  exact ⟨hname.ne_nil, hname.identifier⟩

/-- Rules. -/
theorem ensures_rule : Ensures (rule lexicon) (Rule.Sound lexicon) :=
  ensures_ruleHeader.lexeme.bind fun _ hcondition =>
    ensures_template.lexeme.indented.many1.bind fun _ htemplates =>
      .pure ⟨hcondition, htemplates.2, htemplates.1⟩

/-! ## Statements -/

/-- Declarations of years. -/
theorem ensures_yearDeclaration : Ensures yearDeclaration (Statement.Sound lexicon) := by
  intro s st rest h
  obtain ⟨n, -, hyear⟩ := checked_eq_done.mp h
  split_ifs at hyear with hn
  cases hyear
  exact year_iff.mpr ⟨n, rfl, hn⟩

/-- Declarations of commodities. -/
theorem ensures_commodityDeclaration : Ensures commodityDeclaration (Statement.Sound lexicon) := by
  have hname : Ensures (takeWhile1 fun c => !Unicode.isBlank c) fun cs =>
      cs ≠ [] ∧ ∀ c ∈ cs, Unicode.isBlank c = false := by
    intro s cs rest h
    obtain ⟨-, hne, hall, -⟩ := takeWhile1_eq_done.mp h
    exact ⟨hne, fun c hc => by simpa using hall c hc⟩
  refine Ensures.trivial.bind fun _ _ => hname.bind fun cs hcs => .pure ?_
  rwa [Statement.Sound, String.toList_ofList]

/-- Comments. -/
theorem ensures_comment : Ensures comment (Statement.Sound lexicon) := by
  intro s st rest h
  obtain ⟨c, r₁, -, h⟩ := bind_eq_done.mp h
  obtain ⟨u, r₂, hspaces, h⟩ := bind_eq_done.mp h
  obtain ⟨text, r₃, htext, hvalue⟩ := bind_eq_done.mp h
  cases hspaces
  cases hvalue
  exact (isLineText_restOfLine htext).1

/-- Declarations of accounts. -/
theorem ensures_accountDeclaration : Ensures accountDeclaration (Statement.Sound lexicon) := by
  have hname : Ensures account IsAccountName := fun _ _ _ h =>
    isAccountName_iff.mpr (account_eq_done h).1
  refine Ensures.trivial.bind fun _ _ => hname.bind fun name hname => .pure ?_
  rwa [Statement.Sound, String.toList_ofList]

/-- Definitions of names. -/
theorem ensures_definition : Ensures (definition lexicon) (Statement.Sound lexicon) :=
  Ensures.trivial.bind fun _ _ => ensures_identifier.lexeme.bind fun _ hname =>
    Ensures.trivial.bind fun _ _ => ensures_expression.bind fun _ he => .pure ⟨hname, he⟩

/-- Declarations of tags. -/
theorem ensures_tagDeclaration : Ensures tagDeclaration (Statement.Sound lexicon) :=
  Ensures.trivial.bind fun _ _ => ensures_identifier.bind fun _ hname => .pure hname

/-- Statements. -/
theorem ensures_statement : Ensures (statement lexicon) (Statement.Sound lexicon) := by
  have htransaction : Ensures (Statement.transaction <$> transaction lexicon)
      (Statement.Sound lexicon) := ensures_transaction.map fun _ h => h
  have hrule : Ensures (Statement.rule <$> rule lexicon) (Statement.Sound lexicon) :=
    ensures_rule.map fun _ h => h
  exact htransaction.orElse (ensures_yearDeclaration.orElse (ensures_commodityDeclaration.orElse
    (ensures_comment.orElse (ensures_accountDeclaration.orElse (ensures_definition.orElse
      (ensures_tagDeclaration.orElse hrule))))))

/-- The statements that are read before reading stops. -/
theorem sound_statements (lexicon : Lexicon) (s : List Char) :
    ∀ st ∈ (statements lexicon s).1, st.Sound lexicon := by
  have hline : Ensures (statementLine lexicon) (Statement.Sound lexicon) :=
    ensures_statement.bind fun _ hst => Ensures.trivial.bind fun _ _ =>
      Ensures.trivial.bind fun _ _ => .pure hst
  induction s using statements_induction lexicon with
  | blank s hs =>
    rw [statements_of_nil hs]
    exact nofun
  | stuck s c cs place hs hdrop hread =>
    rw [statements_of_stuck hs hread]
    exact nofun
  | done s c cs st rest hs hdrop hread hrest ih =>
    rw [statements_of_done hs hread]
    exact List.forall_mem_cons.mpr ⟨hline hread, ih⟩

end Grammar

/-- Everything that is read from a source is sound, whatever symbols are known. -/
theorem sound_of_parse {lexicon : Lexicon} {source : String} {sts : List Statement}
    (h : parse lexicon source = .ok sts) : ∀ st ∈ sts, st.Sound lexicon := by
  have hstatements := sound_statements lexicon source.toList
  rwa [parse_eq_ok_iff.mp h] at hstatements

/-- The definition of a rate, a rule with an account in brackets, and a day's work with notes behind
tabs. -/
def errandsSource : String :=
  "define rate = (60 EUR / hours)\n\n= /Work/\n [Days off]  (hours * 0.1)\n\n" ++
  "1/31 ! Errands\t; by bike\n\tWork:Client A\t-1,000.5 h ;  late\n"

/-- The statements of `errandsSource`. -/
def errands : List Statement :=
  [.definition "rate" (.binary .divide (.amount ⟨60, .known "EUR"⟩) (.name "hours")),
   .rule
    { condition := .binary .matching (.name "account") (.regex "Work"),
      templates :=
       [⟨"Days off", .binary .multiply (.name "hours") (.amount ⟨0.1, .unknown⟩), true⟩] },
   .transaction
    { date := ⟨none, 1, 31⟩, status := some .pending, title := "Errands", notes := ["by bike"],
      postings :=
       [{ account := "Work:Client A", value := some (.amount ⟨-1000.5, .known "h"⟩), cost := none,
          balance := none, isVirtual := false, notes := ["late"] }] }]

/-- The statements of `errandsSource` are sound. -/
theorem sound_of_parse_errands :
    parse (.ofSymbols ["h"]) errandsSource = .ok errands ∧
      ∀ st ∈ errands, st.Sound (.ofSymbols ["h"]) := by
  have hread : parse (.ofSymbols ["h"]) errandsSource = .ok errands := by decide +kernel
  exact ⟨hread, sound_of_parse hread⟩

end Daybook
