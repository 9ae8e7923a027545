import Daybook.Proofs.Grammar.CarriageReturn
import Daybook.Proofs.Grammar.Comparison
import Daybook.Proofs.Grammar.Header

set_option relaxedAutoImplicit false
set_option autoImplicit false

/-!
# Two ways to end a line

Whether the lines of a source end at line feeds or at carriage returns and line feeds makes no
difference to what is read from it, nor to the errors. Strings and patterns are the exception: they
run over line ends, and so they have the carriage returns, too.

## Main definitions

* `Expression.crlf`, `Statement.crlf` — strings and patterns with the carriage returns.

## Main results

* `Grammar.transports_expression`, `Grammar.transports_statement` — expressions and statements.
* `Grammar.statements_crlf` — the statements of a source.
* `Grammar.Position.of_crlf`, `Grammar.firstLine_crlf`, `Grammar.Failure.error_crlf` — errors.
* `parse_crlf` — reading does not depend on how lines end.
-/

namespace Daybook

open Grammar

/-! ## Values -/

/-- An expression with carriage returns in its strings and patterns. -/
def Expression.crlf : Expression → Expression
  | .amount value => .amount value
  | .bool value => .bool value
  | .string text => .string (Text.crlf text)
  | .regex pattern => .regex (Text.crlf pattern)
  | .name identifier => .name identifier
  | .binary operator left right => .binary operator left.crlf right.crlf

/-- A posting with carriage returns in the expression that is its value. -/
def Posting.crlf (p : Posting) : Posting :=
  { p with value := p.value.map Expression.crlf }

/-- A transaction with carriage returns in the values of its postings. -/
def Transaction.crlf (t : Transaction) : Transaction :=
  { t with postings := t.postings.map Posting.crlf }

/-- A template with carriage returns in its value. -/
def Template.crlf (t : Template) : Template :=
  { t with value := t.value.crlf }

/-- A rule with carriage returns in its condition and in the values of its templates. -/
def Rule.crlf (r : Rule) : Rule :=
  ⟨r.condition.crlf, r.templates.map Template.crlf⟩

/-- A statement with carriage returns in the strings and patterns of its expressions. -/
def Statement.crlf : Statement → Statement
  | .definition name e => .definition name e.crlf
  | .transaction t => .transaction t.crlf
  | .rule r => .rule r.crlf
  | .year n => .year n
  | .account name => .account name
  | .commodity name => .commodity name
  | .tag name => .tag name
  | .comment text => .comment text

namespace Grammar

/-- A further line of a transaction with carriage returns in the value of its posting. -/
def Line.crlf : Line → Line
  | .note text => .note text
  | .posting p => .posting p.crlf

/-- Notes stay as they are. -/
theorem leadingNotes_crlf (lines : List Line) :
    leadingNotes (lines.map Line.crlf) = leadingNotes lines := by
  induction lines with
  | nil => rfl
  | cons l lines ih =>
    cases l with
    | note text => exact congrArg (text :: ·) ih
    | posting p => rfl

/-- The postings of lines. -/
theorem postingsOf_crlf (lines : List Line) :
    postingsOf (lines.map Line.crlf) = (postingsOf lines).map Posting.crlf := by
  induction lines with
  | nil => rfl
  | cons l lines ih =>
    cases l with
    | note text => exact ih
    | posting p =>
      simp only [List.map_cons, Line.crlf, postingsOf, leadingNotes_crlf, ih]
      rfl

/-- The transaction that lines make up. -/
theorem Header.transaction_crlf (h : Header) (lines : List Line) :
    h.transaction (lines.map Line.crlf) = (h.transaction lines).crlf := by
  simp only [Header.transaction, Transaction.crlf, leadingNotes_crlf, postingsOf_crlf]

open Grammar.Parser

variable {n : Nat} {lexicon : Lexicon}

/-! ## Operators and operands -/

/-- Operators. -/
theorem transports_operatorOf (level : Precedence) :
    Transports n id (operatorOf level.operators) (operatorOf level.operators) := by
  refine @transports_of_find? _ _ _ level.operators Operator.symbol
    (fun s o ho => by rw [operatorOf, ho]) (fun s ho => by rw [operatorOf, ho]) fun o _ => ?_
  cases o <;> decide

/-- Further operands. -/
theorem transports_chainFrom {operand operand' : Parser Expression}
    (hp : Transports n Expression.crlf operand operand') (level : Precedence)
    (left : Expression) :
    Transports n Expression.crlf (chainFrom level operand left)
      (chainFrom level operand' left.crlf) := by
  intro s hs hn
  -- An operator and the operand behind it are read in both texts, or cannot be read in either.
  have hafter {s r : List Char} {o : Operator} (hs : '\r' ∉ s) (hn : s.length < n)
      (h : lexeme (operatorOf level.operators) s = .done o r) :
      lexeme (operatorOf level.operators) (crlf s) = .done o (crlf r) ∧
        operand' (crlf r) = (operand r).crlf Expression.crlf ∧ (operand r).remaining <:+ s := by
    obtain ⟨hoperator, hsuffix⟩ := (transports_operatorOf level).lexeme hs hn
    rw [h] at hoperator hsuffix
    rw [Outcome.remaining_done] at hsuffix
    obtain ⟨hright, hsuffix'⟩ :=
      hp (fun hr => hs (hsuffix.subset hr)) (hsuffix.length_le.trans_lt hn)
    exact ⟨hoperator, hright, hsuffix'.trans hsuffix⟩
  fun_induction chainFrom level operand left s with
  | case1 left s place hstop =>
    obtain ⟨hread, -⟩ := (transports_operatorOf level).lexeme hs hn
    rw [hstop] at hread
    rw [chainFrom, hread]
    exact ⟨rfl, List.suffix_refl s⟩
  | case2 left s o r hoperator place hright =>
    obtain ⟨hread, hmore, hsuffix⟩ := hafter hs hn hoperator
    rw [hright] at hmore hsuffix
    rw [chainFrom, hread]
    simp only [hmore, Outcome.crlf, true_and]
    exact hsuffix
  | case3 left s o r hoperator right r' hright hlt ih =>
    obtain ⟨hread, hmore, hsuffix⟩ := hafter hs hn hoperator
    rw [hright] at hmore hsuffix
    rw [Outcome.remaining_done] at hsuffix
    obtain ⟨hchain, hrest⟩ := ih (fun hr => hs (hsuffix.subset hr)) (hlt.trans hn)
    rw [chainFrom, hread]
    simp only [hmore, Outcome.crlf]
    rw [if_pos ((length_crlf_lt_iff hsuffix (List.suffix_refl s)).mpr hlt)]
    exact ⟨hchain, hrest.trans hsuffix⟩
  | case4 left s o r hoperator right r' hright hlt =>
    obtain ⟨hread, hmore, hsuffix⟩ := hafter hs hn hoperator
    rw [hright] at hmore hsuffix
    rw [Outcome.remaining_done] at hsuffix
    rw [chainFrom, hread]
    simp only [hmore, Outcome.crlf]
    rw [if_neg ((length_crlf_lt_iff hsuffix (List.suffix_refl s)).not.mpr hlt)]
    exact ⟨rfl, hsuffix⟩

/-- Operands joined by the operators of a level. -/
theorem Parser.Transports.chain {operand operand' : Parser Expression}
    (hp : Transports n Expression.crlf operand operand') (level : Precedence) :
    Transports n Expression.crlf (chain level operand) (chain level operand') :=
  hp.bind fun left => transports_chainFrom hp level left

/-- Truth values. -/
theorem transports_boolean : Transports n Expression.crlf boolean boolean :=
  Transports.bind ((transports_word (by decide)).orElse (transports_word (by decide))) fun w =>
    (transports_satisfy (by decide +kernel)).notFollowedBy.bind fun _ =>
      transports_pure Expression.crlf (.bool (w == "true"))

/-- Expressions in parentheses. What stands in the parentheses is shorter. -/
theorem Parser.Transports.betweenParentheses {p p' : Parser Expression}
    (hp : Transports n Expression.crlf p p') :
    Transports (n + 1) Expression.crlf (betweenParentheses p) (betweenParentheses p') :=
  (transports_char (by decide)).lexeme.bind_of_length
    (fun hread _ hn => by
      have := (advances_satisfy _).lexeme.length_lt hread
      omega)
    fun _ => hp.bind fun e => (transports_char (by decide)).lexeme.bind fun _ =>
      transports_pure Expression.crlf e

/-! ## First lines -/

/-- Behind titles notes begin at the same places. -/
theorem startsTrailingNote_crlf (s : List Char) :
    startsTrailingNote (crlf s) = startsTrailingNote s := by
  rw [Bool.eq_iff_iff, startsTrailingNote_iff, startsTrailingNote_iff]
  constructor
  · rintro (⟨t, h⟩ | ⟨c, t, h, hc⟩)
    · obtain ⟨u, rfl, h'⟩ := eq_cons_of_crlf (by decide) h
      obtain ⟨v, rfl, -⟩ := eq_cons_of_crlf (by decide) h'
      exact .inl ⟨v, rfl⟩
    · have hreturn : c ≠ '\r' := by
        rintro rfl
        cases hc
      obtain ⟨u, rfl, h'⟩ := eq_cons_of_crlf (by decide) h
      obtain ⟨v, rfl, h''⟩ := eq_cons_of_crlf hreturn h'
      obtain ⟨w, rfl, -⟩ := eq_cons_of_crlf (by decide) h''
      exact .inr ⟨c, w, rfl, hc⟩
  · rintro (⟨t, rfl⟩ | ⟨c, t, rfl, hc⟩)
    · exact .inl ⟨crlf t, rfl⟩
    · have hfeed : c ≠ '\n' := by
        rintro rfl
        cases hc
      exact .inr ⟨c, crlf t, by rw [crlf_cons (by decide), crlf_cons hfeed]; rfl, hc⟩

/-- Titles end at the same places. -/
theorem endsTitle_crlf (s : List Char) : endsTitle (crlf s) = endsTitle s := by
  rw [endsTitle, endsTitle, startsTrailingNote_crlf]
  cases s with
  | nil => rfl
  | cons c s =>
    by_cases hc : c = '\n'
    · subst hc
      rfl
    · rw [crlf_cons hc]
      rfl

/-- Titles. -/
theorem transports_title : Transports n id title title := by
  have hend (s : List Char) : endsTitle ('\n' :: s) = true := by simp [endsTitle, isLineBreak]
  exact (transports_takeUntil endsTitle_crlf hend).bind fun _ => transports_pure id _

/-- First lines of transactions. -/
theorem transports_header : Transports n id header header := by
  have hstatus : Transports n id status status :=
    Transports.orElse ((transports_char (by decide)).bind fun _ => transports_pure id _)
      ((transports_char (by decide)).bind fun _ => transports_pure id _)
  exact transports_date.lexeme.bind fun _ => hstatus.optional_id.lexeme.bind fun _ =>
    transports_title.bind fun _ =>
      (transports_spacer.bind fun _ => transports_noteBody).optional_id.bind fun _ =>
        transports_pure id _

/-- Words that open a statement. -/
theorem transports_keyword {w : String} (h : '\r' ∉ w.toList ∧ '\n' ∉ w.toList) :
    Transports n id (keyword w) (keyword w) :=
  (transports_word h).bind fun _ => transports_spaces1

/-! ## Positions -/

/-- There are as many line feeds. -/
theorem count_crlf (s : List Char) : (crlf s).count '\n' = s.count '\n' := by
  induction s with
  | nil => rfl
  | cons c s ih =>
    by_cases hc : c = '\n'
    · subst hc
      simp [ih]
    · simp [crlf_cons hc, List.count_cons, ih]

/-- The last line has no line end, and so it stays. -/
theorem lastLine_crlf (s : List Char) :
    (crlf s).reverse.takeWhile (· != '\n') = s.reverse.takeWhile (· != '\n') := by
  induction s using List.reverseRecOn with
  | nil => rfl
  | append_singleton s c ih =>
    by_cases hc : c = '\n'
    · subst hc
      simp [crlf_append]
    · simp [crlf_append, crlf_cons hc, hc, ih]

/-- The position behind a text. -/
theorem Position.after_crlf (front : List Char) :
    Position.after (crlf front) = Position.after front := by
  rw [Position.after, Position.after, count_crlf, lastLine_crlf]

/-- The position of a place. -/
theorem Position.of_crlf {source place : List Char} (h : place <:+ source) :
    Position.of (crlf source) (crlf place) = Position.of source place := by
  obtain ⟨front, rfl⟩ := h
  rw [crlf_append, Position.of_append, Position.of_append, Position.after_crlf]

/-- The first line is found without the carriage return behind it. -/
theorem firstLine_crlf {s : List Char} (hs : '\r' ∉ s) : firstLine (crlf s) = firstLine s := by
  by_cases hfeed : '\n' ∈ s
  · obtain ⟨line, back, rfl, hline⟩ := List.eq_append_cons_of_mem hfeed
    have hrun {front : List Char} (h : '\n' ∉ front) (back : List Char) :
        (front ++ '\n' :: back).takeWhile (· != '\n') = front := by
      have hall : ∀ c ∈ front, (c != '\n') = true := fun c hc =>
        bne_iff_ne.mpr fun heq => h (heq ▸ hc)
      rw [List.takeWhile_append_of_pos hall, List.takeWhile_cons_of_neg (by simp), List.append_nil]
    have hlast : line.getLast? ≠ some '\r' := fun h =>
      hs (List.mem_append_left _ (List.mem_of_getLast? h))
    have hreturn : crlf (line ++ '\n' :: back) = (line ++ ['\r']) ++ '\n' :: crlf back := by
      simp [crlf_append, crlf_of_not_mem hline]
    have hline' : '\n' ∉ line ++ ['\r'] := by simp [hline]
    rw [firstLine, firstLine, hreturn, hrun hline', hrun hline]
    simp [hlast]
  · rw [crlf_of_not_mem hfeed]

/-! ## Expressions -/

variable (hsymbols : ∀ symbol ∈ lexicon.symbols, '\r' ∉ symbol.toList ∧ '\n' ∉ symbol.toList)
include hsymbols

/-- Literals and names. -/
theorem transports_primitive :
    Transports n Expression.crlf (primitive lexicon) (primitive lexicon) :=
  Transports.orElse ((transports_amount hsymbols).map fun _ => rfl) <|
    Transports.orElse ((transports_delimitedBy '/' (by decide)).map fun _ => rfl) <|
      Transports.orElse (((transports_delimitedBy '"' (by decide)).orElse
        (transports_delimitedBy '\'' (by decide))).map fun _ => rfl) <|
        transports_boolean.orElse (transports_identifier.map fun _ => rfl)

/-- Expressions within depths that are not exceeded. -/
theorem transports_expressionWithin {depth depth' : Nat} (hdepth : n ≤ depth)
    (hdepth' : n ≤ depth') :
    Transports n Expression.crlf (expressionWithin lexicon depth)
      (expressionWithin lexicon depth') := by
  induction n generalizing depth depth' with
  | zero => exact fun s _ hn => absurd hn (Nat.not_lt_zero _)
  | succ n ih =>
    obtain ⟨d, rfl⟩ : ∃ d, depth = d + 1 := ⟨depth - 1, by omega⟩
    obtain ⟨d', rfl⟩ : ∃ d', depth' = d' + 1 := ⟨depth' - 1, by omega⟩
    have hinner := ih (by omega : n ≤ d) (by omega : n ≤ d')
    have hoperand : Transports (n + 1) Expression.crlf
        (operandOf lexicon (expressionWithin lexicon d))
        (operandOf lexicon (expressionWithin lexicon d')) :=
      hinner.betweenParentheses.orElse (transports_primitive hsymbols).lexeme
    exact ((((hoperand.chain _).chain _).chain _).chain _).chain _

/-- Expressions. -/
theorem transports_expression :
    Transports n Expression.crlf (expression lexicon) (expression lexicon) := fun s hs _ =>
  transports_expressionWithin hsymbols (n := s.length + 1) (Nat.le_refl _)
    (Nat.succ_le_succ (length_le_crlf s)) hs (Nat.lt_succ_self _)

/-! ## Statements -/

/-- Values of postings. -/
theorem transports_postingValue :
    Transports n Expression.crlf (postingValue lexicon) (postingValue lexicon) :=
  Transports.orElse ((transports_amount hsymbols).map fun _ => rfl)
    ((transports_expression hsymbols).betweenParentheses.mono (Nat.le_succ n))

/-- Costs. -/
theorem transports_cost : Transports n id (cost lexicon) (cost lexicon) := by
  have hkind : Transports n id costKind costKind :=
    Transports.orElse ((transports_word (by decide)).bind fun _ => transports_pure id _)
      ((transports_word (by decide)).bind fun _ => transports_pure id _)
  exact hkind.lexeme.bind fun _ => (transports_amount hsymbols).bind fun _ => transports_pure id _

/-- Postings. -/
theorem transports_posting : Transports n Posting.crlf (posting lexicon) (posting lexicon) := by
  have hbalance : Transports n id (claimedBalance lexicon) (claimedBalance lexicon) :=
    (transports_char (by decide)).lexeme.bind fun _ => transports_amount hsymbols
  refine transports_account.lexeme.bind fun _ =>
    (transports_postingValue hsymbols).lexeme.optional.bind fun _ =>
      (transports_cost hsymbols).lexeme.optional_id.bind fun _ =>
        hbalance.lexeme.optional_id.bind fun _ => transports_noteBody.optional_id.bind fun _ => ?_
  exact transports_pure Posting.crlf _

/-- Further lines of transactions. -/
theorem transports_line : Transports n Line.crlf (line lexicon) (line lexicon) :=
  Transports.orElse (transports_noteBody.lexeme.map fun _ => rfl)
    ((transports_posting hsymbols).lexeme.map fun _ => rfl)

/-- Transactions. -/
theorem transports_transaction :
    Transports n Transaction.crlf (transaction lexicon) (transaction lexicon) :=
  transports_header.bind fun h => (transports_line hsymbols).indented.many1.bind fun lines => by
    have hvalue := transports_pure (n := n) Transaction.crlf (h.transaction lines)
    rwa [← Header.transaction_crlf] at hvalue

/-- First lines of rules. -/
theorem transports_ruleHeader :
    Transports n Expression.crlf (ruleHeader lexicon) (ruleHeader lexicon) := by
  have hquoted : Transports n Expression.crlf (quotedCondition lexicon)
      (quotedCondition lexicon) :=
    (transports_word (by decide)).lexeme.bind fun _ => (transports_char (by decide)).lexeme.bind
      fun _ => (transports_expression hsymbols).lexeme.bind fun e =>
        (transports_char (by decide)).bind fun _ => transports_pure Expression.crlf e
  exact (transports_char (by decide)).lexeme.bind fun _ =>
    hquoted.orElse ((transports_delimitedBy '/' (by decide)).map fun _ => rfl)

/-- Further lines of rules. -/
theorem transports_template :
    Transports n Template.crlf (template lexicon) (template lexicon) :=
  transports_account.lexeme.bind fun _ => (transports_postingValue hsymbols).bind fun _ =>
    transports_pure Template.crlf _

/-- Rules. -/
theorem transports_rule : Transports n Rule.crlf (rule lexicon) (rule lexicon) :=
  (transports_ruleHeader hsymbols).lexeme.bind fun condition =>
    (transports_template hsymbols).lexeme.indented.many1.bind fun templates =>
      transports_pure Rule.crlf ⟨condition, templates⟩

/-- Statements. -/
theorem transports_statement :
    Transports n Statement.crlf (statement lexicon) (statement lexicon) := by
  have hyear : Transports n Statement.crlf yearDeclaration yearDeclaration :=
    Transports.checked ((transports_keyword (by decide)).bind fun _ => transports_natural)
      fun n => by split_ifs <;> rfl
  have hcommodity : Transports n Statement.crlf commodityDeclaration commodityDeclaration :=
    (transports_keyword (by decide)).bind fun _ =>
      (transports_takeWhile1 (by decide +kernel)).bind fun _ => transports_pure Statement.crlf _
  have hcomment : Transports n Statement.crlf comment comment :=
    (transports_satisfy (by decide)).bind fun _ => transports_spaces.bind fun _ =>
      transports_restOfLine.bind fun _ => transports_pure Statement.crlf _
  have haccount : Transports n Statement.crlf accountDeclaration accountDeclaration :=
    (transports_keyword (by decide)).bind fun _ => transports_account.bind fun _ =>
      transports_pure Statement.crlf _
  have hdefinition : Transports n Statement.crlf (definition lexicon) (definition lexicon) :=
    (transports_keyword (by decide)).bind fun _ => transports_identifier.lexeme.bind fun _ =>
      (transports_char (by decide)).lexeme.bind fun _ => (transports_expression hsymbols).bind
        fun _ => transports_pure Statement.crlf _
  have htag : Transports n Statement.crlf tagDeclaration tagDeclaration :=
    (transports_keyword (by decide)).bind fun _ => transports_identifier.bind fun _ =>
      transports_pure Statement.crlf _
  exact Transports.orElse ((transports_transaction hsymbols).map fun _ => rfl) <|
    hyear.orElse <| hcommodity.orElse <| hcomment.orElse <| haccount.orElse <|
      hdefinition.orElse <| htag.orElse <| (transports_rule hsymbols).map fun _ => rfl

/-- Statements with the end of their line. -/
theorem transports_statementLine :
    Transports n Statement.crlf (statementLine lexicon) (statementLine lexicon) :=
  (transports_statement hsymbols).bind fun st => transports_spaces.bind fun _ =>
    transports_lineEnd.bind fun _ => transports_pure Statement.crlf st

/-! ## Sources -/

/-- Whether a first line lacks the lines behind it. -/
theorem lacksLines_crlf {s : List Char} (hs : '\r' ∉ s) :
    lacksLines lexicon (crlf s) = lacksLines lexicon s := by
  unfold lacksLines
  dsimp only
  set first : Parser Unit := do
    (do let _ ← header; return ()) <|> (do let _ ← ruleHeader lexicon; return ())
    spaces
    lineEnd with hdef
  have hfirst : Transports (s.length + 1) id first first :=
    Transports.bind (Transports.orElse (transports_header.bind fun _ => transports_pure id ())
      ((transports_ruleHeader hsymbols).bind fun _ => transports_pure id ())) fun _ =>
        transports_spaces.bind fun _ => transports_lineEnd
  obtain ⟨hread, -⟩ := hfirst hs (Nat.lt_succ_self _)
  rw [hread]
  cases first s with
  | done _ rest => exact all_crlf (isBlank_lineBreak.1.trans isBlank_lineBreak.2.symm) rest
  | stuck place => rfl

/-- Where a statement begins, one begins with carriage returns in the text, too. -/
theorem exists_statementLine_crlf {s : List Char} {c : Char} {cs : List Char} (hs : '\r' ∉ s)
    (hcs : s.dropWhile isBlankLineChar = c :: cs) (hdrop : c :: cs <:+ s) :
    ∃ c' cs', crlf (c :: cs) = c' :: cs' ∧ (crlf s).dropWhile isBlankLineChar = c' :: cs' ∧
      statementLine lexicon (c' :: cs') =
        (statementLine lexicon (c :: cs)).crlf Statement.crlf := by
  have hmore : crlf (c :: cs) ≠ [] := by
    rw [crlf]
    split_ifs <;> exact List.cons_ne_nil _ _
  obtain ⟨c', cs', hcs'⟩ := List.exists_cons_of_ne_nil hmore
  have hreturn : '\r' ∉ c :: cs := fun h => hs (hdrop.subset h)
  obtain ⟨hread, -⟩ := transports_statementLine hsymbols hreturn (Nat.lt_succ_self _)
  rw [hcs'] at hread
  exact ⟨c', cs', hcs', by rw [dropWhile_crlf rfl, hcs, hcs'], hread⟩

/-- The statements of a source. -/
theorem statements_crlf {s : List Char} (hs : '\r' ∉ s) :
    statements lexicon (crlf s) = ((statements lexicon s).1.map Statement.crlf,
      (statements lexicon s).2.map fun f => ⟨crlf f.start, crlf f.place⟩) := by
  induction s using statements_induction lexicon with
  | blank s hcs =>
    have hdrop' : (crlf s).dropWhile isBlankLineChar = [] := by
      rw [dropWhile_crlf rfl, hcs]
      rfl
    rw [statements_of_nil hcs, statements_of_nil hdrop']
    rfl
  | stuck s c cs place hcs hdrop hline =>
    obtain ⟨c', cs', hcs', hdrop', hread⟩ := exists_statementLine_crlf hsymbols hs hcs hdrop
    rw [hline] at hread
    rw [statements_of_stuck hcs hline, statements_of_stuck hdrop' hread, ← hcs']
    rfl
  | done s c cs st rest hcs hdrop hline hrest ih =>
    obtain ⟨c', cs', -, hdrop', hread⟩ := exists_statementLine_crlf hsymbols hs hcs hdrop
    rw [hline] at hread
    rw [statements_of_done hcs hline, statements_of_done hdrop' hread,
      ih fun h => hs (hrest.subset h)]
    rfl

/-- The error of a statement that cannot be read. -/
theorem Failure.error_crlf {source : List Char} (hsource : '\r' ∉ source) {f : Failure}
    (hstart : f.start <:+ source) (hplace : f.place <:+ f.start) :
    Failure.error lexicon (crlf source) ⟨crlf f.start, crlf f.place⟩ =
      f.error lexicon source := by
  have hs : '\r' ∉ f.start := fun h => hsource (hstart.subset h)
  have hp : '\r' ∉ f.place := fun h => hs (hplace.subset h)
  have hnil : Position.of (crlf source) [] = Position.of source [] :=
    Position.of_crlf List.nil_suffix
  simp only [Failure.error, lacksLines_crlf hsymbols hs, hnil,
    Position.of_crlf (hplace.trans hstart), firstLine_crlf hp]

end Grammar

open Grammar

/-- Reading does not depend on how lines end. Let a source have no carriage return, and let the
symbols that are read have no line break. With a carriage return in front of every line feed the
source is read as the same statements, with the carriage returns in their strings and patterns, and
if it cannot be read, then with the same error: of the same kind, at the same line and column, and
with the same text that has been found. -/
theorem parse_crlf {lexicon : Lexicon} {source : String}
    (hsymbols : ∀ symbol ∈ lexicon.symbols, '\r' ∉ symbol.toList ∧ '\n' ∉ symbol.toList)
    (hsource : '\r' ∉ source.toList) :
    parse lexicon (Text.crlf source) = (parse lexicon source).map (List.map Statement.crlf) := by
  have hread := statements_crlf hsymbols hsource
  have htext : (Text.crlf source).toList = crlf source.toList := String.toList_ofList
  cases hstop : (statements lexicon source.toList).2 with
  | none =>
    have hok : parse lexicon source = .ok (statements lexicon source.toList).1 :=
      parse_eq_ok_iff.mpr (Prod.ext rfl hstop)
    rw [hok]
    exact parse_eq_ok_iff.mpr (by rw [htext, hread, hstop]; rfl)
  | some f =>
    obtain ⟨hstart, hplace⟩ := failure_suffix hstop
    have herror : parse lexicon source = .error (f.error lexicon source.toList) :=
      parse_eq_error_iff.mpr ⟨f, hstop, rfl⟩
    rw [herror]
    refine parse_eq_error_iff.mpr ⟨_, by rw [htext, hread, hstop]; rfl, ?_⟩
    rw [htext, Failure.error_crlf hsymbols hsource hstart hplace]

/-- A string that runs over a line end is read with the carriage return, and a tag without a name is
found in the second line. -/
theorem parse_crlf_twoLines :
    parse .standard "define hint = \"two\r\nlines\"\r\ntag food" =
        .ok [.definition "hint" (.string "two\r\nlines"), .tag "food"] ∧
      parse .standard "tag food\r\ntag =\r\n" = .error (.unexpectedInput ⟨2, 5⟩ "=") := by
  have hsymbols : ∀ symbol ∈ Lexicon.standard.symbols,
      '\r' ∉ symbol.toList ∧ '\n' ∉ symbol.toList := by decide
  have hread : parse .standard "define hint = \"two\nlines\"\ntag food" =
      .ok [.definition "hint" (.string "two\nlines"), .tag "food"] := by decide +kernel
  have hstuck : parse .standard "tag food\ntag =\n" = .error (.unexpectedInput ⟨2, 5⟩ "=") := by
    decide +kernel
  constructor
  · have h : parse .standard (Text.crlf "define hint = \"two\nlines\"\ntag food") = _ :=
      parse_crlf hsymbols (by decide)
    rw [hread] at h
    exact h
  · have h : parse .standard (Text.crlf "tag food\ntag =\n") = _ :=
      parse_crlf hsymbols (by decide)
    rw [hstuck] at h
    exact h

end Daybook
