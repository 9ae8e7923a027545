import Daybook.Grammar.Source
import Daybook.Proofs.Grammar.Parser

set_option relaxedAutoImplicit false
set_option autoImplicit false

/-!
# Progress

What remains of a text behind a value, or from the place of a failure on, is an end of the text, and
every statement takes something. Statements one after another therefore come to the end of a source
or to a failure within it.

## Main definitions

* `Outcome.remaining` — what remains of a text.
* `Parser.Shortens` — what remains is an end of the text.
* `Parser.Advances` — besides, less is left behind a value than there was.

## Main results

* `Parser.Advances.bind`, `Parser.Shortens.advances_bind` — sequences.
* `Grammar.advances_statementLine` — a statement with the end of its line.
* `Grammar.statements_of_done`, `Grammar.statements_induction` — statements one after another.
* `parse_eq_ok_iff`, `parse_eq_error_iff` — when a source is read.
-/

namespace Daybook

namespace Grammar

/-- What remains of a text behind the value that has been read, or from the place of the failure
on. -/
def Outcome.remaining {α : Type} : Outcome α → List Char
  | done _ rest => rest
  | stuck place => place

/-- What remains behind a value. -/
@[simp] theorem Outcome.remaining_done {α : Type} (a : α) (rest : List Char) :
    (done a rest).remaining = rest := rfl

/-- What remains where reading fails. -/
@[simp] theorem Outcome.remaining_stuck {α : Type} (place : List Char) :
    (stuck place : Outcome α).remaining = place := rfl

namespace Parser

variable {α β : Type}

/-- What a parser leaves of a text is an end of it, and so is what begins where the parser fails. -/
def Shortens (p : Parser α) : Prop :=
  ∀ s, (p s).remaining <:+ s

/-- A parser that shortens texts leaves less behind a value than it was given. -/
structure Advances (p : Parser α) : Prop where
  shortens : Shortens p
  length_lt : ∀ {s a rest}, p s = .done a rest → rest.length < s.length

/-- What is left behind a value. -/
theorem Shortens.done {p : Parser α} (hp : Shortens p) {s rest : List Char} {a : α}
    (h : p s = .done a rest) : rest <:+ s := by
  simpa [h] using hp s

/-- What begins where a parser fails. -/
theorem Shortens.stuck {p : Parser α} (hp : Shortens p) {s place : List Char}
    (h : p s = .stuck place) : place <:+ s := by
  simpa [h] using hp s

/-! ## Sequence and choice -/

/-- Reading nothing leaves everything. -/
theorem shortens_pure (a : α) : Shortens (pure a : Parser α) := fun s => List.suffix_refl s

/-- Two parsers one after the other. -/
theorem Shortens.bind {p : Parser α} {f : α → Parser β} (hp : Shortens p)
    (hf : ∀ a, Shortens (f a)) : Shortens (p >>= f) := by
  intro s
  cases h : p s with
  | done a r =>
    rw [bind_of_done h]
    exact (hf a r).trans (hp.done h)
  | stuck place =>
    rw [bind_of_stuck h]
    exact hp.stuck h

/-- Two parsers the first of which takes something. -/
theorem Advances.bind {p : Parser α} {f : α → Parser β} (hp : Advances p)
    (hf : ∀ a, Shortens (f a)) : Advances (p >>= f) := by
  refine ⟨hp.shortens.bind hf, fun h => ?_⟩
  obtain ⟨a, r, ha, hb⟩ := bind_eq_done.mp h
  exact ((hf a).done hb).length_le.trans_lt (hp.length_lt ha)

/-- Two parsers the second of which takes something. -/
theorem Shortens.advances_bind {p : Parser α} {f : α → Parser β} (hp : Shortens p)
    (hf : ∀ a, Advances (f a)) : Advances (p >>= f) := by
  refine ⟨hp.bind fun a => (hf a).shortens, fun h => ?_⟩
  obtain ⟨a, r, ha, hb⟩ := bind_eq_done.mp h
  exact ((hf a).length_lt hb).trans_le (hp.done ha).length_le

/-- A mapped parser. -/
theorem Shortens.map {p : Parser α} (hp : Shortens p) (f : α → β) : Shortens (f <$> p) :=
  hp.bind fun _ => shortens_pure _

/-- A mapped parser that takes something. -/
theorem Advances.map {p : Parser α} (hp : Advances p) (f : α → β) : Advances (f <$> p) :=
  hp.bind fun _ => shortens_pure _

/-- The place that is further on is an end of the text, too. -/
theorem further_suffix {a b s : List Char} (ha : a <:+ s) (hb : b <:+ s) : further a b <:+ s := by
  unfold further
  split_ifs
  · exact hb
  · exact ha

/-- A choice. -/
theorem Shortens.orElse {p q : Parser α} (hp : Shortens p) (hq : Shortens q) :
    Shortens (p <|> q) := by
  intro s
  cases h : p s with
  | done a r =>
    rw [orElse_of_done h]
    exact hp.done h
  | stuck first =>
    cases h' : q s with
    | done a r =>
      rw [orElse_of_fails ⟨first, h⟩ h']
      exact hq.done h'
    | stuck second =>
      rw [orElse_of_stuck h h']
      exact further_suffix (hp.stuck h) (hq.stuck h')

/-- A choice between parsers that take something. -/
theorem Advances.orElse {p q : Parser α} (hp : Advances p) (hq : Advances q) :
    Advances (p <|> q) := by
  refine ⟨hp.shortens.orElse hq.shortens, fun h => ?_⟩
  obtain h | ⟨-, h⟩ := orElse_eq_done.mp h
  · exact hp.length_lt h
  · exact hq.length_lt h

/-- What may be left out. -/
theorem Shortens.optional {p : Parser α} (hp : Shortens p) : Shortens (optional p) := by
  intro s
  cases h : p s with
  | done a r =>
    rw [optional_of_done h]
    exact hp.done h
  | stuck place =>
    rw [optional_of_fails ⟨place, h⟩]
    exact List.suffix_refl s

/-- A condition on what takes something. -/
theorem Advances.checked {p : Parser α} (hp : Advances p) (f : α → Option β) :
    Advances (checked p f) := by
  refine ⟨fun s => ?_, fun h => ?_⟩
  · rw [Parser.checked]
    cases h : p s with
    | stuck place => exact hp.shortens.stuck h
    | done a r =>
      dsimp only
      cases f a with
      | none => exact List.suffix_refl s
      | some b => exact hp.shortens.done h
  · obtain ⟨a, h, -⟩ := checked_eq_done.mp h
    exact hp.length_lt h

/-! ## Runs of characters and repetition -/

/-- One character. -/
theorem advances_satisfy (test : Char → Bool) : Advances (satisfy test) := by
  refine ⟨fun s => ?_, fun h => ?_⟩
  · cases s with
    | nil => exact List.suffix_refl _
    | cons c s =>
      rw [satisfy]
      split_ifs
      · exact List.suffix_cons c s
      · exact List.suffix_refl _
  · obtain ⟨rfl, -⟩ := satisfy_eq_done.mp h
    simp

/-- A word. -/
theorem shortens_word (w : String) : Shortens (word w) := by
  intro s
  rw [word]
  split_ifs
  · exact List.drop_suffix _ _
  · exact List.suffix_refl s

/-- A run of characters. -/
theorem shortens_takeWhile (test : Char → Bool) : Shortens (takeWhile test) := fun _ =>
  List.dropWhile_suffix test

/-- A run of characters, at least one. -/
theorem advances_takeWhile1 (test : Char → Bool) : Advances (takeWhile1 test) :=
  (advances_satisfy test).bind fun _ => (shortens_takeWhile test).bind fun _ => shortens_pure _

/-- The characters up to a place. -/
theorem shortens_takeUntil (stop : List Char → Bool) : Shortens (takeUntil stop) := by
  intro s
  obtain ⟨h, -⟩ := splitWhere_eq_iff.mp (Prod.eta (splitWhere stop s))
  exact ⟨(splitWhere stop s).1, h.symm⟩

/-- A repetition. -/
theorem Shortens.many {p : Parser α} (hp : Shortens p) : Shortens (many p) := by
  intro s
  show (repeated p s).2 <:+ s
  induction s using repeated_induction p with
  | stop s _ hs => rw [hs]
  | step s a r h hlt ih =>
    rw [repeated_of_done h hlt]
    exact ih.trans (hp.done h)

/-- A repetition, at least once. -/
theorem Shortens.many1 {p : Parser α} (hp : Shortens p) : Shortens (many1 p) :=
  hp.bind fun _ => hp.many.bind fun _ => shortens_pure _

end Parser

open Grammar.Parser

/-! ## Tokens -/

/-- Blanks. -/
theorem shortens_spaces : Shortens spaces :=
  (shortens_takeWhile _).bind fun _ => shortens_pure _

/-- Blanks, at least one. -/
theorem advances_spaces1 : Advances spaces1 :=
  (advances_takeWhile1 _).bind fun _ => shortens_pure _

/-- A token and the blanks after it. -/
theorem Parser.Shortens.lexeme {α : Type} {p : Parser α} (hp : Shortens p) : Shortens (lexeme p) :=
  hp.bind fun _ => shortens_spaces.bind fun _ => shortens_pure _

/-- A token that takes something, and the blanks after it. -/
theorem Parser.Advances.lexeme {α : Type} {p : Parser α} (hp : Advances p) : Advances (lexeme p) :=
  hp.bind fun _ => shortens_spaces.bind fun _ => shortens_pure _

/-- The end of a line. -/
theorem advances_lineEnding : Advances lineEnding := by
  refine ⟨fun s => ?_, fun {s _ _} h => ?_⟩
  · unfold lineEnding
    split
    · exact List.suffix_cons _ _
    · exact (List.suffix_cons _ _).trans (List.suffix_cons _ _)
    · exact List.suffix_refl _
  · unfold lineEnding at h
    split at h
    · cases h
      simp
    · cases h
      simp only [List.length_cons]
      omega
    · cases h

/-- The end of a line or of the text. -/
theorem shortens_lineEnd : Shortens lineEnd := by
  refine advances_lineEnding.shortens.orElse fun s => ?_
  unfold endOfText
  split <;> exact List.suffix_refl _

/-- What separates two fields. -/
theorem shortens_spacer : Shortens spacer := by
  intro s
  unfold spacer
  split
  · exact List.suffix_cons _ _
  · split_ifs
    · exact (List.suffix_cons _ _).trans (List.suffix_cons _ _)
    · exact List.suffix_cons _ _
  · exact List.suffix_cons _ _
  · exact List.suffix_refl _

/-- The rest of a line. -/
theorem shortens_restOfLine : Shortens restOfLine :=
  (shortens_takeWhile _).bind fun _ => shortens_pure _

/-- What is on a further line. -/
theorem Parser.Shortens.indented {α : Type} {p : Parser α} (hp : Shortens p) :
    Advances (indented p) :=
  advances_lineEnding.bind fun _ => advances_spaces1.shortens.bind fun _ => hp

/-- Identifiers. -/
theorem advances_identifier : Advances identifier :=
  (advances_takeWhile1 _).bind fun _ => shortens_pure _

/-- Whole numbers. -/
theorem advances_natural : Advances natural :=
  (advances_takeWhile1 _).checked _

/-- Numbers. -/
theorem advances_number : Advances number :=
  (advances_satisfy _).shortens.optional.advances_bind fun _ =>
    (advances_takeWhile1 _).bind fun _ => (shortens_takeWhile _).bind fun _ =>
      ((advances_satisfy _).bind fun _ =>
        (advances_takeWhile1 _).shortens).shortens.optional.bind fun _ => shortens_pure _

/-- Texts between delimiters. -/
theorem shortens_delimitedBy (d : Char) : Shortens (delimitedBy d) :=
  (advances_satisfy _).shortens.bind fun _ => (shortens_takeWhile _).bind fun _ =>
    (advances_satisfy _).shortens.bind fun _ => shortens_pure _

/-- Notes. -/
theorem shortens_noteBody : Shortens noteBody :=
  (advances_satisfy _).lexeme.shortens.bind fun _ => shortens_restOfLine

variable (lexicon : Lexicon)

/-- Symbols. -/
theorem shortens_symbol : Shortens (symbol lexicon) := by
  intro s
  unfold symbol
  split
  · exact List.drop_suffix _ _
  · exact List.suffix_refl s

/-- Amounts. -/
theorem shortens_amount : Shortens (amount lexicon) :=
  ((advances_satisfy _).lexeme.shortens.optional.bind fun _ =>
    (shortens_symbol lexicon).lexeme.bind fun _ =>
      advances_number.shortens.bind fun _ => shortens_pure _).orElse
  (advances_number.lexeme.shortens.bind fun _ =>
    (shortens_symbol lexicon).optional.bind fun _ => shortens_pure _)

/-- Parts of dates. -/
theorem shortens_datePart (c : Char) : Shortens (datePart c) :=
  (advances_satisfy _).shortens.bind fun _ => advances_natural.shortens.bind fun _ =>
    ((advances_satisfy _).shortens.bind fun _ => advances_natural.shortens).optional.bind fun _ =>
      shortens_pure _

/-- Dates. -/
theorem advances_date : Advances date :=
  Advances.checked (advances_natural.bind fun _ =>
    ((shortens_datePart '/').orElse (shortens_datePart '-')).bind fun _ => shortens_pure _) _

/-- Account names. -/
theorem shortens_account : Shortens account := by
  intro s
  unfold account
  split
  · exact List.suffix_refl _
  · split_ifs
    · exact List.suffix_refl _
    · exact shortens_takeUntil _ _

/-! ## Expressions -/

/-- Operators. -/
theorem shortens_operatorOf (operators : List Operator) : Shortens (operatorOf operators) := by
  intro s
  unfold operatorOf
  split
  · exact List.drop_suffix _ _
  · exact List.suffix_refl s

/-- Further operands. -/
theorem shortens_chainFrom {level : Precedence} {operand : Parser Expression}
    (hp : Shortens operand) (left : Expression) : Shortens (chainFrom level operand left) := by
  intro s
  have hafter {s r : List Char} {o : Operator}
      (h : lexeme (operatorOf level.operators) s = .done o r) : (operand r).remaining <:+ s :=
    (hp r).trans ((shortens_operatorOf _).lexeme.done h)
  fun_induction chainFrom level operand left s with
  | case1 left s place hoperator => exact List.suffix_refl s
  | case2 left s o r hoperator place hright => simpa [hright] using hafter hoperator
  | case3 left s o r hoperator right r' hright hlt ih =>
    have hrest := hafter hoperator
    rw [hright] at hrest
    exact ih.trans hrest
  | case4 left s o r hoperator right r' hright hlt => simpa [hright] using hafter hoperator

/-- Operands joined by the operators of a level. -/
theorem Parser.Shortens.chain {operand : Parser Expression} (hp : Shortens operand)
    (level : Precedence) : Shortens (chain level operand) :=
  hp.bind fun left => shortens_chainFrom hp left

/-- Truth values. -/
theorem shortens_boolean : Shortens boolean := by
  refine ((shortens_word _).orElse (shortens_word _)).bind fun _ => Shortens.bind ?_ fun _ =>
    shortens_pure _
  intro s
  unfold notFollowedBy
  split <;> exact List.suffix_refl s

/-- Literals and names. -/
theorem shortens_primitive : Shortens (primitive lexicon) :=
  ((shortens_amount lexicon).map _).orElse <| ((shortens_delimitedBy _).map _).orElse <|
    (((shortens_delimitedBy _).orElse (shortens_delimitedBy _)).map _).orElse <|
      shortens_boolean.orElse (advances_identifier.shortens.map _)

/-- Expressions in parentheses. -/
theorem Parser.Shortens.betweenParentheses {p : Parser Expression} (hp : Shortens p) :
    Shortens (betweenParentheses p) :=
  (advances_satisfy _).lexeme.shortens.bind fun _ => hp.bind fun _ =>
    (advances_satisfy _).lexeme.shortens.bind fun _ => shortens_pure _

/-- Expressions up to a depth. -/
theorem shortens_expressionWithin (depth : Nat) : Shortens (expressionWithin lexicon depth) := by
  induction depth with
  | zero => exact fun s => List.suffix_refl s
  | succ depth ih =>
    have hoperand : Shortens (operandOf lexicon (expressionWithin lexicon depth)) :=
      ih.betweenParentheses.orElse (shortens_primitive lexicon).lexeme
    exact ((((hoperand.chain _).chain _).chain _).chain _).chain _

/-- Expressions. -/
theorem shortens_expression : Shortens (expression lexicon) := fun s =>
  shortens_expressionWithin lexicon (s.length + 1) s

/-! ## Statements -/

/-- Values of postings. -/
theorem shortens_postingValue : Shortens (postingValue lexicon) :=
  ((shortens_amount lexicon).map _).orElse (shortens_expression lexicon).betweenParentheses

/-- Costs. -/
theorem shortens_cost : Shortens (cost lexicon) := by
  have hkind : Shortens costKind :=
    ((shortens_word _).bind fun _ => shortens_pure _).orElse
      ((shortens_word _).bind fun _ => shortens_pure _)
  exact hkind.lexeme.bind fun _ => (shortens_amount lexicon).bind fun _ => shortens_pure _

/-- Claimed balances. -/
theorem shortens_claimedBalance : Shortens (claimedBalance lexicon) :=
  (advances_satisfy _).lexeme.shortens.bind fun _ => shortens_amount lexicon

/-- Postings. -/
theorem shortens_posting : Shortens (posting lexicon) :=
  shortens_account.lexeme.bind fun _ => (shortens_postingValue lexicon).lexeme.optional.bind
    fun _ => (shortens_cost lexicon).lexeme.optional.bind fun _ =>
      (shortens_claimedBalance lexicon).lexeme.optional.bind fun _ =>
        shortens_noteBody.optional.bind fun _ => shortens_pure _

/-- First lines of transactions. -/
theorem advances_header : Advances header := by
  have hstatus : Shortens status :=
    ((advances_satisfy _).shortens.bind fun _ => shortens_pure _).orElse
      ((advances_satisfy _).shortens.bind fun _ => shortens_pure _)
  have htitle : Shortens title := (shortens_takeUntil _).bind fun _ => shortens_pure _
  exact advances_date.lexeme.bind fun _ => hstatus.optional.lexeme.bind fun _ =>
    htitle.bind fun _ => (shortens_spacer.bind fun _ => shortens_noteBody).optional.bind fun _ =>
      shortens_pure _

/-- Further lines of transactions. -/
theorem shortens_line : Shortens (line lexicon) :=
  (shortens_noteBody.lexeme.map _).orElse ((shortens_posting lexicon).lexeme.map _)

/-- Transactions. -/
theorem advances_transaction : Advances (transaction lexicon) :=
  advances_header.bind fun _ => (shortens_line lexicon).indented.shortens.many1.bind fun _ =>
    shortens_pure _

/-- Further lines of rules. -/
theorem shortens_template : Shortens (template lexicon) :=
  shortens_account.lexeme.bind fun _ => (shortens_postingValue lexicon).bind fun _ =>
    shortens_pure _

/-- Rules. -/
theorem advances_rule : Advances (rule lexicon) := by
  have hquoted : Shortens (quotedCondition lexicon) :=
    (shortens_word _).lexeme.bind fun _ => (advances_satisfy _).lexeme.shortens.bind fun _ =>
      (shortens_expression lexicon).lexeme.bind fun _ => (advances_satisfy _).shortens.bind fun _ =>
        shortens_pure _
  have hheader : Advances (ruleHeader lexicon) :=
    (advances_satisfy _).lexeme.bind fun _ => hquoted.orElse ((shortens_delimitedBy _).map _)
  exact hheader.lexeme.bind fun _ =>
    (shortens_template lexicon).lexeme.indented.shortens.many1.bind fun _ => shortens_pure _

/-- Words that open a statement. -/
theorem advances_keyword (w : String) : Advances (keyword w) :=
  (shortens_word w).advances_bind fun _ => advances_spaces1

/-- Declarations of the year. -/
theorem advances_yearDeclaration : Advances yearDeclaration :=
  Advances.checked ((advances_keyword _).bind fun _ => advances_natural.shortens) _

/-- Declarations of commodities. -/
theorem advances_commodityDeclaration : Advances commodityDeclaration :=
  (advances_keyword _).bind fun _ => (advances_takeWhile1 _).shortens.bind fun _ =>
    shortens_pure _

/-- Comments. -/
theorem advances_comment : Advances comment :=
  (advances_satisfy _).bind fun _ => shortens_spaces.bind fun _ =>
    shortens_restOfLine.bind fun _ => shortens_pure _

/-- Declarations of accounts. -/
theorem advances_accountDeclaration : Advances accountDeclaration :=
  (advances_keyword _).bind fun _ => shortens_account.bind fun _ => shortens_pure _

/-- Definitions. -/
theorem advances_definition : Advances (definition lexicon) :=
  (advances_keyword _).bind fun _ => advances_identifier.lexeme.shortens.bind fun _ =>
    (advances_satisfy _).lexeme.shortens.bind fun _ =>
      (shortens_expression lexicon).bind fun _ => shortens_pure _

/-- Declarations of tags. -/
theorem advances_tagDeclaration : Advances tagDeclaration :=
  (advances_keyword _).bind fun _ => advances_identifier.shortens.bind fun _ => shortens_pure _

/-- Statements. -/
theorem advances_statement : Advances (statement lexicon) :=
  ((advances_transaction lexicon).map _).orElse <| advances_yearDeclaration.orElse <|
    advances_commodityDeclaration.orElse <| advances_comment.orElse <|
      advances_accountDeclaration.orElse <| (advances_definition lexicon).orElse <|
        advances_tagDeclaration.orElse <| (advances_rule lexicon).map _

/-- Statements with the end of their line. -/
theorem advances_statementLine : Advances (statementLine lexicon) :=
  (advances_statement lexicon).bind fun _ => shortens_spaces.bind fun _ =>
    shortens_lineEnd.bind fun _ => shortens_pure _

/-! ## Sources -/

variable {lexicon} {s rest : List Char} {c : Char} {cs : List Char}

/-- There is no statement in blank lines. -/
theorem statements_of_nil (h : s.dropWhile isBlankLineChar = []) :
    statements lexicon s = ([], none) := by
  rw [statements, h]

/-- Reading stops at a statement that cannot be read. -/
theorem statements_of_stuck {place : List Char} (h : s.dropWhile isBlankLineChar = c :: cs)
    (hread : statementLine lexicon (c :: cs) = .stuck place) :
    statements lexicon s = ([], some ⟨c :: cs, place⟩) := by
  rw [statements, h]
  simp only [hread]

/-- Behind a statement the next ones are read. -/
theorem statements_of_done {st : Statement} (h : s.dropWhile isBlankLineChar = c :: cs)
    (hread : statementLine lexicon (c :: cs) = .done st rest) :
    statements lexicon s =
      (st :: (statements lexicon rest).1, (statements lexicon rest).2) := by
  have hlt := (advances_statementLine lexicon).length_lt hread
  have hle := List.length_dropWhile_le isBlankLineChar s
  rw [h] at hle
  rw [statements, h]
  simp only [hread]
  rw [if_pos (by omega)]

/-- Induction along the statements of a text. There may be none but blank lines, or one that cannot
be read, or one that is read with a rest behind it. -/
@[elab_as_elim]
theorem statements_induction (lexicon : Lexicon) {motive : List Char → Prop}
    (blank : ∀ s, s.dropWhile isBlankLineChar = [] → motive s)
    (stuck : ∀ s c cs place, s.dropWhile isBlankLineChar = c :: cs → c :: cs <:+ s →
      statementLine lexicon (c :: cs) = .stuck place → motive s)
    (done : ∀ s c cs st rest, s.dropWhile isBlankLineChar = c :: cs → c :: cs <:+ s →
      statementLine lexicon (c :: cs) = .done st rest → rest <:+ s → motive rest → motive s)
    (s : List Char) : motive s := by
  induction hn : s.length using Nat.strong_induction_on generalizing s with
  | _ n ih =>
    cases hs : s.dropWhile isBlankLineChar with
    | nil => exact blank s hs
    | cons c cs =>
      have hdrop : c :: cs <:+ s := hs ▸ List.dropWhile_suffix _
      cases hread : statementLine lexicon (c :: cs) with
      | stuck place => exact stuck s c cs place hs hdrop hread
      | done st rest =>
        have hrest := ((advances_statementLine lexicon).shortens.done hread).trans hdrop
        have hlt := (advances_statementLine lexicon).length_lt hread
        have hle := hdrop.length_le
        exact done s c cs st rest hs hdrop hread hrest (ih rest.length (by omega) rest rfl)

/-- A statement that cannot be read begins within the text, and the place of the failure is within
the statement. -/
theorem failure_suffix {f : Failure} (h : (statements lexicon s).2 = some f) :
    f.start <:+ s ∧ f.place <:+ f.start := by
  induction s using statements_induction lexicon with
  | blank s hs =>
    rw [statements_of_nil hs] at h
    cases h
  | stuck s c cs place hs hdrop hread =>
    rw [statements_of_stuck hs hread] at h
    cases h
    exact ⟨hdrop, (advances_statementLine lexicon).shortens.stuck hread⟩
  | done s c cs st rest hs hdrop hread hrest ih =>
    rw [statements_of_done hs hread] at h
    obtain ⟨hstart, hplace⟩ := ih h
    exact ⟨hstart.trans hrest, hplace⟩

/-- The place of a failure is within the text. -/
theorem place_suffix {f : Failure} (h : (statements lexicon s).2 = some f) : f.place <:+ s :=
  (failure_suffix h).2.trans (failure_suffix h).1

/-- The position of what remains behind a text. -/
theorem Position.of_append (front place : List Char) :
    Position.of (front ++ place) place = Position.after front := by
  simp [Position.of]

end Grammar

open Grammar

variable {lexicon : Lexicon} {source : String}

/-- A source is read if all its statements are. -/
theorem parse_eq_ok_iff {sts : List Statement} :
    parse lexicon source = .ok sts ↔ statements lexicon source.toList = (sts, none) := by
  unfold parse
  split
  · rename_i found h
    rw [h, Except.ok.injEq, Prod.mk.injEq]
    simp
  · rename_i found failure h
    rw [h]
    simp

/-- A source that is not read has a statement that cannot be read. -/
theorem parse_eq_error_iff {e : SyntaxError} :
    parse lexicon source = .error e ↔ ∃ f, (statements lexicon source.toList).2 = some f ∧
      e = f.error lexicon source.toList := by
  unfold parse
  split
  · rename_i found h
    rw [h]
    simp
  · rename_i found failure h
    rw [h]
    simp [eq_comm]

end Daybook
