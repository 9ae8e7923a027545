import Daybook.Grammar.Source
import Daybook.Proofs.Grammar.Comparison
import Daybook.Proofs.Grammar.Header
import Daybook.Proofs.Grammar.Locality
import Daybook.Proofs.Grammar.Progress

set_option relaxedAutoImplicit false
set_option autoImplicit false

/-!
# Sources one after another

A source is read statement by statement, and so another source behind it does not change what has
been read, as long as no statement of the first one could take in a line of the second. The position
of an error only moves down.

## Main definitions

* `Grammar.Flush` — a text does not begin with an indented line.
* `Grammar.starts` — where the statements of a source begin.
* `Position.below`, `SyntaxError.below` — further lines in front.

## Main results

* `Grammar.statement_append`, `Grammar.statementLine_append` — one statement.
* `Grammar.statements_append` — the statements of two sources.
* `parse_append` — what is read from two sources, errors included.

## Design

A line that begins with a blank may be the template of a rule that a further line would complete,
and be read as a statement where it is not completed. This is why every statement has to begin in
the first column.
-/

namespace Daybook

namespace Grammar

open Grammar.Parser

variable {lexicon : Lexicon} {b s rest : List Char}

/-! ## What cannot be read -/

/-- A token cannot be read where it cannot be read with the blanks behind it. -/
theorem fails_of_lexeme_fails {α : Type} {p : Parser α} (h : Fails (lexeme p) s) : Fails p s := by
  cases hs : p s with
  | stuck place => exact ⟨place, hs⟩
  | done a r => exact absurd (lexeme_of_done hs) (fails_iff.mp h a _)

/-- A parser fails where it fails mapped. -/
theorem fails_of_map_fails {α β : Type} {p : Parser α} {f : α → β} (h : Fails (f <$> p) s) :
    Fails p s := by
  cases hs : p s with
  | stuck place => exact ⟨place, hs⟩
  | done a r => exact absurd (map_of_done f hs) (fails_iff.mp h _ _)

/-- A repetition, at least once, cannot be read where the parser cannot read once. -/
theorem fails_of_many1_fails {α : Type} {p : Parser α} (h : Fails (many1 p) s) : Fails p s := by
  cases hs : p s with
  | stuck place => exact ⟨place, hs⟩
  | done a r =>
    exact absurd (many1_eq_done.mpr ⟨a, r, _, hs, rfl, rfl⟩) (fails_iff.mp h _ _)

/-- Two parsers fail only if the first does, where the second one reads nothing. -/
theorem fails_of_bind_pure {α β : Type} {p : Parser α} {f : α → β}
    (h : Fails (do let a ← p; return f a) s) : Fails p s :=
  fails_of_map_fails h

/-- Where a repetition has ended, no more can be read. -/
theorem fails_of_repeated {α : Type} {p : Parser α} (hp : Advances p) {items : List α}
    (h : repeated p s = (items, rest)) : Fails p rest := by
  induction s using repeated_induction p generalizing items with
  | stop s hstop hs =>
    rw [hs] at h
    cases h
    exact fails_iff.mpr fun a r hread => hstop a r hread (hp.length_lt hread)
  | step s a r hs hlt ih =>
    rw [repeated_of_done hs hlt] at h
    exact ih (Prod.ext rfl (Prod.mk.inj h).2)

/-! ## Further lines -/

/-- The end of a line. -/
theorem carries_lineEnding {t : List Char} : Carries t lineEnding lineEnding := by
  intro s rest u h
  unfold lineEnding at h
  split at h <;> cases h <;> rfl

/-- The end of a line is found behind a text that is the beginning of one. -/
theorem lineEnding_append_of_fails (h : Fails lineEnding s) :
    Fails lineEnding (s ++ '\n' :: b) ∨ lineEnding (s ++ '\n' :: b) = .done () b := by
  rcases s with _ | ⟨c, s⟩
  · exact .inr rfl
  · by_cases hr : c = '\r' ∧ s = []
    · obtain ⟨rfl, rfl⟩ := hr
      exact .inr rfl
    · left
      rw [fails_iff] at h ⊢
      intro u rest hread
      unfold lineEnding at hread
      split at hread
      · rename_i r heq
        obtain ⟨rfl, -⟩ := List.cons_eq_cons.mp heq
        exact h () s rfl
      · rename_i r heq
        obtain ⟨hc, heq⟩ := List.cons_eq_cons.mp heq
        cases s with
        | nil => exact hr ⟨hc, rfl⟩
        | cons d s =>
          obtain ⟨rfl, -⟩ := List.cons_eq_cons.mp heq
          exact h () s (hc ▸ rfl)
      · cases hread

/-- A text does not begin with an indented line: where it begins with blanks, there is no other
character behind them in the line. -/
def Flush (s : List Char) : Prop :=
  (∃ c, s.head? = some c ∧ isSpace c = true) →
    ∀ c, (trimmed s).head? = some c → Unicode.isBlank c = true

/-- A text that does not begin with a blank does not begin with an indented line. -/
theorem flush_of_head (h : ∀ c, s.head? = some c → isSpace c = false) : Flush s := by
  rintro ⟨c, hc, hspace⟩
  rw [h c hc] at hspace
  cases hspace

/-- The characters of blank lines are blanks. -/
theorem isBlank_of_isBlankLineChar {c : Char} (h : isBlankLineChar c = true) :
    Unicode.isBlank c = true := by
  have hall : ∀ e ∈ [' ', '\t', '\r', '\n'], Unicode.isBlank e = true :=
    List.all_iff_forall_prop.mp (by decide +kernel)
  refine hall c ?_
  simpa [isBlankLineChar, isSpace, isLineBreak, or_assoc] using h

/-- Blank lines do not begin with an indented line. -/
theorem flush_of_blank (h : ∀ c ∈ s, isBlankLineChar c = true) : Flush s := by
  intro _ c hc
  have hmem : c ∈ s := (List.dropWhile_suffix isSpace).subset (List.mem_of_mem_head? hc)
  exact isBlank_of_isBlankLineChar (h c hmem)

/-- Blanks in front of a text end where a line does. -/
theorem trimmed_append_newline (s : List Char) :
    trimmed (s ++ '\n' :: b) = trimmed s ++ '\n' :: b :=
  (Outcome.done.inj (stable_spaces.carries (spaces_apply s))).2

/-- A line feed behind a text does not make it begin with an indented line. -/
theorem Flush.append (h : Flush s) : Flush (s ++ '\n' :: b) := by
  rcases s with _ | ⟨c, s⟩
  · exact flush_of_head fun d hd => Option.some.inj hd ▸ rfl
  · rintro ⟨d, hd, hspace⟩ e he
    rw [trimmed_append_newline] at he
    cases htrimmed : trimmed (c :: s) with
    | nil =>
      rw [htrimmed] at he
      obtain rfl := Option.some.inj he
      exact isBlank_lineBreak.2
    | cons e' s' =>
      refine h ⟨d, hd, hspace⟩ e ?_
      rw [htrimmed] at he ⊢
      exact he

/-- No name of an account begins with a blank of any kind. -/
theorem fails_account (h : ∀ c, s.head? = some c → Unicode.isBlank c = true) :
    Fails account s := by
  cases s with
  | nil => exact ⟨[], rfl⟩
  | cons c s => exact ⟨c :: s, if_pos (h c rfl)⟩

/-- There is no further line where a line is not indented, for a parser that reads nothing in front
of a blank. -/
theorem fails_indented_of_lineEnding {α : Type} {p : Parser α}
    (hp : ∀ s : List Char, (∀ c, s.head? = some c → Unicode.isBlank c = true) → Fails p s)
    (h : lineEnding s = .done () rest) (hflush : Flush rest) : Fails (indented p) s := by
  refine fails_bind_of_done h ?_
  by_cases hblank : ∃ c, rest.head? = some c ∧ isSpace c = true
  · cases hspaces : spaces1 rest with
    | stuck place => exact Fails.bind ⟨place, hspaces⟩ _
    | done u r => exact fails_bind_of_done hspaces (hp r (spaces1_eq_done hspaces ▸ hflush hblank))
  · refine ((fails_takeWhile1 fun c hc => ?_).bind _).bind _
    exact Bool.eq_false_of_not_eq_true fun hspace => hblank ⟨c, hc, hspace⟩

/-- What is read on a further line, where the parser of the line goes on reading it. -/
theorem indented_append {α : Type} {p : Parser α} {a : α}
    (hp : ∀ s, p s = .done a rest → p (s ++ '\n' :: b) = .done a (rest ++ '\n' :: b))
    (h : indented p s = .done a rest) :
    indented p (s ++ '\n' :: b) = .done a (rest ++ '\n' :: b) := by
  obtain ⟨u, r, hend, h⟩ := bind_eq_done.mp h
  obtain ⟨v, r', hspaces, h⟩ := bind_eq_done.mp h
  rw [indented, bind_of_done (carries_lineEnding hend),
    bind_of_done (stable_spaces1.carries hspaces)]
  exact hp r' h

/-- What cannot be read on a further line, where the parser of the line goes on failing and the next
line is not indented. -/
theorem fails_indented_append {α : Type} {p : Parser α}
    (hblank : ∀ s : List Char, (∀ c, s.head? = some c → Unicode.isBlank c = true) → Fails p s)
    (hb : Flush b) (hp : ∀ s, Fails p s → Fails p (s ++ '\n' :: b)) (h : Fails (indented p) s) :
    Fails (indented p) (s ++ '\n' :: b) := by
  cases hend : lineEnding s with
  | stuck place =>
    obtain hend | hend := lineEnding_append_of_fails (b := b) ⟨place, hend⟩
    · exact hend.bind _
    · exact fails_indented_of_lineEnding hblank hend hb
  | done u r =>
    refine fails_bind_of_done (carries_lineEnding hend) ?_
    rw [indented, Fails, bind_of_done hend] at h
    cases hspaces : spaces1 r with
    | stuck place => exact (stable_spaces1.fails ⟨place, hspaces⟩).bind _
    | done v r' =>
      rw [bind_of_done hspaces] at h
      exact fails_bind_of_done (stable_spaces1.carries hspaces) (hp r' h)

/-- What is read on a further line is preceded by the end of the line before. -/
theorem head?_of_indented {α : Type} {p : Parser α} {a : α} (h : indented p s = .done a rest) :
    s.head? ≠ some '(' := by
  obtain ⟨u, r, hend, -⟩ := bind_eq_done.mp h
  rintro hs
  cases s with
  | nil => cases hend
  | cons c s =>
    obtain rfl : c = '(' := Option.some.inj hs
    cases hend

/-! ## Postings -/

/-- Values of postings. -/
theorem carries_postingValue (h : lexicon.HasPlainSymbols) :
    Carries ('\n' :: b) (postingValue lexicon) (postingValue lexicon) :=
  ((stable_amount h.noLineFeed).map _).carries.orElse (carries_parenthesized h)
    fun _ _ _ hs _ => ((stable_amount h.noLineFeed).map _).fails hs

/-- A value that cannot be read begins with a parenthesis, if a further line makes it complete. -/
theorem fails_postingValue_append (h : lexicon.HasPlainSymbols) (hopen : s.head? ≠ some '(')
    (hs : Fails (postingValue lexicon) s) : Fails (postingValue lexicon) (s ++ '\n' :: b) := by
  refine Fails.orElse (((stable_amount h.noLineFeed).map _).fails (fails_of_fails_orElse hs).1) ?_
  refine fails_betweenParentheses ?_
  cases s with
  | nil => simp
  | cons c s => exact hopen

/-- Costs. -/
theorem stable_cost (h : lexicon.HasPlainSymbols) : Stable ('\n' :: b) (cost lexicon) :=
  (((stable_word (by decide)).bind fun _ => stable_pure _).orElse
    ((stable_word (by decide)).bind fun _ => stable_pure _)).lexeme.bind fun _ =>
      (stable_amount h.noLineFeed).bind fun _ => stable_pure _

/-- Claimed balances. -/
theorem stable_claimedBalance (h : lexicon.HasPlainSymbols) :
    Stable ('\n' :: b) (claimedBalance lexicon) :=
  (stable_char (by decide)).lexeme.bind fun _ => stable_amount h.noLineFeed

/-- Behind its value nothing in a posting begins with a parenthesis. -/
theorem fails_behind_value (s : List Char) :
    Fails (cost lexicon) ('(' :: s) ∧ Fails (claimedBalance lexicon) ('(' :: s) ∧
      Fails noteBody ('(' :: s) :=
  ⟨(lexeme_fails (((fails_word rfl).bind _).orElse ((fails_word rfl).bind _))).bind _,
    (lexeme_fails (fails_char (by simp))).bind _, fails_noteBody (by simp)⟩

/-- A posting is read as before, unless what is left of it begins with a parenthesis, which further
line might close. -/
theorem posting_append (h : lexicon.HasPlainSymbols) {p : Posting}
    (hread : posting lexicon s = .done p rest) (hopen : rest.head? ≠ some '(') :
    posting lexicon (s ++ '\n' :: b) = .done p (rest ++ '\n' :: b) := by
  obtain ⟨written, r₁, haccount, hread⟩ := bind_eq_done.mp hread
  obtain ⟨value, r₂, hvalue, hread⟩ := bind_eq_done.mp hread
  obtain ⟨price, r₃, hprice, hread⟩ := bind_eq_done.mp hread
  obtain ⟨claimed, r₄, hclaimed, hread⟩ := bind_eq_done.mp hread
  obtain ⟨note, r₅, hnote, hread⟩ := bind_eq_done.mp hread
  cases hread
  have hvalue' : optional (lexeme (postingValue lexicon)) (r₁ ++ '\n' :: b) =
      .done value (r₂ ++ '\n' :: b) := by
    obtain ⟨e, hdone, rfl⟩ | ⟨hfails, rfl, rfl⟩ := optional_eq_done.mp hvalue
    · exact optional_of_done ((carries_postingValue h).lexeme hdone)
    · refine optional_of_fails (lexeme_fails (fails_postingValue_append h (fun hr => ?_)
        (fails_of_lexeme_fails hfails)))
      obtain ⟨r, rfl⟩ := List.head?_eq_some_iff.mp hr
      obtain ⟨hcost, hbalance, hbody⟩ := @fails_behind_value lexicon r
      rw [optional_of_fails (lexeme_fails hcost)] at hprice
      cases hprice
      rw [optional_of_fails (lexeme_fails hbalance)] at hclaimed
      cases hclaimed
      rw [optional_of_fails hbody] at hnote
      cases hnote
      exact hopen rfl
  rw [posting, bind_of_done (stable_account.lexeme.carries haccount), bind_of_done hvalue',
    bind_of_done ((stable_cost h).lexeme.optional.carries hprice),
    bind_of_done ((stable_claimedBalance h).lexeme.optional.carries hclaimed),
    bind_of_done (stable_noteBody.optional.carries hnote)]
  rfl

/-- A posting that cannot be read lacks its account. -/
theorem fails_posting_iff : Fails (posting lexicon) s ↔ Fails account s := by
  refine ⟨fun hs => ?_, fun hs => (lexeme_fails hs).bind _⟩
  cases haccount : lexeme account s with
  | stuck place => exact fails_of_lexeme_fails ⟨place, haccount⟩
  | done written r₁ =>
    obtain ⟨value, r₂, hvalue⟩ := exists_optional_eq_done (lexeme (postingValue lexicon)) r₁
    obtain ⟨price, r₃, hprice⟩ := exists_optional_eq_done (lexeme (cost lexicon)) r₂
    obtain ⟨claimed, r₄, hclaimed⟩ := exists_optional_eq_done (lexeme (claimedBalance lexicon)) r₃
    obtain ⟨note, r₅, hnote⟩ := exists_optional_eq_done noteBody r₄
    obtain ⟨place, hs⟩ := hs
    rw [posting, bind_of_done haccount, bind_of_done hvalue, bind_of_done hprice,
      bind_of_done hclaimed, bind_of_done hnote] at hs
    cases hs

/-! ## Transactions -/

/-- A line is read as before, unless what is left of it begins with a parenthesis. -/
theorem line_append (h : lexicon.HasPlainSymbols) {l : Line} (hread : line lexicon s = .done l rest)
    (hopen : rest.head? ≠ some '(') :
    line lexicon (s ++ '\n' :: b) = .done l (rest ++ '\n' :: b) := by
  have hnote : Stable ('\n' :: b) (Line.note <$> lexeme noteBody) := stable_noteBody.lexeme.map _
  obtain hread | ⟨hfails, hread⟩ := orElse_eq_done.mp hread
  · exact orElse_of_done (hnote.carries hread)
  · refine orElse_of_fails (hnote.fails hfails) ?_
    obtain ⟨p, hlexeme, rfl⟩ := map_eq_done.mp hread
    obtain ⟨r, hposting, rfl⟩ := lexeme_eq_done.mp hlexeme
    have hr : r.head? ≠ some '(' := by
      intro hr
      obtain ⟨r, rfl⟩ := List.head?_eq_some_iff.mp hr
      exact hopen rfl
    exact map_of_done _ (lexeme_eq_done.mpr
      ⟨_, posting_append h hposting hr, (trimmed_append_newline r).symm⟩)

/-- A line that cannot be read is neither a note nor has an account. -/
theorem fails_line_iff : Fails (line lexicon) s ↔ Fails noteBody s ∧ Fails account s := by
  constructor
  · intro hs
    obtain ⟨hnote, hposting⟩ := fails_of_fails_orElse hs
    exact ⟨fails_of_lexeme_fails (fails_of_map_fails hnote),
      fails_posting_iff.mp (fails_of_lexeme_fails (fails_of_map_fails hposting))⟩
  · rintro ⟨hnote, haccount⟩
    exact ((lexeme_fails hnote).map _).orElse
      ((lexeme_fails (fails_posting_iff.mpr haccount)).map _)

/-- A line that cannot be read cannot be read with a further line behind it either. -/
theorem fails_line_append (hs : Fails (line lexicon) s) :
    Fails (line lexicon) (s ++ '\n' :: b) := by
  obtain ⟨hnote, haccount⟩ := fails_line_iff.mp hs
  exact fails_line_iff.mpr ⟨stable_noteBody.fails hnote, stable_account.fails haccount⟩

/-- No line begins with a blank of any kind behind its indentation. -/
theorem fails_line (h : ∀ c, s.head? = some c → Unicode.isBlank c = true) :
    Fails (line lexicon) s := by
  refine fails_line_iff.mpr ⟨fails_noteBody fun hc => ?_, fails_account h⟩
  exact absurd (h ';' hc) (by decide +kernel)

/-- Titles. -/
theorem stable_title : Stable ('\n' :: b) title := by
  refine (stable_takeUntil rfl fun s hne => ?_).bind fun _ => stable_pure _
  rw [Bool.eq_iff_iff, ← Bool.not_eq_false, ← Bool.not_eq_false, not_iff_not]
  exact ⟨endsTitle_of_append hne, fun h => endsTitle_append hne h b⟩

/-- First lines of transactions. -/
theorem stable_header : Stable ('\n' :: b) header := by
  have hstatus : Stable ('\n' :: b) status :=
    ((stable_char (by decide)).bind fun _ => stable_pure _).orElse
      ((stable_char (by decide)).bind fun _ => stable_pure _)
  exact stable_date.lexeme.bind fun _ => hstatus.optional.lexeme.bind fun _ =>
    stable_title.bind fun _ => (stable_spacer.bind fun _ => stable_noteBody).optional.bind fun _ =>
      stable_pure _

/-- A transaction is read as before, unless what is left of it begins with a parenthesis. -/
theorem transaction_append (h : lexicon.HasPlainSymbols) (hb : Flush b) {tx : Transaction}
    (hread : transaction lexicon s = .done tx rest) (hopen : rest.head? ≠ some '(') :
    transaction lexicon (s ++ '\n' :: b) = .done tx (rest ++ '\n' :: b) := by
  obtain ⟨first, r, hfirst, hread⟩ := bind_eq_done.mp hread
  obtain ⟨lines, r', hlines, hvalue⟩ := bind_eq_done.mp hread
  cases hvalue
  obtain ⟨item, r₁, items, -, hrepeated, -⟩ := many1_eq_done.mp hlines
  have hend : Fails (indented (line lexicon)) (rest ++ '\n' :: b) :=
    fails_indented_append (fun _ => fails_line) hb (fun _ => fails_line_append) (fails_of_repeated
      (shortens_line lexicon).indented hrepeated)
  have hmore : many1 (indented (line lexicon)) (r ++ '\n' :: b) =
      .done lines (rest ++ '\n' :: b) :=
    many1_append (P := fun r => r.head? ≠ some '(')
      (fun _ _ _ => (shortens_line lexicon).indented.length_lt)
      (fun s a r hs => ⟨head?_of_indented hs, fun hr =>
        indented_append (fun _ hline => line_append h hline hr) hs⟩) hlines hopen hend
  rw [transaction, bind_of_done (stable_header.carries hfirst), bind_of_done hmore]
  rfl

/-- A transaction that cannot be read lacks its first line or the line after it. -/
theorem fails_transaction_append (hb : Flush b) (hs : Fails (transaction lexicon) s) :
    Fails (transaction lexicon) (s ++ '\n' :: b) := by
  cases hfirst : header s with
  | stuck place => exact (stable_header.fails ⟨place, hfirst⟩).bind _
  | done first r =>
    refine fails_bind_of_done (stable_header.carries hfirst) (Fails.bind ?_ _)
    refine (fails_indented_append (fun _ => fails_line) hb (fun _ => fails_line_append) ?_).bind _
    rw [transaction, Fails, bind_of_done hfirst] at hs
    exact fails_of_many1_fails (fails_of_bind_pure hs)

/-! ## Rules -/

/-- The condition of a rule in quotes. -/
theorem carries_quotedCondition (h : lexicon.HasPlainSymbols) :
    Carries ('\n' :: b) (quotedCondition lexicon) (quotedCondition lexicon) :=
  (stable_word (by decide)).lexeme.carries.bind fun _ =>
    (stable_char (by decide)).lexeme.carries.bind fun _ => (carries_expression h).lexeme.bind
      fun _ => (carries_satisfy _).bind fun _ => (stable_pure _).carries

/-- First lines of rules. -/
theorem carries_ruleHeader (h : lexicon.HasPlainSymbols) :
    Carries ('\n' :: b) (ruleHeader lexicon) (ruleHeader lexicon) := by
  refine (stable_char (by decide)).lexeme.carries.bind fun _ =>
    (carries_quotedCondition h).orElse ((carries_delimitedBy _).map _) fun s e rest _ hs => ?_
  obtain ⟨pattern, hs, -⟩ := map_eq_done.mp hs
  obtain ⟨rfl, -⟩ := delimitedBy_eq_done.mp hs
  exact (lexeme_fails (fails_word rfl)).bind _

/-- Templates. -/
theorem carries_template (h : lexicon.HasPlainSymbols) :
    Carries ('\n' :: b) (template lexicon) (template lexicon) :=
  stable_account.lexeme.carries.bind fun _ => (carries_postingValue h).bind fun _ =>
    (stable_pure _).carries

/-- A rule is read as before, if no further template becomes readable behind it. -/
theorem rule_append (h : lexicon.HasPlainSymbols) {r : Rule} (hread : rule lexicon s = .done r rest)
    (hend : Fails (indented (lexeme (template lexicon))) rest →
      Fails (indented (lexeme (template lexicon))) (rest ++ '\n' :: b)) :
    rule lexicon (s ++ '\n' :: b) = .done r (rest ++ '\n' :: b) := by
  obtain ⟨condition, r₁, hcondition, hread⟩ := bind_eq_done.mp hread
  obtain ⟨templates, r₂, htemplates, hvalue⟩ := bind_eq_done.mp hread
  cases hvalue
  obtain ⟨item, r₃, items, -, hrepeated, -⟩ := many1_eq_done.mp htemplates
  have hmore : many1 (indented (lexeme (template lexicon))) (r₁ ++ '\n' :: b) =
      .done templates (rest ++ '\n' :: b) :=
    many1_append (P := fun _ => True)
      (fun _ _ _ => (shortens_template lexicon).lexeme.indented.length_lt)
      (fun s a r hs => ⟨trivial, fun _ =>
        indented_append (fun _ hline => (carries_template h).lexeme hline) hs⟩)
      htemplates trivial
      (hend (fails_of_repeated (shortens_template lexicon).lexeme.indented hrepeated))
  rw [rule, bind_of_done ((carries_ruleHeader h).lexeme hcondition), bind_of_done hmore]
  rfl

/-! ## Statements -/

/-- Words that open a statement. -/
theorem stable_keyword {w : String} (h : '\n' ∉ w.toList) : Stable ('\n' :: b) (keyword w) :=
  (stable_word h).bind fun _ => stable_spaces1

/-- Declarations of the year. -/
theorem stable_yearDeclaration : Stable ('\n' :: b) yearDeclaration :=
  ((stable_keyword (by decide)).bind fun _ => stable_natural).checked _

/-- Declarations of commodities. -/
theorem stable_commodityDeclaration : Stable ('\n' :: b) commodityDeclaration :=
  (stable_keyword (by decide)).bind fun _ => (stable_takeWhile1 (by decide +kernel)).bind fun _ =>
    stable_pure _

/-- Comments. -/
theorem stable_comment : Stable ('\n' :: b) comment :=
  (stable_satisfy rfl).bind fun _ => stable_spaces.bind fun _ => stable_restOfLine.bind fun _ =>
    stable_pure _

/-- Declarations of accounts. -/
theorem stable_accountDeclaration : Stable ('\n' :: b) accountDeclaration :=
  (stable_keyword (by decide)).bind fun _ => stable_account.bind fun _ => stable_pure _

/-- Definitions. -/
theorem carries_definition (h : lexicon.HasPlainSymbols) :
    Carries ('\n' :: b) (definition lexicon) (definition lexicon) :=
  (stable_keyword (by decide)).carries.bind fun _ => stable_identifier.lexeme.carries.bind fun _ =>
    (stable_char (by decide)).lexeme.carries.bind fun _ => (carries_expression h).bind fun _ =>
      (stable_pure _).carries

/-- Declarations of tags. -/
theorem stable_tagDeclaration : Stable ('\n' :: b) tagDeclaration :=
  (stable_keyword (by decide)).bind fun _ => stable_identifier.bind fun _ => stable_pure _

/-- A statement is read as before, unless what is left of it begins with a parenthesis, or a further
template becomes readable there. -/
theorem statement_append (h : lexicon.HasPlainSymbols) (hb : Flush b) {st : Statement}
    (hread : statement lexicon s = .done st rest) (hopen : rest.head? ≠ some '(')
    (hend : Fails (indented (lexeme (template lexicon))) rest →
      Fails (indented (lexeme (template lexicon))) (rest ++ '\n' :: b)) :
    statement lexicon (s ++ '\n' :: b) = .done st (rest ++ '\n' :: b) := by
  obtain hread | ⟨hfails, hread⟩ := orElse_eq_done.mp hread
  · obtain ⟨tx, htransaction, rfl⟩ := map_eq_done.mp hread
    exact orElse_of_done (map_of_done _ (transaction_append h hb htransaction hopen))
  refine orElse_of_fails ((fails_transaction_append hb (fails_of_map_fails hfails)).map _) ?_
  refine stable_yearDeclaration.orElse_append hread fun hread =>
    stable_commodityDeclaration.orElse_append hread fun hread =>
      stable_comment.orElse_append hread fun hread =>
        stable_accountDeclaration.orElse_append hread fun hread => ?_
  obtain hread | ⟨-, hread⟩ := orElse_eq_done.mp hread
  · exact orElse_of_done (carries_definition h hread)
  refine orElse_of_fails ?_ (stable_tagDeclaration.orElse_append hread fun hread => ?_)
  · -- neither a tag nor a rule begins like a definition
    have hword (c : Char) (hc : c ≠ 'd') (s : List Char) : Fails (definition lexicon) (c :: s) := by
      have hdefine : "define".toList = ['d', 'e', 'f', 'i', 'n', 'e'] := rfl
      refine ((fails_word ?_).bind _).bind _
      simp [hdefine, List.isPrefixOf, hc.symm]
    obtain hread | ⟨-, hread⟩ := orElse_eq_done.mp hread
    · obtain ⟨u, r, hkeyword, -⟩ := bind_eq_done.mp hread
      obtain ⟨w, r', hw, -⟩ := bind_eq_done.mp hkeyword
      obtain ⟨rfl, -⟩ := word_eq_done.mp hw
      exact hword 't' (by decide) _
    · obtain ⟨r, hrule, rfl⟩ := map_eq_done.mp hread
      obtain ⟨e, r₁, hheader, -⟩ := bind_eq_done.mp hrule
      obtain ⟨r₂, hheader, -⟩ := lexeme_eq_done.mp hheader
      obtain ⟨c, r₃, hsign, -⟩ := bind_eq_done.mp hheader
      obtain ⟨r₄, hsign, -⟩ := lexeme_eq_done.mp hsign
      obtain ⟨rfl, -⟩ := char_eq_done.mp hsign
      exact hword '=' (by decide) _
  · obtain ⟨r, hrule, rfl⟩ := map_eq_done.mp hread
    exact map_of_done _ (rule_append h hrule hend)

/-! ## Lines of statements -/

/-- No template begins with a blank of any kind. -/
theorem fails_template (h : ∀ c, s.head? = some c → Unicode.isBlank c = true) :
    Fails (lexeme (template lexicon)) s :=
  lexeme_fails ((lexeme_fails (fails_account h)).bind _)

/-- No template can be read behind a text that is followed by a line that is not indented. -/
theorem fails_template_append {u : Unit} (hb : Flush b)
    (hend : lineEnd (trimmed s) = .done u rest) (hflush : Flush rest) :
    Fails (indented (lexeme (template lexicon))) (s ++ '\n' :: b) := by
  rcases s with _ | ⟨c, s⟩
  · exact fails_indented_of_lineEnding (fun _ => fails_template) rfl hb
  by_cases hc : isSpace c = true
  · have hstuck : Fails lineEnding (c :: s ++ '\n' :: b) := by
      simp only [isSpace, Bool.or_eq_true, beq_iff_eq] at hc
      rcases hc with rfl | rfl <;> exact ⟨_, rfl⟩
    exact hstuck.bind _
  rw [trimmed_cons (Bool.eq_false_of_not_eq_true hc)] at hend
  obtain hend | ⟨-, hend⟩ := orElse_eq_done.mp hend
  · exact fails_indented_of_lineEnding (fun _ => fails_template) (carries_lineEnding hend)
      hflush.append
  · cases hend

/-- What has been read as a statement with the end of its line. -/
theorem statementLine_eq_done {st : Statement} :
    statementLine lexicon s = .done st rest ↔
      ∃ r, statement lexicon s = .done st r ∧ lineEnd (trimmed r) = .done () rest := by
  constructor
  · intro h
    obtain ⟨st', r, hstatement, h⟩ := bind_eq_done.mp h
    obtain ⟨u, r', hspaces, h⟩ := bind_eq_done.mp h
    obtain ⟨v, r'', hend, hvalue⟩ := bind_eq_done.mp h
    cases hspaces
    cases hvalue
    exact ⟨r, hstatement, hend⟩
  · rintro ⟨r, hstatement, hend⟩
    rw [statementLine, bind_of_done hstatement, bind_of_done (spaces_apply r), bind_of_done hend,
      pure_apply]

/-- A statement and the end of its line are read as before. A line feed behind the text takes the
place of the end of the text. -/
theorem statementLine_append (h : lexicon.HasPlainSymbols) (hb : Flush b) {st : Statement}
    (hread : statementLine lexicon s = .done st rest) (hflush : Flush rest) :
    statementLine lexicon (s ++ '\n' :: b) = .done st (rest ++ '\n' :: b) ∨
      rest = [] ∧ statementLine lexicon (s ++ '\n' :: b) = .done st b := by
  obtain ⟨r, hstatement, hend⟩ := statementLine_eq_done.mp hread
  have hopen : r.head? ≠ some '(' := by
    intro hr
    obtain ⟨r, rfl⟩ := List.head?_eq_some_iff.mp hr
    obtain hend | ⟨-, hend⟩ := orElse_eq_done.mp hend <;> cases hend
  have hmore := statement_append h hb hstatement hopen fun _ =>
    fails_template_append hb hend hflush
  obtain hline | ⟨-, hline⟩ := orElse_eq_done.mp hend
  · left
    refine statementLine_eq_done.mpr ⟨_, hmore, ?_⟩
    rw [trimmed_append_newline]
    exact orElse_of_done (carries_lineEnding hline)
  · right
    unfold endOfText at hline
    split at hline
    next hnil =>
      cases hline
      refine ⟨rfl, statementLine_eq_done.mpr ⟨_, hmore, ?_⟩⟩
      rw [trimmed_append_newline, hnil]
      exact orElse_of_done rfl
    next => cases hline

/-! ## Positions -/

/-- A position with further lines above it. -/
def Position.below (p : Position) (lines : Nat) : Position :=
  ⟨p.line + lines, p.column⟩

/-- The same error with further lines above it. -/
def SyntaxError.below (lines : Nat) : SyntaxError → SyntaxError
  | unexpectedInput p found => unexpectedInput (p.below lines) found
  | unexpectedEnd p => unexpectedEnd (p.below lines)

/-- The position behind further lines. -/
theorem Position.after_append (above front : List Char) :
    Position.after (above ++ '\n' :: front) =
      (Position.after front).below (above.count '\n' + 1) := by
  have hcolumn : ((above ++ '\n' :: front).reverse.takeWhile (· != '\n')) =
      front.reverse.takeWhile (· != '\n') := by
    rw [List.reverse_append, List.reverse_cons, List.append_assoc, List.takeWhile_append]
    split_ifs with hall
    · have hsame := (List.takeWhile_prefix (· != '\n')).eq_of_length hall
      rw [hsame]
      simp
    · rfl
  rw [Position.after, hcolumn]
  simp only [Position.below, Position.after, List.count_append, List.count_cons_self]
  congr 1
  omega

/-- The position of a place below further lines. -/
theorem Position.of_below {place : List Char} (h : place <:+ b) (above : List Char) :
    Position.of (above ++ '\n' :: b) place =
      (Position.of b place).below (above.count '\n' + 1) := by
  obtain ⟨front, rfl⟩ := h
  have hsplit : above ++ '\n' :: (front ++ place) = above ++ '\n' :: front ++ place := by simp
  rw [hsplit, Position.of_append, Position.of_append, Position.after_append]

/-- Nothing but a line feed stands in front of the first column. -/
theorem Position.eq_of_column_eq_one {front : List Char} {c : Char}
    (h : (Position.after (front ++ [c])).column = 1) : c = '\n' := by
  by_contra hc
  simp [Position.after, hc] at h

/-- The error of a statement below further lines. -/
theorem Failure.error_below {f : Failure} (h : f.place <:+ b) (above : List Char) :
    f.error lexicon (above ++ '\n' :: b) =
      (f.error lexicon b).below (above.count '\n' + 1) := by
  unfold Failure.error
  split_ifs
  · rw [Position.of_below List.nil_suffix]
    rfl
  · rw [Position.of_below h]
    rfl

/-! ## Sources -/

/-- What remains of a source where its statements begin. -/
def starts (lexicon : Lexicon) (s : List Char) : List (List Char) :=
  match s.dropWhile isBlankLineChar with
  | [] => []
  | c :: cs =>
    match statementLine lexicon (c :: cs) with
    | .stuck _ => [c :: cs]
    | .done _ rest =>
      if rest.length < s.length then (c :: cs) :: starts lexicon rest else [c :: cs]
termination_by s.length

variable {c : Char} {cs : List Char}

/-- A statement begins behind blank lines. -/
theorem mem_starts (h : s.dropWhile isBlankLineChar = c :: cs) : c :: cs ∈ starts lexicon s := by
  rw [starts, h]
  dsimp only
  split
  · simp
  · split_ifs <;> simp

/-- The next statements begin behind a statement. -/
theorem starts_subset {st : Statement} (h : s.dropWhile isBlankLineChar = c :: cs)
    (hread : statementLine lexicon (c :: cs) = .done st rest) :
    starts lexicon rest ⊆ starts lexicon s := by
  have hlt := (advances_statementLine lexicon).length_lt hread
  have hle := List.length_dropWhile_le isBlankLineChar s
  rw [h] at hle
  intro place hplace
  rw [starts, h]
  simp only [hread]
  rw [if_pos (by omega)]
  exact List.mem_cons_of_mem _ hplace

/-- There is one beginning for every statement of a source that is read. -/
theorem length_starts {sts : List Statement} (h : statements lexicon s = (sts, none)) :
    (starts lexicon s).length = sts.length := by
  induction s using statements_induction lexicon generalizing sts with
  | blank s hs =>
    rw [statements_of_nil hs] at h
    cases h
    rw [starts, hs]
    rfl
  | stuck s c cs place hs hdrop hread =>
    rw [statements_of_stuck hs hread] at h
    cases h
  | done s c cs st rest hs hdrop hread hrest ih =>
    have hlt := (advances_statementLine lexicon).length_lt hread
    have hle := hdrop.length_le
    rw [statements_of_done hs hread] at h
    obtain ⟨rfl, hnone⟩ := Prod.mk.inj h
    rw [starts, hs]
    simp only [hread]
    rw [if_pos (by omega), List.length_cons, List.length_cons, ih (Prod.ext rfl hnone)]

/-- Where the next statement begins in the first column, no indented line is in front of it. -/
theorem flush_of_starts {source : List Char} (hsource : rest <:+ source)
    (h : ∀ place ∈ starts lexicon rest, (Position.of source place).column = 1) : Flush rest := by
  rintro ⟨c, hc, hspace⟩ d hd
  by_contra hblank
  obtain ⟨u, hu⟩ := List.head?_eq_some_iff.mp hd
  have hblanks : ∀ e ∈ rest.takeWhile isSpace, isBlankLineChar e = true := fun e he => by
    rw [isBlankLineChar, List.mem_takeWhile_imp he, Bool.true_or]
  have hd' : isBlankLineChar d = false :=
    Bool.eq_false_of_not_eq_true fun hline => hblank (isBlank_of_isBlankLineChar hline)
  have hsplit : rest = rest.takeWhile isSpace ++ d :: u := by
    rw [← hu, trimmed, List.takeWhile_append_dropWhile]
  have hdrop : rest.dropWhile isBlankLineChar = d :: u := by
    rw [hsplit, List.dropWhile_append_of_pos hblanks, List.dropWhile_cons_of_neg (by simp [hd'])]
  obtain ⟨front, rfl⟩ := hsource
  have hne : rest.takeWhile isSpace ≠ [] := by
    obtain ⟨r, rfl⟩ := List.head?_eq_some_iff.mp hc
    simp [hspace]
  obtain ⟨init, last, hlast⟩ := (List.eq_nil_or_concat _).resolve_left hne
  have hcolumn := h _ (mem_starts hdrop)
  rw [hsplit, hlast, List.concat_eq_append, ← List.append_assoc, Position.of_append,
    ← List.append_assoc] at hcolumn
  have hnewline := Position.eq_of_column_eq_one hcolumn
  have hlastSpace : isSpace last = true :=
    List.mem_takeWhile_imp (l := rest) (by simp [hlast])
  rw [hnewline] at hlastSpace
  cases hlastSpace

/-- Blank lines in front of a text do not count. -/
theorem statements_congr {s' : List Char}
    (h : s.dropWhile isBlankLineChar = s'.dropWhile isBlankLineChar) :
    statements lexicon s = statements lexicon s' := by
  cases hs : s.dropWhile isBlankLineChar with
  | nil => rw [statements_of_nil hs, statements_of_nil (h.symm.trans hs)]
  | cons c cs =>
    have hs' := h.symm.trans hs
    cases hread : statementLine lexicon (c :: cs) with
    | stuck place => rw [statements_of_stuck hs hread, statements_of_stuck hs' hread]
    | done st rest => rw [statements_of_done hs hread, statements_of_done hs' hread]

/-- The statements of two sources are those of the first and then those of the second, if every
statement of the first one begins in the first column and the second one does not begin with a
blank. -/
theorem statements_append (h : lexicon.HasPlainSymbols)
    (hb : ∀ c, b.head? = some c → isSpace c = false) {source : List Char} (hsource : s <:+ source)
    (hcolumn : ∀ place ∈ starts lexicon s, (Position.of source place).column = 1)
    {sts : List Statement} (hread : statements lexicon s = (sts, none)) :
    statements lexicon (s ++ '\n' :: b) =
      (sts ++ (statements lexicon b).1, (statements lexicon b).2) := by
  induction s using statements_induction lexicon generalizing sts with
  | blank s hs =>
    rw [statements_of_nil hs] at hread
    cases hread
    refine statements_congr ?_
    rw [List.dropWhile_append, hs]
    rfl
  | stuck s c cs place hs hdrop hline =>
    rw [statements_of_stuck hs hline] at hread
    cases hread
  | done s c cs st rest hs hdrop hline hrest ih =>
    have hs' : (s ++ '\n' :: b).dropWhile isBlankLineChar = c :: (cs ++ '\n' :: b) := by
      rw [List.dropWhile_append, hs]
      rfl
    rw [statements_of_done hs hline] at hread
    obtain ⟨rfl, hnone⟩ := Prod.mk.inj hread
    have hcolumns : ∀ place ∈ starts lexicon rest, (Position.of source place).column = 1 :=
      fun place hplace => hcolumn place (starts_subset hs hline hplace)
    have hflush := flush_of_starts (hrest.trans hsource) hcolumns
    obtain hmore | ⟨rfl, hmore⟩ := statementLine_append h (flush_of_head hb) hline hflush
    · rw [statements_of_done hs' hmore, ih (hrest.trans hsource) hcolumns (Prod.ext rfl hnone)]
      rfl
    · rw [statements_of_done hs' hmore, statements_of_nil (s := []) rfl]
      rfl

end Grammar

open Grammar

/-- Reading is compositional, errors included. Let a source `a` be read with symbols that have no
line feed and do not begin with a parenthesis, and let each of its statements begin in the first
column. Let `b` be a source that does not begin with a blank. If `b` is read, then both sources, one
after the other, are read as the statements of `a` and then those of `b`. If `b` is not read, the
error is the same one, further down by the lines of `a`. -/
theorem parse_append {lexicon : Lexicon} {a b : String} {sts : List Statement}
    (hsymbols : lexicon.HasPlainSymbols) (ha : parse lexicon a = .ok sts)
    (hcolumn : ∀ place ∈ starts lexicon a.toList, (Position.of a.toList place).column = 1)
    (hb : ∀ c, b.toList.head? = some c → isSpace c = false) :
    (∀ sts', parse lexicon b = .ok sts' → parse lexicon (a ++ "\n" ++ b) = .ok (sts ++ sts')) ∧
      ∀ e, parse lexicon b = .error e →
        parse lexicon (a ++ "\n" ++ b) = .error (e.below (a.toList.count '\n' + 1)) := by
  have htext : (a ++ "\n" ++ b).toList = a.toList ++ '\n' :: b.toList := by simp
  have happend := statements_append hsymbols hb (List.suffix_refl _) hcolumn
    (parse_eq_ok_iff.mp ha)
  constructor
  · intro sts' hb'
    rw [parse_eq_ok_iff, htext, happend, parse_eq_ok_iff.mp hb']
  · intro e hb'
    obtain ⟨f, hf, rfl⟩ := parse_eq_error_iff.mp hb'
    refine parse_eq_error_iff.mpr ⟨f, ?_, ?_⟩
    · rw [htext, happend, hf]
    · rw [htext, Failure.error_below (place_suffix hf)]

/-- A tag, and a rule with one template at the end of the text. -/
def tagAndRule : String :=
  "tag food\n= /Food/\n Budget  -1"

/-- Behind the rule another statement is read, and an account without a name is found to be
missing in the fourth line. -/
theorem parse_append_tagAndRule :
    (∃ sts, parse .standard tagAndRule = .ok sts ∧
      parse .standard (tagAndRule ++ "\n" ++ "account Food") = .ok (sts ++ [.account "Food"])) ∧
    parse .standard (tagAndRule ++ "\n" ++ "account ") = .error (.unexpectedInput ⟨4, 9⟩ "") := by
  have hsymbols : Lexicon.standard.HasPlainSymbols := ⟨by decide, by decide⟩
  have hread : parse .standard tagAndRule = .ok
      [.tag "food", .rule ⟨.binary .matching (.name "account") (.regex "Food"),
        [⟨"Budget", .amount ⟨-1, .unknown⟩, false⟩]⟩] := by
    decide +kernel
  have hcolumn : ∀ place ∈ starts .standard tagAndRule.toList,
      (Position.of tagAndRule.toList place).column = 1 := by
    decide +kernel
  have hfood : ∀ c, "account Food".toList.head? = some c → isSpace c = false := fun c hc =>
    Option.some.inj hc ▸ rfl
  have hnone : ∀ c, "account ".toList.head? = some c → isSpace c = false := fun c hc =>
    Option.some.inj hc ▸ rfl
  refine ⟨⟨_, hread, ?_⟩, ?_⟩
  · exact (parse_append hsymbols hread hcolumn hfood).1 _ (by decide +kernel)
  · exact (parse_append hsymbols hread hcolumn hnone).2 (.unexpectedInput ⟨1, 9⟩ "")
      (by decide +kernel)

/-- A symbol that begins with a parenthesis and has a quote: what is an amount in the first line
becomes a string between parentheses when another line closes both. -/
theorem openQuote_completed :
    ¬ ∀ (lexicon : Lexicon) (a b : String) (sts : List Statement),
      (∀ symbol ∈ lexicon.symbols, '\n' ∉ symbol.toList) → parse lexicon a = .ok sts →
      (∀ place ∈ starts lexicon a.toList, (Position.of a.toList place).column = 1) →
      (∀ c, b.toList.head? = some c → isSpace c = false) →
        (∀ sts', parse lexicon b = .ok sts' →
          parse lexicon (a ++ "\n" ++ b) = .ok (sts ++ sts')) ∧
        ∀ e, parse lexicon b = .error e →
          parse lexicon (a ++ "\n" ++ b) = .error (e.below (a.toList.count '\n' + 1)) := by
  intro hlaw
  let lexicon : Lexicon := .ofSymbols ["('"]
  have hread : parse lexicon "define x = ('5" =
      .ok [.definition "x" (.amount ⟨5, .known "('"⟩)] := by
    decide +kernel
  have hstuck : parse lexicon "')" = .error (.unexpectedInput ⟨1, 1⟩ "')") := by
    decide +kernel
  have hboth : parse lexicon ("define x = ('5" ++ "\n" ++ "')") =
      .ok [.definition "x" (.string "5\n")] := by
    decide +kernel
  have herror := (hlaw lexicon "define x = ('5" "')" _ (by decide +kernel) hread
    (by decide +kernel) fun c hc => Option.some.inj hc ▸ rfl).2 _ hstuck
  rw [hboth] at herror
  cases herror

end Daybook
