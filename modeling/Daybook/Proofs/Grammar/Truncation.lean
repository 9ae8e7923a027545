import Daybook.Proofs.Grammar.Continuation

set_option relaxedAutoImplicit false
set_option autoImplicit false

/-!
# Texts that are cut off

What has been read from the front of a text is read as well where the text is cut off at the end of
a line behind it. The way there is not the one that leads to further lines: an alternative that was
passed over in the longer text must be passed over in the shorter one, and it is, since what can be
read from the shorter text can be read from the longer one.

## Main definitions

* `Parser.Cuts` — what one parser reads from a text in front of further lines, another one reads
  from the text without them.

## Main results

* `Parser.Cuts.bind`, `Parser.Cuts.orElse`, `Parser.Cuts.many1` — parsers made of others.
* `Grammar.cuts_expression` — expressions.
* `Grammar.cuts_statement` — statements.

## Design

As with further lines behind a text, two parsers stand in the definition, because the depth of
expressions is bounded by the length of the text. They agree on texts up to a length only.
-/

namespace Daybook

namespace Grammar

namespace Parser

variable {α β : Type} {m n : Nat} {t : List Char}

/-- What `p` reads in front of `t` from a text shorter than `n`, `q` reads from the text without
`t`. What is left by `p` is an end of the text. -/
structure Cuts (n : Nat) (t : List Char) (p q : Parser α) : Prop where
  shortens : Shortens p
  done : ∀ ⦃s rest : List Char⦄ ⦃a : α⦄, s.length < n → p (s ++ t) = .done a (rest ++ t) →
    q s = .done a rest

/-- What is read from texts up to a length is read from those up to a smaller length. -/
theorem Cuts.mono {p q : Parser α} (h : Cuts n t p q) (hle : m ≤ n) : Cuts m t p q :=
  ⟨h.shortens, fun _ _ _ hm => h.done (hm.trans_le hle)⟩

/-- What does not depend on what stands behind is read without it. -/
theorem Stable.cuts {p : Parser α} (h : Stable t p) (hp : Shortens p) : Cuts n t p p := by
  refine ⟨hp, fun s rest a _ hread => ?_⟩
  cases hs : p s with
  | stuck place => exact absurd hread (fails_iff.mp (h.fails ⟨place, hs⟩) a _)
  | done a' r =>
    obtain ⟨rfl, hrest⟩ := Outcome.done.inj (hread.symm.trans (h.carries hs))
    rw [List.append_cancel_right hrest]

/-! ## Sequence -/

/-- Reading nothing. -/
theorem cuts_pure (a : α) : Cuts n t (pure a : Parser α) (pure a) :=
  (stable_pure a).cuts (shortens_pure a)

/-- Two parsers one after the other, the second of which is given texts shorter than `m` only. -/
theorem Cuts.bind_of_length {p p' : Parser α} {f f' : α → Parser β} (hp : Cuts n t p p')
    (hlength : ∀ {s rest : List Char} {a : α}, s.length < n →
      p (s ++ t) = .done a (rest ++ t) → rest.length < m)
    (hf : ∀ a, Cuts m t (f a) (f' a)) : Cuts n t (p >>= f) (p' >>= f') := by
  refine ⟨hp.shortens.bind fun a => (hf a).shortens, fun s rest b hn h => ?_⟩
  obtain ⟨a, r, ha, hb⟩ := bind_eq_done.mp h
  -- what the second parser leaves ends in `t`, and so does what it was given
  obtain ⟨front, hr⟩ := (hf a).shortens.done hb
  rw [← List.append_assoc] at hr
  subst hr
  exact bind_eq_done.mpr ⟨a, _, hp.done hn ha, (hf a).done (hlength hn ha) hb⟩

/-- Two parsers one after the other. -/
theorem Cuts.bind {p p' : Parser α} {f f' : α → Parser β} (hp : Cuts n t p p')
    (hf : ∀ a, Cuts n t (f a) (f' a)) : Cuts n t (p >>= f) (p' >>= f') := by
  refine hp.bind_of_length (fun hn ha => ?_) hf
  have hle := (hp.shortens.done ha).length_le
  simp only [List.length_append] at hle
  omega

/-- A mapped parser. -/
theorem Cuts.map {p p' : Parser α} (hp : Cuts n t p p') (f : α → β) :
    Cuts n t (f <$> p) (f <$> p') :=
  hp.bind fun _ => cuts_pure _

/-! ## Choice -/

/-- A choice, where the first alternative goes on failing. -/
theorem Cuts.orElse {p p' q q' : Parser α} (hp : Cuts n t p p') (hq : Cuts n t q q')
    (h : ∀ {s}, Fails p (s ++ t) → Fails p' s) : Cuts n t (p <|> q) (p' <|> q') := by
  refine ⟨hp.shortens.orElse hq.shortens, fun s rest a hn hread => ?_⟩
  rcases orElse_eq_done.mp hread with hread | ⟨hfails, hread⟩
  · exact orElse_of_done (hp.done hn hread)
  · exact orElse_of_fails (h hfails) (hq.done hn hread)

/-- What may be left out, where it goes on failing. -/
theorem Cuts.optional {p p' : Parser α} (hp : Cuts n t p p')
    (h : ∀ {s}, Fails p (s ++ t) → Fails p' s) :
    Cuts n t (Parser.optional p) (Parser.optional p') := by
  refine ⟨hp.shortens.optional, fun s rest a? hn hread => ?_⟩
  rcases optional_eq_done.mp hread with ⟨a, hsome, rfl⟩ | ⟨hfails, rfl, hrest⟩
  · exact optional_of_done (hp.done hn hsome)
  · rw [List.append_cancel_right hrest]
    exact optional_of_fails (h hfails)

/-! ## Repetition -/

/-- A repetition, where the parser goes on failing. -/
theorem Cuts.repeated {p p' : Parser α} (hp : Cuts n t p p') (hadvances : Advances p)
    (h : ∀ {s}, Fails p (s ++ t) → Fails p' s) {s back : List Char} {items : List α}
    (hn : s.length < n) (hread : Parser.repeated p (s ++ t) = (items, back ++ t)) :
    Parser.repeated p' s = (items, back) := by
  induction hlength : s.length using Nat.strong_induction_on generalizing s items with
  | _ k ih =>
    cases hs : p (s ++ t) with
    | stuck place =>
      rw [repeated_of_fails ⟨place, hs⟩, Prod.mk.injEq] at hread
      rw [repeated_of_fails (h ⟨place, hs⟩), hread.1, List.append_cancel_right hread.2]
    | done a r =>
      have hlt := hadvances.length_lt hs
      rw [repeated_of_done hs hlt, Prod.mk.injEq] at hread
      obtain ⟨rfl, hrest⟩ := hread
      have hrepeated : Parser.repeated p r = ((Parser.repeated p r).1, back ++ t) :=
        Prod.ext rfl hrest
      obtain ⟨front, hr⟩ := hp.shortens.many.done (many_eq_done.mpr hrepeated)
      rw [← List.append_assoc] at hr
      subst hr
      simp only [List.length_append] at hlt
      have hless : (front ++ back).length < s.length := by
        rw [List.length_append]
        omega
      rw [repeated_of_done (hp.done hn hs) hless,
        ih _ (hlength ▸ hless) (hless.trans hn) hrepeated rfl]

/-- A repetition, at least once, where the parser goes on failing. -/
theorem Cuts.many1 {p p' : Parser α} (hp : Cuts n t p p') (hadvances : Advances p)
    (h : ∀ {s}, Fails p (s ++ t) → Fails p' s) : Cuts n t (Parser.many1 p) (Parser.many1 p') := by
  refine hp.bind fun item => Cuts.bind ⟨hp.shortens.many, fun s rest items hn hread => ?_⟩
    fun items => cuts_pure _
  exact many_eq_done.mpr (hp.repeated hadvances h hn (many_eq_done.mp hread))

end Parser

open Grammar.Parser

variable {lexicon : Lexicon} {n : Nat} {b : List Char}

/-! ## Tokens -/

/-- A token and the blanks behind it. -/
theorem Parser.Cuts.lexeme {α : Type} {p p' : Parser α} (hp : Cuts n ('\n' :: b) p p') :
    Cuts n ('\n' :: b) (lexeme p) (lexeme p') :=
  hp.bind fun _ => (stable_spaces.cuts shortens_spaces).bind fun _ => cuts_pure _

/-- Characters other than line feeds. -/
theorem cuts_char {c : Char} (h : c ≠ '\n') : Cuts n ('\n' :: b) (char c) (char c) :=
  (stable_char h).cuts (advances_satisfy _).shortens

/-- Texts between delimiters. -/
theorem cuts_delimitedBy (d : Char) {t : List Char} :
    Cuts n t (delimitedBy d) (delimitedBy d) := by
  refine ⟨shortens_delimitedBy d, fun s rest text _ h => ?_⟩
  obtain ⟨heq, hnot⟩ := delimitedBy_eq_done.mp h
  have hs : s ++ t = d :: (text.toList ++ d :: rest) ++ t := by simpa using heq
  exact delimitedBy_eq_done.mpr ⟨List.append_cancel_right hs, hnot⟩

/-- The end of a line. -/
theorem cuts_lineEnding : Cuts n ('\n' :: b) lineEnding lineEnding := by
  refine ⟨advances_lineEnding.shortens, fun s rest u _ hread => ?_⟩
  cases hs : lineEnding s with
  | done u' r =>
    have hmore := hread.symm.trans (carries_lineEnding hs)
    rw [List.append_cancel_right (Outcome.done.inj hmore).2]
  | stuck place =>
    rcases lineEnding_append_of_fails (b := b) ⟨place, hs⟩ with hfails | hend
    · exact absurd hread (fails_iff.mp hfails u _)
    · have hlength := congrArg List.length (Outcome.done.inj (hend.symm.trans hread)).2
      simp only [List.length_append, List.length_cons] at hlength
      omega

/-- A further line. -/
theorem Parser.Cuts.indented {α : Type} {p p' : Parser α} (hp : Cuts n ('\n' :: b) p p') :
    Cuts n ('\n' :: b) (indented p) (indented p') :=
  cuts_lineEnding.bind fun _ => (stable_spaces1.cuts advances_spaces1.shortens).bind fun _ => hp

/-- A further line cannot be read, where the parser of the line goes on failing. -/
theorem fails_indented_of_append {α : Type} {p p' : Parser α}
    (hp : ∀ {s}, Fails p (s ++ '\n' :: b) → Fails p' s) {s : List Char}
    (h : Fails (indented p) (s ++ '\n' :: b)) : Fails (indented p') s := by
  cases hend : lineEnding s with
  | stuck place => exact Fails.bind ⟨place, hend⟩ _
  | done u r =>
    rw [indented, Fails, bind_of_done (carries_lineEnding hend)] at h
    refine fails_bind_of_done hend ?_
    cases hspaces : spaces1 r with
    | stuck place => exact Fails.bind ⟨place, hspaces⟩ _
    | done v r' =>
      rw [bind_of_done (stable_spaces1.carries hspaces)] at h
      exact fails_bind_of_done hspaces (hp h)

/-! ## Expressions -/

/-- Further operands. -/
theorem cuts_chainFrom {operand operand' : Parser Expression}
    (hp : Cuts n ('\n' :: b) operand operand') (level : Precedence) (left : Expression) :
    Cuts n ('\n' :: b) (chainFrom level operand left) (chainFrom level operand' left) := by
  refine ⟨shortens_chainFrom hp.shortens left, fun s rest e hn hread => ?_⟩
  have hoperator := (stable_operatorOf (b := b) level).lexeme
  -- an operator and the operand behind it are read without the further lines
  have hnext {s r x : List Char} {o : Operator} {right : Expression} (hn : s.length < n)
      (hsymbol : lexeme (operatorOf level.operators) (s ++ '\n' :: b) = .done o r)
      (hright : operand r = .done right (x ++ '\n' :: b)) :
      ∃ y, lexeme (operatorOf level.operators) s = .done o y ∧ operand' y = .done right x := by
    have hpair := ((hoperator.cuts (shortens_operatorOf _).lexeme).bind fun o =>
      hp.map fun right => (o, right)).done hn
        (bind_eq_done.mpr ⟨o, r, hsymbol, map_of_done _ hright⟩)
    obtain ⟨o', y, ho, hy⟩ := bind_eq_done.mp hpair
    obtain ⟨right', hright', heq⟩ := map_eq_done.mp hy
    obtain ⟨rfl, rfl⟩ := Prod.mk.inj heq
    exact ⟨y, ho, hright'⟩
  generalize hu : s ++ '\n' :: b = u at hread
  fun_induction chainFrom level operand left u generalizing s with
  | case1 left u place hstop =>
    subst hu
    obtain ⟨rfl, hrest⟩ := Outcome.done.inj hread
    obtain ⟨place', hstop⟩ := hoperator.carries.fails ⟨place, hstop⟩
    rw [chainFrom, hstop, List.append_cancel_right hrest]
  | case2 left u o r hsymbol place hright => cases hread
  | case3 left u o r hsymbol right r' hright hlt ih =>
    subst hu
    obtain ⟨front, rfl⟩ := (shortens_chainFrom hp.shortens _).done hread
    rw [← List.append_assoc] at hread hright hlt
    obtain ⟨y, ho, hy⟩ := hnext hn hsymbol hright
    simp only [List.length_append] at hlt
    have hless : (front ++ rest).length < s.length := by
      rw [List.length_append]
      omega
    rw [chainFrom, ho]
    simp only [hy]
    rw [if_pos hless]
    exact ih _ (hless.trans hn) (List.append_assoc _ _ _) (by rwa [← List.append_assoc])
  | case4 left u o r hsymbol right r' hright hlt =>
    subst hu
    obtain ⟨rfl, rfl⟩ := Outcome.done.inj hread
    obtain ⟨y, ho, hy⟩ := hnext hn hsymbol hright
    simp only [List.length_append] at hlt
    rw [chainFrom, ho]
    simp only [hy]
    rw [if_neg (by omega)]

/-- Operands joined by the operators of a level. -/
theorem Parser.Cuts.chain {operand operand' : Parser Expression}
    (hp : Cuts n ('\n' :: b) operand operand') (level : Precedence) :
    Cuts n ('\n' :: b) (chain level operand) (chain level operand') :=
  hp.bind fun left => cuts_chainFrom hp level left

/-- What stands between parentheses, which is shorter. -/
theorem Parser.Cuts.betweenParentheses {p p' : Parser Expression}
    (hp : Cuts n ('\n' :: b) p p') :
    Cuts (n + 1) ('\n' :: b) (betweenParentheses p) (betweenParentheses p') := by
  refine (cuts_char (by decide)).lexeme.bind_of_length (fun hn hread => ?_) fun _ =>
    hp.bind fun _ => (cuts_char (by decide)).lexeme.bind fun _ => cuts_pure _
  have hlt := (advances_satisfy _).lexeme.length_lt hread
  simp only [List.length_append] at hlt
  omega

section Symbols

variable (hsymbols : lexicon.HasPlainSymbols)

include hsymbols

/-- Amounts. -/
theorem cuts_amount : Cuts n ('\n' :: b) (amount lexicon) (amount lexicon) :=
  (stable_amount hsymbols.noLineFeed).cuts (shortens_amount lexicon)

/-- Literals and names. -/
theorem cuts_primitive : Cuts n ('\n' :: b) (primitive lexicon) (primitive lexicon) := by
  refine ((cuts_amount hsymbols).map _).orElse (((cuts_delimitedBy '/').map _).orElse
    ((((cuts_delimitedBy '"').orElse (cuts_delimitedBy '\'') ?_).map _).orElse
      ((stable_boolean.cuts shortens_boolean).orElse
        ((stable_identifier.cuts advances_identifier.shortens).map _)
        stable_boolean.carries.fails) fun h => ?_) ?_)
    ((stable_amount hsymbols.noLineFeed).map _).carries.fails
  · exact (carries_delimitedBy '"').fails
  · obtain ⟨hdouble, hsingle⟩ := fails_of_fails_orElse (fails_of_map_fails h)
    exact (((carries_delimitedBy '"').fails hdouble).orElse
      ((carries_delimitedBy '\'').fails hsingle)).map _
  · exact ((carries_delimitedBy '/').map _).fails

/-- Expressions within a depth that is not exceeded are those within a greater depth. -/
theorem cuts_expressionWithin {depth depth' : Nat} (hdepth : n ≤ depth') (hle : depth' ≤ depth) :
    Cuts n ('\n' :: b) (expressionWithin lexicon depth) (expressionWithin lexicon depth') := by
  induction n generalizing depth depth' with
  | zero =>
    exact ⟨shortens_expressionWithin lexicon depth, fun _ _ _ hn => absurd hn (Nat.not_lt_zero _)⟩
  | succ n ih =>
    obtain ⟨d, rfl⟩ : ∃ d, depth = d + 1 := ⟨depth - 1, by omega⟩
    obtain ⟨d', rfl⟩ : ∃ d', depth' = d' + 1 := ⟨depth' - 1, by omega⟩
    have hinner := ih (by omega : n ≤ d') (by omega : d' ≤ d)
    have hoperand : Cuts (n + 1) ('\n' :: b) (operandOf lexicon (expressionWithin lexicon d))
        (operandOf lexicon (expressionWithin lexicon d')) :=
      hinner.betweenParentheses.orElse (cuts_primitive hsymbols).lexeme
        (carries_expressionWithin hsymbols (by omega : d' ≤ d)).betweenParentheses.fails
    exact ((((hoperand.chain _).chain _).chain _).chain _).chain _

/-- Expressions. -/
theorem cuts_expression : Cuts n ('\n' :: b) (expression lexicon) (expression lexicon) := by
  refine ⟨shortens_expression lexicon, fun s rest e _ hread => ?_⟩
  refine (cuts_expressionWithin (n := s.length + 1) hsymbols (Nat.le_refl _) ?_).done
    (Nat.lt_succ_self _) hread
  simp

/-! ## Statements -/

/-- Values of postings. -/
theorem cuts_postingValue :
    Cuts n ('\n' :: b) (postingValue lexicon) (postingValue lexicon) :=
  ((cuts_amount hsymbols).map _).orElse ((cuts_expression hsymbols).betweenParentheses.mono
    (Nat.le_succ n)) ((stable_amount hsymbols.noLineFeed).map _).carries.fails

/-- Postings. -/
theorem cuts_posting : Cuts n ('\n' :: b) (posting lexicon) (posting lexicon) := by
  have hcost := (stable_cost (b := b) hsymbols).lexeme.optional
  have hbalance := (stable_claimedBalance (b := b) hsymbols).lexeme.optional
  exact (stable_account.lexeme.cuts shortens_account.lexeme).bind fun _ =>
    ((cuts_postingValue hsymbols).lexeme.optional (carries_postingValue hsymbols).lexeme.fails).bind
      fun _ => (hcost.cuts (shortens_cost lexicon).lexeme.optional).bind fun _ =>
        (hbalance.cuts (shortens_claimedBalance lexicon).lexeme.optional).bind fun _ =>
          (stable_noteBody.optional.cuts shortens_noteBody.optional).bind fun _ => cuts_pure _

/-- Further lines of transactions. -/
theorem cuts_line : Cuts n ('\n' :: b) (line lexicon) (line lexicon) :=
  ((stable_noteBody.lexeme.cuts shortens_noteBody.lexeme).map _).orElse
    ((cuts_posting hsymbols).lexeme.map _) (stable_noteBody.lexeme.map _).carries.fails

omit hsymbols in
/-- A further line of a transaction cannot be read without what stands behind it either. -/
theorem fails_line_of_append {s : List Char}
    (h : Fails (indented (line lexicon)) (s ++ '\n' :: b)) : Fails (indented (line lexicon)) s := by
  refine fails_indented_of_append (fun hline => ?_) h
  obtain ⟨hnote, haccount⟩ := fails_line_iff.mp hline
  exact fails_line_iff.mpr
    ⟨stable_noteBody.carries.fails hnote, stable_account.carries.fails haccount⟩

/-- Transactions. -/
theorem cuts_transaction : Cuts n ('\n' :: b) (transaction lexicon) (transaction lexicon) :=
  (stable_header.cuts advances_header.shortens).bind fun _ =>
    ((cuts_line hsymbols).indented.many1 (shortens_line lexicon).indented
      fails_line_of_append).bind fun _ => cuts_pure _

omit hsymbols in
/-- A transaction that cannot be read lacks its first line or the line after it, whatever stands
behind. -/
theorem fails_transaction_of_append {s : List Char}
    (h : Fails (transaction lexicon) (s ++ '\n' :: b)) : Fails (transaction lexicon) s := by
  cases hfirst : header s with
  | stuck place => exact Fails.bind ⟨place, hfirst⟩ _
  | done first r =>
    rw [transaction, Fails, bind_of_done (stable_header.carries hfirst)] at h
    have hline := fails_line_of_append (fails_of_many1_fails (fails_of_bind_pure h))
    exact fails_bind_of_done hfirst ((hline.bind _).bind _)

/-- First lines of rules. -/
theorem cuts_ruleHeader : Cuts n ('\n' :: b) (ruleHeader lexicon) (ruleHeader lexicon) := by
  have hquoted : Cuts n ('\n' :: b) (quotedCondition lexicon) (quotedCondition lexicon) :=
    ((stable_word (by decide)).lexeme.cuts (shortens_word _).lexeme).bind fun _ =>
      (cuts_char (by decide)).lexeme.bind fun _ => (cuts_expression hsymbols).lexeme.bind fun _ =>
        (cuts_char (by decide)).bind fun _ => cuts_pure _
  exact (cuts_char (by decide)).lexeme.bind fun _ =>
    hquoted.orElse ((cuts_delimitedBy '/').map _) (carries_quotedCondition hsymbols).fails

/-- Templates. -/
theorem cuts_template : Cuts n ('\n' :: b) (template lexicon) (template lexicon) :=
  (stable_account.lexeme.cuts shortens_account.lexeme).bind fun _ =>
    (cuts_postingValue hsymbols).bind fun _ => cuts_pure _

/-- A template cannot be read without what stands behind it either. -/
theorem fails_template_of_append {s : List Char}
    (h : Fails (indented (lexeme (template lexicon))) (s ++ '\n' :: b)) :
    Fails (indented (lexeme (template lexicon))) s :=
  fails_indented_of_append (carries_template hsymbols).lexeme.fails h

/-- Rules. -/
theorem cuts_rule : Cuts n ('\n' :: b) (rule lexicon) (rule lexicon) :=
  (cuts_ruleHeader hsymbols).lexeme.bind fun _ =>
    ((cuts_template hsymbols).lexeme.indented.many1 (shortens_template lexicon).lexeme.indented
      (fails_template_of_append hsymbols)).bind fun _ => cuts_pure _

/-- Definitions. -/
theorem cuts_definition : Cuts n ('\n' :: b) (definition lexicon) (definition lexicon) :=
  ((stable_keyword (by decide)).cuts (advances_keyword _).shortens).bind fun _ =>
    (stable_identifier.cuts advances_identifier.shortens).lexeme.bind fun _ =>
      (cuts_char (by decide)).lexeme.bind fun _ => (cuts_expression hsymbols).bind fun _ =>
        cuts_pure _

/-- Statements. -/
theorem cuts_statement : Cuts n ('\n' :: b) (statement lexicon) (statement lexicon) :=
  ((cuts_transaction hsymbols).map _).orElse
    ((stable_yearDeclaration.cuts advances_yearDeclaration.shortens).orElse
      ((stable_commodityDeclaration.cuts advances_commodityDeclaration.shortens).orElse
        ((stable_comment.cuts advances_comment.shortens).orElse
          ((stable_accountDeclaration.cuts advances_accountDeclaration.shortens).orElse
            ((cuts_definition hsymbols).orElse
              ((stable_tagDeclaration.cuts advances_tagDeclaration.shortens).orElse
                ((cuts_rule hsymbols).map _) stable_tagDeclaration.carries.fails)
              (carries_definition hsymbols).fails)
            stable_accountDeclaration.carries.fails)
          stable_comment.carries.fails)
        stable_commodityDeclaration.carries.fails)
      stable_yearDeclaration.carries.fails)
    fun h => (fails_transaction_of_append (fails_of_map_fails h)).map _

/-! ## Blank lines behind a text -/

/-- What is missing of an expression in parentheses is not made up for where no parenthesis is
closed. -/
theorem fails_parenthesized_append_of_not_mem (hb : ')' ∉ b) {s : List Char}
    (h : Fails (parenthesized lexicon) s) : Fails (parenthesized lexicon) (s ++ '\n' :: b) := by
  rw [fails_iff]
  intro e rest hread
  obtain ⟨c, r₁, hopen, h₁⟩ := bind_eq_done.mp hread
  obtain ⟨e', r₂, hinner, h₂⟩ := bind_eq_done.mp h₁
  obtain ⟨c', r₃, hclose, hvalue⟩ := bind_eq_done.mp h₂
  cases hvalue
  obtain ⟨r, hc, rfl⟩ := lexeme_eq_done.mp hclose
  obtain ⟨rfl, -⟩ := char_eq_done.mp hc
  have hsuffix : ')' :: r <:+ s ++ '\n' :: b :=
    ((shortens_expression lexicon).done hinner).trans
      ((advances_satisfy _).lexeme.shortens.done hopen)
  -- the parenthesis that is closed stands in front of the further lines
  rcases List.suffix_or_suffix_of_suffix hsuffix (List.suffix_append s _) with hin | ⟨x, hx⟩
  · rcases List.mem_cons.mp (hin.subset List.mem_cons_self) with hc | hc
    · cases hc
    · exact hb hc
  · cases x with
    | nil => cases hx
    | cons d x =>
      obtain ⟨-, rfl⟩ : d = ')' ∧ x ++ '\n' :: b = r := by simpa using hx
      rw [trimmed_append_newline] at hread
      exact fails_iff.mp h _ _ ((cuts_expression hsymbols).betweenParentheses.done
        (Nat.lt_succ_of_lt (Nat.lt_succ_self s.length)) hread)

/-- A template does not become readable where no parenthesis is closed. -/
theorem fails_template_append_of_not_mem (hb : ')' ∉ b) {s : List Char}
    (h : Fails (lexeme (template lexicon)) s) :
    Fails (lexeme (template lexicon)) (s ++ '\n' :: b) := by
  refine lexeme_fails ?_
  cases haccount : lexeme account s with
  | stuck place => exact (stable_account.lexeme.fails ⟨place, haccount⟩).bind _
  | done written r =>
    have htemplate := fails_of_lexeme_fails h
    rw [template, Fails, bind_of_done haccount] at htemplate
    obtain ⟨hamount, hparenthesized⟩ := fails_of_fails_orElse (fails_of_bind_pure htemplate)
    refine fails_bind_of_done (stable_account.lexeme.carries haccount) (Fails.bind ?_ _)
    exact (((stable_amount hsymbols.noLineFeed).map _).fails hamount).orElse
      (fails_parenthesized_append_of_not_mem hsymbols hb hparenthesized)

/-- A statement is read as well where the text is cut off behind blank lines. -/
theorem statement_cut {u r blanks behind : List Char} {st : Statement}
    (hblanks : ∀ c ∈ blanks, isBlankLineChar c = true) (hopen : r.head? ≠ some '(')
    (hread : statement lexicon (u ++ '\n' :: (blanks ++ behind)) =
      .done st (r ++ '\n' :: (blanks ++ behind))) :
    statement lexicon (u ++ '\n' :: blanks) = .done st (r ++ '\n' :: blanks) := by
  have hcut : statement lexicon u = .done st r :=
    (cuts_statement hsymbols).done (Nat.lt_succ_self _) hread
  have hflush := flush_of_blank hblanks
  have hclosed : ')' ∉ blanks := fun hmem => by
    have hblank := hblanks _ hmem
    cases hblank
  refine statement_append hsymbols hflush hcut hopen fun hfails => ?_
  exact fails_indented_append (fun _ => fails_template) hflush
    (fun _ => fails_template_append_of_not_mem hsymbols hclosed) hfails

end Symbols

end Grammar

end Daybook
