import Daybook.Proofs.Grammar.Transaction

set_option relaxedAutoImplicit false
set_option autoImplicit false

/-!
# What statements are read

A statement is read from its text, except for postings whose value is left out. The kinds of
statements are told apart by their first characters.

## Main definitions

* `Rule.InSource`, `Rule.Writable`, `Rule.weight` — as for transactions.
* `Statement.InSource`, `Statement.Writable`, `Statement.weight` — as for transactions.
* `Statement.reread` — what is read from the text of a statement.

## Main results

* `Grammar.rule_text` — a rule is read from its text.
* `Grammar.statement_text` — what is read from the text of a statement.
* `Grammar.yields_statement` — what has been read as a statement.
* `Statement.writable_of_marks_le` — the text of any other statement has too many marks.
-/

namespace Daybook

open Grammar Grammar.Parser

variable {lexicon : Lexicon}

/-! ## Rules -/

namespace Rule

/-- The rules that can be read. -/
structure InSource (lexicon : Lexicon) (r : Rule) : Prop where
  condition : r.condition.InSource lexicon
  templates : ∀ t ∈ r.templates, t.InSource lexicon
  hasTemplates : r.templates ≠ []

/-- Whether every literal is read again from its text. -/
structure Writable (r : Rule) : Prop where
  condition : r.condition.Writable
  templates : ∀ t ∈ r.templates, t.value.Writable

instance : DecidablePred Writable := fun r =>
  decidable_of_iff (r.condition.Writable ∧ ∀ t ∈ r.templates, t.value.Writable)
    ⟨fun h => ⟨h.1, h.2⟩, fun h => ⟨h.condition, h.templates⟩⟩

/-- How many marks reading a rule passes over at most. -/
def weight (r : Rule) : Nat :=
  r.condition.weight + (r.templates.map Template.weight).sum

end Rule

namespace Grammar

/-- The name that stands for the account can be read. -/
theorem isName_account : IsName lexicon "account".toList :=
  ⟨isWord_of_all (by decide) (by decide +kernel), by decide⟩

/-- What has been read as a condition between quotes. -/
theorem yields_quotedCondition [lexicon.Alphabetic] :
    Yields (quotedCondition lexicon) (Expression.InSource lexicon) Expression.weight := by
  intro s e rest h
  obtain ⟨w, r₁, hword, h⟩ := bind_eq_done.mp h
  obtain ⟨q, r₂, hopen, h⟩ := bind_eq_done.mp h
  obtain ⟨condition, r₃, hcondition, h⟩ := bind_eq_done.mp h
  obtain ⟨q', r₄, hclose, hvalue⟩ := bind_eq_done.mp h
  cases hvalue
  obtain ⟨t₁, hw, rfl⟩ := lexeme_eq_done.mp hword
  obtain ⟨rfl, -⟩ := word_eq_done.mp hw
  obtain ⟨t₂, hq, rfl⟩ := lexeme_eq_done.mp hopen
  obtain ⟨hquote, -⟩ := char_eq_done.mp hq
  obtain ⟨rfl, -⟩ := char_eq_done.mp hclose
  obtain ⟨hsource, hmarks⟩ := yields_expression.lexeme _ _ _ hcondition
  have hnone : marks "expr".toList = 0 := rfl
  rw [marks_trimmed, marks_cons rfl] at hmarks
  rw [marks_append, hnone, ← marks_trimmed t₁, hquote, marks_cons rfl, Nat.zero_add]
  exact ⟨hsource, hmarks⟩

/-- What has been read as a pattern by itself. -/
theorem yields_accountMatches :
    Yields (accountMatches <$> delimitedBy '/') (Expression.InSource lexicon)
      Expression.weight := by
  intro s e rest h
  obtain ⟨pattern, hread, rfl⟩ := map_eq_done.mp h
  obtain ⟨rfl, hnot⟩ := delimitedBy_eq_done.mp hread
  refine ⟨⟨isName_account, hnot⟩, ?_⟩
  rw [marks_cons rfl, marks_append, marks_cons rfl, accountMatches, Expression.weight,
    Expression.weight, Expression.weight]
  omega

/-- What has been read as the first line of a rule. -/
theorem yields_ruleHeader [lexicon.Alphabetic] :
    Yields (ruleHeader lexicon) (Expression.InSource lexicon) Expression.weight := by
  intro s e rest h
  obtain ⟨c, r, hsign, hread⟩ := bind_eq_done.mp h
  obtain ⟨t, hc, rfl⟩ := lexeme_eq_done.mp hsign
  obtain ⟨rfl, -⟩ := char_eq_done.mp hc
  rw [marks_cons rfl, ← marks_trimmed t]
  exact (yields_quotedCondition.orElse yields_accountMatches) _ e rest hread

/-- The first line of a rule is read from its text. -/
theorem ruleHeader_text [lexicon.Alphabetic] {r : Rule}
    (hsource : r.condition.InSource lexicon) (hwritable : r.condition.Writable) (s : List Char) :
    ruleHeader lexicon (r.headerText.toList ++ '\n' :: s) = .done r.condition ('\n' :: s) := by
  unfold Rule.headerText
  split
  · rename_i pattern hcondition
    rw [hcondition] at hsource ⊢
    have htext : ("= /" ++ pattern ++ "/").toList ++ '\n' :: s =
        '=' :: ' ' :: '/' :: (pattern.toList ++ '/' :: '\n' :: s) := by simp
    have hsign : lexeme (char '=') ('=' :: ' ' :: '/' :: (pattern.toList ++ '/' :: '\n' :: s)) =
        .done '=' ('/' :: (pattern.toList ++ '/' :: '\n' :: s)) :=
      lexeme_of_done (char_cons_self '=' _)
    have hword : Fails (word "expr") ('/' :: (pattern.toList ++ '/' :: '\n' :: s)) :=
      fails_word rfl
    rw [htext, ruleHeader, bind_of_done hsign]
    exact orElse_of_fails ((lexeme_fails hword).bind _)
      (map_of_done _ (delimitedBy_eq_done.mpr ⟨rfl, hsource.2⟩))
  · have htext : ("= expr '" ++ r.condition.text ++ "'").toList ++ '\n' :: s =
        '=' :: ' ' :: ("expr".toList ++ ' ' :: '\'' :: (r.condition.text.toList ++
          '\'' :: '\n' :: s)) := by simp
    have hsign : lexeme (char '=') ('=' :: ' ' :: ("expr".toList ++ ' ' :: '\'' ::
        (r.condition.text.toList ++ '\'' :: '\n' :: s))) =
          .done '=' ("expr".toList ++ ' ' :: '\'' :: (r.condition.text.toList ++
            '\'' :: '\n' :: s)) :=
      lexeme_of_done (char_cons_self '=' _)
    have hword : lexeme (word "expr") ("expr".toList ++ ' ' :: '\'' ::
        (r.condition.text.toList ++ '\'' :: '\n' :: s)) =
          .done "expr" ('\'' :: (r.condition.text.toList ++ '\'' :: '\n' :: s)) :=
      lexeme_of_done (word_append "expr" _)
    have hquote : lexeme (char '\'') ('\'' :: (r.condition.text.toList ++ '\'' :: '\n' :: s)) =
        .done '\'' (r.condition.text.toList ++ '\'' :: '\n' :: s) := by
      rw [lexeme_of_done (char_cons_self '\'' _), trimmed_text hsource hwritable]
    have hcondition : lexeme (expression lexicon) (r.condition.text.toList ++ '\'' :: '\n' :: s) =
        .done r.condition ('\'' :: '\n' :: s) := by
      rw [lexeme_of_done (expression_text hsource hwritable (closing_cons (.inr (.inl rfl)) _)),
        trimmed_trimmed, trimmed_cons rfl]
    rw [htext, ruleHeader, bind_of_done hsign]
    refine orElse_of_done ?_
    rw [quotedCondition, bind_of_done hword, bind_of_done hquote, bind_of_done hcondition,
      bind_of_done (char_cons_self '\'' _), pure_apply]

/-- The text of a rule. -/
theorem toList_text_rule (indent : String) (r : Rule) :
    (r.text indent).toList = r.headerText.toList ++
      r.templates.flatMap fun t => '\n' :: (indent.toList ++ t.text.toList) := by
  simp [Rule.text, String.toList_join, List.flatMap_map, indentedLine]

/-- A rule is read from its text in front of an empty line. -/
theorem rule_text [lexicon.Alphabetic] {indent : String} (hne : indent.toList ≠ [])
    (hindent : ∀ c ∈ indent.toList, isSpace c = true) {r : Rule} (hsource : r.InSource lexicon)
    (hwritable : r.Writable) (s : List Char) :
    rule lexicon ((r.text indent).toList ++ '\n' :: '\n' :: s) = .done r ('\n' :: '\n' :: s) := by
  set text := fun t : Template => '\n' :: (indent.toList ++ t.text.toList) with htext
  have hread := indented_lines (p := lexeme (template lexicon)) hsource.hasTemplates
    (fun t _ => ⟨_, congrFun htext t⟩) (fun t ht r' => by
      obtain ⟨c, cs, hcs, hspace⟩ := exists_accountText_eq_cons (hsource.templates t ht).account
      have hhead : ∀ d, (t.text.toList ++ '\n' :: r').head? = some d → isSpace d = false := by
        intro d hd
        rw [toList_text_template, hcs] at hd
        cases hd
        exact hspace
      rw [htext, List.cons_append, List.append_assoc, indented_line hne hindent hhead]
      exact template_text (hsource.templates t ht) (hwritable.templates t ht) r') s
  rw [List.map_id'] at hread
  obtain ⟨back, hback⟩ : ∃ back, r.templates.flatMap text ++ '\n' :: '\n' :: s = '\n' :: back := by
    cases r.templates with
    | nil => exact ⟨_, rfl⟩
    | cons t ts => exact ⟨_, rfl⟩
  have hheader := lexeme_of_done (ruleHeader_text hsource.condition hwritable.condition back)
  rw [trimmed_cons rfl, ← hback] at hheader
  rw [toList_text_rule, List.append_assoc, rule, bind_of_done hheader, bind_of_done hread,
    pure_apply]

/-- What has been read as a rule. -/
theorem yields_rule [lexicon.Alphabetic] :
    Yields (rule lexicon) (Rule.InSource lexicon) Rule.weight := by
  intro s r rest h
  obtain ⟨condition, r₁, hheader, h⟩ := bind_eq_done.mp h
  obtain ⟨ts, r₂, htemplates, hvalue⟩ := bind_eq_done.mp h
  cases hvalue
  obtain ⟨hcondition, hmarks⟩ := yields_ruleHeader.lexeme _ _ _ hheader
  obtain ⟨t, r₃, ts', ht, hts, rfl⟩ := many1_eq_done.mp htemplates
  have hyields : Yields (indented (lexeme (template lexicon))) (Template.InSource lexicon)
      Template.weight := yields_template.lexeme.indented
  obtain ⟨ht, htmarks⟩ := hyields _ _ _ ht
  have hall := forall_mem_repeated (fun s a rest h => (hyields s a rest h).1) r₃
  have hsum := le_sum_repeated (fun s a rest h => (hyields s a rest h).2) r₃
  rw [hts] at hall hsum
  refine ⟨⟨hcondition, List.forall_mem_cons.mpr ⟨ht, hall⟩, by simp⟩, ?_⟩
  rw [Rule.weight, List.map_cons, List.sum_cons]
  dsimp only at hsum ⊢
  omega

end Grammar

/-! ## Statements -/

namespace Statement

/-- The statements that can be read. -/
def InSource (lexicon : Lexicon) : Statement → Prop
  | year y => ∃ n : Nat, y = n ∧ n ≤ greatestYear
  | definition name e =>
    (name.toList ≠ [] ∧ ∀ c ∈ name.toList, isIdentifierChar c = true) ∧ e.InSource lexicon
  | account name => IsAccount name.toList
  | commodity name => name.toList ≠ [] ∧ ∀ c ∈ name.toList, Unicode.isBlank c = false
  | tag name => name.toList ≠ [] ∧ ∀ c ∈ name.toList, isIdentifierChar c = true
  | comment text => IsLineText text.toList
  | transaction t => t.InSource lexicon
  | rule r => r.InSource lexicon

/-- Whether every literal is read again from its text. -/
def Writable : Statement → Prop
  | definition _ e => e.Writable
  | transaction t => t.Writable
  | rule r => r.Writable
  | _ => True

instance : DecidablePred Writable
  | definition _ e => inferInstanceAs (Decidable e.Writable)
  | transaction t => inferInstanceAs (Decidable t.Writable)
  | rule r => inferInstanceAs (Decidable r.Writable)
  | year _ | account _ | commodity _ | tag _ | comment _ => inferInstanceAs (Decidable True)

/-- How many marks reading a statement passes over at most. There is one in the words that open the
definitions of names and the declarations of commodities. -/
def weight : Statement → Nat
  | year _ => 0
  | definition name e => 1 + marks name.toList + e.weight
  | account name => marks name.toList
  | commodity name => 1 + marks name.toList
  | tag name => marks name.toList
  | comment text => marks text.toList
  | transaction t => t.weight
  | rule r => r.weight

/-- What is read from the text of a statement. -/
def reread : Statement → Statement
  | transaction t => transaction t.reread
  | s => s

/-- What is left of the text of a statement when it has been read: the blank line after a
transaction or a rule. -/
def gap : Statement → List Char
  | transaction _ => ['\n']
  | rule _ => ['\n']
  | _ => []

end Statement

namespace Grammar

/-! ## Declarations -/

/-- A word that opens a statement is read with the blank after it. -/
theorem keyword_append (w : String) (s : List Char) :
    keyword w (w.toList ++ ' ' :: s) = .done () (trimmed s) := by
  have hspace : spaces1 (' ' :: s) = .done () (trimmed s) :=
    @spaces1_append [' '] s (by simp) (by simp [isSpace])
  rw [keyword, bind_of_done (word_append w _), hspace]

/-- A word that opens a statement is read up to what stands behind the blank after it. -/
theorem keyword_run (w : String) {cs : List Char} (hne : cs ≠ [])
    (h : ∀ c, cs.head? = some c → isSpace c = false) (s : List Char) :
    keyword w (w.toList ++ ' ' :: (cs ++ s)) = .done () (cs ++ s) := by
  rw [keyword_append, trimmed_run hne h]

/-- No statement that a word opens can be read where the word does not stand. -/
theorem fails_keyword {w : String} {s : List Char} (h : w.toList.isPrefixOf s = false) :
    Fails (keyword w) s :=
  (fails_word h).bind _

/-- The marks of the word that opens a statement. -/
theorem marks_keyword {w : String} {s rest : List Char} {u : Unit}
    (h : keyword w s = .done u rest) : marks s = marks w.toList + marks rest := by
  obtain ⟨found, r, hword, hspaces⟩ := bind_eq_done.mp h
  rw [marks_word hword, spaces1_eq_done hspaces, marks_trimmed]

/-- No declaration of the year can be read where the word for it does not stand. -/
theorem fails_yearDeclaration {s : List Char} (h : "year".toList.isPrefixOf s = false) :
    Fails yearDeclaration s :=
  ((fails_keyword h).bind _).checked _

/-- Declarations of the year. -/
theorem yields_yearDeclaration :
    Yields yearDeclaration (Statement.InSource lexicon) Statement.weight := by
  intro s st rest h
  obtain ⟨n, hread, hyear⟩ := checked_eq_done.mp h
  obtain ⟨u, r, hword, hnatural⟩ := bind_eq_done.mp hread
  split_ifs at hyear with hle
  cases hyear
  have hnone : marks "year".toList = 0 := rfl
  rw [marks_keyword hword, hnone, marks_natural hnatural]
  exact ⟨⟨n, rfl, hle⟩, Nat.le_refl _⟩

/-- Declarations of commodities. -/
theorem yields_commodityDeclaration :
    Yields commodityDeclaration (Statement.InSource lexicon) Statement.weight := by
  intro s st rest h
  obtain ⟨u, r, hword, h⟩ := bind_eq_done.mp h
  obtain ⟨cs, r', hcs, hvalue⟩ := bind_eq_done.mp h
  cases hvalue
  obtain ⟨rfl, hne, hall, -⟩ := takeWhile1_eq_done.mp hcs
  have hone : marks "commodity".toList = 1 := rfl
  rw [marks_keyword hword, hone, marks_append, Statement.InSource, Statement.weight,
    String.toList_ofList]
  exact ⟨⟨hne, fun c hc => by simpa using hall c hc⟩, by omega⟩

/-- Comments. -/
theorem yields_comment : Yields comment (Statement.InSource lexicon) Statement.weight := by
  intro s st rest h
  obtain ⟨c, r, hsign, h⟩ := bind_eq_done.mp h
  obtain ⟨u, r', hspaces, h⟩ := bind_eq_done.mp h
  obtain ⟨text, r'', htext, hvalue⟩ := bind_eq_done.mp h
  cases hvalue
  cases hspaces
  obtain ⟨rfl, hopens⟩ := satisfy_eq_done.mp hsign
  obtain ⟨hline, hmarks⟩ := isLineText_restOfLine htext
  have hmark : isMark c = false := by
    simp only [opensComment, Bool.or_eq_true, beq_iff_eq] at hopens
    rcases hopens with (((rfl | rfl) | rfl) | rfl) | rfl <;> rfl
  rw [marks_cons hmark, hmarks]
  exact ⟨hline, Nat.le_refl _⟩

/-- No comment can be read where none opens. -/
theorem fails_comment {c : Char} (h : opensComment c = false) (s : List Char) :
    Fails comment (c :: s) :=
  (fails_satisfy fun d hd => by cases hd; exact h).bind _

/-- Declarations of accounts. -/
theorem yields_accountDeclaration :
    Yields accountDeclaration (Statement.InSource lexicon) Statement.weight := by
  intro s st rest h
  obtain ⟨u, r, hword, h⟩ := bind_eq_done.mp h
  obtain ⟨cs, r', hcs, hvalue⟩ := bind_eq_done.mp h
  cases hvalue
  obtain ⟨haccount, rfl⟩ := account_eq_done hcs
  have hnone : marks "account".toList = 0 := rfl
  rw [marks_keyword hword, hnone, marks_append, Statement.InSource, Statement.weight,
    String.toList_ofList]
  exact ⟨haccount, by omega⟩

/-- Definitions of names. -/
theorem yields_definition [lexicon.Alphabetic] :
    Yields (definition lexicon) (Statement.InSource lexicon) Statement.weight := by
  intro s st rest h
  obtain ⟨u, r₁, hword, h⟩ := bind_eq_done.mp h
  obtain ⟨name, r₂, hname, h⟩ := bind_eq_done.mp h
  obtain ⟨c, r₃, hsign, h⟩ := bind_eq_done.mp h
  obtain ⟨e, r₄, hexpression, hvalue⟩ := bind_eq_done.mp h
  cases hvalue
  obtain ⟨t₁, hidentifier, rfl⟩ := lexeme_eq_done.mp hname
  obtain ⟨rfl, hne, hall, -⟩ := identifier_eq_done hidentifier
  obtain ⟨t₂, hc, rfl⟩ := lexeme_eq_done.mp hsign
  obtain ⟨hequals, -⟩ := char_eq_done.mp hc
  obtain ⟨hsource, hmarks⟩ := yields_expression _ _ _ hexpression
  have hone : marks "define".toList = 1 := rfl
  rw [marks_trimmed] at hmarks
  rw [marks_keyword hword, hone, marks_append, ← marks_trimmed t₁, hequals, marks_cons rfl,
    Statement.weight]
  exact ⟨⟨⟨hne, hall⟩, hsource⟩, by omega⟩

/-- Declarations of tags. -/
theorem yields_tagDeclaration :
    Yields tagDeclaration (Statement.InSource lexicon) Statement.weight := by
  intro s st rest h
  obtain ⟨u, r, hword, h⟩ := bind_eq_done.mp h
  obtain ⟨name, r', hname, hvalue⟩ := bind_eq_done.mp h
  cases hvalue
  obtain ⟨rfl, hne, hall, -⟩ := identifier_eq_done hname
  have hnone : marks "tag".toList = 0 := rfl
  rw [marks_keyword hword, hnone, marks_append, Statement.weight]
  exact ⟨⟨hne, hall⟩, by omega⟩

/-- What has been read as a statement. -/
theorem yields_statement [lexicon.Alphabetic] :
    Yields (statement lexicon) (Statement.InSource lexicon) Statement.weight := by
  have htransaction : Yields (Statement.transaction <$> transaction lexicon)
      (Statement.InSource lexicon) Statement.weight :=
    Yields.map (fun _ _ _ h => transaction_eq_done h) (fun _ h => h) fun _ => Nat.le_refl _
  have hrule : Yields (Statement.rule <$> rule lexicon) (Statement.InSource lexicon)
      Statement.weight :=
    yields_rule.map (fun _ h => h) fun _ => Nat.le_refl _
  exact htransaction.orElse <| yields_yearDeclaration.orElse <|
    yields_commodityDeclaration.orElse <| yields_comment.orElse <|
    yields_accountDeclaration.orElse <| yields_definition.orElse <|
    yields_tagDeclaration.orElse hrule

/-! ## Texts of statements -/

/-- The declaration of a year is read from its text. -/
theorem yearDeclaration_text {n : Nat} (hn : n ≤ greatestYear) (s : List Char) :
    yearDeclaration ("year".toList ++ ' ' :: (Nat.toDigits 10 n ++ '\n' :: s)) =
      .done (.year n) ('\n' :: s) := by
  have hdigits := Decimal.isDigits_toDigits n
  have hword : keyword "year" ("year".toList ++ ' ' :: (Nat.toDigits 10 n ++ '\n' :: s)) =
      .done () (Nat.toDigits 10 n ++ '\n' :: s) :=
    keyword_run "year" hdigits.1 (fun c hc => isSpace_of_isIdentifierChar
      (isIdentifierChar_of_isDigit (hdigits.2 c (List.mem_of_head? hc)))) _
  have hle : Decimal.natOfDigits (Nat.toDigits 10 n) ≤ greatestNatural := by
    rw [Decimal.natOfDigits_toDigits]
    exact hn.trans (by decide)
  have hread : natural (Nat.toDigits 10 n ++ '\n' :: s) = .done n ('\n' :: s) := by
    rw [natural_append hdigits hle fun c hc => by cases hc; decide, Decimal.natOfDigits_toDigits]
  refine checked_eq_done.mpr ⟨n, ?_, if_pos hn⟩
  rw [bind_of_done hword, hread]

/-- The declaration of a commodity is read from its text. -/
theorem commodityDeclaration_text {name : String} (hne : name.toList ≠ [])
    (h : ∀ c ∈ name.toList, Unicode.isBlank c = false) (s : List Char) :
    commodityDeclaration ("commodity".toList ++ ' ' :: (name.toList ++ '\n' :: s)) =
      .done (.commodity name) ('\n' :: s) := by
  have hword : keyword "commodity" ("commodity".toList ++ ' ' :: (name.toList ++ '\n' :: s)) =
      .done () (name.toList ++ '\n' :: s) :=
    keyword_run _ hne (fun c hc => isSpace_of_isBlank (h c (List.mem_of_head? hc))) _
  have hread : takeWhile1 (fun c => !Unicode.isBlank c) (name.toList ++ '\n' :: s) =
      .done name.toList ('\n' :: s) :=
    takeWhile1_append hne (fun c hc => by simp [h c hc]) fun c hc => by
      cases hc
      decide +kernel
  rw [commodityDeclaration, bind_of_done hword, bind_of_done hread, pure_apply,
    String.ofList_toList]

/-- A comment is read from its text. -/
theorem comment_text {text : String} (h : IsLineText text.toList) (s : List Char) :
    comment (';' :: ' ' :: (text.toList ++ '\n' :: s)) = .done (.comment text) ('\n' :: s) := by
  have hsign : satisfy opensComment (';' :: ' ' :: (text.toList ++ '\n' :: s)) =
      .done ';' (' ' :: (text.toList ++ '\n' :: s)) := satisfy_of_true rfl _
  rw [comment, bind_of_done hsign, bind_of_done (spaces_apply _), trimmed_space,
    bind_of_done (restOfLine_trimmed h), pure_apply]

/-- The declaration of an account is read from its text. -/
theorem accountDeclaration_text {name : String} (h : IsAccount name.toList) (s : List Char) :
    accountDeclaration ("account".toList ++ ' ' :: (name.toList ++ '\n' :: s)) =
      .done (.account name) ('\n' :: s) := by
  have hword : keyword "account" ("account".toList ++ ' ' :: (name.toList ++ '\n' :: s)) =
      .done () (name.toList ++ '\n' :: s) :=
    keyword_run _ h.ne_nil (fun c hc => isSpace_of_isBlank (h.noBlank c hc)) _
  rw [accountDeclaration, bind_of_done hword,
    bind_of_done (account_append h (endsAccount_newline s)), pure_apply, String.ofList_toList]

/-- A word that opens a statement is read up to the identifier behind it. -/
theorem keyword_identifier (w : String) {name : String} (hne : name.toList ≠ [])
    (h : ∀ c ∈ name.toList, isIdentifierChar c = true) (s : List Char) :
    keyword w (w.toList ++ ' ' :: (name.toList ++ s)) = .done () (name.toList ++ s) :=
  keyword_run w hne (fun c hc => isSpace_of_isIdentifierChar (h c (List.mem_of_head? hc))) s

/-- The definition of a name is read if an expression is read behind it. -/
theorem definition_of_done {name : String} {e : Expression} {s rest : List Char}
    (hne : name.toList ≠ []) (h : ∀ c ∈ name.toList, isIdentifierChar c = true)
    (htrim : trimmed s = s) (hread : expression lexicon s = .done e rest) :
    definition lexicon ("define".toList ++ ' ' :: (name.toList ++ ' ' :: '=' :: ' ' :: s)) =
      .done (.definition name e) rest := by
  have hword := keyword_identifier "define" hne h (' ' :: '=' :: ' ' :: s)
  have hname : lexeme identifier (name.toList ++ ' ' :: '=' :: ' ' :: s) =
      .done name ('=' :: ' ' :: s) := by
    rw [lexeme_of_done (identifier_append hne h fun c hc => by cases hc; decide +kernel),
      trimmed_space, trimmed_cons rfl]
  have hsign : lexeme (char '=') ('=' :: ' ' :: s) = .done '=' s := by
    rw [lexeme_of_done (char_cons_self '=' _), trimmed_space, htrim]
  rw [definition, bind_of_done hword, bind_of_done hname, bind_of_done hsign, bind_of_done hread,
    pure_apply]

/-- The definition of a name is read from its text. -/
theorem definition_text [lexicon.Alphabetic] {name : String} {e : Expression}
    (hne : name.toList ≠ []) (h : ∀ c ∈ name.toList, isIdentifierChar c = true)
    (hsource : e.InSource lexicon) (hwritable : e.Writable) (s : List Char) :
    definition lexicon ("define".toList ++ ' ' :: (name.toList ++ ' ' :: '=' :: ' ' ::
      (e.text.toList ++ '\n' :: s))) = .done (.definition name e) ('\n' :: s) := by
  have hread := expression_text hsource hwritable (closing_cons (.inr (.inr rfl)) s)
  rw [trimmed_cons rfl] at hread
  exact definition_of_done hne h (trimmed_text hsource hwritable _) hread

/-- What is read as a definition is read as a statement: no other one begins with the same word. -/
theorem statement_of_definition {st : Statement} {s rest : List Char}
    (h : definition lexicon ("define".toList ++ s) = .done st rest) :
    statement lexicon ("define".toList ++ s) = .done st rest := by
  have htransaction : Fails (transaction lexicon) ("define".toList ++ s) :=
    fails_transaction fun c hc => by cases hc; rfl
  exact orElse_of_fails (htransaction.map _) (orElse_of_fails (fails_yearDeclaration rfl)
    (orElse_of_fails ((fails_keyword rfl).bind _) (orElse_of_fails (fails_comment rfl _)
      (orElse_of_fails ((fails_keyword rfl).bind _) (orElse_of_done h)))))

/-- The declaration of a tag is read from its text. -/
theorem tagDeclaration_text {name : String} (hne : name.toList ≠ [])
    (h : ∀ c ∈ name.toList, isIdentifierChar c = true) (s : List Char) :
    tagDeclaration ("tag".toList ++ ' ' :: (name.toList ++ '\n' :: s)) =
      .done (.tag name) ('\n' :: s) := by
  have hword := keyword_identifier "tag" hne h ('\n' :: s)
  have hname : identifier (name.toList ++ '\n' :: s) = .done name ('\n' :: s) :=
    identifier_append hne h fun c hc => by cases hc; decide +kernel
  rw [tagDeclaration, bind_of_done hword, bind_of_done hname, pure_apply]

/-- The first character of a statement tells its kind. -/
theorem exists_text_eq_cons (indent : String) {st : Statement} (hsource : st.InSource lexicon) :
    ∃ c cs, (st.text indent).toList = c :: cs ∧
      (Unicode.isDigit c = true ∨ c ∈ ['y', 'c', ';', 'a', 'd', 't', '=']) := by
  cases st with
  | transaction t =>
    obtain ⟨c, cs, hdate, hc⟩ := exists_dateText_eq_cons hsource.header.date
    have hdate : t.date.text.toList = c :: cs := hdate
    rw [Statement.text, String.toList_append, toList_text_transaction, Transaction.header,
      Header.line, hdate]
    exact ⟨c, _, rfl, .inl hc⟩
  | rule r =>
    obtain ⟨cs, hcs⟩ : ∃ cs, r.headerText.toList = '=' :: cs := by
      unfold Rule.headerText
      split <;> exact ⟨_, by rw [String.toList_append, String.toList_append]; rfl⟩
    rw [Statement.text, String.toList_append, toList_text_rule, hcs]
    exact ⟨'=', _, rfl, .inr (by decide)⟩
  | year y =>
    have htext : (Statement.year y).text indent = "year " ++ y.repr ++ "\n" := rfl
    rw [htext, String.toList_append, String.toList_append]
    exact ⟨'y', _, rfl, .inr (by decide)⟩
  | definition name e => exact ⟨'d', _, by simp [Statement.text]; rfl, .inr (by decide)⟩
  | account name => exact ⟨'a', _, by simp [Statement.text]; rfl, .inr (by decide)⟩
  | commodity name => exact ⟨'c', _, by simp [Statement.text]; rfl, .inr (by decide)⟩
  | tag name => exact ⟨'t', _, by simp [Statement.text]; rfl, .inr (by decide)⟩
  | comment text => exact ⟨';', _, by simp [Statement.text]; rfl, .inr (by decide)⟩

/-- What is read from the text of a statement. -/
theorem statement_text [lexicon.Alphabetic] {indent : String} (hne : indent.toList ≠ [])
    (hindent : ∀ c ∈ indent.toList, isSpace c = true) {st : Statement}
    (hsource : st.InSource lexicon) (hwritable : st.Writable) (s : List Char) :
    statement lexicon ((st.text indent).toList ++ s) =
      .done st.reread ('\n' :: (st.gap ++ s)) := by
  have hother {c : Char} (hc : Unicode.isDigit c = false) (t : List Char) :
      Fails (Statement.transaction <$> transaction lexicon) (c :: t) :=
    (fails_transaction fun d hd => by cases hd; exact hc).map _
  cases st with
  | transaction t =>
    have htext : ((Statement.transaction t).text indent).toList ++ s =
        (t.text indent).toList ++ '\n' :: '\n' :: s := by
      simp [Statement.text]
    rw [htext]
    exact orElse_of_done (map_of_done _ (transaction_text hne hindent hsource hwritable s))
  | year y =>
    obtain ⟨n, rfl, hn⟩ := hsource
    have hyear : (n : Int).repr.toList = Nat.toDigits 10 n := Nat.toList_repr
    have htext : ((Statement.year n).text indent).toList ++ s =
        "year".toList ++ ' ' :: (Nat.toDigits 10 n ++ '\n' :: s) := by
      have htext : (Statement.year n).text indent = "year " ++ (n : Int).repr ++ "\n" := rfl
      simp [htext, hyear]
    rw [htext]
    exact orElse_of_fails (hother rfl _) (orElse_of_done (yearDeclaration_text hn s))
  | commodity name =>
    have htext : ((Statement.commodity name).text indent).toList ++ s =
        "commodity".toList ++ ' ' :: (name.toList ++ '\n' :: s) := by
      simp [Statement.text]
    rw [htext]
    exact orElse_of_fails (hother rfl _) (orElse_of_fails (fails_yearDeclaration rfl)
      (orElse_of_done (commodityDeclaration_text hsource.1 hsource.2 s)))
  | comment text =>
    have htext : ((Statement.comment text).text indent).toList ++ s =
        ';' :: ' ' :: (text.toList ++ '\n' :: s) := by
      simp [Statement.text]
    rw [htext]
    exact orElse_of_fails (hother rfl _) (orElse_of_fails (fails_yearDeclaration rfl)
      (orElse_of_fails ((fails_keyword rfl).bind _) (orElse_of_done (comment_text hsource s))))
  | account name =>
    have htext : ((Statement.account name).text indent).toList ++ s =
        "account".toList ++ ' ' :: (name.toList ++ '\n' :: s) := by
      simp [Statement.text]
    rw [htext]
    exact orElse_of_fails (hother rfl _) (orElse_of_fails (fails_yearDeclaration rfl)
      (orElse_of_fails ((fails_keyword rfl).bind _) (orElse_of_fails (fails_comment rfl _)
        (orElse_of_done (accountDeclaration_text hsource s)))))
  | definition name e =>
    have htext : ((Statement.definition name e).text indent).toList ++ s =
        "define".toList ++ ' ' :: (name.toList ++ ' ' :: '=' :: ' ' ::
          (e.text.toList ++ '\n' :: s)) := by
      simp [Statement.text]
    rw [htext]
    exact statement_of_definition
      (definition_text hsource.1.1 hsource.1.2 hsource.2 hwritable s)
  | tag name =>
    have htext : ((Statement.tag name).text indent).toList ++ s =
        "tag".toList ++ ' ' :: (name.toList ++ '\n' :: s) := by
      simp [Statement.text]
    rw [htext]
    exact orElse_of_fails (hother rfl _) (orElse_of_fails (fails_yearDeclaration rfl)
      (orElse_of_fails ((fails_keyword rfl).bind _) (orElse_of_fails (fails_comment rfl _)
        (orElse_of_fails ((fails_keyword rfl).bind _) (orElse_of_fails ((fails_keyword rfl).bind _)
          (orElse_of_done (tagDeclaration_text hsource.1 hsource.2 s)))))))
  | rule r =>
    have htext : ((Statement.rule r).text indent).toList ++ s =
        (r.text indent).toList ++ '\n' :: '\n' :: s := by
      simp [Statement.text]
    obtain ⟨cs, hcs⟩ : ∃ cs, (r.text indent).toList ++ '\n' :: '\n' :: s = '=' :: cs := by
      rw [toList_text_rule]
      unfold Rule.headerText
      split <;> exact ⟨_, by rw [String.toList_append, String.toList_append]; rfl⟩
    have hread := map_of_done Statement.rule (rule_text hne hindent hsource hwritable s)
    rw [hcs] at hread
    rw [htext, hcs]
    exact orElse_of_fails (hother rfl _) (orElse_of_fails (fails_yearDeclaration rfl)
      (orElse_of_fails ((fails_keyword rfl).bind _) (orElse_of_fails (fails_comment rfl _)
        (orElse_of_fails ((fails_keyword rfl).bind _) (orElse_of_fails ((fails_keyword rfl).bind _)
          (orElse_of_fails ((fails_keyword rfl).bind _) hread))))))

end Grammar

/-! ## Marks of texts -/

variable {indent : String}

/-- A template weighs no more than its text has marks. -/
theorem Template.weight_le (t : Template) : t.weight ≤ marks t.text.toList := by
  have := t.value.weight_le
  rw [Template.weight, Template.marks_text]
  omega

namespace Rule

/-- The condition weighs no more than the first line has marks, and not less only if it is
writable. -/
theorem condition_weight_le (r : Rule) :
    r.condition.weight ≤ marks r.headerText.toList ∧
      (marks r.headerText.toList ≤ r.condition.weight → r.condition.Writable) := by
  unfold headerText
  split
  · rename_i pattern hcondition
    have htext : ("= /" ++ pattern ++ "/").toList =
        '=' :: ' ' :: '/' :: (pattern.toList ++ ['/']) := by
      simp
    have hnone : marks "account".toList = 0 := rfl
    rw [htext, marks_cons rfl, marks_cons rfl, marks_cons rfl, marks_append, hcondition,
      Expression.weight, Expression.weight, Expression.weight, hnone]
    exact ⟨by omega, fun _ => ⟨trivial, trivial⟩⟩
  · have htext : ("= expr '" ++ r.condition.text ++ "'").toList =
        "= expr '".toList ++ (r.condition.text.toList ++ ['\'']) := by simp
    have hnone : marks "= expr '".toList = 0 ∧ marks ['\''] = 0 := ⟨rfl, rfl⟩
    rw [htext, marks_append, marks_append, hnone.1, hnone.2, Nat.zero_add, Nat.add_zero]
    exact ⟨r.condition.weight_le, Expression.writable_of_marks_le⟩

/-- The marks of the text of a rule. -/
theorem marks_text (hindent : ∀ c ∈ indent.toList, isSpace c = true) (r : Rule) :
    marks (r.text indent).toList = marks r.headerText.toList +
      (r.templates.map fun t => marks t.text.toList).sum := by
  have hnone : marks indent.toList = 0 := marks_blanks hindent
  rw [toList_text_rule, marks_append, marks_flatMap]
  simp only [marks_cons (rfl : isMark '\n' = false), marks_append, hnone, Nat.zero_add]

/-- The templates of a rule weigh no more than their texts have marks. -/
theorem templates_weight_le (r : Rule) : (r.templates.map Template.weight).sum ≤
    (r.templates.map fun t => marks t.text.toList).sum :=
  List.sum_le_sum fun t _ => t.weight_le

/-- A rule weighs no more than its text has marks. -/
theorem weight_le (hindent : ∀ c ∈ indent.toList, isSpace c = true) (r : Rule) :
    r.weight ≤ marks (r.text indent).toList := by
  have hcondition := r.condition_weight_le.1
  have htemplates := r.templates_weight_le
  rw [marks_text hindent, weight]
  omega

/-- A rule whose text has no more marks than reading it passes over is writable. -/
theorem writable_of_marks_le (hindent : ∀ c ∈ indent.toList, isSpace c = true) {r : Rule}
    (h : marks (r.text indent).toList ≤ r.weight) : r.Writable := by
  obtain ⟨hle, hcondition⟩ := r.condition_weight_le
  have htemplates := r.templates_weight_le
  rw [marks_text hindent, weight] at h
  refine ⟨hcondition (by omega), fun t ht => ?_⟩
  have ht := le_of_sum_le (fun t _ => t.weight_le)
    (show (r.templates.map fun t => marks t.text.toList).sum ≤
      (r.templates.map Template.weight).sum by omega) t ht
  rw [Template.marks_text, Template.weight] at ht
  exact Expression.writable_of_marks_le (by omega)

end Rule

namespace Statement

/-- A statement weighs no more than its text has marks. -/
theorem weight_le (hindent : ∀ c ∈ indent.toList, isSpace c = true) (st : Statement) :
    st.weight ≤ marks (st.text indent).toList := by
  cases st with
  | year y => exact Nat.zero_le _
  | definition name e =>
    have := e.weight_le
    have hone : marks "define ".toList = 1 := rfl
    simp only [text, weight, String.toList_append, marks_append, hone]
    omega
  | commodity name =>
    have hone : marks "commodity ".toList = 1 := rfl
    simp only [text, weight, String.toList_append, marks_append, hone]
    omega
  | transaction t =>
    have := t.weight_le hindent
    simp only [text, weight, String.toList_append, marks_append]
    omega
  | rule r =>
    have := r.weight_le hindent
    simp only [text, weight, String.toList_append, marks_append]
    omega
  | _ =>
    simp only [text, weight, String.toList_append, marks_append]
    omega

/-- A statement whose text has no more marks than reading it passes over is writable. -/
theorem writable_of_marks_le (hindent : ∀ c ∈ indent.toList, isSpace c = true) {st : Statement}
    (h : marks (st.text indent).toList ≤ st.weight) : st.Writable := by
  cases st with
  | definition name e =>
    have hone : marks "define ".toList = 1 := rfl
    simp only [text, weight, String.toList_append, marks_append, hone] at h
    exact Expression.writable_of_marks_le (by omega)
  | transaction t =>
    simp only [text, weight, String.toList_append, marks_append] at h
    exact Transaction.writable_of_marks_le hindent (by omega)
  | rule r =>
    simp only [text, weight, String.toList_append, marks_append] at h
    exact Rule.writable_of_marks_le hindent (by omega)
  | _ => trivial

end Statement

end Daybook
