import Daybook.Proofs.Grammar.Amount
import Daybook.Proofs.Grammar.Progress

set_option relaxedAutoImplicit false
set_option autoImplicit false

/-!
# The order in which symbols are added

The grammar looks at the symbols in one place only, which is where it asks for the longest one that
a text begins with. Two lists of symbols that answer this question alike are alike to all parsers,
and so it makes no difference in which order symbols have been added, nor how often.

## Main results

* `Grammar.symbol_eq_done_iff`, `Grammar.exists_symbol_eq_done` — the longest symbol is read.
* `Grammar.amount_agree`, `Grammar.expression_agree`, `Grammar.statement_agree` — parsers that agree
  because they find the same symbols.
* `parse_agree` — whole sources.
* `parse_ofSymbols_agree` — symbols added in any order.
-/

namespace Daybook

open Grammar Grammar.Parser

variable {lexicon lexicon' : Lexicon}

namespace Grammar

/-! ## The symbol that is read -/

/-- The longest symbol that a text begins with is read. -/
theorem symbol_eq_done_iff (harranged : lexicon.Arranged) {s rest : List Char} {found : String} :
    symbol lexicon s = .done found rest ↔
      (found ∈ lexicon.symbols ∧ s = found.toList ++ rest) ∧
        ∀ other ∈ lexicon.symbols, other.toList <+: s →
          other.utf8ByteSize ≤ found.utf8ByteSize := by
  constructor
  · intro h
    have hlead : lexicon.leading? s = some found := by
      unfold symbol at h
      split at h
      · rename_i first hfirst
        rw [hfirst, (Outcome.done.inj h).1]
      · cases h
    exact ⟨symbol_eq_done h, ((Lexicon.leading?_eq_some_iff harranged).mp hlead).2.2⟩
  · rintro ⟨⟨hmem, rfl⟩, hlongest⟩
    have hlead := (Lexicon.leading?_eq_some_iff harranged).mpr
      ⟨hmem, List.prefix_append _ _, hlongest⟩
    rw [symbol, hlead]
    dsimp only
    rw [← String.length_toList, List.drop_left]

/-- A symbol is read from every text that begins with one. -/
theorem exists_symbol_eq_done {s : List Char} {other : String} (h : other ∈ lexicon.symbols)
    (hbegins : other.toList <+: s) : ∃ found rest, symbol lexicon s = .done found rest := by
  obtain ⟨found, hfound⟩ := Lexicon.exists_leading? h hbegins
  exact ⟨found, s.drop found.length, by rw [symbol, hfound]⟩

/-! ## Parsers that find the same symbols -/

section Agreement

variable (h : lexicon.leading? = lexicon'.leading?)

include h

/-- Amounts. -/
theorem amount_agree : amount lexicon = amount lexicon' := by
  have hsymbol : symbol lexicon = symbol lexicon' := by
    funext s
    rw [symbol, symbol, h]
  rw [amount, amount, amountAfterSymbol, amountAfterSymbol, amountBeforeSymbol, amountBeforeSymbol,
    hsymbol]

/-- Expressions up to a depth. What stands in parentheses is less deep. -/
theorem expressionWithin_agree (depth : Nat) :
    expressionWithin lexicon depth = expressionWithin lexicon' depth := by
  induction depth with
  | zero => rfl
  | succ depth ih =>
    rw [expressionWithin, expressionWithin, ih, operandOf, operandOf, primitive, primitive,
      amount_agree h]

/-- Expressions. -/
theorem expression_agree : expression lexicon = expression lexicon' := by
  funext s
  rw [expression, expression, expressionWithin_agree h]

/-- Values of postings and of templates. -/
theorem postingValue_agree : postingValue lexicon = postingValue lexicon' := by
  rw [postingValue, postingValue, parenthesized, parenthesized, amount_agree h, expression_agree h]

/-- Postings. -/
theorem posting_agree : posting lexicon = posting lexicon' := by
  rw [posting, posting, cost, cost, claimedBalance, claimedBalance, postingValue_agree h,
    amount_agree h]

/-- Transactions. -/
theorem transaction_agree : transaction lexicon = transaction lexicon' := by
  rw [transaction, transaction, line, line, posting_agree h]

/-- First lines of rules. -/
theorem ruleHeader_agree : ruleHeader lexicon = ruleHeader lexicon' := by
  rw [ruleHeader, ruleHeader, quotedCondition, quotedCondition, expression_agree h]

/-- Rules. -/
theorem rule_agree : rule lexicon = rule lexicon' := by
  rw [rule, rule, template, template, ruleHeader_agree h, postingValue_agree h]

/-- Statements. -/
theorem statement_agree : statement lexicon = statement lexicon' := by
  rw [statement, statement, definition, definition, transaction_agree h, expression_agree h,
    rule_agree h]

/-- The statements of a text, one after another, and the one that cannot be read. -/
theorem statements_agree (s : List Char) : statements lexicon s = statements lexicon' s := by
  have hline : statementLine lexicon = statementLine lexicon' := by
    rw [statementLine, statementLine, statement_agree h]
  induction s using statements_induction lexicon with
  | blank s hs => rw [statements_of_nil hs, statements_of_nil hs]
  | stuck s c cs place hs hdrop hread =>
    rw [statements_of_stuck hs hread, statements_of_stuck hs (hline ▸ hread)]
  | done s c cs st rest hs hdrop hread hrest ih =>
    rw [statements_of_done hs hread, statements_of_done hs (hline ▸ hread), ih]

/-- The error for what cannot be read. -/
theorem error_agree (source : List Char) (f : Failure) :
    f.error lexicon source = f.error lexicon' source := by
  rw [Failure.error, Failure.error, lacksLines, lacksLines, ruleHeader_agree h]

end Agreement

end Grammar

/-- Sources are read alike, errors included, where the same symbols are found. -/
theorem parse_agree (h : lexicon.leading? = lexicon'.leading?) (source : String) :
    parse lexicon source = parse lexicon' source := by
  rw [parse, parse, statements_agree h]
  simp only [error_agree h]

/-! ## Symbols added one after another -/

/-- Sources are read alike, errors included, whatever the order is in which symbols have been added
to the standard ones, and however often each of them, the empty one being passed over. At every step
no symbol is there twice or empty, none stands in front of a longer one, and the longest symbol that
a text begins with is read. -/
theorem parse_ofSymbols_agree {symbols symbols' : List String}
    (h : ∀ symbol, symbol ≠ "" → (symbol ∈ symbols ↔ symbol ∈ symbols')) :
    (∀ source, parse (.ofSymbols symbols) source = parse (.ofSymbols symbols') source) ∧
      ∀ added : List String, (Lexicon.ofSymbols added).Arranged ∧
        (∀ symbol, symbol ∈ (Lexicon.ofSymbols added).symbols ↔
          symbol ∈ Lexicon.standard.symbols ∨ symbol ∈ added ∧ symbol ≠ "") ∧
        ∀ s, (∃ symbol ∈ (Lexicon.ofSymbols added).symbols, symbol.toList <+: s) →
          ∃ found rest, Grammar.symbol (.ofSymbols added) s = .done found rest ∧
            (found ∈ (Lexicon.ofSymbols added).symbols ∧ s = found.toList ++ rest) ∧
            ∀ other ∈ (Lexicon.ofSymbols added).symbols, other.toList <+: s →
              other.utf8ByteSize ≤ found.utf8ByteSize := by
  constructor
  · refine parse_agree (Lexicon.leading?_congr (Lexicon.arranged_ofSymbols _)
      (Lexicon.arranged_ofSymbols _) fun symbol => ?_)
    have hsame := and_congr_left (a := symbol ∈ symbols) (b := symbol ∈ symbols') (h symbol)
    rw [Lexicon.mem_ofSymbols, Lexicon.mem_ofSymbols, hsame]
  · intro added
    have harranged := Lexicon.arranged_ofSymbols added
    refine ⟨harranged, fun _ => Lexicon.mem_ofSymbols, fun s => ?_⟩
    rintro ⟨other, hother, hbegins⟩
    obtain ⟨found, rest, hread⟩ := exists_symbol_eq_done hother hbegins
    exact ⟨found, rest, hread, (symbol_eq_done_iff harranged).mp hread⟩

/-- Symbols of which one is the beginning of another, added in two orders. -/
theorem parse_ofSymbols_agree_tethers :
    (∀ symbol, symbol ≠ "" → (symbol ∈ ["US", "", "USDT", "US"] ↔ symbol ∈ ["USDT", "US"])) ∧
      parse (.ofSymbols ["US", "", "USDT", "US"]) "define x = 2USDT\ntag US 5" =
        parse (.ofSymbols ["USDT", "US"]) "define x = 2USDT\ntag US 5" := by
  have hsame : ∀ symbol, symbol ≠ "" →
      (symbol ∈ ["US", "", "USDT", "US"] ↔ symbol ∈ ["USDT", "US"]) := by
    intro symbol hne
    simp only [List.mem_cons, List.not_mem_nil, or_false, hne, false_or]
    tauto
  exact ⟨hsame, (parse_ofSymbols_agree hsame).1 _⟩

end Daybook
