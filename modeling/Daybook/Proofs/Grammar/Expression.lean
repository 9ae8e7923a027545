import Daybook.Proofs.Grammar.Precedence

set_option relaxedAutoImplicit false
set_option autoImplicit false

/-!
# What expressions are read

The text of an expression has parentheses around every operator, and so it is one of the texts that
the expression can be written as. It is read as that expression if its literals are read as they
were.

## Main results

* `Grammar.rendering_text` — the text of an expression is one of its renderings.
* `Grammar.expression_text` — an expression is read from its text.
* `Grammar.yields_expression` — what has been read as an expression.
* `Expression.writable_of_marks_le` — the text of any other expression has too many marks.
-/

namespace Daybook

open Grammar Grammar.Parser

namespace Grammar

variable {lexicon : Lexicon}

/-! ## Texts of expressions -/

/-- The text of an operator and its operands. -/
theorem toList_text_binary (o : Operator) (left right : Expression) (rest : List Char) :
    (Expression.binary o left right).text.toList ++ rest =
      '(' :: (left.text.toList ++ ' ' :: (o.symbol.toList ++ ' ' ::
        (right.text.toList ++ ')' :: rest))) := by
  simp [Expression.text]

/-- Two operands and the operator between them are written as renderings are, without
parentheses. -/
theorem rendering_binary {o : Operator} {left right : Expression}
    (hleft : ∀ k, Rendering lexicon k left left.text.toList)
    (hright : ∀ k, Rendering lexicon k right right.text.toList) :
    Rendering lexicon 0 (.binary o left right)
      (left.text.toList ++ ' ' :: (o.symbol.toList ++ ' ' :: right.text.toList)) := by
  have hblank : [' '] ≠ [] ∧ ∀ c ∈ [' '], isSpace c = true := by simp [isSpace]
  exact .binary (Nat.zero_le _) (hleft _) (hright _) hblank hblank

/-- The text of an expression is one of its renderings. -/
theorem rendering_text [lexicon.Alphabetic] {e : Expression} (hsource : e.InSource lexicon)
    (hwritable : e.Writable) (k : Nat) : Rendering lexicon k e e.text.toList := by
  induction e generalizing k with
  | binary o left right ihleft ihright =>
    have htext := toList_text_binary o left right []
    have hinner := rendering_binary (o := o) (ihleft hsource.1 hwritable.1)
      (ihright hsource.2 hwritable.2)
    rw [List.append_nil] at htext
    rw [htext]
    have hnone : ∀ c ∈ ([] : List Char), isSpace c = true := by simp
    have houter : Rendering lexicon k (.binary o left right) _ := hinner.parentheses hnone hnone
    simpa using houter
  | _ => exact .token (isToken_text hsource hwritable (by simp))

/-- An expression is read from its text. -/
theorem expression_text [lexicon.Alphabetic] {e : Expression} (hsource : e.InSource lexicon)
    (hwritable : e.Writable) {rest : List Char} (hrest : Closing rest) :
    expression lexicon (e.text.toList ++ rest) = .done e (trimmed rest) :=
  (rendering_text hsource hwritable 0).reads hrest

/-- A rendering is read between parentheses. -/
theorem Rendering.parenthesized [lexicon.Alphabetic] {e : Expression} {t : List Char}
    (h : Rendering lexicon 0 e t) (rest : List Char) :
    Grammar.parenthesized lexicon ('(' :: (t ++ ')' :: rest)) = .done e (trimmed rest) := by
  refine betweenParentheses_append ?_
  rw [h.trimmed_append, h.reads (closing_cons (.inl rfl) rest), trimmed_cons rfl]

/-- An expression is read from its text between parentheses. -/
theorem parenthesized_text [lexicon.Alphabetic] {e : Expression} (hsource : e.InSource lexicon)
    (hwritable : e.Writable) (rest : List Char) :
    parenthesized lexicon ('(' :: (e.text.toList ++ ')' :: rest)) = .done e (trimmed rest) :=
  (rendering_text hsource hwritable 0).parenthesized rest

/-- An operator and its operands bring their parentheses with them. -/
theorem parenthesized_binary [lexicon.Alphabetic] {o : Operator} {left right : Expression}
    (hsource : (Expression.binary o left right).InSource lexicon)
    (hwritable : (Expression.binary o left right).Writable) (rest : List Char) :
    parenthesized lexicon ((Expression.binary o left right).text.toList ++ rest) =
      .done (.binary o left right) (trimmed rest) := by
  have hinner := rendering_binary (o := o) (rendering_text hsource.1 hwritable.1)
    (rendering_text hsource.2 hwritable.2)
  rw [toList_text_binary]
  simpa using hinner.parenthesized rest

/-! ## What has been read -/

/-- The sign of an operator has no marks. -/
theorem marks_operatorOf {level : Precedence} {s rest : List Char} {o : Operator}
    (h : operatorOf level.operators s = .done o rest) : marks s = marks rest := by
  unfold operatorOf at h
  split at h
  · rename_i found hfound
    cases h
    have hprefix := List.find?_some hfound
    obtain ⟨t, rfl⟩ := List.isPrefixOf_iff_prefix.mp hprefix
    have hnone : marks o.symbol.toList = 0 := by cases o <;> rfl
    rw [← String.length_toList, List.drop_left, marks_append, hnone, Nat.zero_add]
  · cases h

/-- Expressions in parentheses. -/
theorem Yields.betweenParentheses {p : Parser Expression}
    (hp : Yields p (Expression.InSource lexicon) Expression.weight) :
    Yields (betweenParentheses p) (Expression.InSource lexicon) Expression.weight := by
  intro s e rest h
  obtain ⟨c, r₁, hopen, h⟩ := bind_eq_done.mp h
  obtain ⟨e', r₂, hinner, h⟩ := bind_eq_done.mp h
  obtain ⟨c', r₃, hclose, hvalue⟩ := bind_eq_done.mp h
  cases hvalue
  obtain ⟨r, hc, rfl⟩ := lexeme_eq_done.mp hopen
  obtain ⟨rfl, -⟩ := char_eq_done.mp hc
  obtain ⟨r', hc', rfl⟩ := lexeme_eq_done.mp hclose
  obtain ⟨rfl, -⟩ := char_eq_done.mp hc'
  obtain ⟨hsource, hmarks⟩ := hp _ e _ hinner
  rw [marks_trimmed, marks_cons rfl] at hmarks
  rw [marks_cons rfl, marks_trimmed]
  exact ⟨hsource, hmarks⟩

/-- Further operands. -/
theorem yields_chainFrom {p : Parser Expression}
    (hp : Yields p (Expression.InSource lexicon) Expression.weight) {level : Precedence}
    {left e : Expression} {s rest : List Char} (hleft : left.InSource lexicon)
    (h : chainFrom level p left s = .done e rest) :
    e.InSource lexicon ∧ marks s + left.weight ≤ e.weight + marks rest := by
  fun_induction chainFrom level p left s with
  | case1 left s place hoperator =>
    cases h
    exact ⟨hleft, by omega⟩
  | case2 left s o r hoperator place hright => cases h
  | case3 left s o r hoperator right r' hright hlt ih =>
    obtain ⟨hsource, hmarks⟩ := hp r right r' hright
    obtain ⟨hall, hsum⟩ := ih ⟨hleft, hsource⟩ h
    obtain ⟨t, hsymbol, rfl⟩ := lexeme_eq_done.mp hoperator
    rw [marks_trimmed, ← marks_operatorOf hsymbol] at hmarks
    rw [Expression.weight] at hsum
    exact ⟨hall, by omega⟩
  | case4 left s o r hoperator right r' hright hlt =>
    obtain ⟨hsource, hmarks⟩ := hp r right r' hright
    cases h
    obtain ⟨t, hsymbol, rfl⟩ := lexeme_eq_done.mp hoperator
    rw [marks_trimmed, ← marks_operatorOf hsymbol] at hmarks
    rw [Expression.weight]
    exact ⟨⟨hleft, hsource⟩, by omega⟩

/-- Operands joined by the operators of a level. -/
theorem Yields.chain {p : Parser Expression}
    (hp : Yields p (Expression.InSource lexicon) Expression.weight) (level : Precedence) :
    Yields (chain level p) (Expression.InSource lexicon) Expression.weight := by
  intro s e rest h
  obtain ⟨left, r, hleft, h⟩ := bind_eq_done.mp h
  obtain ⟨hsource, hmarks⟩ := hp s left r hleft
  obtain ⟨hall, hsum⟩ := yields_chainFrom hp hsource h
  exact ⟨hall, by omega⟩

/-- Expressions up to a depth. -/
theorem yields_expressionWithin [lexicon.Alphabetic] (depth : Nat) :
    Yields (expressionWithin lexicon depth) (Expression.InSource lexicon) Expression.weight := by
  induction depth with
  | zero =>
    intro s e rest h
    cases h
  | succ depth ih =>
    have hoperand : Yields (operandOf lexicon (expressionWithin lexicon depth))
        (Expression.InSource lexicon) Expression.weight :=
      ih.betweenParentheses.orElse yields_primitive.lexeme
    exact ((((hoperand.chain _).chain _).chain _).chain _).chain _

/-- Expressions. -/
theorem yields_expression [lexicon.Alphabetic] :
    Yields (expression lexicon) (Expression.InSource lexicon) Expression.weight := fun s =>
  yields_expressionWithin (s.length + 1) s

end Grammar

/-! ## Marks of texts -/

/-- The text of a double that is not finite has a mark. -/
theorem isFinite_of_marks {x : Float} (h : marks (numberText x).toList = 0) :
    x.isFinite = true := by
  rw [Binary64.isFinite_iff]
  unfold numberText at h
  split at h
  · exact absurd h (by decide)
  · rename_i negative hparts
    cases negative <;> exact absurd h (by decide)
  · rename_i negative m e hparts
    exact ⟨negative, m, e, hparts⟩

/-- The marks of the text of an amount. -/
theorem marks_amountText (a : Amount) :
    marks a.text.toList = marks (numberText a.number).toList + a.weight := by
  obtain ⟨x, commodity⟩ := a
  cases commodity with
  | unknown => rfl
  | known symbol =>
    rw [Amount.text, String.toList_append, String.toList_append, marks_append, marks_append]
    rfl

/-- An amount weighs no more than its text has marks. -/
theorem Amount.weight_le (a : Amount) : a.weight ≤ marks a.text.toList := by
  rw [marks_amountText]
  exact Nat.le_add_left ..

/-- An amount whose text has no marks but those of its symbol is finite. -/
theorem isFinite_of_marks_amountText {a : Amount} (h : marks a.text.toList ≤ a.weight) :
    a.number.isFinite = true := by
  rw [marks_amountText] at h
  exact isFinite_of_marks (by omega)

/-- The signs, blanks and parentheses of an operator have no marks. -/
theorem Grammar.marks_text_binary (o : Operator) (left right : Expression) :
    marks (Expression.binary o left right).text.toList =
      marks left.text.toList + marks right.text.toList := by
  have htext := congrArg marks (toList_text_binary o left right [])
  have hsymbol : marks o.symbol.toList = 0 := by cases o <;> rfl
  simp only [List.append_nil, marks_append, marks_cons (rfl : isMark '(' = false),
    marks_cons (rfl : isMark ')' = false), marks_cons (rfl : isMark ' ' = false), hsymbol,
    Nat.zero_add] at htext
  exact htext

namespace Expression

/-- An expression weighs no more than its text has marks. -/
theorem weight_le (e : Expression) : e.weight ≤ marks e.text.toList := by
  induction e with
  | amount value => exact value.weight_le
  | bool value => exact Nat.zero_le _
  | string text =>
    rw [toList_text_string, marks_quote, marks_append, marks_quote, weight]
    split_ifs <;> omega
  | regex pattern =>
    rw [toList_text_regex, marks_cons rfl, marks_append, weight]
    omega
  | name identifier => exact Nat.le_refl _
  | binary o left right ihleft ihright =>
    rw [marks_text_binary, weight]
    omega

/-- An expression whose text has no more marks than reading it passes over is writable. -/
theorem writable_of_marks_le {e : Expression} (h : marks e.text.toList ≤ e.weight) :
    e.Writable := by
  induction e with
  | amount value => exact isFinite_of_marks_amountText h
  | string text =>
    intro hquote
    rw [toList_text_string, marks_quote, marks_append, marks_quote, weight, if_pos hquote] at h
    omega
  | binary o left right ihleft ihright =>
    rw [marks_text_binary, weight] at h
    have := left.weight_le
    have := right.weight_le
    exact ⟨ihleft (by omega), ihright (by omega)⟩
  | _ => trivial

end Expression

end Daybook
