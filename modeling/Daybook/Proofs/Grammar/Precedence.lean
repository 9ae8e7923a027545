import Daybook.Proofs.Grammar.Literal

set_option relaxedAutoImplicit false
set_option autoImplicit false

/-!
# Precedence of operators

An expression can be written in many ways. Parentheses are needed only where an operand would be
taken apart by the operator next to it, and more of them may stand around every part, as may blanks.
Each of these texts is read as the expression that it is written for, and so the levels of the
grammar bind their operators as they are meant to, and to the left.

## Main definitions

* `Operator.tightness` — how tightly an operator binds.
* `Grammar.Rendering` — the texts that an expression can be written as.
* `Grammar.Closing` — what may follow an expression.
* `Grammar.nest` — the grammar of expressions with some of the levels only.
* `Grammar.ReadAs` — a text is read as an expression from a level on.

## Main results

* `Grammar.readAs_of_operand`, `Grammar.readAs_binary` — operands, and operators between them.
* `Grammar.Rendering.reads` — a rendering is read in front of what may follow an expression.
* `Grammar.Rendering.unique` — no text is a rendering of two expressions.
* `Grammar.expression_rendering` — a rendering is read as its expression, to its end.

## Design

A level does not read both operands of its operators in the same way: the left one may have further
operators of the level, which have been read when the next one comes. What is carried through the
induction is therefore how far a level has got behind a text, and not what it reads in the end.
-/

namespace Daybook

open Grammar Grammar.Parser

/-- How tightly an operator binds, the loosest ones coming first. -/
def Operator.tightness : Operator → Nat
  | .or => 0
  | .and => 1
  | .equal | .notEqual | .less | .lessOrEqual | .greater | .greaterOrEqual | .matching
  | .notMatching => 2
  | .add | .subtract => 3
  | .multiply | .divide => 4

namespace Grammar

/-! ## Renderings -/

/-- The texts that an expression can be written as where operators that bind less tightly than `k`
need parentheses. An operator has blanks on both sides. It needs no parentheses as the left operand
of one that binds as tightly, but it does as the right operand. -/
inductive Rendering (lexicon : Lexicon) : Nat → Expression → List Char → Prop
  | token {k : Nat} {e : Expression} {t : List Char} (ht : IsToken lexicon e t) :
    Rendering lexicon k e t
  | parentheses {k : Nat} {e : Expression} {t before behind : List Char}
    (ht : Rendering lexicon 0 e t) (hbefore : ∀ c ∈ before, isSpace c = true)
    (hbehind : ∀ c ∈ behind, isSpace c = true) :
    Rendering lexicon k e ('(' :: (before ++ (t ++ (behind ++ [')']))))
  | binary {k : Nat} {o : Operator} {left right : Expression} {t u before behind : List Char}
    (hk : k ≤ o.tightness) (hleft : Rendering lexicon o.tightness left t)
    (hright : Rendering lexicon (o.tightness + 1) right u)
    (hbefore : before ≠ [] ∧ ∀ c ∈ before, isSpace c = true)
    (hbehind : behind ≠ [] ∧ ∀ c ∈ behind, isSpace c = true) :
    Rendering lexicon k (.binary o left right)
      (t ++ (before ++ (o.symbol.toList ++ (behind ++ u))))

variable {lexicon : Lexicon}

/-- No blank is in front of a rendering. -/
theorem Rendering.exists_cons [lexicon.Alphabetic] {k : Nat} {e : Expression} {t : List Char}
    (h : Rendering lexicon k e t) : ∃ c cs, t = c :: cs ∧ isSpace c = false := by
  induction h with
  | token ht =>
    obtain ⟨c, cs, hcs, hspace, -⟩ := ht.exists_cons
    exact ⟨c, cs, hcs, hspace⟩
  | parentheses => exact ⟨'(', _, rfl, rfl⟩
  | binary _ _ _ _ _ ihleft =>
    obtain ⟨c, cs, rfl, hspace⟩ := ihleft
    exact ⟨c, _, rfl, hspace⟩

/-- No blank is passed over in front of a rendering. -/
theorem Rendering.trimmed_append [lexicon.Alphabetic] {k : Nat} {e : Expression} {t : List Char}
    (h : Rendering lexicon k e t) (s : List Char) : trimmed (t ++ s) = t ++ s := by
  obtain ⟨c, cs, rfl, hspace⟩ := h.exists_cons
  exact trimmed_cons hspace _

/-! ## Operators -/

/-- How tightly an operator binds, as a level of the grammar. -/
def levelOf : Operator → Precedence
  | .or => .disjunction
  | .and => .conjunction
  | .equal | .notEqual | .less | .lessOrEqual | .greater | .greaterOrEqual | .matching
  | .notMatching => .comparison
  | .add | .subtract => .additive
  | .multiply | .divide => .multiplicative

/-- The levels from the loosest to the tightest. -/
def loosestFirst : List Precedence :=
  [.disjunction, .conjunction, .comparison, .additive, .multiplicative]

/-- The level of an operator has the place among the levels that its tightness says. -/
theorem drop_tightness (o : Operator) :
    loosestFirst.drop o.tightness = levelOf o :: loosestFirst.drop (o.tightness + 1) := by
  cases o <;> rfl

/-- Every level tighter than that of an operator is another one. -/
theorem ne_levelOf {o : Operator} {level : Precedence}
    (h : level ∈ loosestFirst.drop (o.tightness + 1)) : level ≠ levelOf o := by
  have hnodup : (loosestFirst.drop o.tightness).Nodup :=
    List.Nodup.sublist (List.drop_sublist _ _) (by decide)
  rw [drop_tightness, List.nodup_cons] at hnodup
  rintro rfl
  exact hnodup.1 h

/-- The two blanks. -/
theorem eq_of_isSpace {c : Char} (h : isSpace c = true) : c = ' ' ∨ c = '\t' := by
  simpa [isSpace] using h

/-- An operator is read from its sign, at its level. -/
theorem operatorOf_symbol (o : Operator) {c : Char} (hc : isSpace c = true) (s : List Char) :
    operatorOf (levelOf o).operators (o.symbol.toList ++ c :: s) = .done o (c :: s) := by
  rcases eq_of_isSpace hc with rfl | rfl <;> cases o <;> rfl

/-- An operator cannot be read at another level. -/
theorem fails_operatorOf_symbol {o : Operator} {level : Precedence} (h : level ≠ levelOf o)
    {c : Char} (hc : isSpace c = true) (s : List Char) :
    Fails (operatorOf level.operators) (o.symbol.toList ++ c :: s) := by
  rcases eq_of_isSpace hc with rfl | rfl <;> cases o <;> cases level <;>
    first | exact absurd rfl h | exact ⟨_, rfl⟩

/-- No blank is in front of the sign of an operator. -/
theorem trimmed_operator (o : Operator) (s : List Char) :
    trimmed (o.symbol.toList ++ s) = o.symbol.toList ++ s := by
  cases o <;> rfl

/-- Blanks and an operator make a boundary if a blank follows. -/
theorem boundary_operator (o : Operator) {blanks : List Char} (hne : blanks ≠ [])
    (hblanks : ∀ c ∈ blanks, isSpace c = true) {c : Char} (hc : isSpace c = true) (s : List Char) :
    Boundary (blanks ++ (o.symbol.toList ++ c :: s)) := by
  have hother : ∀ d ∈ ['*', '/', '+', '-', '=', '!', '<', '>', '&', '|'],
      d.isAlpha = false ∧ d ≠ '$' ∧ Unicode.isDigit d = false :=
    List.all_iff_forall_prop.mp (by decide)
  obtain ⟨d, ds, hsymbol, hd, hminus⟩ : ∃ d ds, o.symbol.toList = d :: ds ∧
      d ∈ ['*', '/', '+', '-', '=', '!', '<', '>', '&', '|'] ∧ (d = '-' → ds = []) := by
    cases o <;> exact ⟨_, _, rfl, by decide, by decide⟩
  obtain ⟨hletter, hdollar, hdigit⟩ := hother d hd
  refine boundary_blanks hne hblanks ?_ ?_ <;> rw [trimmed_operator, hsymbol]
  · intro e he
    cases he
    exact ⟨hletter, hdollar⟩
  · by_cases hsign : d = '-'
    · rw [hsign, hminus hsign]
      refine fails_number_minus fun e he => ?_
      cases he
      exact isDigit_of_isIdentifierChar (isIdentifierChar_of_isSpace hc)
    · refine fails_number fun e he => ?_
      cases he
      exact ⟨hdigit, hsign⟩

/-- What may follow an expression: a boundary behind which no operator stands. -/
structure Closing (rest : List Char) : Prop where
  boundary : Boundary rest
  noOperator : ∀ level : Precedence, Fails (operatorOf level.operators) (trimmed rest)

/-- A closing parenthesis or quote and the end of a line may follow an expression. -/
theorem closing_cons {c : Char} (h : c = ')' ∨ c = '\'' ∨ c = '\n') (s : List Char) :
    Closing (c :: s) := by
  constructor
  · refine boundary_cons ?_ ?_ ?_ s <;> rcases h with rfl | rfl | rfl <;> decide +kernel
  · intro level
    rcases h with rfl | rfl | rfl <;> cases level <;> exact ⟨_, rfl⟩

/-- The end of the text may follow an expression. -/
theorem closing_nil : Closing [] :=
  ⟨boundary_nil, fun level => by cases level <;> exact ⟨_, rfl⟩⟩

/-- Blanks may stand between an expression and what may follow it. -/
theorem Closing.blanks {blanks rest : List Char} (h : Closing rest)
    (hblanks : ∀ c ∈ blanks, isSpace c = true) : Closing (blanks ++ rest) :=
  ⟨h.boundary.blanks hblanks, fun level => by
    rw [Grammar.trimmed_append hblanks]
    exact h.noOperator level⟩

/-! ## Chains of operands -/

variable {operand : Parser Expression} {level : Precedence}

/-- Behind its first operand a chain goes on. -/
theorem chain_of_done {s rest : List Char} {e : Expression} (h : operand s = .done e rest) :
    chain level operand s = chainFrom level operand e rest :=
  bind_of_done h

/-- A chain ends where no operator of its level stands. -/
theorem chainFrom_of_fails {rest : List Char} (h : Fails (operatorOf level.operators) rest)
    (e : Expression) : chainFrom level operand e rest = .done e rest := by
  obtain ⟨place, hstuck⟩ := lexeme_fails h
  rw [chainFrom, hstuck]

/-- A chain goes on behind an operator and an operand. -/
theorem chainFrom_of_done {s r rest : List Char} {o : Operator} {right : Expression}
    (hoperator : lexeme (operatorOf level.operators) s = .done o r)
    (hright : operand r = .done right rest) (hlt : rest.length < s.length) (left : Expression) :
    chainFrom level operand left s = chainFrom level operand (.binary o left right) rest := by
  rw [chainFrom, hoperator]
  simp only [hright, hlt, if_true]

/-- The grammar of expressions with some of the levels only. -/
def nest (order : List Precedence) (operand : Parser Expression) : Parser Expression :=
  order.foldr chain operand

/-- A single operand is passed on by every level that has no operator behind it. -/
theorem nest_of_fails {order : List Precedence} {s rest : List Char} {e : Expression}
    (hoperand : operand s = .done e rest)
    (hstop : ∀ level ∈ order, Fails (operatorOf level.operators) rest) :
    nest order operand s = .done e rest := by
  induction order with
  | nil => exact hoperand
  | cons level order ih =>
    rw [List.forall_mem_cons] at hstop
    exact (chain_of_done (ih hstop.2)).trans (chainFrom_of_fails hstop.1 e)

/-! ## Levels -/

/-- A text is read as an expression by the levels from the `k`-th on, whatever follows that is no
part of it. If an operator of the `k`-th level follows, this level goes on from the expression. -/
structure ReadAs (operand : Parser Expression) (k : Nat) (e : Expression) (t : List Char) :
    Prop where
  reads : ∀ rest, Boundary rest →
    (∀ level ∈ loosestFirst.drop k, Fails (operatorOf level.operators) (trimmed rest)) →
    nest (loosestFirst.drop k) operand (t ++ rest) = .done e (trimmed rest)
  goesOn : ∀ rest level, Boundary rest → (loosestFirst.drop k).head? = some level →
    (∀ level ∈ loosestFirst.drop (k + 1), Fails (operatorOf level.operators) (trimmed rest)) →
    chain level (nest (loosestFirst.drop (k + 1)) operand) (t ++ rest) =
      chainFrom level (nest (loosestFirst.drop (k + 1)) operand) e (trimmed rest)

/-- What is read as an operand is read by all levels. -/
theorem readAs_of_operand {e : Expression} {t : List Char}
    (h : ∀ rest, Boundary rest → operand (t ++ rest) = .done e (trimmed rest)) (k : Nat) :
    ReadAs operand k e t where
  reads rest hrest hstop := nest_of_fails (h rest hrest) hstop
  goesOn rest _ hrest _ hstop := chain_of_done (nest_of_fails (h rest hrest) hstop)

/-- Levels that are looser than an operator pass on what its level reads. -/
theorem nest_drop_of_le {k m : Nat} (hk : k ≤ m) {s rest : List Char} {e : Expression}
    (h : nest (loosestFirst.drop m) operand s = .done e rest)
    (hstop : ∀ level ∈ loosestFirst.drop k, Fails (operatorOf level.operators) rest) :
    nest (loosestFirst.drop k) operand s = .done e rest := by
  obtain ⟨n, rfl⟩ := Nat.exists_eq_add_of_le hk
  have hsplit : nest (loosestFirst.drop k) operand =
      nest ((loosestFirst.drop k).take n) (nest (loosestFirst.drop (k + n)) operand) := by
    rw [nest, nest, nest, ← List.foldr_append, ← List.drop_drop, List.take_append_drop]
  rw [hsplit]
  exact nest_of_fails h fun level hlevel => hstop level (List.mem_of_mem_take hlevel)

/-- An operator between two operands is read by its own level and passed on by looser ones, if the
right operand is read by the tighter ones. -/
theorem readAs_binary {k : Nat} {o : Operator} {left right : Expression}
    {t u before behind : List Char} (hk : k ≤ o.tightness)
    (hleft : ReadAs operand o.tightness left t) (hright : ReadAs operand (o.tightness + 1) right u)
    (hu : ∀ s, trimmed (u ++ s) = u ++ s)
    (hbefore : before ≠ [] ∧ ∀ c ∈ before, isSpace c = true)
    (hbehind : behind ≠ [] ∧ ∀ c ∈ behind, isSpace c = true) :
    ReadAs operand k (.binary o left right)
      (t ++ (before ++ (o.symbol.toList ++ (behind ++ u)))) := by
  obtain ⟨c, blanks, rfl⟩ := List.exists_cons_of_ne_nil hbehind.1
  have hc : isSpace c = true := hbehind.2 c List.mem_cons_self
  set tighter := loosestFirst.drop (o.tightness + 1) with htighter
  -- The level of the operator has read both operands and goes on from there.
  have hlevel (rest : List Char) (hrest : Boundary rest)
      (hstop : ∀ level ∈ tighter, Fails (operatorOf level.operators) (trimmed rest)) :
      chain (levelOf o) (nest tighter operand)
          (t ++ (before ++ (o.symbol.toList ++ (c :: blanks ++ u))) ++ rest) =
        chainFrom (levelOf o) (nest tighter operand) (.binary o left right) (trimmed rest) := by
    set back := o.symbol.toList ++ c :: (blanks ++ (u ++ rest)) with hback
    have htext : t ++ (before ++ (o.symbol.toList ++ (c :: blanks ++ u))) ++ rest =
        t ++ (before ++ back) := by simp [hback]
    have htrim : trimmed (before ++ back) = back := by
      rw [Grammar.trimmed_append hbefore.2, hback, trimmed_operator]
    have hfirst : chain (levelOf o) (nest tighter operand) (t ++ (before ++ back)) =
        chainFrom (levelOf o) (nest tighter operand) left back := by
      rw [hleft.goesOn _ (levelOf o) (boundary_operator o hbefore.1 hbefore.2 hc _)
        (by rw [drop_tightness]; rfl), htrim]
      intro level hlevel
      rw [htrim]
      exact fails_operatorOf_symbol (ne_levelOf hlevel) hc _
    have hoperator : lexeme (operatorOf (levelOf o).operators) back = .done o (u ++ rest) := by
      rw [hback, lexeme_of_done (operatorOf_symbol o hc _), ← List.cons_append,
        Grammar.trimmed_append hbehind.2, hu]
    have hlt : (trimmed rest).length < back.length := by
      have := List.length_dropWhile_le isSpace rest
      simp only [hback, trimmed, List.length_append, List.length_cons]
      omega
    rw [htext, hfirst]
    exact chainFrom_of_done hoperator (hright.reads rest hrest hstop) hlt left
  have hreads (j : Nat) (hj : j ≤ o.tightness) (rest : List Char) (hrest : Boundary rest)
      (hstop : ∀ level ∈ loosestFirst.drop j, Fails (operatorOf level.operators) (trimmed rest)) :
      nest (loosestFirst.drop j) operand
          (t ++ (before ++ (o.symbol.toList ++ (c :: blanks ++ u))) ++ rest) =
        .done (.binary o left right) (trimmed rest) := by
    have hown : ∀ level ∈ loosestFirst.drop o.tightness,
        Fails (operatorOf level.operators) (trimmed rest) := fun level hlevel =>
      hstop level ((List.drop_sublist_drop_left loosestFirst hj).subset hlevel)
    refine nest_drop_of_le hj ?_ hstop
    rw [drop_tightness, List.forall_mem_cons] at hown
    rw [drop_tightness, nest, List.foldr_cons]
    exact (hlevel rest hrest hown.2).trans (chainFrom_of_fails hown.1 _)
  refine ⟨hreads k hk, fun rest level hrest hhead hstop => ?_⟩
  obtain rfl | hlt := Nat.eq_or_lt_of_le hk
  · rw [drop_tightness] at hhead
    cases hhead
    exact hlevel rest hrest hstop
  · exact chain_of_done (hreads (k + 1) hlt rest hrest hstop)

/-! ## Expressions -/

/-- No expression in parentheses can be read where none opens. -/
theorem fails_betweenParentheses {inner : Parser Expression} {s : List Char}
    (h : s.head? ≠ some '(') : Fails (betweenParentheses inner) s :=
  (lexeme_fails (fails_char h)).bind _

/-- An expression in parentheses is read if it is read up to the closing one. -/
theorem betweenParentheses_append {inner : Parser Expression} {s rest : List Char} {e : Expression}
    (h : inner (trimmed s) = .done e (')' :: rest)) :
    betweenParentheses inner ('(' :: s) = .done e (trimmed rest) := by
  rw [betweenParentheses, bind_of_done (lexeme_of_done (char_cons_self '(' s)), bind_of_done h,
    bind_of_done (lexeme_of_done (char_cons_self ')' rest)), pure_apply]

variable [lexicon.Alphabetic] {e : Expression} {t : List Char}

/-- A rendering is read as its expression from its own level on. Its parentheses cannot be nested
more deeply than the text is long. -/
theorem Rendering.readAs {k : Nat} (h : Rendering lexicon k e t) {depth : Nat}
    (hdepth : t.length ≤ depth) :
    ReadAs (operandOf lexicon (expressionWithin lexicon depth)) k e t := by
  induction h generalizing depth with
  | token ht =>
    refine readAs_of_operand (fun rest hrest => ?_) _
    refine orElse_of_fails (fails_betweenParentheses fun hopen => ?_) (ht.reads hrest).lexeme
    obtain ⟨c, cs, rfl, -, hc⟩ := ht.exists_cons
    exact hc (Option.some.inj hopen)
  | @parentheses k e t before behind ht hbefore hbehind ih =>
    simp only [List.length_cons, List.length_append, List.length_nil] at hdepth
    obtain ⟨depth, rfl⟩ : ∃ d, depth = d + 1 := ⟨depth - 1, by omega⟩
    refine readAs_of_operand (fun rest _ => orElse_of_done ?_) _
    have hclosing : Closing (behind ++ ')' :: rest) := (closing_cons (.inl rfl) rest).blanks hbehind
    have hinner : expressionWithin lexicon (depth + 1) (t ++ (behind ++ ')' :: rest)) =
        .done e (trimmed (behind ++ ')' :: rest)) :=
      (ih (by omega)).reads _ hclosing.boundary fun level _ => hclosing.noOperator level
    have htext : '(' :: (before ++ (t ++ (behind ++ [')']))) ++ rest =
        '(' :: (before ++ (t ++ (behind ++ ')' :: rest))) := by simp
    rw [htext]
    refine betweenParentheses_append ?_
    rw [Grammar.trimmed_append hbefore, ht.trimmed_append, hinner, Grammar.trimmed_append hbehind,
      trimmed_cons rfl]
  | binary hk hleft hright hbefore hbehind ihleft ihright =>
    simp only [List.length_append] at hdepth
    exact readAs_binary hk (ihleft (by omega)) (ihright (by omega)) hright.trimmed_append hbefore
      hbehind

/-- A rendering is read as its expression in front of what may follow one. -/
theorem Rendering.reads (h : Rendering lexicon 0 e t) {rest : List Char} (hrest : Closing rest) :
    expression lexicon (t ++ rest) = .done e (trimmed rest) :=
  (h.readAs (by simp)).reads rest hrest.boundary fun level _ => hrest.noOperator level

/-- A text is a rendering of one expression at most. -/
theorem Rendering.unique (h : Rendering lexicon 0 e t) {e' : Expression}
    (h' : Rendering lexicon 0 e' t) : e = e' := by
  have hread := h.reads closing_nil
  rw [h'.reads closing_nil] at hread
  exact (Outcome.done.inj hread).1.symm

/-- A rendering is read as its expression and to its end, blanks behind it included. -/
theorem expression_rendering (h : Rendering lexicon 0 e t) {blanks : List Char}
    (hblanks : ∀ c ∈ blanks, isSpace c = true) :
    expression lexicon (t ++ blanks) = .done e [] := by
  have hclosing : Closing (blanks ++ []) := closing_nil.blanks hblanks
  have hread := h.reads hclosing
  rwa [Grammar.trimmed_append hblanks, List.append_nil] at hread

/-- A comparison of a difference with an operand, and two more operators that bind less tightly. -/
def allowance : Expression :=
  .binary .or
    (.binary .and
      (.binary .lessOrEqual
        (.binary .subtract (.binary .subtract (.name "cap") (.amount (.bare (-1))))
          (.binary .multiply (.amount ⟨2, .known "USD"⟩) (.name "days")))
        (.name "rest"))
      (.binary .matching (.name "payee") (.regex "a|b")))
    (.bool true)

/-- A text of the expression with one pair of parentheses that it does not need. -/
theorem expression_rendering_allowance : ∃ t,
    t = "cap - -1 - 2USD * days <= ( rest\t) && payee =~ /a|b/ || true".toList ∧
    Rendering .standard 0 allowance t ∧
    expression .standard (t ++ [' ', '\t']) = .done allowance [] := by
  have hblank : [' '] ≠ [] ∧ ∀ c ∈ [' '], isSpace c = true := by simp [isSpace]
  have hnone : ∀ c ∈ ([] : List Char), isSpace c = true := by simp
  have htab : ∀ c ∈ ['\t'], isSpace c = true := by simp [isSpace]
  have hname {k : Nat} (n : String) (hne : n.toList ≠ [])
      (hall : n.toList.all (fun c => isIdentifierChar c && !Unicode.isDigit c) = true)
      (hboolean : n.toList ≠ "true".toList ∧ n.toList ≠ "false".toList) :
      Rendering .standard k (.name n) n.toList := by
    have hword : IsWord .standard n.toList := isWord_of_all hne hall
    have hamount := hword.fails_amount boundary_nil
    rw [List.append_nil] at hamount
    exact .token (.name hne hword.identifier hboolean hamount)
  have hdifference : Rendering .standard 2 _ _ :=
    .binary (o := .subtract) (by decide)
      (.binary (o := .subtract) (by decide)
        (hname "cap" (by decide) (by decide +kernel) (by decide))
        (.token (.amount (.number (x := -1) (by decide)))) hblank hblank)
      (.binary (o := .multiply) (by decide)
        (.token (.amount (.symbolBehind (x := 2) (by decide)
          (show "USD" ∈ Lexicon.standard.symbols by decide) hnone)))
        (hname "days" (by decide) (by decide +kernel) (by decide)) hblank hblank) hblank hblank
  have hcomparison : Rendering .standard 1 _ _ :=
    .binary (o := .lessOrEqual) (by decide) hdifference
      ((hname "rest" (by decide) (by decide +kernel) (by decide)).parentheses hblank.2 htab)
      hblank hblank
  have hmatching : Rendering .standard 2 _ _ :=
    .binary (o := .matching) (by decide)
      (hname "payee" (by decide) (by decide +kernel) (by decide))
      (.token (.regex (show '/' ∉ "a|b".toList by decide))) hblank hblank
  have hdisjunction : Rendering .standard 0 _ _ :=
    .binary (o := .or) (by decide)
      (.binary (o := .and) (by decide) hcomparison hmatching hblank hblank)
      (.token (.bool true)) hblank hblank
  have hbehind : ∀ c ∈ [' ', '\t'], isSpace c = true := by simp [isSpace]
  exact ⟨_, by decide +kernel, hdisjunction, expression_rendering hdisjunction hbehind⟩

end Grammar

end Daybook
