import Daybook.Ledger.Apply
import Daybook.Proofs.Grammar.Continuation
import Daybook.Proofs.Grammar.Soundness

set_option relaxedAutoImplicit false
set_option autoImplicit false

/-!
# Names that have been defined

Behind the definition of a name the name stands for its value, and so a further name can be defined
by it. Where a name is used, literals are tried in front of it, however: a name that is a literal,
too, stands for the literal.

## Main definitions

* `definitionText` — the text of a definition.
* `Ledger.Defines` — a definition can be read and applied, and gives its name a value.

## Main results

* `Grammar.expression_of_primitive` — a literal or a name that takes up a text is read as such.
* `parse_definitionText` — a definition is read from its text.
* `Ledger.defines_of_evaluate` — it gives its name the value of its expression.
* `Ledger.defines_definedName` — what a name that has been defined gives to another name.
-/

namespace Daybook

open Grammar Grammar.Parser

/-- The definition of a name by the text of an expression. -/
def definitionText (name text : String) : String :=
  "define " ++ name ++ " = " ++ text

variable {lexicon : Lexicon}

/-! ## Reading a definition -/

/-- No blank and no parenthesis is in front of an identifier. -/
theorem IsIdentifier.exists_cons {cs : List Char} (h : IsIdentifier cs) :
    ∃ c rest, cs = c :: rest ∧ isSpace c = false ∧ c ≠ '(' := by
  obtain ⟨c, rest, rfl⟩ := List.exists_cons_of_ne_nil h.ne_nil
  exact ⟨c, rest, rfl, ne_of_isIdentifierChar (h.identifier c List.mem_cons_self)⟩

namespace Grammar

/-- A literal or a name that takes up the whole text is read as an expression. -/
theorem expression_of_primitive {s : List Char} {e : Expression} (hopen : s.head? ≠ some '(')
    (h : primitive lexicon s = .done e []) : expression lexicon s = .done e [] := by
  have hoperand : operandOf lexicon (expressionWithin lexicon s.length) s = .done e [] :=
    orElse_of_fails (fails_betweenParentheses hopen) (lexeme_of_done h)
  have hstop : ∀ level ∈ loosestFirst, Fails (operatorOf level.operators) [] := fun level _ =>
    closing_nil.noOperator level
  exact nest_of_fails hoperand hstop

/-- A name or a truth value is read from its text. -/
theorem expression_text_nil [lexicon.Alphabetic] {e : Expression} (hsource : e.InSource lexicon)
    (hwritable : e.Writable) : expression lexicon e.text.toList = .done e [] := by
  have hread := expression_text hsource hwritable closing_nil
  rwa [List.append_nil] at hread

end Grammar

/-- A definition is read from its text if the expression takes up the rest of it. -/
theorem parse_definitionText {name text : String} {e : Expression}
    (hname : IsIdentifier name.toList) (htrim : trimmed text.toList = text.toList)
    (hread : expression lexicon text.toList = .done e []) :
    parse lexicon (definitionText name text) = .ok [.definition name e] := by
  have htext : (definitionText name text).toList =
      "define".toList ++ ' ' :: (name.toList ++ ' ' :: '=' :: ' ' :: text.toList) := by
    simp [definitionText]
  have hline : statementLine lexicon (definitionText name text).toList =
      .done (.definition name e) [] := by
    rw [htext]
    exact statementLine_eq_done.mpr ⟨[], statement_of_definition
      (definition_of_done hname.ne_nil hname.identifier htrim hread), rfl⟩
  have hblank : (definitionText name text).toList.dropWhile isBlankLineChar =
      (definitionText name text).toList := by
    rw [htext]
    rfl
  rw [parse_eq_ok_iff]
  obtain ⟨c, cs, hcs⟩ : ∃ c cs, (definitionText name text).toList = c :: cs :=
    ⟨_, _, htext⟩
  rw [hcs] at hline hblank ⊢
  rw [statements_of_done hblank hline, statements_of_nil rfl]

/-! ## Using a name -/

namespace Ledger

/-- The definition of `name` by `text` can be read, and applied to the ledger, and it gives the name
the value `v`. -/
def Defines (l : Ledger) (name text : String) (v : Value) : Prop :=
  ∃ e l', parse .standard (definitionText name text) = .ok [.definition name e] ∧
    l.apply (.definition name e) = .ok l' ∧ l'.definitions[name]? = some v

/-- A definition that succeeds gives its name the value of its expression. -/
theorem apply_definition_eq_ok {l l' : Ledger} {name : String} {e : Expression} :
    l.apply (.definition name e) = .ok l' ↔ ∃ v, e.evaluate l.lookup = .ok v ∧
      l' = { l with definitions := l.definitions.insert name v } := by
  rw [apply]
  cases h : e.evaluate l.lookup with
  | ok v => simp [eq_comm]
  | error error => simp

/-- A definition gives its name the value of its expression. -/
theorem defines_of_evaluate {l : Ledger} {name text : String} {e : Expression} {v : Value}
    (hparse : parse .standard (definitionText name text) = .ok [.definition name e])
    (hevaluate : e.evaluate l.lookup = .ok v) : l.Defines name text v :=
  ⟨e, _, hparse, apply_definition_eq_ok.mpr ⟨v, hevaluate, rfl⟩,
    Std.TreeMap.getElem?_insert_self⟩

/-- A name that has been defined gives its value to every other name that is defined by it, if it is
not a truth value and does not begin with what is read as an amount. A truth value, and a name that
is an amount as a whole, gives what it is as a literal instead. -/
theorem defines_definedName {name text : String} {e : Expression} {l l' : Ledger}
    (hparse : parse .standard (definitionText name text) = .ok [.definition name e])
    (happly : l.apply (.definition name e) = .ok l') :
    ∃ v, e.evaluate l.lookup = .ok v ∧ l'.definitions[name]? = some v ∧
      ∀ other : String, IsIdentifier other.toList →
        (IsName .standard name.toList → l'.Defines other name v) ∧
        (∀ b, name = (Expression.bool b).text → l'.Defines other name (.bool b)) ∧
        ∀ a, amount .standard name.toList = .done a [] → l'.Defines other name (.amount a) := by
  obtain ⟨hname, -⟩ := sound_of_parse hparse _ List.mem_cons_self
  obtain ⟨v, hevaluate, rfl⟩ := apply_definition_eq_ok.mp happly
  have hvalue : (l.definitions.insert name v)[name]? = some v := Std.TreeMap.getElem?_insert_self
  refine ⟨v, hevaluate, hvalue, fun other hother => ?_⟩
  obtain ⟨c, cs, hcs, hspace, hopen⟩ := hname.exists_cons
  have htrim : trimmed name.toList = name.toList := by
    rw [hcs]
    exact trimmed_cons hspace cs
  -- whatever the name is read as, the other name is given the value of that
  have huse {e' : Expression} {v' : Value} (hread : expression .standard name.toList = .done e' [])
      (hv' : e'.evaluate { l with definitions := l.definitions.insert name v }.lookup = .ok v') :
      { l with definitions := l.definitions.insert name v }.Defines other name v' :=
    defines_of_evaluate (parse_definitionText hother htrim hread) hv'
  refine ⟨fun hplain => ?_, ?_, fun a ha => ?_⟩
  · have hsource : (Expression.name name).InSource .standard := hplain
    have hread := expression_text_nil hsource trivial
    rw [Expression.text] at hread
    refine huse hread ?_
    rw [Expression.evaluate, lookup, hvalue]
  · rintro b rfl
    have hsource : (Expression.bool b).InSource .standard := trivial
    exact huse (expression_text_nil hsource trivial) rfl
  · have hhead : name.toList.head? ≠ some '(' := by
      rw [hcs]
      exact fun h => hopen (Option.some.inj h)
    exact huse (expression_of_primitive hhead (orElse_of_done (map_of_done _ ha))) rfl

/-- A rate whose name begins with a commodity symbol. -/
def exchangeRate : Expression :=
  .binary .divide (.amount ⟨9, .known "EUR"⟩) (.amount (.bare 8))

/-- The rate can be used under its name. -/
theorem defines_definedName_exchangeRate :
    parse .standard (definitionText "USD_rate" "9 EUR / 8") =
        .ok [.definition "USD_rate" exchangeRate] ∧
      ∃ l', Ledger.empty.apply (.definition "USD_rate" exchangeRate) = .ok l' ∧
        l'.Defines "price" "USD_rate" (.amount ⟨9 / 8, .known "EUR"⟩) := by
  have hparse : parse .standard (definitionText "USD_rate" "9 EUR / 8") =
      .ok [.definition "USD_rate" exchangeRate] := by decide +kernel
  have happly : Ledger.empty.apply (.definition "USD_rate" exchangeRate) = .ok _ :=
    apply_definition_eq_ok.mpr ⟨.amount ⟨9 / 8, .known "EUR"⟩, rfl, rfl⟩
  refine ⟨hparse, _, happly, ?_⟩
  obtain ⟨v, hevaluate, -, huse⟩ := defines_definedName hparse happly
  obtain rfl : v = .amount ⟨9 / 8, .known "EUR"⟩ := (Except.ok.inj hevaluate).symm
  have hrate : IsName .standard "USD_rate".toList :=
    ⟨isWord_of_all (by decide) (by decide +kernel), by decide⟩
  exact (huse "price" (by decide +kernel)).1 hrate

/-- The name of a truth value can be defined as a number, but is not read as one. -/
theorem truthValue_notUsable :
    ¬ ∀ (name text other : String) (e : Expression) (l l' : Ledger) (v : Value),
      parse .standard (definitionText name text) = .ok [.definition name e] →
      l.apply (.definition name e) = .ok l' → e.evaluate l.lookup = .ok v →
      IsIdentifier other.toList → other ≠ name → l'.Defines other name v := by
  intro hlaw
  have hother : IsIdentifier "x".toList := by decide +kernel
  have happly : Ledger.empty.apply (.definition "true" (.amount (.bare 5))) = .ok _ :=
    apply_definition_eq_ok.mpr ⟨.amount (.bare 5), rfl, rfl⟩
  obtain ⟨e, l', hparse, happly', hvalue⟩ := hlaw "true" "5" "x" (.amount (.bare 5)) .empty _
    (.amount (.bare 5)) (by decide +kernel) happly rfl hother (by decide)
  have hread :
      parse .standard (definitionText "x" "true") = .ok [.definition "x" (.bool true)] := by
    decide +kernel
  rw [hread] at hparse
  cases hparse
  obtain ⟨v, hv, rfl⟩ := apply_definition_eq_ok.mp happly'
  cases hv
  rw [Std.TreeMap.getElem?_insert_self] at hvalue
  cases hvalue

end Ledger

end Daybook
