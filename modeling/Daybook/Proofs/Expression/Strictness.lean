import Daybook.Expression.Evaluation
import Daybook.Proofs.Sequence

set_option relaxedAutoImplicit false
set_option autoImplicit false

/-!
# Every part of an expression is evaluated

An expression has a value only if all its parts have one, whatever the operators are: neither `&&`
nor `||` passes over an operand. The parts are evaluated from left to right, the operands in front
of what is made of them, and the first one that fails gives the error of the whole.

## Main definitions

* `Expression.nodes` — the parts of an expression, in the order of their evaluation.
* `Expression.FailsAt` — why an expression fails although its operands have values.

## Main results

* `Expression.evaluate_congr` — only the names that occur are looked up.
* `Expression.exists_evaluate_of_mem_nodes` — the parts of what has a value have values.
* `Expression.exists_failsAt` — where evaluation stops.
* `Expression.evaluate_strict` — all of this together.
-/

namespace Daybook.Expression

variable {lookup : Lookup} {e : Expression} {error : EvalError}

/-! ## Parts -/

/-- The parts of an expression, in the order of their evaluation: those of the left operand, those
of the right operand, and then the expression itself. -/
def nodes : Expression → List Expression
  | binary operator left right => left.nodes ++ right.nodes ++ [binary operator left right]
  | e => [e]

/-- Why an expression fails although its operands have values: it is a name without a value, or its
operator cannot be applied to the values of its operands. -/
inductive FailsAt (lookup : Lookup) : Expression → EvalError → Prop
  | undefinedName {identifier : String} (h : lookup identifier = none) :
    FailsAt lookup (.name identifier) (.undefinedName identifier)
  | operator {o : Operator} {left right : Expression} {x y : Value} {error : EvalError}
    (hleft : left.evaluate lookup = .ok x) (hright : right.evaluate lookup = .ok y)
    (happly : o.apply x y = .error error) : FailsAt lookup (.binary o left right) error

/-- What fails although its operands have values fails. -/
theorem FailsAt.evaluate_eq_error (h : FailsAt lookup e error) :
    e.evaluate lookup = .error error := by
  cases h with
  | undefinedName h => rw [evaluate, h]
  | operator hleft hright happly =>
    exact except_bind_eq_error.mpr (.inr ⟨_, hleft,
      except_bind_eq_error.mpr (.inr ⟨_, hright, happly⟩)⟩)

/-- An expression is the last of its own parts. -/
theorem exists_nodes_eq_concat (e : Expression) : ∃ front, e.nodes = front ++ [e] := by
  cases e with
  | binary o left right => exact ⟨_, rfl⟩
  | name _ | amount _ | bool _ | string _ | regex _ => exact ⟨[], rfl⟩

/-! ## Names -/

/-- Two lookups that agree on the names that occur in an expression give it the same value or the
same error. -/
theorem evaluate_congr {lookup' : Lookup}
    (h : ∀ identifier, name identifier ∈ e.nodes → lookup' identifier = lookup identifier) :
    e.evaluate lookup' = e.evaluate lookup := by
  induction e with
  | name identifier => rw [evaluate, evaluate, h identifier (List.mem_singleton.mpr rfl)]
  | binary o left right ihl ihr =>
    rw [evaluate, evaluate, ihl fun i hi => h i (by simp [nodes, hi]),
      ihr fun i hi => h i (by simp [nodes, hi])]
  | amount _ | bool _ | string _ | regex _ => rfl

/-! ## Values and errors -/

/-- The parts of an expression that has a value have values. -/
theorem exists_evaluate_of_mem_nodes {v : Value} (h : e.evaluate lookup = .ok v) :
    ∀ d ∈ e.nodes, ∃ v, d.evaluate lookup = .ok v := by
  induction e generalizing v with
  | binary o left right ihl ihr =>
    obtain ⟨x, hleft, h'⟩ := except_bind_eq_ok.mp h
    obtain ⟨y, hright, -⟩ := except_bind_eq_ok.mp h'
    simp only [nodes, List.forall_mem_append, List.forall_mem_singleton]
    exact ⟨⟨ihl hleft, ihr hright⟩, v, h⟩
  | name _ | amount _ | bool _ | string _ | regex _ => exact List.forall_mem_singleton.mpr ⟨v, h⟩

/-- Where the evaluation of an expression stops: at a part that fails by itself, behind others that
all have values.

**Proof sketch.** Induction on the expression. Where an operand fails, the part is one of its own;
the parts of a left operand that has a value come in front of those of the right one. Where both
operands have values, the part is the expression itself. -/
theorem exists_failsAt (h : e.evaluate lookup = .error error) :
    ∃ before d after, e.nodes = before ++ d :: after ∧
      (∀ b ∈ before, ∃ v, b.evaluate lookup = .ok v) ∧ d.FailsAt lookup error := by
  induction e with
  | name identifier =>
    rw [evaluate] at h
    split at h
    · cases h
    next hnone =>
      obtain rfl := Except.error.inj h
      exact ⟨[], _, [], rfl, nofun, .undefinedName hnone⟩
  | binary o left right ihl ihr =>
    obtain hleft | ⟨x, hleft, h⟩ := except_bind_eq_error.mp h
    · obtain ⟨before, d, after, hnodes, hbefore, hd⟩ := ihl hleft
      exact ⟨before, d, after ++ (right.nodes ++ [binary o left right]),
        by rw [nodes, hnodes]; simp, hbefore, hd⟩
    obtain hright | ⟨y, hright, happly⟩ := except_bind_eq_error.mp h
    · obtain ⟨before, d, after, hnodes, hbefore, hd⟩ := ihr hright
      refine ⟨left.nodes ++ before, d, after ++ [binary o left right],
        by rw [nodes, hnodes]; simp, ?_, hd⟩
      exact List.forall_mem_append.mpr ⟨exists_evaluate_of_mem_nodes hleft, hbefore⟩
    · refine ⟨left.nodes ++ right.nodes, _, [], rfl, ?_, .operator hleft hright happly⟩
      exact List.forall_mem_append.mpr
        ⟨exists_evaluate_of_mem_nodes hleft, exists_evaluate_of_mem_nodes hright⟩
  | amount _ | bool _ | string _ | regex _ => cases h

/-- How the value of an expression comes about. Only the names that occur in the expression are
looked up. It has a value exactly if all its parts do, both operands of every operator among them.
It fails exactly if one of its parts fails by itself, behind others that all have values, and then
with the error of that part: a name without a value, or an operator that cannot be applied to the
values of its operands. -/
theorem evaluate_strict (lookup : Lookup) (e : Expression) :
    (∀ lookup' : Lookup,
      (∀ identifier, name identifier ∈ e.nodes → lookup' identifier = lookup identifier) →
      e.evaluate lookup' = e.evaluate lookup) ∧
    ((∃ v, e.evaluate lookup = .ok v) ↔ ∀ d ∈ e.nodes, ∃ v, d.evaluate lookup = .ok v) ∧
    ∀ error, e.evaluate lookup = .error error ↔
      ∃ before d after, e.nodes = before ++ d :: after ∧
        (∀ b ∈ before, ∃ v, b.evaluate lookup = .ok v) ∧ d.FailsAt lookup error := by
  refine ⟨fun lookup' => evaluate_congr, ⟨?_, fun h => ?_⟩, fun error => ⟨exists_failsAt, ?_⟩⟩
  · rintro ⟨v, hv⟩
    exact exists_evaluate_of_mem_nodes hv
  · obtain ⟨front, hnodes⟩ := exists_nodes_eq_concat e
    exact h e (by simp [hnodes])
  · rintro ⟨before, d, after, hnodes, hbefore, hd⟩
    cases he : e.evaluate lookup with
    | ok v =>
      obtain ⟨v', hv'⟩ := exists_evaluate_of_mem_nodes he d (by simp [hnodes])
      rw [hd.evaluate_eq_error] at hv'
      cases hv'
    | error error' =>
      -- evaluation stops at the first part that fails, and there is only one first part
      have hfirst {error : EvalError} {before after : List Expression} {d : Expression}
          (hnodes : e.nodes = before ++ d :: after)
          (hbefore : ∀ b ∈ before, ∃ v, b.evaluate lookup = .ok v) (hd : d.FailsAt lookup error) :
          e.nodes.mapM (evaluate lookup) = .error error :=
        except_mapM_eq_error.mpr ⟨before, d, after, hnodes,
          fun b hb => exists_ok_iff_forall_ne_error.mp (hbefore b hb), hd.evaluate_eq_error⟩
      obtain ⟨before', d', after', hnodes', hbefore', hd'⟩ := exists_failsAt he
      rw [Except.error.inj ((hfirst hnodes' hbefore' hd').symm.trans (hfirst hnodes hbefore hd))]

/-- A condition that is false whatever its right operand is, and whose right operand compares a
number with a string. -/
def idleCondition : Expression :=
  .binary .and (.bool false) (.binary .less (.name "rate") (.string "low"))

/-- A lookup that knows the rate, and one that knows every name. -/
def rateLookups : Lookup × Lookup :=
  (fun identifier => if identifier = "rate" then some (.bare 2) else none, fun _ => some (.bare 2))

/-- The condition has no value, since the comparison has none, and other names do not matter. -/
theorem evaluate_strict_idleCondition :
    idleCondition.evaluate rateLookups.2 = idleCondition.evaluate rateLookups.1 ∧
      (¬ ∃ v, idleCondition.evaluate rateLookups.1 = .ok v) ∧
      idleCondition.evaluate rateLookups.1 = .error (.kindMismatch .less .amount .string) := by
  obtain ⟨hlookup, hvalue, herror⟩ := evaluate_strict rateLookups.1 idleCondition
  have hfails : FailsAt rateLookups.1 (.binary .less (.name "rate") (.string "low"))
      (.kindMismatch .less .amount .string) := .operator rfl rfl rfl
  refine ⟨hlookup rateLookups.2 fun identifier h => ?_, fun h => ?_, ?_⟩
  · have hname : identifier = "rate" := by simpa [idleCondition, nodes] using h
    rw [hname]
    rfl
  · obtain ⟨v, hv⟩ := hvalue.mp h _ (List.mem_append_left _ (List.mem_append_right _
      List.mem_concat_self))
    rw [hfails.evaluate_eq_error] at hv
    cases hv
  · refine (herror _).mpr ⟨[.bool false, .name "rate", .string "low"], _, [idleCondition], rfl, ?_,
      hfails⟩
    intro b hb
    obtain rfl | rfl | rfl : b = .bool false ∨ b = .name "rate" ∨ b = .string "low" := by
      simpa using hb
    all_goals exact ⟨_, rfl⟩

end Daybook.Expression
