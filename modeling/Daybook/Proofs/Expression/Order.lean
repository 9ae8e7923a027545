import Daybook.Proofs.Decimal.Order
import Daybook.Proofs.Expression.Commodities

set_option relaxedAutoImplicit false
set_option autoImplicit false

/-!
# Values in order

Two dates can be ordered, and so can two amounts unless their commodities are known to differ. The
four comparisons read one order, and so they agree with each other: it turns round with its
operands, it can be passed on, and it leaves out nothing but what is not a number. Equality and
matching do not depend on it, and each of them has an operator for its negation.

## Main definitions

* `Value.Comparable`, `Value.SameMeasure` — values that can be ordered, and those that are measured
  alike.
* `Value.order` — how two values are ordered.
* `Operator.accepts` — the orders for which a comparison is true.
* `Operator.Holds` — a condition on two values is true.

## Main results

* `Value.order_swap`, `Value.isSome_order_iff`, `Value.order_trans`, `Value.order_eq_eq_iff` — the
  order of values.
* `Operator.apply_of_comparable`, `Operator.exists_apply_eq_error_iff` — comparisons read it.
* `Operator.toOption_apply_swap`, `Operator.exactlyOne_holds`, `Operator.apply_of_isNaN`,
  `Operator.holds_lessOrEqual_both_iff` — how they agree.
* `Operator.apply_notMatching` — what does not match.
* `Operator.comparisons_coherent` — all of this together.

## Design

A chain of two comparisons needs nothing but ends that can be compared, since what is not a number
is less than nothing. The condition is there for chains through an amount of no known commodity,
whose ends may be of different ones.
-/

namespace Daybook

/-! ## The order of dates -/

instance : Std.TransOrd Date :=
  inferInstanceAs (Std.TransCmp (compareLex (compareOn Date.year)
    (compareLex (compareOn Date.month) (compareOn Date.day))))

instance : Std.LawfulEqOrd Date where
  eq_of_compare {a b} h := by
    have h : (compare a.year b.year).then
        ((compare a.month b.month).then (compare a.day b.day)) = .eq := h
    rw [Ordering.then_eq_eq, Ordering.then_eq_eq, compare_eq_iff_eq, compare_eq_iff_eq,
      compare_eq_iff_eq] at h
    cases a
    cases b
    simp_all

/-! ## The order of values -/

/-- Numbers are ordered as doubles are. -/
theorem Operator.numberOrdering_eq (a b : Float) : numberOrdering a b = Binary64.order a b := by
  have hback : b < a ↔ Binary64.order a b = some .gt := by
    rw [Binary64.lt_iff_order, Binary64.order_swap a b]
    cases Binary64.order a b with
    | none => simp
    | some r => cases r <;> simp
  unfold numberOrdering
  simp only [Binary64.lt_iff_order (x := a), Binary64.beq_iff_order, hback]
  cases Binary64.order a b with
  | none => rfl
  | some r => cases r <;> rfl

namespace Value

/-- Values that can be ordered: two dates, or two amounts whose commodities are not known to
differ. -/
inductive Comparable : Value → Value → Prop
  | dates (d e : Date) : Comparable (.date d) (.date e)
  | amounts {a b : Amount}
    (h : a.commodity = .unknown ∨ b.commodity = .unknown ∨ a.commodity = b.commodity) :
    Comparable (.amount a) (.amount b)

/-- Values that are measured alike: two dates, or two amounts of the same commodity. -/
inductive SameMeasure : Value → Value → Prop
  | dates (d e : Date) : SameMeasure (.date d) (.date e)
  | amounts {a b : Amount} (h : a.commodity = b.commodity) : SameMeasure (.amount a) (.amount b)

/-- Whether a value is an amount of what is not a number. -/
def isNaN : Value → Bool
  | amount a => a.number.isNaN
  | _ => false

/-- How two values of a kind are ordered. -/
def order : Value → Value → Option Ordering
  | amount a, amount b => Binary64.order a.number b.number
  | date d, date e => some (compare d e)
  | _, _ => none

variable {x y z : Value}

/-- Values that are measured alike can be ordered. -/
theorem SameMeasure.comparable (h : SameMeasure x y) : Comparable x y := by
  cases h with
  | dates d e => exact .dates d e
  | amounts h => exact .amounts (.inr (.inr h))

/-- Whether values can be ordered does not depend on their sequence. -/
theorem Comparable.symm (h : Comparable x y) : Comparable y x := by
  cases h with
  | dates d e => exact .dates e d
  | amounts h =>
    obtain h | h | h := h
    · exact .amounts (.inr (.inl h))
    · exact .amounts (.inl h)
    · exact .amounts (.inr (.inr h.symm))

/-- The order of two values the other way round. -/
theorem order_swap (x y : Value) : y.order x = (x.order y).map .swap := by
  cases x <;> cases y
  case amount.amount a b => exact Binary64.order_swap a.number b.number
  case date.date d e => exact congrArg some Std.OrientedOrd.eq_swap
  all_goals rfl

/-- Values that can be ordered are, unless one of them is not a number. -/
theorem isSome_order_iff (h : Comparable x y) :
    (x.order y).isSome ↔ x.isNaN = false ∧ y.isNaN = false := by
  cases h with
  | dates d e => exact iff_of_true rfl ⟨rfl, rfl⟩
  | amounts h => exact Binary64.isSome_order_iff

/-- What is less than a lesser value is less. Values of another kind are not ordered at all. -/
theorem order_trans (hxy : x.order y = some .lt) (hyz : y.order z = some .lt) :
    x.order z = some .lt := by
  cases x <;> cases y <;> try cases hxy
  case amount.amount a b =>
    cases z <;> try cases hyz
    case amount c => exact Binary64.order_trans hxy hyz
  case date.date d e =>
    cases z <;> try cases hyz
    case date f =>
      exact congrArg some (Std.TransCmp.lt_trans (Option.some.inj hxy) (Option.some.inj hyz))

/-- Values that are measured alike are equal exactly if neither is ordered in front of the other. -/
theorem order_eq_eq_iff (h : SameMeasure x y) : x.order y = some .eq ↔ (x == y) = true := by
  cases h with
  | dates d e =>
    show some (compare d e) = some .eq ↔ (d == e) = true
    rw [Option.some.injEq, Std.LawfulEqOrd.compare_eq_iff_eq, beq_iff_eq]
  | @amounts a b h =>
    show Binary64.order a.number b.number = some .eq ↔
      (a.number == b.number && a.commodity == b.commodity) = true
    rw [← Binary64.beq_iff_order, h, beq_self_eq_true, Bool.and_true]

end Value

/-! ## Comparisons -/

/-- The same error of another operator. -/
def EvalError.withOperator (o : Operator) : EvalError → EvalError
  | kindMismatch _ left right => kindMismatch o left right
  | e => e

namespace Operator

open Value

/-- Whether an operator is one of the four that compare values in order. -/
def isComparison : Operator → Bool
  | less | lessOrEqual | greater | greaterOrEqual => true
  | _ => false

/-- The orders of its operands for which a comparison is true. -/
def accepts : Operator → Ordering → Bool
  | less, r => r == .lt
  | lessOrEqual, r => r != .gt
  | greater, r => r == .gt
  | greaterOrEqual, r => r != .lt
  | _, _ => false

/-- A condition on two values is true. -/
def Holds (o : Operator) (x y : Value) : Prop :=
  o.apply x y = .ok (.bool true)

variable {o : Operator} {x y z : Value}

/-- A comparison reads the order of its operands. -/
theorem apply_comparison (ho : o.isComparison = true) :
    o.apply x y = o.comparison o.accepts x y := by
  cases o with
  | less | lessOrEqual | greater | greaterOrEqual => rfl
  | _ => cases ho

/-- Values that can be ordered have the order that comparisons read. -/
theorem ordering_of_comparable (h : Comparable x y) : o.ordering x y = .ok (x.order y) := by
  cases h with
  | dates d e => rfl
  | @amounts a b h =>
    rw [ordering, if_pos (Commodity.isSome_unify_iff.mpr h), numberOrdering_eq]
    rfl

/-- Values that cannot be ordered have an error in its place. -/
theorem exists_ordering_eq_error (h : ¬ Comparable x y) : ∃ e, o.ordering x y = .error e := by
  cases x <;> cases y
  case amount.amount a b =>
    have hnone : ¬ (a.commodity.unify b.commodity).isSome = true :=
      fun hsome => h (.amounts (Commodity.isSome_unify_iff.mp hsome))
    exact ⟨_, if_neg hnone⟩
  case date.date d e => exact absurd (.dates d e) h
  all_goals exact ⟨_, rfl⟩

/-- The truth value of a comparison of values that can be ordered. -/
theorem apply_of_comparable (ho : o.isComparison = true) (h : Comparable x y) :
    o.apply x y = .ok (.bool ((x.order y).any o.accepts)) := by
  rw [apply_comparison ho, comparison, ordering_of_comparable h]
  rfl

/-- A comparison fails exactly if its operands cannot be ordered. -/
theorem exists_apply_eq_error_iff (ho : o.isComparison = true) :
    (∃ e, o.apply x y = .error e) ↔ ¬ Comparable x y := by
  constructor
  · rintro ⟨e, he⟩ h
    rw [apply_of_comparable ho h] at he
    cases he
  · intro h
    obtain ⟨e, he⟩ := exists_ordering_eq_error (o := o) h
    exact ⟨e, by rw [apply_comparison ho, comparison, he]; rfl⟩

/-- A comparison has a truth value exactly if its operands can be ordered. -/
theorem exists_apply_eq_ok_iff (ho : o.isComparison = true) :
    (∃ b, o.apply x y = .ok (.bool b)) ↔ Comparable x y := by
  refine ⟨fun ⟨b, hb⟩ => ?_, fun h => ⟨_, apply_of_comparable ho h⟩⟩
  by_contra h
  obtain ⟨e, he⟩ := (exists_apply_eq_error_iff ho).mpr h
  rw [he] at hb
  cases hb

/-- Two comparisons agree on operands in opposite sequences if they accept opposite orders. -/
theorem toOption_apply_swap {o' : Operator} (ho : o.isComparison = true)
    (ho' : o'.isComparison = true) (h : ∀ r, o'.accepts r.swap = o.accepts r) :
    (o.apply x y).toOption = (o'.apply y x).toOption := by
  by_cases hxy : Comparable x y
  · rw [apply_of_comparable ho hxy, apply_of_comparable ho' hxy.symm, order_swap x y,
      Option.any_map]
    exact congrArg (fun f => some (Value.bool ((x.order y).any f))) (funext fun r => (h r).symm)
  · obtain ⟨e, he⟩ := (exists_apply_eq_error_iff ho).mpr hxy
    obtain ⟨e', he'⟩ := (exists_apply_eq_error_iff ho').mpr fun hyx => hxy hyx.symm
    rw [he, he']
    rfl

/-- A comparison is true exactly if it accepts the order of its operands. -/
theorem holds_iff (ho : o.isComparison = true) :
    o.Holds x y ↔ Comparable x y ∧ ∃ r, x.order y = some r ∧ o.accepts r = true := by
  by_cases h : Comparable x y
  · rw [Holds, apply_of_comparable ho h]
    simp [h, Option.any_eq_true]
  · obtain ⟨e, he⟩ := (exists_apply_eq_error_iff ho).mpr h
    rw [Holds, he]
    simp [h]

/-- What does not match: the same operands make both operators fail. -/
theorem apply_notMatching (x y : Value) :
    (∃ b, matching.apply x y = .ok (.bool b) ∧ notMatching.apply x y = .ok (.bool !b)) ∨
      ∃ e, matching.apply x y = .error e ∧
        notMatching.apply x y = .error (e.withOperator notMatching) := by
  have happly (o : Operator) : o.isMatch x y =
      (matching.isMatch x y).mapError (EvalError.withOperator o) := by
    unfold isMatch
    split
    · split <;> rfl
    · rfl
  have hnot : notMatching.apply x y = (notMatching.isMatch x y).map fun b => .bool !b := rfl
  have hmatch : matching.apply x y = (matching.isMatch x y).map .bool := rfl
  rw [hnot, hmatch, happly notMatching]
  cases matching.isMatch x y with
  | ok b => exact .inl ⟨b, rfl, rfl⟩
  | error e => exact .inr ⟨e, rfl, rfl⟩

/-! ## Agreement -/

/-- One of three conditions holds, and no more than one. -/
def ExactlyOne (p q r : Prop) : Prop :=
  (p ∧ ¬ q ∧ ¬ r) ∨ (¬ p ∧ q ∧ ¬ r) ∨ (¬ p ∧ ¬ q ∧ r)

/-- Which values are less than which. -/
theorem holds_less_iff : less.Holds x y ↔ Comparable x y ∧ x.order y = some .lt := by
  simp [holds_iff (o := less) rfl, accepts]

/-- Which values are greater than which. -/
theorem holds_greater_iff : greater.Holds x y ↔ Comparable x y ∧ x.order y = some .gt := by
  simp [holds_iff (o := greater) rfl, accepts]

/-- Which values are as great as each other. -/
theorem holds_lessOrEqual_and_greaterOrEqual_iff :
    lessOrEqual.Holds x y ∧ greaterOrEqual.Holds x y ↔ Comparable x y ∧ x.order y = some .eq := by
  rw [holds_iff (o := lessOrEqual) rfl, holds_iff (o := greaterOrEqual) rfl]
  cases x.order y with
  | none => simp
  | some r => cases r <;> simp [accepts]

/-- Being at most as great is being at least as great the other way round. -/
theorem holds_lessOrEqual_swap : lessOrEqual.Holds y x ↔ greaterOrEqual.Holds x y := by
  rw [holds_iff (o := lessOrEqual) rfl, holds_iff (o := greaterOrEqual) rfl, order_swap x y]
  refine and_congr ⟨Comparable.symm, Comparable.symm⟩ ?_
  cases x.order y with
  | none => simp
  | some r => cases r <;> simp [accepts]

/-- Values that can be ordered have one order, unless one of them is not a number. -/
theorem exactlyOne_holds (h : Comparable x y) (hx : x.isNaN = false) (hy : y.isNaN = false) :
    ExactlyOne (less.Holds x y) (greater.Holds x y)
      (lessOrEqual.Holds x y ∧ greaterOrEqual.Holds x y) := by
  obtain ⟨r, hr⟩ := Option.isSome_iff_exists.mp ((isSome_order_iff h).mpr ⟨hx, hy⟩)
  rw [ExactlyOne, holds_less_iff, holds_greater_iff, holds_lessOrEqual_and_greaterOrEqual_iff, hr]
  cases r <;> simp [h]

/-- Every comparison with what is not a number is false. -/
theorem apply_of_isNaN (h : Comparable x y) (hNaN : x.isNaN = true ∨ y.isNaN = true)
    (ho : o.isComparison = true) : o.apply x y = .ok (.bool false) := by
  have hnone : x.order y = none := by
    rw [← Option.not_isSome_iff_eq_none, isSome_order_iff h, not_and_or]
    simpa using hNaN
  rw [apply_of_comparable ho h, hnone]
  rfl

/-- Values that are measured alike are equal exactly if each is at most as great as the other. -/
theorem holds_lessOrEqual_both_iff (h : SameMeasure x y) :
    lessOrEqual.Holds x y ∧ lessOrEqual.Holds y x ↔ equal.Holds x y := by
  rw [holds_lessOrEqual_swap (x := x), holds_lessOrEqual_and_greaterOrEqual_iff,
    order_eq_eq_iff h, and_iff_right h.comparable]
  show _ ↔ Except.ok (Value.bool (x == y)) = Except.ok (Value.bool true)
  simp

/-- How the operators that compare two values agree with each other. The comparisons have a truth
value if the values can be ordered, and all of them fail if they cannot. Each of them agrees with
its opposite on the operands in the other sequence. One of two numbers or dates is less, or it is
greater, or they are as great as each other; with what is not a number every comparison is false.
Values that are measured alike are equal exactly if each is at most as great as the other. Being
less passes on along a chain whose ends can be compared, as two dates can, and two amounts of one
commodity. Equality never fails and is the opposite of its negation. Matching is the opposite of its
negation, too, or both fail for the same reason. -/
theorem comparisons_coherent (x y : Value) :
    (∀ o : Operator, o.isComparison = true →
      ((∃ b, o.apply x y = .ok (.bool b)) ↔ Comparable x y) ∧
        ((∃ e, o.apply x y = .error e) ↔ ¬ Comparable x y)) ∧
    (less.apply x y).toOption = (greater.apply y x).toOption ∧
    (lessOrEqual.apply x y).toOption = (greaterOrEqual.apply y x).toOption ∧
    (Comparable x y → x.isNaN = false → y.isNaN = false → ExactlyOne (less.Holds x y)
      (greater.Holds x y) (lessOrEqual.Holds x y ∧ greaterOrEqual.Holds x y)) ∧
    (Comparable x y → x.isNaN = true ∨ y.isNaN = true →
      ∀ o : Operator, o.isComparison = true → o.apply x y = .ok (.bool false)) ∧
    (SameMeasure x y → (lessOrEqual.Holds x y ∧ lessOrEqual.Holds y x ↔ equal.Holds x y)) ∧
    (∀ z, Comparable x z → less.Holds x y → less.Holds y z → less.Holds x z) ∧
    (∃ b, equal.apply x y = .ok (.bool b) ∧ notEqual.apply x y = .ok (.bool !b)) ∧
    ((∃ b, matching.apply x y = .ok (.bool b) ∧ notMatching.apply x y = .ok (.bool !b)) ∨
      ∃ e, matching.apply x y = .error e ∧
        notMatching.apply x y = .error (e.withOperator notMatching)) := by
  refine ⟨fun o ho => ⟨exists_apply_eq_ok_iff ho, exists_apply_eq_error_iff ho⟩,
    toOption_apply_swap rfl rfl fun r => ?_, toOption_apply_swap rfl rfl fun r => ?_,
    exactlyOne_holds, fun h hNaN o => apply_of_isNaN h hNaN, holds_lessOrEqual_both_iff,
    fun z hxz hxy hyz => ?_, ⟨x == y, rfl, rfl⟩, apply_notMatching x y⟩
  · cases r <;> rfl
  · cases r <;> rfl
  · rw [holds_less_iff] at hxy hyz ⊢
    exact ⟨hxz, order_trans hxy.2 hyz.2⟩

/-- A price in euros. -/
def price (number : Float) : Value :=
  .amount ⟨number, .known "EUR"⟩

/-- Two euros are less than five, also by way of a number without a commodity. Nothing can be said
about what is not a number, plus and minus zero are equal, and a price is not less than a word. -/
theorem comparisons_coherent_price :
    less.Holds (price 2) (price 5) ∧
    ExactlyOne (less.Holds (price 2) (.bare 3)) (greater.Holds (price 2) (.bare 3))
      (lessOrEqual.Holds (price 2) (.bare 3) ∧ greaterOrEqual.Holds (price 2) (.bare 3)) ∧
    greaterOrEqual.apply (price (0 / 0)) (price 1) = .ok (.bool false) ∧
    (lessOrEqual.Holds (price 0) (price (-0)) ∧ lessOrEqual.Holds (price (-0)) (price 0)) ∧
    ∃ e, less.apply (price 2) (.string "low") = .error e := by
  have hbare : Comparable (price 2) (.bare 3) := .amounts (.inr (.inl rfl))
  have heuros (a b : Float) : SameMeasure (price a) (price b) := .amounts rfl
  obtain ⟨-, -, -, hone, -, -, hchain, -⟩ := comparisons_coherent (price 2) (.bare 3)
  obtain ⟨-, -, -, -, hNaN, -⟩ := comparisons_coherent (price (0 / 0)) (price 1)
  obtain ⟨-, -, -, -, -, hequal, -⟩ := comparisons_coherent (price 0) (price (-0))
  obtain ⟨hfails, -⟩ := comparisons_coherent (price 2) (.string "low")
  refine ⟨hchain (price 5) (heuros 2 5).comparable rfl rfl,
    hone hbare (by decide) (by decide),
    hNaN (heuros _ _).comparable (.inl (by decide)) _ rfl, (hequal (heuros _ _)).mpr rfl,
    (hfails less rfl).2.mpr nofun⟩

end Operator

end Daybook
