import Daybook.Expression.Evaluation
import Daybook.Proofs.Sequence

set_option relaxedAutoImplicit false
set_option autoImplicit false

/-!
# The commodity of a calculation

A calculation is an expression made of amounts, and of names for amounts, by the four arithmetic
operators. The commodity of its value is the one that its amounts have in common, where an amount
whose commodity is not known has no say. It does not depend on how the amounts are combined, nor on
their order.

## Main definitions

* `Commodity.IsCommon` — the commodity that several have in common.
* `Operator.isArithmetic` — the four arithmetic operators.
* `Expression.Calculation` — calculations and their amounts.

## Main results

* `Commodity.unify_eq_some_iff`, `Commodity.unify_eq_none_iff` — two commodities.
* `Commodity.exists_isCommon_iff` — when several have a commodity in common.
* `Expression.Calculation.isCommon_or_mismatch` — what becomes of a calculation.
* `Expression.evaluate_calculation` — all of this together.
-/

namespace Daybook

/-! ## Common commodities -/

namespace Commodity

variable {c d k : Commodity} {cs ds : List Commodity}

/-- The commodity that several have in common: it is known if one of them is, and then it is each of
the known ones. -/
def IsCommon (cs : List Commodity) (c : Commodity) : Prop :=
  ∀ symbol, c = known symbol ↔ known symbol ∈ cs

/-- Several commodities have only one in common. -/
theorem IsCommon.unique (hc : IsCommon cs c) (hd : IsCommon cs d) : c = d := by
  cases c with
  | known a => exact (((hd a).trans (hc a).symm).mpr rfl).symm
  | unknown =>
    cases d with
    | unknown => rfl
    | known b => exact ((hc b).trans (hd b).symm).mpr rfl

/-- Two commodities do not combine exactly if they are known and not the same. -/
theorem unify_eq_none_iff :
    c.unify d = none ↔ ∃ a b, c = known a ∧ d = known b ∧ a ≠ b := by
  cases c <;> cases d <;> simp [unify]

/-- Two commodities combine unless they are known to differ. -/
theorem isSome_unify_iff : (c.unify d).isSome ↔ c = unknown ∨ d = unknown ∨ c = d := by
  rw [← Option.ne_none_iff_isSome, Ne, unify_eq_none_iff]
  cases c <;> cases d <;> simp

/-- Two commodities combine to the one that they have in common. -/
theorem unify_eq_some_iff : c.unify d = some k ↔ IsCommon [c, d] k := by
  have hcommon {k : Commodity} (h : c.unify d = some k) : IsCommon [c, d] k := by
    intro symbol
    cases c with
    | unknown =>
      obtain rfl : d = k := by cases d <;> exact Option.some.inj h
      simp [eq_comm]
    | known a =>
      cases d with
      | unknown =>
        obtain rfl := Option.some.inj h
        simp [eq_comm]
      | known b =>
        obtain ⟨rfl, hsome⟩ := Option.ite_none_right_eq_some.mp h
        obtain rfl := Option.some.inj hsome
        simp [eq_comm]
  refine ⟨hcommon, fun hk => ?_⟩
  cases h : c.unify d with
  | some k' => rw [(hcommon h).unique hk]
  | none =>
    obtain ⟨a, b, rfl, rfl, hne⟩ := unify_eq_none_iff.mp h
    have ha := (hk a).mpr (by simp)
    have hb := (hk b).mpr (by simp)
    exact absurd (Commodity.known.inj (ha.symm.trans hb)) hne

/-- The common commodity of two lists is the one that those of both have in common. -/
theorem IsCommon.append (hc : IsCommon cs c) (hd : IsCommon ds d) (hk : IsCommon [c, d] k) :
    IsCommon (cs ++ ds) k := by
  intro symbol
  rw [hk, List.mem_append, ← hc, ← hd, List.mem_cons, List.mem_singleton]
  exact or_congr eq_comm eq_comm

/-- Several commodities have one in common exactly if the known ones are all the same. -/
theorem exists_isCommon_iff :
    (∃ c, IsCommon cs c) ↔ ∀ a b, known a ∈ cs → known b ∈ cs → a = b := by
  constructor
  · rintro ⟨c, hc⟩ a b ha hb
    exact Commodity.known.inj (((hc a).mpr ha).symm.trans ((hc b).mpr hb))
  · intro h
    by_cases hknown : ∃ a, known a ∈ cs
    · obtain ⟨a, ha⟩ := hknown
      refine ⟨known a, fun symbol => ⟨?_, fun hs => congrArg known (h a symbol ha hs)⟩⟩
      rintro ⟨⟩
      exact ha
    · exact ⟨unknown, fun symbol => iff_of_false nofun fun hs => hknown ⟨symbol, hs⟩⟩

end Commodity

/-! ## Calculations -/

/-- Whether an operator is one of the four of arithmetic. -/
def Operator.isArithmetic : Operator → Bool
  | multiply | divide | add | subtract => true
  | _ => false

/-- An arithmetic operator applied to two amounts: the number comes from a function of their
numbers, and their commodities have to combine. -/
theorem Operator.apply_arithmetic {o : Operator} (h : o.isArithmetic = true) :
    ∃ f : Float → Float → Float, ∀ a b : Amount, o.apply (.amount a) (.amount b) =
      match a.commodity.unify b.commodity with
      | some c => .ok (.amount ⟨f a.number b.number, c⟩)
      | none => .error (.commodityMismatch a.commodity b.commodity) := by
  have hcombine (o : Operator) (f : Float → Float → Float) (a b : Amount) :
      o.arithmetic (Amount.combine f) (.amount a) (.amount b) =
        match a.commodity.unify b.commodity with
        | some c => .ok (.amount ⟨f a.number b.number, c⟩)
        | none => .error (.commodityMismatch a.commodity b.commodity) := by
    rw [Operator.arithmetic, Amount.combine]
    cases a.commodity.unify b.commodity <;> rfl
  cases o with
  | multiply => exact ⟨(· * ·), hcombine .multiply (· * ·)⟩
  | divide => exact ⟨(· / ·), hcombine .divide (· / ·)⟩
  | add => exact ⟨(· + ·), hcombine .add (· + ·)⟩
  | subtract => exact ⟨(· - ·), hcombine .subtract (· - ·)⟩
  | _ => cases h

/-- The commodity of a value that is an amount. -/
def Value.commodity? : Value → Option Commodity
  | amount a => some a.commodity
  | _ => none

namespace Expression

/-- An expression made by arithmetic operators of the given amounts, which stand in it as they are
or under names. -/
inductive Calculation (lookup : Lookup) : Expression → List Amount → Prop
  | amount (a : Amount) : Calculation lookup (.amount a) [a]
  | name {identifier : String} {a : Amount} (h : lookup identifier = some (.amount a)) :
    Calculation lookup (.name identifier) [a]
  | binary {o : Operator} {left right : Expression} {as bs : List Amount}
    (ho : o.isArithmetic = true) (hleft : Calculation lookup left as)
    (hright : Calculation lookup right bs) : Calculation lookup (.binary o left right) (as ++ bs)

variable {lookup : Lookup} {e : Expression} {amounts : List Amount}

/-- What becomes of a calculation: its value is an amount of the common commodity of its amounts, or
it fails for two of them that are known and not the same.

**Proof sketch.** Induction on the calculation. An operator combines the commodities of its
operands, which are those that the amounts on either side have in common. If they do not combine,
each of them is known, and so it is that of an amount on its side. -/
theorem Calculation.isCommon_or_mismatch (h : Calculation lookup e amounts) :
    (∃ a : Amount, e.evaluate lookup = .ok (.amount a) ∧
      Commodity.IsCommon (amounts.map Amount.commodity) a.commodity) ∨
    ∃ s t, s ≠ t ∧ .known s ∈ amounts.map Amount.commodity ∧
      .known t ∈ amounts.map Amount.commodity ∧
      e.evaluate lookup = .error (.commodityMismatch (.known s) (.known t)) := by
  have hsingle (a : Amount) : Commodity.IsCommon ([a].map Amount.commodity) a.commodity :=
    fun symbol => by rw [List.map_singleton, List.mem_singleton, eq_comm]
  induction h with
  | amount a => exact .inl ⟨a, rfl, hsingle a⟩
  | @name identifier a h => exact .inl ⟨a, by rw [evaluate, h], hsingle a⟩
  | @binary o left right as bs ho _ _ ihl ihr =>
    simp only [List.map_append, List.mem_append]
    obtain ⟨a, hleft, ha⟩ | ⟨s, t, hne, hs, ht, hleft⟩ := ihl
    swap
    · exact .inr ⟨s, t, hne, .inl hs, .inl ht, except_bind_eq_error.mpr (.inl hleft)⟩
    obtain ⟨b, hright, hb⟩ | ⟨s, t, hne, hs, ht, hright⟩ := ihr
    swap
    · exact .inr ⟨s, t, hne, .inr hs, .inr ht,
        except_bind_eq_error.mpr (.inr ⟨_, hleft, except_bind_eq_error.mpr (.inl hright)⟩)⟩
    obtain ⟨f, happly⟩ := Operator.apply_arithmetic ho
    have hvalue : evaluate lookup (.binary o left right) = o.apply (.amount a) (.amount b) := by
      rw [evaluate, hleft, hright]
      rfl
    rw [hvalue, happly]
    cases hunify : a.commodity.unify b.commodity with
    | some c => exact .inl ⟨_, rfl, ha.append hb (Commodity.unify_eq_some_iff.mp hunify)⟩
    | none =>
      obtain ⟨s, t, hs, ht, hne⟩ := Commodity.unify_eq_none_iff.mp hunify
      exact .inr ⟨s, t, hne, .inl ((ha s).mp hs), .inr ((hb t).mp ht), by rw [hs, ht]⟩

/-- A calculation has a value exactly if its amounts have a commodity in common. -/
theorem Calculation.exists_ok_iff (h : Calculation lookup e amounts) :
    (∃ v, e.evaluate lookup = .ok v) ↔
      ∃ c, Commodity.IsCommon (amounts.map Amount.commodity) c := by
  obtain ⟨a, hvalue, ha⟩ | ⟨s, t, hne, hs, ht, herror⟩ := h.isCommon_or_mismatch
  · exact iff_of_true ⟨_, hvalue⟩ ⟨_, ha⟩
  · refine iff_of_false (by simp [herror]) fun hcommon => ?_
    exact hne (Commodity.exists_isCommon_iff.mp hcommon s t hs ht)

/-- The commodity of the value of a calculation is the one that its amounts have in common. -/
theorem Calculation.commodity_eq_some_iff (h : Calculation lookup e amounts) {c : Commodity} :
    (e.evaluate lookup).toOption.bind Value.commodity? = some c ↔
      Commodity.IsCommon (amounts.map Amount.commodity) c := by
  obtain ⟨a, hvalue, ha⟩ | ⟨s, t, hne, hs, ht, herror⟩ := h.isCommon_or_mismatch
  · rw [hvalue]
    show some a.commodity = some c ↔ _
    rw [Option.some.injEq]
    exact ⟨fun heq => heq ▸ ha, ha.unique⟩
  · rw [herror]
    refine iff_of_false nofun fun hc => ?_
    exact hne (Commodity.exists_isCommon_iff.mp ⟨c, hc⟩ s t hs ht)

/-- What becomes of a calculation. It has a value exactly if the known ones among the commodities
of its amounts are all the same. The value is then an amount, of that commodity if there is one and
else of the unknown commodity. Otherwise the error names two different commodities of its amounts.
Any other calculation with the same amounts, combined in another way and in another order, has a
value of the same commodity, or none. -/
theorem evaluate_calculation (h : Calculation lookup e amounts) :
    ((∃ v, e.evaluate lookup = .ok v) ↔ ∀ a ∈ amounts, ∀ b ∈ amounts,
      a.commodity.isKnown = true → b.commodity.isKnown = true → a.commodity = b.commodity) ∧
    (∀ v, e.evaluate lookup = .ok v → ∃ value : Amount, v = .amount value ∧
      (∀ a ∈ amounts, a.commodity.isKnown = true → value.commodity = a.commodity) ∧
      ((∀ a ∈ amounts, a.commodity = .unknown) → value.commodity = .unknown)) ∧
    (∀ error, e.evaluate lookup = .error error → ∃ a ∈ amounts, ∃ b ∈ amounts,
      a.commodity.isKnown = true ∧ b.commodity.isKnown = true ∧ a.commodity ≠ b.commodity ∧
        error = .commodityMismatch a.commodity b.commodity) ∧
    ∀ (lookup' : Lookup) (e' : Expression) (amounts' : List Amount),
      Calculation lookup' e' amounts' → amounts'.Perm amounts →
        (e'.evaluate lookup').toOption.bind Value.commodity? =
          (e.evaluate lookup).toOption.bind Value.commodity? := by
  have hknown {c : Commodity} : c.isKnown = true ↔ ∃ s, c = .known s := by
    cases c <;> simp [Commodity.isKnown, Commodity.symbol?]
  refine ⟨?_, fun v hv => ?_, fun error herror => ?_, fun lookup' e' amounts' h' hperm => ?_⟩
  · rw [h.exists_ok_iff, Commodity.exists_isCommon_iff]
    simp only [hknown, List.mem_map]
    constructor
    · rintro hsame a ha b hb ⟨s, hs⟩ ⟨t, ht⟩
      rw [hs, ht, hsame s t ⟨a, ha, hs⟩ ⟨b, hb, ht⟩]
    · rintro hsame s t ⟨a, ha, hs⟩ ⟨b, hb, ht⟩
      have heq := hsame a ha b hb ⟨s, hs⟩ ⟨t, ht⟩
      exact Commodity.known.inj (hs.symm.trans (heq.trans ht))
  · obtain ⟨a, hvalue, ha⟩ | ⟨s, t, -, -, -, herror⟩ := h.isCommon_or_mismatch
    · refine ⟨a, Except.ok.inj (hv.symm.trans hvalue), fun b hb hbknown => ?_, fun hall => ?_⟩
      · obtain ⟨s, hs⟩ := hknown.mp hbknown
        exact ((ha s).mpr (List.mem_map.mpr ⟨b, hb, hs⟩)).trans hs.symm
      · cases hc : a.commodity with
        | unknown => rfl
        | known s =>
          obtain ⟨b, hb, hs⟩ := List.mem_map.mp ((ha s).mp hc)
          rw [hall b hb] at hs
          cases hs
    · rw [herror] at hv
      cases hv
  · obtain ⟨a, hvalue, -⟩ | ⟨s, t, hne, hs, ht, herror'⟩ := h.isCommon_or_mismatch
    · rw [hvalue] at herror
      cases herror
    · obtain ⟨a, ha, hs⟩ := List.mem_map.mp hs
      obtain ⟨b, hb, ht⟩ := List.mem_map.mp ht
      refine ⟨a, ha, b, hb, hknown.mpr ⟨s, hs⟩, hknown.mpr ⟨t, ht⟩, ?_, ?_⟩
      · rw [hs, ht]
        exact fun heq => hne (Commodity.known.inj heq)
      · rw [hs, ht]
        exact Except.error.inj (herror.symm.trans herror')
  · refine Option.ext fun c => ?_
    rw [h'.commodity_eq_some_iff, h.commodity_eq_some_iff]
    exact forall_congr' fun symbol => iff_congr Iff.rfl (hperm.map _).mem_iff

/-- A fee of half the rate and three euros, written in two ways. -/
def fee : Expression × Expression :=
  let half : Expression := .amount (.bare 0.5)
  let fixed : Expression := .amount ⟨3, .known "EUR"⟩
  (.binary .add (.binary .multiply (.name "rate") half) fixed,
    .binary .subtract half (.binary .divide fixed (.name "rate")))

/-- A lookup that gives the rate an amount. -/
def rateIn (c : Commodity) : Lookup :=
  fun identifier => if identifier = "rate" then some (.amount ⟨4, c⟩) else none

/-- Either way the fee is one in euros, if the rate has no commodity, and it is none at all if the
rate is one in dollars. -/
theorem evaluate_calculation_fee :
    (∃ value : Amount, fee.1.evaluate (rateIn .unknown) = .ok (.amount value) ∧
      value.commodity = .known "EUR") ∧
    (fee.2.evaluate (rateIn .unknown)).toOption.bind Value.commodity? =
      (fee.1.evaluate (rateIn .unknown)).toOption.bind Value.commodity? ∧
    ¬ ∃ v, fee.1.evaluate (rateIn (.known "USD")) = .ok v := by
  have hfee (c : Commodity) : Calculation (rateIn c) fee.1
      [⟨4, c⟩, .bare 0.5, ⟨3, .known "EUR"⟩] :=
    .binary rfl (.binary rfl (.name rfl) (.amount _)) (.amount _)
  have hfee' : Calculation (rateIn .unknown) fee.2
      [.bare 0.5, ⟨3, .known "EUR"⟩, ⟨4, .unknown⟩] :=
    .binary rfl (.amount _) (.binary rfl (.amount _) (.name rfl))
  obtain ⟨-, hvalue, -, hsame⟩ := evaluate_calculation (hfee .unknown)
  refine ⟨?_, hsame _ _ _ hfee' ?_, fun h => ?_⟩
  · obtain ⟨value, hv, hcommodity, -⟩ := hvalue _ rfl
    exact ⟨value, congrArg Except.ok hv, hcommodity ⟨3, .known "EUR"⟩ (by simp) rfl⟩
  · exact @List.perm_append_comm Amount [_, _] [_]
  · have hequal := (evaluate_calculation (hfee (.known "USD"))).1.mp h ⟨4, .known "USD"⟩ (by simp)
      ⟨3, .known "EUR"⟩ (by simp) rfl rfl
    exact absurd hequal (by decide)

end Expression

end Daybook
