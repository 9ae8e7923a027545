import Daybook.Proofs.Decimal.Order
import Daybook.Proofs.Ledger.Run

set_option relaxedAutoImplicit false
set_option autoImplicit false

/-!
# Which sums are accepted

A transaction is booked if the sums of its postings are zero, up to the tolerance, or show that two
commodities have been exchanged for one another. The test for an exchange asks whether exactly one
of two sums is less than zero. It is passed also by a sum less than zero beside a sum that is zero,
where nothing has been given in exchange.

## Main definitions

* `Balance.AllNegligible`, `Balance.Exchange` — the sums that ought to be accepted.
* `Balance.LoneDebit` — the sums that are accepted beyond them.

## Main results

* `Ledger.verify_eq_ok_iff` — the sums that are accepted are those of the three kinds.
* `Balance.not_settled_of_loneDebit` — the third kind is apart from the others.
* `Ledger.apply_isOk_iff` — the transactions that can be applied.
-/

namespace Daybook

namespace Balance

/-! ## Kinds of sums -/

/-- Every sum is a number and smaller than the tolerance in size. -/
def AllNegligible (b : Balance) : Prop :=
  ∀ sum ∈ b.toList, sum.2.isNaN = false ∧ sum.2.abs < tolerance

/-- There are two commodities, with finite sums, one greater and the other less than zero. -/
def Exchange (b : Balance) : Prop :=
  ∃ c x d y, b.toList = [(c, x), (d, y)] ∧ x.isFinite = true ∧ y.isFinite = true ∧
    (0 < x ∧ y < 0 ∨ x < 0 ∧ 0 < y)

/-- The sums are all negligible, or an exchange. -/
def Settled (b : Balance) : Prop :=
  b.AllNegligible ∨ b.Exchange

/-- There are two commodities, with finite sums, one zero and the other less than zero by the
tolerance or more. -/
def LoneDebit (b : Balance) : Prop :=
  ∃ c x d y, b.toList = [(c, x), (d, y)] ∧ x.isFinite = true ∧ y.isFinite = true ∧
    ((x == 0) = true ∧ y < 0 ∧ tolerance ≤ y.abs ∨ x < 0 ∧ tolerance ≤ x.abs ∧ (y == 0) = true)

/-! ## The tolerance -/

/-- The size of a double is not a number exactly if the double is none. -/
private theorem isNaN_abs (x : Float) : x.abs.isNaN = x.isNaN := by
  rw [Bool.eq_iff_iff, Binary64.isNaN_iff, Binary64.isNaN_iff, Binary64.ofFloat_abs]
  cases Binary64.ofFloat x <;> simp [Binary64.magnitude]

/-- A number reaches the tolerance unless it is smaller. -/
theorem tolerance_le_iff {x : Float} (hx : x.isNaN = false) :
    tolerance ≤ x.abs ↔ ¬ x.abs < tolerance :=
  Binary64.le_iff_not_lt rfl (by rw [isNaN_abs, hx])

/-- A sum is right where zero is wanted if it is a number and negligible. -/
theorem isOff_eq_false_iff {x : Float} :
    isOff x = false ↔ x.isNaN = false ∧ x.abs < tolerance := by
  rw [isOff, Bool.or_eq_false_iff, decide_eq_false_iff_not]
  refine and_congr_right fun hx => ?_
  rw [tolerance_le_iff hx, not_not]

/-- What counts as zero is less than the tolerance. -/
private theorem abs_lt_tolerance {x : Float} (hx : (x == 0) = true) : x.abs < tolerance := by
  rw [Binary64.abs_eq_zero hx]
  decide

/-! ## Verification -/

/-- An exchange is seen where there are two finite sums, exactly one of them less than zero. -/
theorem isSome_conversion?_iff (b : Balance) :
    b.conversion?.isSome ↔ ∃ c x d y, b.toList = [(c, x), (d, y)] ∧ x.isFinite = true ∧
      y.isFinite = true ∧ ¬ (x < 0 ↔ y < 0) := by
  unfold conversion?
  split
  next c x d y h =>
    rw [h]
    split_ifs with hif
    · simp only [Bool.and_eq_true, bne_iff_ne, ne_eq, decide_eq_decide] at hif
      exact iff_of_true rfl ⟨c, x, d, y, rfl, hif.1.1, hif.1.2, hif.2⟩
    · refine iff_of_false nofun ?_
      rintro ⟨c', x', d', y', h', hx, hy, hxy⟩
      cases h'
      simp [hx, hy, hxy] at hif
  next hne =>
    refine iff_of_false nofun ?_
    rintro ⟨c, x, d, y, h, -⟩
    exact hne c x d y h

/-- No sum is found to be wrong where all are negligible. -/
theorem unbalanced?_eq_none_iff (b : Balance) : b.unbalanced? = none ↔ b.AllNegligible := by
  rw [unbalanced?, List.find?_eq_none]
  refine forall₂_congr fun sum _ => ?_
  rw [Bool.not_eq_true, isOff_eq_false_iff]

/-- What is seen as an exchange is one, or the lone debit of a commodity, or else the sums are all
negligible. -/
theorem settled_or_loneDebit_of_conversion {b : Balance} (h : b.conversion?.isSome) :
    b.Settled ∨ b.LoneDebit := by
  obtain ⟨c, x, d, y, hb, hx, hy, hxy⟩ := (isSome_conversion?_iff b).mp h
  have hnan := Binary64.isNaN_of_isFinite hx
  have hnan' := Binary64.isNaN_of_isFinite hy
  -- the sum less than zero may still be negligible, and the zero beside it always is
  by_cases hneg : x.abs < tolerance ∧ y.abs < tolerance
  · refine .inl (.inl fun sum hsum => ?_)
    rw [hb] at hsum
    obtain rfl | rfl : sum = (c, x) ∨ sum = (d, y) := by simpa using hsum
    · exact ⟨hnan, hneg.1⟩
    · exact ⟨hnan', hneg.2⟩
  rcases Binary64.lt_zero_or_zero_or_pos hx with hx0 | hx0 | hx0 <;>
    rcases Binary64.lt_zero_or_zero_or_pos hy with hy0 | hy0 | hy0
  · exact absurd (iff_of_true hx0 hy0) hxy
  · have hoff : tolerance ≤ x.abs :=
      (tolerance_le_iff hnan).mpr fun hlt => hneg ⟨hlt, abs_lt_tolerance hy0⟩
    exact .inr ⟨c, x, d, y, hb, hx, hy, .inr ⟨hx0, hoff, hy0⟩⟩
  · exact .inl (.inr ⟨c, x, d, y, hb, hx, hy, .inr ⟨hx0, hy0⟩⟩)
  · have hoff : tolerance ≤ y.abs :=
      (tolerance_le_iff hnan').mpr fun hlt => hneg ⟨abs_lt_tolerance hx0, hlt⟩
    exact .inr ⟨c, x, d, y, hb, hx, hy, .inl ⟨hx0, hy0, hoff⟩⟩
  · exact absurd (iff_of_false (Binary64.not_lt_zero_of_zero hx0)
      (Binary64.not_lt_zero_of_zero hy0)) hxy
  · exact absurd (iff_of_false (Binary64.not_lt_zero_of_zero hx0)
      (Binary64.not_lt_zero_of_pos hy0)) hxy
  · exact .inl (.inr ⟨c, x, d, y, hb, hx, hy, .inl ⟨hx0, hy0⟩⟩)
  · exact absurd (iff_of_false (Binary64.not_lt_zero_of_pos hx0)
      (Binary64.not_lt_zero_of_zero hy0)) hxy
  · exact absurd (iff_of_false (Binary64.not_lt_zero_of_pos hx0)
      (Binary64.not_lt_zero_of_pos hy0)) hxy

/-- An exchange and a lone debit are both seen as an exchange. -/
theorem conversion_of_exchange_or_loneDebit {b : Balance} (h : b.Exchange ∨ b.LoneDebit) :
    b.conversion?.isSome := by
  rw [isSome_conversion?_iff]
  obtain ⟨c, x, d, y, hb, hx, hy, ⟨h0, h1⟩ | ⟨h0, h1⟩⟩ |
      ⟨c, x, d, y, hb, hx, hy, ⟨h0, h1, -⟩ | ⟨h0, -, h1⟩⟩ := h <;>
    refine ⟨c, x, d, y, hb, hx, hy, fun hiff => ?_⟩
  · exact Binary64.not_lt_zero_of_pos h0 (hiff.mpr h1)
  · exact Binary64.not_lt_zero_of_pos h1 (hiff.mp h0)
  · exact Binary64.not_lt_zero_of_zero h0 (hiff.mpr h1)
  · exact Binary64.not_lt_zero_of_zero h1 (hiff.mp h0)

/-- A lone debit is neither negligible nor an exchange. -/
theorem not_settled_of_loneDebit {b : Balance} (h : b.LoneDebit) : ¬ b.Settled := by
  obtain ⟨c, x, d, y, hb, hx, hy, hlone⟩ := h
  rintro (hall | ⟨c', x', d', y', hb', -, -, hex⟩)
  · have h1 := hall (c, x) (by simp [hb])
    have h2 := hall (d, y) (by simp [hb])
    obtain ⟨-, -, hle⟩ | ⟨-, hle, -⟩ := hlone
    · exact (tolerance_le_iff h2.1).mp hle h2.2
    · exact (tolerance_le_iff h1.1).mp hle h1.2
  · rw [hb] at hb'
    cases hb'
    obtain ⟨h0, hlt, -⟩ | ⟨hlt, -, h0⟩ := hlone <;> obtain ⟨hpos, hneg⟩ | ⟨hneg, hpos⟩ := hex
    · exact Binary64.not_pos_of_zero h0 hpos
    · exact Binary64.not_lt_zero_of_zero h0 hneg
    · exact Binary64.not_lt_zero_of_zero h0 hneg
    · exact Binary64.not_pos_of_zero h0 hpos

end Balance

namespace Ledger

/-- The sums that are accepted: all negligible, an exchange, or a lone debit. -/
theorem verify_eq_ok_iff (b : Balance) : verify b = .ok () ↔ b.Settled ∨ b.LoneDebit := by
  unfold verify
  split_ifs with h
  · exact iff_of_true rfl (Balance.settled_or_loneDebit_of_conversion h)
  · constructor
    · intro hok
      refine .inl (.inl ((Balance.unbalanced?_eq_none_iff b).mp ?_))
      cases hu : b.unbalanced? with
      | none => rfl
      | some sum =>
        rw [hu] at hok
        cases hok
    · rintro ((hall | hex) | hlone)
      · rw [(Balance.unbalanced?_eq_none_iff b).mpr hall]
      · exact absurd (Balance.conversion_of_exchange_or_loneDebit (.inl hex)) h
      · exact absurd (Balance.conversion_of_exchange_or_loneDebit (.inr hlone)) h

/-! ## Transactions -/

/-- A transaction is applied exactly when it can be booked, and it can be booked exactly when its
date, its own entries and those of the rules can be had and its own sums are accepted: they are
settled, or they are the lone debit of one commodity beside another one whose sum is zero. -/
theorem apply_isOk_iff (l : Ledger) (t : Transaction) :
    ((∃ l', l.apply (.transaction t) = .ok l') ↔ ∃ b, l.book t = .ok b) ∧
    ((∃ b, l.book t = .ok b) ↔
      ∃ date base added, l.dateOf t = .ok date ∧ l.baseEntries date t = .ok base ∧
        l.additions date base = .ok added ∧
        ((Balance.ofEntries base).Settled ∨ (Balance.ofEntries base).LoneDebit)) ∧
    ∀ b : Balance, b.LoneDebit → ¬ b.Settled := by
  refine ⟨⟨?_, ?_⟩, ⟨?_, ?_⟩, fun b => Balance.not_settled_of_loneDebit⟩
  · rintro ⟨l', h⟩
    obtain ⟨b, hb, -⟩ := apply_transaction_eq_ok.mp h
    exact ⟨b, hb⟩
  · rintro ⟨b, hb⟩
    exact ⟨_, apply_transaction_eq_ok.mpr ⟨b, hb, rfl⟩⟩
  · rintro ⟨b, hb⟩
    obtain ⟨date, base, added, hd, he, hv, ha, -⟩ := book_eq_ok_iff.mp hb
    exact ⟨date, base, added, hd, he, ha, (verify_eq_ok_iff _).mp hv⟩
  · rintro ⟨date, base, added, hd, he, ha, hs⟩
    exact ⟨_, book_eq_ok_iff.mpr ⟨date, base, added, hd, he, (verify_eq_ok_iff _).mpr hs, ha, rfl⟩⟩

/-- A purchase that is paid, and five dollars that come from one account and go to none. -/
def lonePayment : Transaction :=
  let line (account : String) (number : Float) (symbol : String) : Posting :=
    ⟨account, some (.amount ⟨number, .known symbol⟩), none, none, false, []⟩
  ⟨⟨some 2016, 1, 31⟩, none, "Shop", [],
    [line "A" 10 "EUR", line "B" (-10) "EUR", line "C" (-5) "USD"]⟩

/-- Not every transaction that is applied has settled sums. -/
theorem lonePayment_applied :
    ¬ ∀ (l : Ledger) (t : Transaction) (l' : Ledger) (date : Date) (base : List Entry),
      l.Reachable → l.apply (.transaction t) = .ok l' → l.dateOf t = .ok date →
      l.baseEntries date t = .ok base → (Balance.ofEntries base).Settled := by
  intro h
  let base : List Entry :=
    [⟨"A", ⟨10, .known "EUR"⟩, none, false⟩, ⟨"B", ⟨-10, .known "EUR"⟩, none, false⟩,
      ⟨"C", ⟨-5, .known "USD"⟩, none, false⟩]
  have hd : empty.dateOf lonePayment = .ok ⟨2016, 1, 31⟩ := rfl
  have hb : empty.baseEntries ⟨2016, 1, 31⟩ lonePayment = .ok base := rfl
  have hsums : (Balance.ofEntries base).toList = [(.known "EUR", 0), (.known "USD", -5)] := by
    decide +kernel
  have hlone : (Balance.ofEntries base).LoneDebit :=
    ⟨_, _, _, _, hsums, by decide, by decide, by decide⟩
  have hbook := book_eq_ok_iff.mpr
    ⟨_, _, [], hd, hb, (verify_eq_ok_iff _).mpr (.inr hlone), rfl, rfl⟩
  have happly := apply_transaction_eq_ok.mpr ⟨_, hbook, rfl⟩
  exact Balance.not_settled_of_loneDebit hlone (h _ _ _ _ _ ⟨[], rfl⟩ happly hd hb)

end Ledger

end Daybook
