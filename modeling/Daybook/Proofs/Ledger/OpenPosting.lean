import Daybook.Proofs.Balance
import Daybook.Proofs.Ledger.Composition
import Daybook.Proofs.Ledger.Verification

set_option relaxedAutoImplicit false
set_option autoImplicit false

/-!
# The posting without a value

A posting without a value takes what the others leave open. The sums are then taken again, of all
entries together, and verified. This file shows that every sum that the posting takes up becomes
zero, so that the verification can fail only for a sum that is not finite, whose opposite does not
cancel it.

## Main definitions

* `Commodity.Precedes` — the order of commodities.
* `Balance.AllFinite`, `Balance.IsFirstOverflow` — whether sums are finite, and the first that is
  not.
* `Ledger.Takes` — the entries with which a posting takes up sums.

## Main results

* `Ledger.getElem?_ofEntries_balancing` — every sum after the posting has taken up the others.
* `Ledger.takes_balancing` — the sums that are taken up, where all are finite.
* `Ledger.verify_balancing_iff` — the sums are then accepted if they were finite before.
* `Ledger.verify_balancing_eq_error` — else the first that was not finite is reported.
* `Ledger.openPosting_balances` — what becomes of a transaction with such a posting.
-/

namespace Daybook

/-! ## The order of commodities -/

/-- The unknown commodity precedes every symbol, and a symbol those that are greater. -/
def Commodity.Precedes : Commodity → Commodity → Prop
  | unknown, known _ => True
  | known a, known b => a < b
  | _, unknown => False

/-- Commodities are compared in their order. -/
theorem Commodity.compare_eq_lt_iff {c d : Commodity} : compare c d = .lt ↔ c.Precedes d := by
  cases c with
  | unknown => cases d <;> simp [compare, compareOn, symbol?, Precedes]
  | known a =>
    cases d with
    | unknown => simp [compare, compareOn, symbol?, Precedes]
    | known b =>
      show compare a b = .lt ↔ a < b
      exact compareOfLessAndEq_eq_lt

namespace Balance

/-! ## Finite sums -/

/-- Every sum is finite. -/
def AllFinite (b : Balance) : Prop :=
  ∀ (c : Commodity) (x : Float), b[c]? = some x → x.isFinite = true

/-- The sum of a commodity is not finite, and no commodity before it has such a sum. -/
def IsFirstOverflow (b : Balance) (c : Commodity) : Prop :=
  (∃ x, b[c]? = some x ∧ x.isFinite = false) ∧
    ∀ (d : Commodity) (y : Float), b[d]? = some y → y.isFinite = false → c = d ∨ c.Precedes d

/-! ## The first sum that is wrong -/

/-- The first sum that is wrong, and that no other one precedes it. -/
theorem unbalanced?_eq_some {b : Balance} {c : Commodity} {r : Float}
    (h : b.unbalanced? = some (c, r)) :
    b[c]? = some r ∧ isOff r = true ∧
      ∀ (d : Commodity) (y : Float), b[d]? = some y → isOff y = true → c = d ∨ c.Precedes d := by
  obtain ⟨hoff, before, after, hlist, hbefore⟩ := List.find?_eq_some_iff_append.mp h
  refine ⟨?_, hoff, fun d y hy hyoff => ?_⟩
  · rw [← Std.TreeMap.mem_toList_iff_getElem?_eq_some, hlist]
    simp
  · rw [← Std.TreeMap.mem_toList_iff_getElem?_eq_some, hlist] at hy
    have hsorted := Std.TreeMap.ordered_keys_toList (t := b)
    rw [hlist, List.pairwise_append, List.pairwise_cons] at hsorted
    rcases List.mem_append.mp hy with hy | hy
    · simpa [hyoff] using hbefore _ hy
    · rcases List.mem_cons.mp hy with hy | hy
      · exact .inl (congrArg Prod.fst hy).symm
      · exact .inr (Commodity.compare_eq_lt_iff.mp (hsorted.2.1.1 _ hy))

end Balance

namespace Ledger

open Balance

/-! ## Sums taken up -/

/-- The entries with which a posting takes up the sums that reach the tolerance, in the order of
commodities: the opposite of each, without cost. -/
def Takes (p : Posting) (sums : Balance) (es : List Entry) : Prop :=
  es.Pairwise (fun e f => e.amount.commodity.Precedes f.amount.commodity) ∧
    ∀ e, e ∈ es ↔ ∃ c x, sums[c]? = some x ∧ tolerance ≤ x.abs ∧
      e = ⟨p.account, ⟨-x, c⟩, none, p.isVirtual⟩

/-- A finite sum is taken up if it reaches the tolerance. -/
theorem isNegligible_eq_false_iff {x : Float} (hx : x.isFinite = true) :
    isNegligible x = false ↔ tolerance ≤ x.abs := by
  rw [tolerance_le_iff (Binary64.isNaN_of_isFinite hx), isNegligible, decide_eq_false_iff_not]

/-- What counts as zero is finite. -/
theorem isFinite_of_isNegligible {x : Float} (hx : isNegligible x = true) : x.isFinite = true :=
  Binary64.isFinite_of_abs_lt (of_decide_eq_true hx)

/-- Every sum after a posting has taken up those of the others that do not count as zero. -/
theorem getElem?_ofEntries_balancing (valued : List Entry) (p : Posting) (c : Commodity) :
    (Balance.ofEntries (valued ++ balancing valued p))[c]? =
      (Balance.ofEntries valued)[c]?.map fun x => if isNegligible x then x else x + -x := by
  let sums := Balance.ofEntries valued
  let taken := (sums.toList.filter fun sum => !isNegligible sum.2).map fun sum => (sum.1, -sum.2)
  have hfold : Balance.ofEntries (valued ++ balancing valued p) =
      taken.foldl (fun b sum => b.addNumber sum.1 sum.2) sums := by
    rw [Balance.ofEntries, Balance.ofAmounts, List.map_append, List.foldl_append, balancing,
      List.map_map, List.foldl_map, List.foldl_map (f := fun sum : Commodity × Float => _)]
    rfl
  have hmem {x : Float} : (c, x) ∈ taken ↔ ∃ y, (c, y) ∈ sums.toList ∧ isNegligible y = false ∧
      -y = x := by
    simp only [taken, List.mem_map, List.mem_filter, Bool.not_eq_true']
    constructor
    · rintro ⟨sum, ⟨hsum, hneg⟩, heq⟩
      cases heq
      exact ⟨sum.2, hsum, hneg, rfl⟩
    · rintro ⟨y, hy, hneg, rfl⟩
      exact ⟨(c, y), ⟨hy, hneg⟩, rfl⟩
  have hdistinct : taken.Pairwise fun s s' => s.1 ≠ s'.1 :=
    List.pairwise_map.mpr ((pairwise_toList sums).filter _)
  -- a commodity is among those taken up exactly if its sum does not count as zero
  rw [hfold, getElem?_foldl_addNumber]
  show _ = sums[c]?.map _
  by_cases hc : ∃ x, (c, x) ∈ taken
  · obtain ⟨x, hx⟩ := hc
    obtain ⟨y, hy, hneg, rfl⟩ := hmem.mp hx
    rw [numbersOf_eq_singleton hdistinct hx,
      Std.TreeMap.mem_toList_iff_getElem?_eq_some.mp hy, Option.map_some, hneg, if_neg Bool.false_ne_true]
    rfl
  · have hnone : ∀ sum ∈ taken, sum.1 ≠ c := by
      rintro ⟨d, x⟩ hx rfl
      exact hc ⟨x, hx⟩
    rw [numbersOf_eq_nil hnone]
    cases hsum : sums[c]? with
    | none => rfl
    | some x =>
      have hneg : isNegligible x = true := by
        by_contra hneg
        exact hc ⟨-x, hmem.mpr ⟨x, Std.TreeMap.mem_toList_iff_getElem?_eq_some.mpr hsum,
          Bool.eq_false_of_not_eq_true hneg, rfl⟩⟩
      rw [Option.map_some, if_pos hneg]
      rfl

variable {valued : List Entry} {p : Posting}

/-- A sum is wrong after a posting has taken it up exactly if it was not finite, and then it is not
a number. -/
theorem isOff_taken (x : Float) :
    (x.isFinite = true → isOff (if isNegligible x then x else x + -x) = false) ∧
    (x.isFinite = false → (if isNegligible x then x else x + -x).isNaN = true ∧
      isOff (if isNegligible x then x else x + -x) = true) := by
  constructor
  · intro hx
    split_ifs with hneg
    · exact isOff_eq_false_iff.mpr ⟨Binary64.isNaN_of_isFinite hx, of_decide_eq_true hneg⟩
    · rw [Binary64.add_neg_self hx]
      decide
  · intro hx
    have hneg : ¬ isNegligible x = true := fun hneg => by
      rw [isFinite_of_isNegligible hneg] at hx
      cases hx
    rw [if_neg hneg, isOff, Binary64.isNaN_add_neg_self hx]
    exact ⟨rfl, rfl⟩

/-- Finite sums are accepted after a posting has taken them up. -/
theorem verify_balancing_eq_ok (h : (Balance.ofEntries valued).AllFinite) :
    verify (Balance.ofEntries (valued ++ balancing valued p)) = .ok () := by
  refine (verify_eq_ok_iff _).mpr (.inl (.inl fun sum hsum => ?_))
  rw [Std.TreeMap.mem_toList_iff_getElem?_eq_some, getElem?_ofEntries_balancing,
    Option.map_eq_some_iff] at hsum
  obtain ⟨x, hx, hsum⟩ := hsum
  rw [← hsum]
  exact isOff_eq_false_iff.mp ((isOff_taken x).1 (h _ x hx))

/-- If a sum is not finite, then the first such sum is reported, and it has become something that is
not a number. -/
theorem verify_balancing_eq_error (h : ¬ (Balance.ofEntries valued).AllFinite) :
    ∃ c r, (Balance.ofEntries valued).IsFirstOverflow c ∧ r.isNaN = true ∧
      (Balance.ofEntries (valued ++ balancing valued p))[c]? = some r ∧
      verify (Balance.ofEntries (valued ++ balancing valued p)) = .error (.unbalanced c r) := by
  simp only [AllFinite, not_forall, Bool.not_eq_true] at h
  obtain ⟨c, x, hx, hfinite⟩ := h
  generalize hresiduals : Balance.ofEntries (valued ++ balancing valued p) = residuals
  have hget (c : Commodity) : residuals[c]? =
      (Balance.ofEntries valued)[c]?.map fun x => if isNegligible x then x else x + -x := by
    rw [← hresiduals, getElem?_ofEntries_balancing]
  cases hwrong : residuals.unbalanced? with
  | none =>
    have hmem : (c, _) ∈ residuals.toList :=
      Std.TreeMap.mem_toList_iff_getElem?_eq_some.mpr (by rw [hget, hx, Option.map_some])
    have hright := isOff_eq_false_iff.mpr ((unbalanced?_eq_none_iff residuals).mp hwrong _ hmem)
    rw [((isOff_taken x).2 hfinite).2] at hright
    cases hright
  | some sum =>
    obtain ⟨d, r⟩ := sum
    obtain ⟨hr, hoff, hfirst⟩ := unbalanced?_eq_some hwrong
    obtain ⟨y, hy, hyr⟩ := Option.map_eq_some_iff.mp ((hget d).symm.trans hr)
    have hyfinite : y.isFinite = false := by
      by_contra hne
      rw [← hyr, (isOff_taken y).1 (Bool.eq_true_of_not_eq_false hne)] at hoff
      cases hoff
    have hnan : r.isNaN = true := by rw [← hyr, ((isOff_taken y).2 hyfinite).1]
    refine ⟨d, r, ⟨⟨y, hy, hyfinite⟩, fun e z hz hzfinite => ?_⟩, hnan, hr, ?_⟩
    · exact hfirst e _ (by rw [hget, hz, Option.map_some]) ((isOff_taken z).2 hzfinite).2
    · -- an exchange needs both of its sums to be finite
      have hconversion : ¬ residuals.conversion?.isSome := by
        intro hsome
        obtain ⟨c₁, x₁, c₂, x₂, hlist, h₁, h₂, -⟩ := (isSome_conversion?_iff residuals).mp hsome
        have hmem := Std.TreeMap.mem_toList_iff_getElem?_eq_some.mpr hr
        rw [hlist] at hmem
        have hrfinite : r.isFinite = true := by
          rcases List.mem_pair.mp hmem with h | h
          · rw [(Prod.mk.inj h).2, h₁]
          · rw [(Prod.mk.inj h).2, h₂]
        rw [Binary64.isNaN_of_isFinite hrfinite] at hnan
        cases hnan
      rw [verify, if_neg hconversion, hwrong]

/-- The sums are accepted after a posting has taken them up exactly if they were finite before. -/
theorem verify_balancing_iff :
    verify (Balance.ofEntries (valued ++ balancing valued p)) = .ok () ↔
      (Balance.ofEntries valued).AllFinite := by
  refine ⟨fun hok => ?_, verify_balancing_eq_ok⟩
  by_contra hnot
  obtain ⟨c, r, -, -, -, herror⟩ := verify_balancing_eq_error (p := p) hnot
  rw [hok] at herror
  cases herror

/-- A posting takes up finite sums, each by its opposite. -/
theorem takes_balancing (h : (Balance.ofEntries valued).AllFinite) :
    Takes p (Balance.ofEntries valued) (balancing valued p) := by
  refine ⟨(pairwise_balancing valued p).imp Commodity.compare_eq_lt_iff.mp, fun e => ?_⟩
  rw [mem_balancing]
  refine exists₂_congr fun c x => ?_
  rw [Std.TreeMap.mem_toList_iff_getElem?_eq_some]
  refine and_congr_right fun hx => and_congr_left fun _ => ?_
  exact isNegligible_eq_false_iff (h c x hx)

/-- Of finite sums those that reach the tolerance become zero, and the others stay. -/
theorem getElem?_ofEntries_balancing_of_allFinite (h : (Balance.ofEntries valued).AllFinite)
    (c : Commodity) :
    (Balance.ofEntries (valued ++ balancing valued p))[c]? =
      (Balance.ofEntries valued)[c]?.map fun x : Float => if tolerance ≤ x.abs then 0 else x := by
  rw [getElem?_ofEntries_balancing]
  refine Option.map_congr fun x hx => ?_
  have hfinite := h c x hx
  cases hneg : isNegligible x with
  | true =>
    have hbelow : ¬ tolerance ≤ x.abs := fun hle =>
      Bool.false_ne_true (((isNegligible_eq_false_iff hfinite).mpr hle).symm.trans hneg)
    rw [if_pos rfl, if_neg hbelow]
  | false =>
    rw [if_neg Bool.false_ne_true, if_pos ((isNegligible_eq_false_iff hfinite).mp hneg),
      Binary64.add_neg_self hfinite]

/-- Of finite sums no one reaches the tolerance any more. -/
theorem abs_lt_tolerance_of_balancing (h : (Balance.ofEntries valued).AllFinite) {c : Commodity}
    {r : Float} (hr : (Balance.ofEntries (valued ++ balancing valued p))[c]? = some r) :
    r.abs < tolerance := by
  rw [getElem?_ofEntries_balancing, Option.map_eq_some_iff] at hr
  obtain ⟨x, hx, rfl⟩ := hr
  exact (isOff_eq_false_iff.mp ((isOff_taken x).1 (h c x hx))).2

/-! ## Transactions -/

/-- Entries can be had for all postings with a value if the values are amounts. -/
theorem exists_valuedEntries {l : Ledger} {date : Date} {postings : List Posting}
    (h : ∀ q ∈ postings, ∀ e, q.value = some e → ∃ a,
      e.evaluate (Lookup.layers [q.lookup, date.lookup, l.lookup]) = .ok (.amount a)) :
    ∃ valued, l.valuedEntries date postings = .ok valued := by
  induction postings with
  | nil => exact ⟨[], rfl⟩
  | cons q postings ih =>
    obtain ⟨valued, hvalued⟩ := ih fun q' hq' => h q' (List.mem_cons_of_mem q hq')
    rw [valuedEntries_cons, hvalued]
    cases hvalue : q.value with
    | none => exact ⟨valued, rfl⟩
    | some e =>
      obtain ⟨a, ha⟩ := h q List.mem_cons_self e hvalue
      exact ⟨_, except_bind_eq_ok.mpr ⟨_, except_bind_eq_ok.mpr
        ⟨a, evaluateAmount_eq_ok.mpr ha, rfl⟩, rfl⟩⟩

/-- What becomes of a transaction with one posting without value, if its date is known and its other
values are amounts. Its sums are accepted exactly if those of the other postings are all finite.
The posting has then taken up every sum that reaches the tolerance, which becomes zero, and no other
sum, so that all are below the tolerance. Otherwise the transaction is refused because of the first
commodity whose sum is not finite, and what is left of it is not a number. -/
theorem openPosting_balances {l : Ledger} {t : Transaction} {date : Date} {p : Posting}
    (hdate : l.dateOf t = .ok date) (hopen : (t.postings.filter fun q => q.value.isNone) = [p])
    (hvalues : ∀ q ∈ t.postings, ∀ e, q.value = some e → ∃ a,
      e.evaluate (Lookup.layers [q.lookup, date.lookup, l.lookup]) = .ok (.amount a)) :
    ∃ valued taken,
      List.Forall₂ (l.IsValued date) (t.postings.filter fun q => q.value.isSome) valued ∧
      l.baseEntries date t = .ok (valued ++ taken) ∧
      let sums := Balance.ofEntries valued
      let residuals := Balance.ofEntries (valued ++ taken)
      (verify residuals = .ok () ↔ sums.AllFinite) ∧
      (verify residuals = .ok () → Takes p sums taken ∧
        (∀ c : Commodity, residuals[c]? =
          sums[c]?.map fun x : Float => if tolerance ≤ x.abs then 0 else x) ∧
        ∀ (c : Commodity) (r : Float), residuals[c]? = some r → r.abs < tolerance) ∧
      (verify residuals ≠ .ok () → ∃ c r, sums.IsFirstOverflow c ∧ residuals[c]? = some r ∧
        r.isNaN = true ∧ verify residuals = .error (.unbalanced c r) ∧
        l.book t = .error (.unbalanced c r)) := by
  obtain ⟨valued, hvalued⟩ := exists_valuedEntries hvalues
  have hbase : l.baseEntries date t = .ok (valued ++ balancing valued p) := by
    simp only [baseEntries, withoutValue, hopen, hvalued]
    rfl
  refine ⟨valued, balancing valued p, valuedEntries_eq_ok_iff.mp hvalued, hbase,
    verify_balancing_iff, fun hok => ?_, fun hfail => ?_⟩
  · have hfinite := verify_balancing_iff.mp hok
    exact ⟨takes_balancing hfinite, getElem?_ofEntries_balancing_of_allFinite hfinite,
      fun c r hr => abs_lt_tolerance_of_balancing hfinite hr⟩
  · obtain ⟨c, r, hfirst, hnan, hr, herror⟩ :=
      verify_balancing_eq_error (p := p) (mt verify_balancing_iff.mpr hfail)
    refine ⟨c, r, hfirst, hr, hnan, herror, ?_⟩
    simp only [book, hdate, hbase, herror, bind, Except.bind]

/-- A purchase whose payment is left open. -/
def openPurchase (price : Float) : Transaction :=
  ⟨⟨some 2016, 1, 31⟩, none, "Shop", [],
    [⟨"Cash", none, none, none, true, []⟩,
      ⟨"Food", some (.amount ⟨price, .known "EUR"⟩), none, none, false, []⟩]⟩

/-- The payment is booked where the price is finite, and no payment is enough where it is not. -/
theorem openPosting_balances_openPurchase :
    (∃ taken, empty.baseEntries ⟨2016, 1, 31⟩ (openPurchase 10) =
        .ok (⟨"Food", ⟨10, .known "EUR"⟩, none, false⟩ :: taken) ∧
      (⟨"Cash", ⟨-10, .known "EUR"⟩, none, true⟩ : Entry) ∈ taken) ∧
    ∃ r : Float, r.isNaN = true ∧
      empty.book (openPurchase (1 / 0)) = .error (.unbalanced (.known "EUR") r) := by
  have hvalues (price : Float) : ∀ q ∈ (openPurchase price).postings, ∀ e, q.value = some e → ∃ a,
      e.evaluate (Lookup.layers [q.lookup, (⟨2016, 1, 31⟩ : Date).lookup, empty.lookup]) =
        .ok (.amount a) := by
    intro q hq e he
    rcases List.mem_pair.mp hq with rfl | rfl
    · cases he
    · cases he
      exact ⟨_, rfl⟩
  have hsum (price : Float) (c : Commodity) :
      (Balance.ofEntries [⟨"Food", ⟨price, .known "EUR"⟩, none, false⟩])[c]? =
        if .known "EUR" = c then some (0 + price) else none := by
    have hpost := getElem?_addNumber ∅ (.known "EUR") c price
    rwa [Std.TreeMap.getElem?_emptyc, Std.TreeMap.getElem?_emptyc, Option.getD_none] at hpost
  have hvalued {price : Float} {valued : List Entry}
      (h : List.Forall₂ (empty.IsValued ⟨2016, 1, 31⟩)
        ((openPurchase price).postings.filter fun q => q.value.isSome) valued) :
      valued = [⟨"Food", ⟨price, .known "EUR"⟩, none, false⟩] := by
    obtain ⟨e, rest, ⟨value, a, hvalue, ha, he⟩, hrest, rfl⟩ := List.forall₂_cons_left_iff.mp h
    cases hvalue
    cases ha
    rw [List.forall₂_nil_left_iff.mp hrest, he]
    rfl
  constructor
  · obtain ⟨valued, taken, hforall, hbase, hiff, hok, -⟩ :=
      openPosting_balances (p := ⟨"Cash", none, none, none, true, []⟩) rfl rfl (hvalues 10)
    obtain rfl := hvalued hforall
    refine ⟨taken, hbase, ((hok (hiff.mpr fun c x hx => ?_)).1.2 _).mpr
      ⟨.known "EUR", 10, ?_, by decide, rfl⟩⟩
    · rw [hsum] at hx
      split_ifs at hx
      obtain rfl := Option.some.inj hx
      decide
    · rw [hsum, if_pos rfl]
      rfl
  · obtain ⟨valued, taken, hforall, -, hiff, -, hfail⟩ :=
      openPosting_balances (p := ⟨"Cash", none, none, none, true, []⟩) rfl rfl (hvalues (1 / 0))
    obtain rfl := hvalued hforall
    obtain ⟨c, r, ⟨⟨x, hx, -⟩, -⟩, -, hnan, -, herror⟩ := hfail fun hok => by
      have hfinite := hiff.mp hok (.known "EUR") (0 + 1 / 0) (by rw [hsum, if_pos rfl])
      exact absurd hfinite (by decide)
    rw [hsum] at hx
    split_ifs at hx with hc
    exact ⟨r, hnan, hc ▸ herror⟩

end Ledger

end Daybook
