import Mathlib.Data.List.Induction
import Daybook.Proofs.Balance
import Daybook.Proofs.Ledger.Run

set_option relaxedAutoImplicit false
set_option autoImplicit false

/-!
# The running balance

A ledger keeps its bookings and, beside them, the sums of every account. This file shows that the
sums are at any time what comes out when the bookings are entered once more from the beginning.

## Main definitions

* `Ledger.entries` — the entries of all bookings, in the order in which they were committed.
* `Ledger.contributions` — what entries contribute to a commodity of an account.
* `Ledger.sumOf` — the sum of a commodity of an account.
* `Ledger.NoneEmpty` — no account is without a sum.

## Main results

* `Ledger.sumOf_postEntry`, `Ledger.sumOf_postEntries` — what entries do to the sums.
* `Ledger.balance_run` — the balances after a run are those of its bookings.
* `Ledger.sumOf_run` — every sum after a run is that of the contributions, in their order.
-/

namespace Daybook.Ledger

/-- The entries of all bookings, in the order in which they were committed. -/
def entries (l : Ledger) : List Entry :=
  l.bookings.flatMap Booking.entries

/-- The numbers that entries contribute to a commodity of an account, in the order of entries. -/
def contributions (es : List Entry) (account : String) (c : Commodity) : List Float :=
  (es.filter fun e => e.account = account ∧ e.contribution.commodity = c).map
    fun e => e.contribution.number

/-- The sum of a commodity of an account, if there is one. -/
def sumOf (balance : Std.TreeMap String Balance) (account : String) (c : Commodity) :
    Option Float :=
  balance[account]?.bind fun sums => sums[c]?

/-- No account is without a sum. -/
def NoneEmpty (balance : Std.TreeMap String Balance) : Prop :=
  ∀ (account : String) (sums : Balance), balance[account]? = some sums → sums.isEmpty = false

/-! ## One entry -/

/-- An entry changes the sum of its commodity in its account and no other one. -/
theorem sumOf_postEntry (balance : Std.TreeMap String Balance) (e : Entry) (account : String)
    (c : Commodity) :
    sumOf (postEntry balance e) account c =
      if e.account = account ∧ e.contribution.commodity = c then
        some ((sumOf balance account c).getD 0 + e.contribution.number)
      else sumOf balance account c := by
  unfold sumOf postEntry
  simp only [Std.TreeMap.getElem?_alter, Std.LawfulEqOrd.compare_eq_iff_eq]
  by_cases ha : e.account = account
  · subst ha
    rw [if_pos rfl, Option.bind_some]
    simp only [Balance.post, Balance.addNumber, Std.TreeMap.getElem?_alter,
      Std.LawfulEqOrd.compare_eq_iff_eq]
    by_cases hc : e.contribution.commodity = c
    · subst hc
      cases balance[e.account]? <;> simp
    · rw [if_neg hc, if_neg fun h => hc h.2]
      cases balance[e.account]? <;> simp
  · rw [if_neg ha, if_neg fun h => ha h.1]

/-- An entry leaves no account without a sum. -/
theorem noneEmpty_postEntry {balance : Std.TreeMap String Balance} (h : NoneEmpty balance)
    (e : Entry) : NoneEmpty (postEntry balance e) := by
  intro account sums hs
  rw [postEntry, Std.TreeMap.getElem?_alter] at hs
  split_ifs at hs
  · obtain rfl := Option.some.inj hs
    simp [Balance.post, Balance.addNumber]
  · exact h account sums hs

/-! ## Several entries -/

/-- What entries contribute, one of them after another. -/
theorem contributions_cons (e : Entry) (es : List Entry) (account : String) (c : Commodity) :
    contributions (e :: es) account c =
      if e.account = account ∧ e.contribution.commodity = c then
        e.contribution.number :: contributions es account c
      else contributions es account c := by
  by_cases h : e.account = account ∧ e.contribution.commodity = c <;> simp [contributions, h]

/-- A sum takes up what several entries contribute to it. -/
theorem sumOf_postEntries (es : List Entry) (balance : Std.TreeMap String Balance)
    (account : String) (c : Commodity) :
    sumOf (es.foldl postEntry balance) account c =
      Balance.plus (sumOf balance account c) (contributions es account c) := by
  induction es generalizing balance with
  | nil => rfl
  | cons e es ih =>
    rw [List.foldl_cons, ih, sumOf_postEntry, contributions_cons]
    by_cases h : e.account = account ∧ e.contribution.commodity = c
    · rw [if_pos h, if_pos h]
      rfl
    · rw [if_neg h, if_neg h]

/-- The sum of a commodity of an account after several entries: there is one if an entry contributes
to it, and then it is the sum of all contributions from left to right. -/
theorem sumOf_foldl_postEntry (es : List Entry) (account : String) (c : Commodity) :
    sumOf (es.foldl postEntry ∅) account c =
      if contributions es account c = [] then none
      else some ((contributions es account c).foldl (· + ·) 0) := by
  rw [sumOf_postEntries, Balance.plus_eq]
  simp [sumOf]

/-- No account is without a sum after several entries. -/
theorem noneEmpty_foldl_postEntry (es : List Entry) : NoneEmpty (es.foldl postEntry ∅) := by
  induction es using List.reverseRecOn with
  | nil => simp [NoneEmpty]
  | append_singleton es e ih =>
    rw [List.foldl_append]
    exact noneEmpty_postEntry ih e

/-! ## Runs -/

/-- The balances after a run are what comes out when the entries of its bookings are entered once
more from the beginning. -/
theorem balance_run (statements : List Statement) :
    (empty.run statements).balance = (empty.run statements).entries.foldl postEntry ∅ := by
  refine run_invariant (P := fun l => l.balance = l.entries.foldl postEntry ∅) ?_ rfl statements
  intro l s hl
  obtain ⟨hbalance, hbookings, -⟩ | ⟨r, -, h⟩ | ⟨t, b, -, -, h⟩ := step_cases l s
  · rw [hbalance, hl, entries, entries, hbookings]
  · rw [h]
    exact hl
  · rw [h]
    simp only [commit, entries, List.flatMap_append, List.foldl_append, List.flatMap_singleton]
    rw [hl, entries]

/-- After any run a commodity of an account has a sum exactly if an entry of some booking
contributes to it, this sum is that of all such contributions from left to right, in the order of
bookings and of their entries, and no account is without a sum. -/
theorem sumOf_run (statements : List Statement) :
    let l := empty.run statements
    (∀ account c, (∃ x, sumOf l.balance account c = some x) ↔
      ∃ b ∈ l.bookings, ∃ e ∈ b.entries, e.account = account ∧ e.contribution.commodity = c) ∧
    (∀ account c x, sumOf l.balance account c = some x →
      x = (contributions l.entries account c).foldl (· + ·) 0) ∧
    NoneEmpty l.balance := by
  intro l
  rw [show l.balance = l.entries.foldl postEntry ∅ from balance_run statements]
  refine ⟨fun account c => ?_, fun account c x hx => ?_, noneEmpty_foldl_postEntry _⟩
  · have hex : (∃ b ∈ l.bookings, ∃ e ∈ b.entries,
        e.account = account ∧ e.contribution.commodity = c) ↔
        contributions l.entries account c ≠ [] := by
      rw [contributions, ne_eq, List.map_eq_nil_iff, List.filter_eq_nil_iff]
      simp only [entries, List.mem_flatMap, decide_eq_true_eq, not_forall, not_not]
      constructor
      · rintro ⟨b, hb, e, he, h⟩
        exact ⟨e, ⟨b, hb, he⟩, h⟩
      · rintro ⟨e, ⟨b, hb, he⟩, h⟩
        exact ⟨b, hb, e, he, h⟩
    rw [sumOf_foldl_postEntry, hex]
    split_ifs with hnil <;> simp [hnil]
  · rw [sumOf_foldl_postEntry] at hx
    split_ifs at hx
    exact (Option.some.inj hx).symm

end Daybook.Ledger
