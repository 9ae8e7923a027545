import Daybook.Proofs.Grammar.Comparison
import Daybook.Grammar.Source
import Daybook.Proofs.Ledger.OpenPosting

set_option relaxedAutoImplicit false
set_option autoImplicit false

/-!
# Finite numbers on the books

A number that is not finite makes the sum of its commodity one that is not finite, and no such sum
is accepted. The entries of a transaction itself therefore contribute finite numbers. What the rules
add comes after the verification and is not looked at: its number is that of a template, or that of
a template times the number of an entry, whatever comes out.

## Main results

* `Balance.isFinite_of_allFinite` — the terms of finite sums are finite.
* `Balance.allFinite_of_verify` — the sums that are accepted are finite.
* `Ledger.number_of_mem_added` — the number that a rule adds.
* `Ledger.isFinite_contribution_run` — which numbers a run commits.
-/

namespace Daybook

namespace Balance

/-! ## Finite sums -/

/-- If numbers are added to another one and the result is finite, all of them are. -/
theorem isFinite_of_foldl_add {numbers : List Float} {x : Float}
    (h : (numbers.foldl (· + ·) x).isFinite = true) :
    x.isFinite = true ∧ ∀ y ∈ numbers, y.isFinite = true := by
  induction numbers generalizing x with
  | nil => exact ⟨h, nofun⟩
  | cons z numbers ih =>
    obtain ⟨hsum, hrest⟩ := ih h
    obtain ⟨hx, hz⟩ := Binary64.isFinite_of_add hsum
    exact ⟨hx, List.forall_mem_cons.mpr ⟨hz, hrest⟩⟩

/-- What entries contribute is finite if all of their sums are. -/
theorem isFinite_of_allFinite {es : List Entry} (h : (ofEntries es).AllFinite) {e : Entry}
    (he : e ∈ es) : e.contribution.number.isFinite = true := by
  have hmem : e.contribution.number ∈ numbersOf e.contribution.commodity
      ((es.map Entry.contribution).map fun a => (a.commodity, a.number)) := by
    simp only [numbersOf, List.mem_map, List.mem_filter, decide_eq_true_eq]
    exact ⟨_, ⟨⟨_, ⟨e, he, rfl⟩, rfl⟩, rfl⟩, rfl⟩
  have hsum := getElem?_ofAmounts (es.map Entry.contribution) e.contribution.commodity
  rw [plus_eq, if_neg (List.ne_nil_of_mem hmem)] at hsum
  exact (isFinite_of_foldl_add (h _ _ hsum)).2 _ hmem

/-- The sums are finite if those of a list of all commodities are. -/
theorem allFinite_of_toList {b : Balance}
    (h : ∀ sum ∈ b.toList, sum.2.isFinite = true) : b.AllFinite := fun c x hx =>
  h (c, x) (Std.TreeMap.mem_toList_iff_getElem?_eq_some.mpr hx)

/-- Sums that are accepted are finite. -/
theorem allFinite_of_verify {b : Balance} (h : Ledger.verify b = .ok ()) : b.AllFinite := by
  apply allFinite_of_toList
  obtain (hall | ⟨c, x, d, y, hb, hx, hy, -⟩) | ⟨c, x, d, y, hb, hx, hy, -⟩ :=
    (Ledger.verify_eq_ok_iff b).mp h
  · exact fun sum hsum => Binary64.isFinite_of_abs_lt (hall sum hsum).2
  all_goals
    rw [hb]
    exact List.forall_mem_cons.mpr ⟨hx, List.forall_mem_singleton.mpr hy⟩

end Balance

namespace Ledger

/-! ## Entries of a booking -/

/-- What the entries of a transaction itself contribute is finite if their sums are accepted. -/
theorem isFinite_of_baseEntries {es : List Entry} (hverify : verify (Balance.ofEntries es) = .ok ())
    {e : Entry} (he : e ∈ es) : e.contribution.number.isFinite = true :=
  Balance.isFinite_of_allFinite (Balance.allFinite_of_verify hverify) he

/-- The number of an entry that a rule adds: that of a template of a rule that applies to another
entry if the template has a commodity, and else a multiple of the number of that entry. -/
theorem number_of_mem_added {l : Ledger} {date : Date} {es added : List Entry}
    (h : List.Forall₂ (l.IsInstance date) (l.occurrences date es) added) {e : Entry}
    (he : e ∈ added) :
    ∃ own ∈ es, ∃ r ∈ l.rules, l.fires date own r = true ∧ ∃ t ∈ r.templates, ∃ a,
      t.value.evaluate (Lookup.layers [date.lookup, l.lookup]) = .ok (.amount a) ∧
      e.contribution.number =
        if a.commodity.isKnown then a.number else a.number * own.amount.number := by
  obtain ⟨o, ho, a, ha, -, -, hcost, hamount⟩ := forall₂_exists_of_mem h.flip he
  simp only [occurrences, List.mem_flatMap, List.mem_filter, List.mem_map] at ho
  obtain ⟨own, hown, r, ⟨hr, hfires⟩, t, ht, rfl⟩ := ho
  refine ⟨own, hown, r, hr, hfires, t, ht, a, ha, ?_⟩
  rw [Entry.contribution, hcost, Option.getD_none, hamount]
  split_ifs <;> rfl

/-- Which numbers a run commits. Every booking is that of a transaction, with the rules in front of
it, and what the entries of the transaction itself contribute is finite. What an entry of a rule
contributes is the number of a template, or this number times that of an entry of the transaction
itself. -/
theorem isFinite_contribution_run {statements : List Statement} {b : Booking}
    (hb : b ∈ (empty.run statements).bookings) :
    ∃ before t after date valued synthesized added,
      statements = before ++ .transaction t :: after ∧
      let l := empty.run before
      l.dateOf t = .ok date ∧ l.Composition date t valued synthesized added ∧
      b = ⟨t.title, date, t.status, valued ++ synthesized ++ added⟩ ∧
      (∀ e ∈ valued ++ synthesized, e.contribution.number.isFinite = true) ∧
      ∀ e ∈ added, ∃ own ∈ valued ++ synthesized, ∃ r ∈ l.rules, l.fires date own r = true ∧
        ∃ template ∈ r.templates, ∃ a,
          template.value.evaluate (Lookup.layers [date.lookup, l.lookup]) = .ok (.amount a) ∧
          e.contribution.number =
            if a.commodity.isKnown then a.number else a.number * own.amount.number := by
  obtain hb | ⟨before, t, after, hsplit, hbook⟩ := mem_bookings_run hb
  · cases hb
  obtain ⟨date, base, added, hdate, hbase, hverify, hadded, rfl⟩ := book_eq_ok_iff.mp hbook
  obtain ⟨valued, synthesized, rfl, hcomposition⟩ := composition_of_additions hbase hadded
  exact ⟨before, t, after, date, valued, synthesized, added, hsplit, hdate, hcomposition, rfl,
    fun e => isFinite_of_baseEntries hverify,
    fun e => number_of_mem_added hcomposition.templates⟩

/-- A rule that adds a quotient by zero to what is posted to an account, and a transaction that it
applies to. -/
def infiniteBudget : List Statement :=
  [.rule ⟨.binary .equal (.name "account") (.string "A"),
      [⟨"Budget", .binary .divide (.amount (.bare 1)) (.amount (.bare 0)), false⟩]⟩,
    .transaction ⟨⟨some 2016, 1, 31⟩, none, "T", [],
      [⟨"A", some (.amount ⟨5, .known "EUR"⟩), none, none, false, []⟩,
        ⟨"B", some (.amount ⟨-5, .known "EUR"⟩), none, none, false, []⟩]⟩]

/-- The books then have an entry whose number is not finite. -/
theorem infiniteBudget_entry : ∃ b ∈ (empty.run infiniteBudget).bookings, ∃ e ∈ b.entries,
    e.contribution.number.isFinite = false := by
  have hsome : ((empty.run infiniteBudget).bookings.any fun b =>
      b.entries.any fun e => !e.contribution.number.isFinite) = true := by
    decide +kernel
  simpa using hsome

/-- What the transaction itself contributes is finite, and the entry that is not is one of the
rule. -/
theorem isFinite_contribution_run_infiniteBudget :
    ∃ b ∈ (empty.run infiniteBudget).bookings, ∃ own added : List Entry,
      b.entries = own ++ added ∧ (∀ e ∈ own, e.contribution.number.isFinite = true) ∧
      ∃ e ∈ added, e.contribution.number.isFinite = false := by
  obtain ⟨b, hb, e, he, hinfinite⟩ := infiniteBudget_entry
  obtain ⟨_, _, _, _, valued, synthesized, added, -, -, -, hparts, hfinite, -⟩ :=
    isFinite_contribution_run hb
  have hentries : b.entries = valued ++ synthesized ++ added := by rw [hparts]
  refine ⟨b, hb, valued ++ synthesized, added, hentries, hfinite, e, ?_, hinfinite⟩
  rw [hentries] at he
  refine (List.mem_append.mp he).resolve_left fun hown => ?_
  rw [hfinite e hown] at hinfinite
  cases hinfinite

/-- Not every number on the books of a ledger that is made from a source is finite. -/
theorem infiniteBudget_committed :
    ¬ ∀ (source : String) (statements : List Statement), parse .standard source = .ok statements →
      ∀ b ∈ (empty.run statements).bookings, ∀ e ∈ b.entries,
        e.contribution.number.isFinite = true := by
  intro hlaw
  have hread : parse .standard ("= expr 'account == \"A\"'\n Budget  (1 / 0)\n\n" ++
      "2016/01/31 T\n A  5 EUR\n B  -5 EUR\n") = .ok infiniteBudget := by
    decide +kernel
  obtain ⟨b, hb, e, he, hinfinite⟩ := infiniteBudget_entry
  rw [hlaw _ _ hread b hb e he] at hinfinite
  cases hinfinite

end Ledger

end Daybook
