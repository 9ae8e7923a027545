import Daybook.Proofs.Ledger.RunningBalance

set_option relaxedAutoImplicit false
set_option autoImplicit false

/-!
# What a statement changes

A statement that succeeds changes its own part of a ledger and nothing else, and what a ledger holds
is never lost: lists are continued, sets and the keys of maps grow. This file says for every kind of
statement what its part is, derives the growth from that, and carries it to runs.

## Main definitions

* `Ledger.Enters` — a booking is all that has come, with the sums that it contributes to.
* `Ledger.Changes` — what a statement changes and what it leaves as it was.
* `Ledger.Grows` — nothing that a ledger holds is missing from a later one.
* `Ledger.lastLedger` — the ledger where the statements of a list stop.

## Main results

* `Ledger.changes_of_apply` — every statement that succeeds keeps to its part.
* `Ledger.Changes.grows` — a ledger grows by what a statement changes.
* `Ledger.changes_and_grows` — both together, for single statements and for whole runs.

## Design

Sets and maps are compared by their elements and entries and not as trees, whose shape depends on
the order of insertions.
-/

namespace Daybook.Ledger

/-! ## The part of a statement -/

/-- A booking has been entered. It stands behind the earlier ones, and beside it only the balances
have changed: there every sum takes up what the entries of the booking contribute to it, so that a
sum without such an entry is what it was, and so is an account without any. -/
structure Enters (b : Booking) (l l' : Ledger) : Prop where
  rest : l' = { l with balance := l'.balance, bookings := l.bookings ++ [b] }
  sums : ∀ account c, sumOf l'.balance account c =
    Balance.plus (sumOf l.balance account c) (contributions b.entries account c)
  untouched : ∀ account c,
    (∀ e ∈ b.entries, ¬ (e.account = account ∧ e.contribution.commodity = c)) →
      sumOf l'.balance account c = sumOf l.balance account c
  unposted : ∀ account, (∀ e ∈ b.entries, e.account ≠ account) →
    l'.balance[account]? = l.balance[account]?
  posted : ∀ account ∈ l.balance, account ∈ l'.balance

/-- What a statement changes between two ledgers, all else being what it was. -/
def Changes (l l' : Ledger) : Statement → Prop
  | .year year => l' = { l with year := l'.year } ∧ l'.year = some year
  | .definition name _ => l' = { l with definitions := l'.definitions } ∧ name ∈ l'.definitions ∧
      ∀ other, other ≠ name → l'.definitions[other]? = l.definitions[other]?
  | .account name => l' = { l with accounts := l'.accounts } ∧
      ∀ other, other ∈ l'.accounts ↔ other = name ∨ other ∈ l.accounts
  | .commodity name => l' = { l with commodities := l'.commodities } ∧
      ∀ other, other ∈ l'.commodities ↔ other = name ∨ other ∈ l.commodities
  | .tag name => l' = { l with tags := l'.tags } ∧
      ∀ other, other ∈ l'.tags ↔ other = name ∨ other ∈ l.tags
  | .comment _ => l' = l
  | .rule rule => l' = { l with rules := l'.rules } ∧ l'.rules = l.rules ++ [rule]
  | .transaction t => ∃ b, l.book t = .ok b ∧ Enters b l l'

/-! ### Bookings -/

/-- Entries that do not contribute to a sum have no numbers for it. -/
theorem contributions_eq_nil {es : List Entry} {account : String} {c : Commodity}
    (h : ∀ e ∈ es, ¬ (e.account = account ∧ e.contribution.commodity = c)) :
    contributions es account c = [] := by
  rw [contributions, List.map_eq_nil_iff, List.filter_eq_nil_iff]
  exact fun e he => by simpa using h e he

/-- Entries leave the accounts alone that they do not belong to. -/
theorem getElem?_postEntries {es : List Entry} {account : String}
    (h : ∀ e ∈ es, e.account ≠ account) (balance : Std.TreeMap String Balance) :
    (es.foldl postEntry balance)[account]? = balance[account]? := by
  induction es generalizing balance with
  | nil => rfl
  | cons e es ih =>
    rw [List.forall_mem_cons] at h
    rw [List.foldl_cons, ih h.2, postEntry, Std.TreeMap.getElem?_alter,
      if_neg (mt Std.LawfulEqOrd.compare_eq_iff_eq.mp h.1)]

/-- Entries remove no account from the balances. -/
theorem mem_postEntries {account : String} (es : List Entry) {balance : Std.TreeMap String Balance}
    (h : account ∈ balance) : account ∈ es.foldl postEntry balance := by
  induction es generalizing balance with
  | nil => exact h
  | cons e es ih =>
    refine ih ?_
    rw [postEntry, Std.TreeMap.mem_alter]
    split_ifs
    · rfl
    · exact h

/-- A booking that is committed has been entered. -/
theorem enters_commit (l : Ledger) (b : Booking) : Enters b l (l.commit b) where
  rest := rfl
  sums := sumOf_postEntries b.entries l.balance
  untouched account c h := by
    rw [commit, sumOf_postEntries, contributions_eq_nil h]
    rfl
  unposted _ h := getElem?_postEntries h l.balance
  posted _ := mem_postEntries b.entries

/-! ### Statements -/

/-- A name put into a set is all that comes to it. -/
theorem mem_insert_iff {names : Std.TreeSet String} {name other : String} :
    other ∈ names.insert name ↔ other = name ∨ other ∈ names := by
  rw [Std.TreeSet.mem_insert, Std.LawfulEqOrd.compare_eq_iff_eq, eq_comm]

/-- A statement that succeeds keeps to its part. -/
theorem changes_of_apply {l l' : Ledger} {s : Statement} (h : l.apply s = .ok l') :
    Changes l l' s := by
  cases s with
  | year _ =>
    cases h
    exact ⟨rfl, rfl⟩
  | definition name e =>
    rw [apply] at h
    split at h
    · cases h
      refine ⟨rfl, Std.TreeMap.mem_insert_self, fun other hother => ?_⟩
      rw [Std.TreeMap.getElem?_insert, if_neg (mt Std.LawfulEqOrd.compare_eq_iff_eq.mp hother.symm)]
    · cases h
  | account _ | commodity _ | tag _ =>
    cases h
    exact ⟨rfl, fun _ => mem_insert_iff⟩
  | comment _ =>
    cases h
    exact rfl
  | rule _ =>
    cases h
    exact ⟨rfl, rfl⟩
  | transaction t =>
    obtain ⟨b, hb, rfl⟩ := apply_transaction_eq_ok.mp h
    exact ⟨b, hb, enters_commit l b⟩

/-! ## Growth -/

/-- Nothing that a ledger holds is missing from a later one. -/
structure Grows (l l' : Ledger) : Prop where
  bookings : l.bookings <+: l'.bookings
  rules : l.rules <+: l'.rules
  accounts : ∀ name ∈ l.accounts, name ∈ l'.accounts
  commodities : ∀ name ∈ l.commodities, name ∈ l'.commodities
  tags : ∀ name ∈ l.tags, name ∈ l'.tags
  definitions : ∀ name ∈ l.definitions, name ∈ l'.definitions
  posted : ∀ account ∈ l.balance, account ∈ l'.balance
  sums : ∀ account c, (sumOf l.balance account c).isSome → (sumOf l'.balance account c).isSome

/-- Nothing is missing from the same ledger. -/
theorem Grows.refl (l : Ledger) : Grows l l :=
  ⟨List.prefix_rfl, List.prefix_rfl, fun _ => id, fun _ => id, fun _ => id, fun _ => id,
    fun _ => id, fun _ _ => id⟩

/-- Growth goes on. -/
theorem Grows.trans {l l' l'' : Ledger} (h : Grows l l') (h' : Grows l' l'') : Grows l l'' where
  bookings := h.bookings.trans h'.bookings
  rules := h.rules.trans h'.rules
  accounts name hname := h'.accounts name (h.accounts name hname)
  commodities name hname := h'.commodities name (h.commodities name hname)
  tags name hname := h'.tags name (h.tags name hname)
  definitions name hname := h'.definitions name (h.definitions name hname)
  posted account haccount := h'.posted account (h.posted account haccount)
  sums account c hsum := h'.sums account c (h.sums account c hsum)

/-- Numbers do not remove a sum. -/
theorem isSome_plus {sum : Option Float} (h : sum.isSome) (numbers : List Float) :
    (Balance.plus sum numbers).isSome := by
  rw [Balance.plus_eq]
  split_ifs
  · exact h
  · rfl

/-- A ledger grows by what a statement changes. -/
theorem Changes.grows {l l' : Ledger} {s : Statement} (h : Changes l l' s) : Grows l l' := by
  cases s with
  | year _ =>
    rw [h.1]
    exact { Grows.refl l with }
  | definition name e =>
    obtain ⟨hrest, hname, hother⟩ := h
    rw [hrest]
    refine { Grows.refl l with definitions := fun other hmem => ?_ }
    by_cases heq : other = name
    · rw [heq]
      exact hname
    · rw [Std.TreeMap.mem_iff_isSome_getElem?] at hmem ⊢
      rwa [hother other heq]
  | account name =>
    rw [h.1]
    exact { Grows.refl l with accounts := fun other hmem => (h.2 other).mpr (.inr hmem) }
  | commodity name =>
    rw [h.1]
    exact { Grows.refl l with commodities := fun other hmem => (h.2 other).mpr (.inr hmem) }
  | tag name =>
    rw [h.1]
    exact { Grows.refl l with tags := fun other hmem => (h.2 other).mpr (.inr hmem) }
  | comment _ =>
    rw [show l' = l from h]
    exact Grows.refl l
  | rule rule =>
    rw [h.1, h.2]
    exact { Grows.refl l with rules := List.prefix_append _ _ }
  | transaction t =>
    obtain ⟨b, -, hb⟩ := h
    have hsums (account : String) (c : Commodity) (hsum : (sumOf l.balance account c).isSome) :
        (sumOf l'.balance account c).isSome := by
      rw [hb.sums]
      exact isSome_plus hsum _
    rw [hb.rest]
    exact { Grows.refl l with
      bookings := List.prefix_append _ _
      posted := hb.posted
      sums := hsums }

/-! ## Runs -/

/-- Nothing is missing after a step, be it a success or a failure. -/
theorem grows_step (l : Ledger) (s : Statement) : Grows l (l.step s) := by
  rw [step]
  split
  · exact (changes_of_apply ‹_›).grows
  · exact Grows.refl l

/-- Nothing is missing after a run. -/
theorem grows_run (l : Ledger) (statements : List Statement) : Grows l (l.run statements) :=
  run_invariant (fun _ s h => h.trans (grows_step _ s)) (Grows.refl l) statements

/-- The ledger where applying statements stops: behind the last of them, or at the first that
fails. -/
def lastLedger : Except StatementError Ledger → Ledger
  | .ok l => l
  | .error e => e.ledger

/-- Nothing is missing where applying statements stops. -/
theorem grows_applyFrom (i : Nat) (l : Ledger) (statements : List Statement) :
    Grows l (lastLedger (applyFrom i l statements)) := by
  induction statements generalizing i l with
  | nil => exact Grows.refl l
  | cons s rest ih =>
    rw [applyFrom]
    split
    · exact (changes_of_apply ‹_›).grows.trans (ih (i + 1) _)
    · exact Grows.refl l

/-- Every statement that succeeds changes its own part of a ledger and nothing else, and whatever
statements are applied, failures being passed over or ending it all, nothing that the ledger held is
missing afterwards. -/
theorem changes_and_grows (l : Ledger) :
    (∀ s l', l.apply s = .ok l' → Changes l l' s) ∧
    (∀ statements, Grows l (l.run statements)) ∧
    ∀ i statements, Grows l (lastLedger (applyFrom i l statements)) :=
  ⟨fun _ _ => changes_of_apply, grows_run l, fun i => grows_applyFrom i l⟩

/-- A rule that keeps a budget of what is spent on food, and a rent that is paid. -/
def household : List Statement :=
  [.rule ⟨.binary .equal (.name "account") (.string "Food"),
      [⟨"Budget", .amount (.bare (-1)), true⟩]⟩,
    .transaction ⟨⟨some 2016, 1, 1⟩, none, "Rent", [],
      [⟨"Rent", some (.amount ⟨500, .known "EUR"⟩), none, none, false, []⟩,
        ⟨"Cash", none, none, none, false, []⟩]⟩]

/-- A purchase of food whose payment is left open. -/
def groceries : Transaction :=
  ⟨⟨some 2016, 1, 31⟩, none, "Shop", [],
    [⟨"Food", some (.amount ⟨10, .known "EUR"⟩), none, none, false, []⟩,
      ⟨"Cash", none, none, none, false, []⟩]⟩

/-- The purchase leaves the rent alone, and reaches the budget by the rule and the cash by the open
posting. -/
theorem changes_and_grows_groceries : ∃ l',
    (empty.run household).apply (.transaction groceries) = .ok l' ∧
    Grows (empty.run household) l' ∧
    l'.balance["Rent"]? = (empty.run household).balance["Rent"]? ∧
    sumOf l'.balance "Budget" (.known "EUR") = some (-10) ∧
    sumOf l'.balance "Cash" (.known "EUR") = some (-510) := by
  have hbooked : ((empty.run household).book groceries).toOption.map (fun b =>
      (b.entries.map Entry.account, contributions b.entries "Budget" (.known "EUR"),
        contributions b.entries "Cash" (.known "EUR"))) =
      some (["Food", "Cash", "Budget"], [-10], [-10]) := by
    decide +kernel
  have hbefore : sumOf (empty.run household).balance "Budget" (.known "EUR") = none ∧
      sumOf (empty.run household).balance "Cash" (.known "EUR") = some (-500) := by
    decide +kernel
  obtain ⟨b, hb, haccounts, hbudget, hcash⟩ : ∃ b, (empty.run household).book groceries = .ok b ∧
      b.entries.map Entry.account = ["Food", "Cash", "Budget"] ∧
      contributions b.entries "Budget" (.known "EUR") = [-10] ∧
      contributions b.entries "Cash" (.known "EUR") = [-10] := by
    cases h : (empty.run household).book groceries with
    | error e => simp [h, Except.toOption] at hbooked
    | ok b => exact ⟨b, rfl, by simpa [h, Except.toOption] using hbooked⟩
  have happly := apply_transaction_eq_ok.mpr ⟨b, hb, rfl⟩
  obtain ⟨hchanges, -, -⟩ := changes_and_grows (empty.run household)
  obtain ⟨b', hb', henters⟩ := hchanges _ _ happly
  obtain rfl : b = b' := Except.ok.inj (hb.symm.trans hb')
  refine ⟨_, happly, (hchanges _ _ happly).grows, henters.unposted "Rent" fun e he heq => ?_, ?_, ?_⟩
  · have hrent := List.mem_map_of_mem (f := Entry.account) he
    rw [haccounts, heq] at hrent
    revert hrent
    decide
  · rw [henters.sums, hbefore.1, hbudget]
    decide
  · rw [henters.sums, hbefore.2, hcash]
    decide

end Daybook.Ledger
