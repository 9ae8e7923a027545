import Daybook.Ledger.Apply
import Daybook.Proofs.Sequence

set_option relaxedAutoImplicit false
set_option autoImplicit false

/-!
# Runs of statements

A run applies statements one after another and passes over those that fail. This file says once
what a single statement can do to a ledger, and carries a property of ledgers from each step to the
whole run.

## Main definitions

* `Ledger.run` — the ledger after a list of statements.
* `Ledger.Reachable` — the ledgers that a run makes of the empty one.

## Main results

* `Ledger.step_cases` — a step either changes nothing but declarations and definitions, or adds a
  rule, or commits a booking.
* `Ledger.run_invariant` — what every step keeps, every run keeps.
-/

namespace Daybook

namespace Ledger

/-! ## One statement -/

/-- The entries of the postings with a value, one posting after another. -/
theorem valuedEntries_cons (l : Ledger) (date : Date) (p : Posting) (ps : List Posting) :
    l.valuedEntries date (p :: ps) =
      match p.value with
      | none => l.valuedEntries date ps
      | some e => do
        let entry ← l.entryOf date p e
        let entries ← l.valuedEntries date ps
        return entry :: entries := by
  rw [valuedEntries, List.filterMap_cons]
  cases p.value with
  | none => rfl
  | some e => exact List.mapM_cons

/-- A transaction is booked exactly when its date, its own entries and those of the rules can be
had and its own sums are accepted. -/
theorem book_eq_ok_iff {l : Ledger} {t : Transaction} {b : Booking} :
    l.book t = .ok b ↔ ∃ date base added, l.dateOf t = .ok date ∧ l.baseEntries date t = .ok base ∧
      verify (Balance.ofEntries base) = .ok () ∧ l.additions date base = .ok added ∧
      b = ⟨t.title, date, t.status, base ++ added⟩ := by
  simp only [book, except_bind_eq_ok]
  constructor
  · rintro ⟨date, hd, base, hb, ⟨⟩, hv, added, ha, hk⟩
    exact ⟨date, base, added, hd, hb, hv, ha, (Except.ok.inj hk).symm⟩
  · rintro ⟨date, base, added, hd, hb, hv, ha, rfl⟩
    exact ⟨date, hd, base, hb, (), hv, added, ha, rfl⟩

/-- A transaction is applied exactly when it can be booked, and its booking is then committed. -/
theorem apply_transaction_eq_ok {l l' : Ledger} {t : Transaction} :
    l.apply (.transaction t) = .ok l' ↔ ∃ b, l.book t = .ok b ∧ l' = l.commit b := by
  cases h : l.book t with
  | error e => simp [apply, h]
  | ok b => simp [apply, h, eq_comm]

/-- A statement that can be applied is a step to the ledger it makes. -/
theorem step_eq_of_apply {l l' : Ledger} {s : Statement} (h : l.apply s = .ok l') :
    l.step s = l' := by
  simp only [step, h]

/-- What a step does to balances, rules and bookings: it leaves all three as they are, or adds a
rule, or commits the booking of a transaction. -/
theorem step_cases (l : Ledger) (s : Statement) :
    ((l.step s).balance = l.balance ∧ (l.step s).bookings = l.bookings ∧
      (l.step s).rules = l.rules ∧ ∀ r, s ≠ .rule r) ∨
    (∃ r, s = .rule r ∧ l.step s = { l with rules := l.rules ++ [r] }) ∨
    (∃ t b, s = .transaction t ∧ l.book t = .ok b ∧ l.step s = l.commit b) := by
  cases s with
  | rule r => exact .inr (.inl ⟨r, rfl, rfl⟩)
  | definition name e =>
    left
    cases h : e.evaluate l.lookup <;> simp [step, apply, h]
  | transaction t =>
    cases h : l.book t with
    | error e => exact .inl (by simp [step, apply, h])
    | ok b =>
      exact .inr (.inr ⟨t, b, rfl, h, step_eq_of_apply (apply_transaction_eq_ok.mpr ⟨b, h, rfl⟩)⟩)
  | year _ | account _ | commodity _ | tag _ | comment _ =>
    exact .inl ⟨rfl, rfl, rfl, fun _ => nofun⟩

/-! ## Several statements -/

/-- The ledger after a list of statements, failures leaving it as it is. -/
def run (l : Ledger) (statements : List Statement) : Ledger :=
  (l.applyEach statements).2

/-- The ledgers that statements make of the empty one. -/
def Reachable (l : Ledger) : Prop :=
  ∃ statements, empty.run statements = l

/-- A run of no statements changes nothing. -/
@[simp] theorem run_nil (l : Ledger) : l.run [] = l := rfl

/-- A run goes on from the step of its first statement. -/
@[simp] theorem run_cons (l : Ledger) (s : Statement) (rest : List Statement) :
    l.run (s :: rest) = (l.step s).run rest := by
  simp only [run, applyEach]
  split <;> rfl

/-- A run can be interrupted anywhere. -/
theorem run_append (l : Ledger) (before after : List Statement) :
    l.run (before ++ after) = (l.run before).run after := by
  induction before generalizing l with
  | nil => rfl
  | cons s before ih => rw [List.cons_append, run_cons, run_cons, ih]

/-- What holds at first and is kept by every step holds after every run. -/
theorem run_invariant {P : Ledger → Prop} (hstep : ∀ l s, P l → P (l.step s)) {l : Ledger}
    (hl : P l) (statements : List Statement) : P (l.run statements) := by
  induction statements generalizing l with
  | nil => exact hl
  | cons s rest ih =>
    rw [run_cons]
    exact ih (hstep l s hl)

end Ledger

end Daybook
