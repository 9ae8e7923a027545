import Daybook.Proofs.Grammar.Statement

set_option relaxedAutoImplicit false
set_option autoImplicit false

/-!
# Comparing statements

Statements are compared part by part, and their numbers as doubles. Equal ones weigh the same, and
a statement equals itself if its numbers are numbers.

## Main results

* `beq_list_iff` — lists are compared element by element.
* `Statement.weight_eq_of_beq` — equal statements weigh the same.
* `Statement.beq_self` — a writable statement equals itself.
-/

namespace Daybook

open Grammar

variable {α : Type} [BEq α]

/-! ## Identity

Equality as values compares doubles bit by bit, unlike the comparison that the ledger makes. -/

deriving instance DecidableEq for Amount, Cost, Expression, Posting, Transaction, Template, Rule,
  Statement

/-! ## Lists and options -/

/-- Lists are equal if their elements are, one by one. -/
theorem beq_list_iff {xs ys : List α} :
    (xs == ys) = true ↔ List.Forall₂ (fun x y => (x == y) = true) xs ys := by
  induction xs generalizing ys with
  | nil => cases ys <;> simp
  | cons x xs ih =>
    cases ys with
    | nil => simp
    | cons y ys => rw [List.cons_beq_cons, Bool.and_eq_true, List.forall₂_cons, ih]

/-- A list equals itself if its elements do. -/
theorem beq_list_self {xs : List α} (h : ∀ x ∈ xs, (x == x) = true) : (xs == xs) = true :=
  beq_list_iff.mpr (List.forall₂_same.mpr h)

/-- Equal lists have the same sum of what equal elements have in common. -/
theorem sum_eq_of_beq {f : α → Nat} (hf : ∀ x y : α, (x == y) = true → f x = f y) {xs ys : List α}
    (h : (xs == ys) = true) : (xs.map f).sum = (ys.map f).sum := by
  rw [beq_list_iff] at h
  induction h with
  | nil => rfl
  | cons hxy _ ih => rw [List.map_cons, List.map_cons, List.sum_cons, List.sum_cons, hf _ _ hxy, ih]

/-- What may be left out equals itself if it does where it is given. -/
theorem beq_option_self {x? : Option α} (h : ∀ x ∈ x?, (x == x) = true) : (x? == x?) = true := by
  cases x? with
  | none => rfl
  | some x => exact h x rfl

/-- What may be left out has the same measure as what equals it, if equal values have. -/
theorem elim_eq_of_beq {f : α → Nat} (hf : ∀ x y : α, (x == y) = true → f x = f y)
    {x? y? : Option α} (h : (x? == y?) = true) : x?.elim 0 f = y?.elim 0 f := by
  cases x? with
  | none =>
    cases y? with
    | none => rfl
    | some y => cases h
  | some x =>
    cases y? with
    | none => cases h
    | some y => exact hf x y h

/-! ## Expressions -/

/-- Equal amounts weigh the same. -/
theorem Amount.weight_eq_of_beq {a b : Amount} (h : (a == b) = true) : a.weight = b.weight := by
  have h : (a.number == b.number && a.commodity == b.commodity) = true := h
  rw [Bool.and_eq_true, beq_iff_eq (a := a.commodity)] at h
  rw [weight, weight, h.2]

/-- A finite double equals itself. -/
theorem Amount.beq_self {a : Amount} (h : a.number.isFinite = true) : (a == a) = true := by
  have hnumber : (a.number == a.number) = true := Binary64.beq_self h
  have hcommodity : (a.commodity == a.commodity) = true := beq_self_eq_true _
  show (a.number == a.number && a.commodity == a.commodity) = true
  rw [hnumber, hcommodity]
  rfl

namespace Expression

/-- A writable expression equals itself. -/
theorem beq_self {e : Expression} (h : e.Writable) : (e == e) = true := by
  induction e with
  | amount value => exact Amount.beq_self h
  | bool value => exact beq_self_eq_true value
  | string text => exact beq_self_eq_true text
  | regex pattern => exact beq_self_eq_true pattern
  | name identifier => exact beq_self_eq_true identifier
  | binary o left right ihleft ihright =>
    show (o == o && (left == left && right == right)) = true
    rw [ihleft h.1, ihright h.2, beq_self_eq_true]
    rfl

/-- Equal expressions weigh the same. -/
theorem weight_eq_of_beq {e e' : Expression} (h : (e == e') = true) : e.weight = e'.weight := by
  induction e generalizing e' with
  | binary o left right ihleft ihright =>
    cases e' with
    | binary o' left' right' =>
      have h : (o == o' && (left == left' && right == right')) = true := h
      simp only [Bool.and_eq_true] at h
      rw [weight, weight, ihleft h.2.1, ihright h.2.2]
    | _ => cases h
  | amount value =>
    cases e' with
    | amount value' => exact Amount.weight_eq_of_beq h
    | _ => cases h
  | bool value =>
    cases e' with
    | bool value' => rfl
    | _ => cases h
  | string text =>
    cases e' with
    | string text' =>
      have h : (text == text') = true := h
      rw [beq_iff_eq.mp h]
    | _ => cases h
  | regex pattern =>
    cases e' with
    | regex pattern' =>
      have h : (pattern == pattern') = true := h
      rw [beq_iff_eq.mp h]
    | _ => cases h
  | name identifier =>
    cases e' with
    | name identifier' =>
      have h : (identifier == identifier') = true := h
      rw [beq_iff_eq.mp h]
    | _ => cases h

end Expression

/-! ## Postings and templates -/

namespace Posting

/-- Postings are compared part by part. -/
theorem beq_iff {p q : Posting} : (p == q) = true ↔
    p.account = q.account ∧ (p.value == q.value) = true ∧ (p.cost == q.cost) = true ∧
      (p.balance == q.balance) = true ∧ p.isVirtual = q.isVirtual ∧ p.notes = q.notes := by
  show (p.account == q.account && (p.value == q.value && (p.cost == q.cost &&
    (p.balance == q.balance && (p.isVirtual == q.isVirtual && p.notes == q.notes))))) = true ↔ _
  simp only [Bool.and_eq_true, beq_iff_eq (a := p.account), beq_iff_eq (a := p.isVirtual),
    beq_iff_eq (a := p.notes)]

/-- A writable posting equals itself. -/
theorem beq_self {p : Posting} (h : p.Writable) : (p == p) = true := by
  refine beq_iff.mpr ⟨rfl, beq_option_self fun e he => Expression.beq_self (h.value e he),
    beq_option_self fun c hc => ?_, beq_option_self fun a ha => Amount.beq_self (h.balance a ha),
    rfl, rfl⟩
  show (c.kind == c.kind && c.amount == c.amount) = true
  rw [Amount.beq_self (h.cost c hc), beq_self_eq_true]
  rfl

/-- Equal postings weigh the same. -/
theorem weight_eq_of_beq {p q : Posting} (h : (p == q) = true) : p.weight = q.weight := by
  obtain ⟨haccount, hvalue, hcost, hbalance, -, hnotes⟩ := beq_iff.mp h
  have hcosts (c d : Cost) (h : (c == d) = true) : c.amount.weight = d.amount.weight := by
    have h : (c.kind == d.kind && c.amount == d.amount) = true := h
    rw [Bool.and_eq_true] at h
    exact Amount.weight_eq_of_beq h.2
  rw [weight, weight, lineWeight, lineWeight, haccount, hnotes,
    elim_eq_of_beq (fun _ _ h => Expression.weight_eq_of_beq h) hvalue,
    elim_eq_of_beq hcosts hcost,
    elim_eq_of_beq (fun _ _ h => Amount.weight_eq_of_beq h) hbalance]

end Posting

namespace Template

/-- Templates are compared part by part. -/
theorem beq_iff {t u : Template} : (t == u) = true ↔
    t.account = u.account ∧ (t.value == u.value) = true ∧ t.isVirtual = u.isVirtual := by
  show (t.account == u.account && (t.value == u.value && t.isVirtual == u.isVirtual)) = true ↔ _
  simp only [Bool.and_eq_true, beq_iff_eq (a := t.account), beq_iff_eq (a := t.isVirtual)]

/-- Equal templates weigh the same. -/
theorem weight_eq_of_beq {t u : Template} (h : (t == u) = true) : t.weight = u.weight := by
  obtain ⟨haccount, hvalue, -⟩ := beq_iff.mp h
  rw [weight, weight, haccount, Expression.weight_eq_of_beq hvalue]

end Template

/-! ## Statements -/

namespace Transaction

/-- Transactions are compared part by part. -/
theorem beq_iff {t u : Transaction} : (t == u) = true ↔
    t.date = u.date ∧ t.status = u.status ∧ t.title = u.title ∧ t.notes = u.notes ∧
      (t.postings == u.postings) = true := by
  show (t.date == u.date && (t.status == u.status && (t.title == u.title &&
    (t.notes == u.notes && t.postings == u.postings)))) = true ↔ _
  simp only [Bool.and_eq_true, beq_iff_eq (a := t.date), beq_iff_eq (a := t.status),
    beq_iff_eq (a := t.title), beq_iff_eq (a := t.notes)]

/-- Equal transactions weigh the same. -/
theorem weight_eq_of_beq {t u : Transaction} (h : (t == u) = true) : t.weight = u.weight := by
  obtain ⟨-, -, htitle, hnotes, hpostings⟩ := beq_iff.mp h
  rw [weight, weight, htitle, hnotes,
    sum_eq_of_beq (fun _ _ h => Posting.weight_eq_of_beq h) hpostings]

end Transaction

namespace Rule

/-- Rules are compared part by part. -/
theorem beq_iff {r q : Rule} : (r == q) = true ↔
    (r.condition == q.condition) = true ∧ (r.templates == q.templates) = true := by
  show (r.condition == q.condition && r.templates == q.templates) = true ↔ _
  rw [Bool.and_eq_true]

/-- A writable rule equals itself. -/
theorem beq_self {r : Rule} (h : r.Writable) : (r == r) = true :=
  beq_iff.mpr ⟨Expression.beq_self h.condition, beq_list_self fun t ht =>
    Template.beq_iff.mpr ⟨rfl, Expression.beq_self (h.templates t ht), rfl⟩⟩

/-- Equal rules weigh the same. -/
theorem weight_eq_of_beq {r q : Rule} (h : (r == q) = true) : r.weight = q.weight := by
  obtain ⟨hcondition, htemplates⟩ := beq_iff.mp h
  rw [weight, weight, Expression.weight_eq_of_beq hcondition,
    sum_eq_of_beq (fun _ _ h => Template.weight_eq_of_beq h) htemplates]

end Rule

namespace Statement

/-- A writable statement equals itself. -/
theorem beq_self {st : Statement} (h : st.Writable) : (st == st) = true := by
  cases st with
  | year y => exact beq_self_eq_true y
  | definition name e =>
    show (name == name && e == e) = true
    rw [Expression.beq_self h, beq_self_eq_true]
    rfl
  | account name => exact beq_self_eq_true name
  | commodity name => exact beq_self_eq_true name
  | tag name => exact beq_self_eq_true name
  | comment text => exact beq_self_eq_true text
  | transaction t =>
    exact Transaction.beq_iff.mpr
      ⟨rfl, rfl, rfl, rfl, beq_list_self fun p hp => Posting.beq_self (h p hp)⟩
  | rule r => exact Rule.beq_self h

/-- Equal statements weigh the same. -/
theorem weight_eq_of_beq {st st' : Statement} (h : (st == st') = true) :
    st.weight = st'.weight := by
  cases st with
  | year y => cases st' with
    | year y' => rfl
    | _ => cases h
  | definition name e => cases st' with
    | definition name' e' =>
      have h : (name == name' && e == e') = true := h
      rw [Bool.and_eq_true, beq_iff_eq] at h
      rw [weight, weight, h.1, Expression.weight_eq_of_beq h.2]
    | _ => cases h
  | account name => cases st' with
    | account name' =>
      have h : (name == name') = true := h
      rw [beq_iff_eq.mp h]
    | _ => cases h
  | commodity name => cases st' with
    | commodity name' =>
      have h : (name == name') = true := h
      rw [beq_iff_eq.mp h]
    | _ => cases h
  | tag name => cases st' with
    | tag name' =>
      have h : (name == name') = true := h
      rw [beq_iff_eq.mp h]
    | _ => cases h
  | comment text => cases st' with
    | comment text' =>
      have h : (text == text') = true := h
      rw [beq_iff_eq.mp h]
    | _ => cases h
  | transaction t => cases st' with
    | transaction t' => exact Transaction.weight_eq_of_beq h
    | _ => cases h
  | rule r => cases st' with
    | rule r' => exact Rule.weight_eq_of_beq h
    | _ => cases h

end Statement

end Daybook
