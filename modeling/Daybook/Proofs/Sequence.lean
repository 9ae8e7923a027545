import Mathlib.Data.List.Forall2

set_option relaxedAutoImplicit false
set_option autoImplicit false

/-!
# Computations one after another

A sequence of computations that may fail has the results of all of them, or the error of the first
one that fails. Nothing behind that one is looked at.

## Main definitions

* `FirstFailure` — the first element of a list that fails, for a given reason.

## Main results

* `except_bind_eq_ok`, `except_bind_eq_error` — two computations.
* `except_mapM_eq_ok`, `except_mapM_eq_error` — a list of computations.
* `firstFailure_flatMap` — the first failure of all lists is that of the first list with one.
-/

namespace Daybook

variable {ε α β : Type}

/-! ## Two computations -/

/-- A sequence of two computations succeeds exactly when both do. -/
theorem except_bind_eq_ok {x : Except ε α} {f : α → Except ε β} {b : β} :
    x >>= f = .ok b ↔ ∃ a, x = .ok a ∧ f a = .ok b := by
  cases x with
  | error e => simp [bind, Except.bind]
  | ok a => simp [bind, Except.bind]

/-- A sequence of two computations fails exactly when the first does, or the second behind it. -/
theorem except_bind_eq_error {x : Except ε α} {f : α → Except ε β} {e : ε} :
    x >>= f = .error e ↔ x = .error e ∨ ∃ a, x = .ok a ∧ f a = .error e := by
  cases x with
  | error e' => simp [bind, Except.bind]
  | ok a => simp [bind, Except.bind]

/-- A computation succeeds or fails. -/
theorem exists_ok_iff_forall_ne_error {x : Except ε α} :
    (∃ a, x = .ok a) ↔ ∀ e, x ≠ .error e := by
  cases x <;> simp

/-! ## The first failure -/

/-- The first element of a list that fails does so for the reason `e`: no element in front of it
fails for any reason. -/
def FirstFailure (fails : α → ε → Prop) (as : List α) (e : ε) : Prop :=
  ∃ before a after, as = before ++ a :: after ∧ (∀ b ∈ before, ∀ e', ¬ fails b e') ∧ fails a e

variable {fails : α → ε → Prop} {as bs : List α} {e : ε}

/-- Nothing fails in an empty list. -/
theorem not_firstFailure_nil : ¬ FirstFailure fails [] e := by
  rintro ⟨before, a, after, h, -⟩
  simp at h

/-- The first element fails, or it does not and the first failure is behind it. -/
theorem firstFailure_cons {a : α} :
    FirstFailure fails (a :: as) e ↔
      fails a e ∨ (∀ e', ¬ fails a e') ∧ FirstFailure fails as e := by
  constructor
  · rintro ⟨_ | ⟨b, before⟩, c, after, h, hbefore, hc⟩
    · obtain ⟨rfl, -⟩ := List.cons_eq_cons.mp h
      exact .inl hc
    · obtain ⟨rfl, rfl⟩ := List.cons_eq_cons.mp h
      obtain ⟨ha, hbefore⟩ := List.forall_mem_cons.mp hbefore
      exact .inr ⟨ha, before, c, after, rfl, hbefore, hc⟩
  · rintro (ha | ⟨ha, before, c, after, rfl, hbefore, hc⟩)
    · exact ⟨[], a, as, rfl, nofun, ha⟩
    · exact ⟨a :: before, c, after, rfl, List.forall_mem_cons.mpr ⟨ha, hbefore⟩, hc⟩

/-- There is no first failure exactly if nothing fails. -/
theorem forall_not_firstFailure_iff :
    (∀ e, ¬ FirstFailure fails as e) ↔ ∀ a ∈ as, ∀ e, ¬ fails a e := by
  induction as with
  | nil => simp [not_firstFailure_nil]
  | cons a as ih =>
    simp only [firstFailure_cons, List.forall_mem_cons, ← ih]
    constructor
    · intro h
      have ha : ∀ e, ¬ fails a e := fun e he => h e (.inl he)
      exact ⟨ha, fun e he => h e (.inr ⟨ha, he⟩)⟩
    · rintro ⟨ha, has⟩ e (he | ⟨-, he⟩)
      · exact ha e he
      · exact has e he

/-- The first failure of two lists is that of the first list, or that of the second if nothing fails
in the first. -/
theorem firstFailure_append :
    FirstFailure fails (as ++ bs) e ↔
      FirstFailure fails as e ∨ (∀ a ∈ as, ∀ e', ¬ fails a e') ∧ FirstFailure fails bs e := by
  induction as with
  | nil => simp [not_firstFailure_nil]
  | cons a as ih =>
    simp only [List.cons_append, firstFailure_cons, ih, List.forall_mem_cons]
    tauto

/-- The first failure of several lists, one behind the other, is that of the first list that has
one. -/
theorem firstFailure_flatMap {f : β → List α} {cs : List β} :
    FirstFailure fails (cs.flatMap f) e ↔
      FirstFailure (fun c e => FirstFailure fails (f c) e) cs e := by
  induction cs with
  | nil => simp [not_firstFailure_nil]
  | cons c cs ih =>
    rw [List.flatMap_cons, firstFailure_append, firstFailure_cons, ih, forall_not_firstFailure_iff]

/-- The first failure among the images of elements. -/
theorem firstFailure_map {f : β → α} {cs : List β} :
    FirstFailure fails (cs.map f) e ↔ FirstFailure (fun c => fails (f c)) cs e := by
  induction cs with
  | nil => simp [not_firstFailure_nil]
  | cons c cs ih => rw [List.map_cons, firstFailure_cons, firstFailure_cons, ih]

/-! ## Lists of computations -/

/-- A list of computations succeeds exactly when each of them does, and their results stand in the
order of the list. -/
theorem except_mapM_eq_ok {f : α → Except ε β} {as : List α} {bs : List β} :
    as.mapM f = .ok bs ↔ List.Forall₂ (fun a b => f a = .ok b) as bs := by
  induction as generalizing bs with
  | nil =>
    rw [List.mapM_nil, List.forall₂_nil_left_iff]
    constructor
    · rintro ⟨⟩
      rfl
    · rintro rfl
      rfl
  | cons a as ih =>
    rw [List.mapM_cons, except_bind_eq_ok, List.forall₂_cons_left_iff]
    constructor
    · rintro ⟨b, hb, h⟩
      obtain ⟨bs', hbs, h⟩ := except_bind_eq_ok.mp h
      obtain rfl : b :: bs' = bs := Except.ok.inj h
      exact ⟨b, bs', hb, ih.mp hbs, rfl⟩
    · rintro ⟨b, bs', hb, hbs, rfl⟩
      exact ⟨b, hb, except_bind_eq_ok.mpr ⟨bs', ih.mpr hbs, rfl⟩⟩

/-- A list of computations fails exactly when one of them does, for the reason of the first. -/
theorem except_mapM_eq_error {f : α → Except ε β} {as : List α} {e : ε} :
    as.mapM f = .error e ↔ FirstFailure (fun a e => f a = .error e) as e := by
  induction as with
  | nil => exact iff_of_false nofun not_firstFailure_nil
  | cons a as ih =>
    rw [List.mapM_cons, except_bind_eq_error, firstFailure_cons, ← exists_ok_iff_forall_ne_error,
      ← ih, ← exists_and_right]
    refine or_congr_right (exists_congr fun b => and_congr_right fun _ => ?_)
    rw [except_bind_eq_error]
    exact or_iff_left (by rintro ⟨bs, -, ⟨⟩⟩)

/-- Every element of a list is related to one of a list that is related to it element by
element. -/
theorem forall₂_exists_of_mem {R : α → β → Prop} {as : List α} {bs : List β}
    (h : List.Forall₂ R as bs) {a : α} (ha : a ∈ as) : ∃ b ∈ bs, R a b := by
  induction h with
  | nil => cases ha
  | cons hab _ ih =>
    rcases List.mem_cons.mp ha with rfl | ha
    · exact ⟨_, List.mem_cons_self, hab⟩
    · obtain ⟨b, hb, h⟩ := ih ha
      exact ⟨b, List.mem_cons_of_mem _ hb, h⟩

end Daybook
