import Daybook.Proofs.Decimal.Parts

set_option relaxedAutoImplicit false
set_option autoImplicit false

/-!
# Doubles in order

What a comparison of doubles says about their signs, and what two doubles add up to. What is not a
number is unordered, and so it is neither less than a number nor as great as it.

## Main definitions

* `Binary64.order` — how two doubles are ordered, if they are.

## Main results

* `Binary64.isSome_order_iff`, `Binary64.order_swap`, `Binary64.order_trans` — numbers are ordered,
  and no other doubles are.
* `Binary64.le_iff_not_lt` — one number is at most another unless that is less.
* `Binary64.isFinite_of_add` — the terms of a finite sum are finite.
* `Binary64.add_neg_self`, `Binary64.isNaN_add_neg_self` — opposite doubles cancel if they are
  finite, and else their sum is not a number.
* `Binary64.lt_zero_iff`, `Binary64.beq_zero_iff`, `Binary64.zero_lt_iff` — zero and its two sides,
  by the parts of a double.
* `Binary64.lt_zero_or_zero_or_pos` — a finite double is on one side of zero or zero itself.
-/

namespace Daybook.Binary64

open Float.Model Float.Model.UnpackedFloat

/-! ## Comparisons -/

/-- How two doubles are ordered. What is not a number is unordered. -/
def order (x y : Float) : Option Ordering :=
  (ofFloat x).unpacked.compare (ofFloat y).unpacked

/-- One double is less than another if they are ordered so. -/
theorem lt_iff_order {x y : Float} : x < y ↔ order x y = some .lt := by
  rw [order, ← unpack_toModel, ← unpack_toModel, ← beq_iff_eq]
  show decide (_ = true) = true ↔ _
  rw [decide_eq_true_iff]
  rfl

/-- One double is at most another if they are ordered so. -/
theorem le_iff_order {x y : Float} : x ≤ y ↔ (order x y).any (·.isLE) = true := by
  rw [order, ← unpack_toModel, ← unpack_toModel]
  show decide (_ = true) = true ↔ _
  rw [decide_eq_true_iff]
  rfl

/-- Two doubles count as equal if they are ordered so. -/
theorem beq_iff_order {x y : Float} : (x == y) = true ↔ order x y = some .eq := by
  rw [order, ← unpack_toModel, ← unpack_toModel, ← beq_iff_eq (b := some Ordering.eq)]
  rfl

/-- The comparison of exponents and significands the other way round. -/
private theorem then_swap (e₁ e₂ : Int) (m₁ m₂ : Nat) :
    ((compare e₁ e₂).then (compare m₁ m₂)).swap = (compare e₂ e₁).then (compare m₂ m₁) := by
  rw [Ordering.swap_then, ← Std.OrientedOrd.eq_swap, ← Std.OrientedOrd.eq_swap]

/-- The comparison of two doubles the other way round. -/
private theorem compare_swap (a b : UnpackedFloat) : b.compare a = (a.compare b).map .swap := by
  rcases a with s | _ | s | ⟨s, m, e, hm⟩ <;> rcases b with t | _ | t | ⟨t, n, f, hn⟩ <;>
    (try cases s) <;> (try cases t) <;> try rfl
  · show some _ = some _
    rw [then_swap, ← then_swap, Ordering.swap_swap]
  · show some _ = some _
    rw [then_swap]

/-- Two doubles are ordered exactly if they are numbers. -/
private theorem isSome_compare_iff {a b : UnpackedFloat} :
    (a.compare b).isSome ↔ a.isNaN = false ∧ b.isNaN = false := by
  rcases a with s | _ | s | ⟨s, m, e, hm⟩ <;> rcases b with t | _ | t | ⟨t, n, f, hn⟩ <;>
    (try cases s) <;> (try cases t) <;> simp [UnpackedFloat.compare, UnpackedFloat.isNaN]

/-- Where a number stands among the others: its side of zero, then its exponent, then its
significand. The last two count downwards on the side below zero. -/
private def place : UnpackedFloat → ℤ ×ₗ ℤ ×ₗ ℤ
  | .infinity .negative => toLex (-2, toLex (0, 0))
  | .finite .negative m e _ => toLex (-1, toLex (-e, -m))
  | .zero _ | .notANumber => toLex (0, toLex (0, 0))
  | .finite .positive m e _ => toLex (1, toLex (e, m))
  | .infinity .positive => toLex (2, toLex (0, 0))

/-- A number is less than another if its place is in front of that one's. -/
private theorem compare_eq_lt_iff {a b : UnpackedFloat} :
    a.compare b = some .lt ↔ a.isNaN = false ∧ b.isNaN = false ∧ place a < place b := by
  have hthen (e f : ℤ) (m n : ℕ) :
      (compare e f).then (compare m n) = .lt ↔ e < f ∨ e = f ∧ m < n := by
    rw [Ordering.then_eq_lt, compare_lt_iff_lt, compare_lt_iff_lt, compare_eq_iff_eq]
  rcases a with s | _ | s | ⟨s, m, e, hm⟩ <;> rcases b with t | _ | t | ⟨t, n, f, hn⟩ <;>
    (try cases s) <;> (try cases t)
  case infinity.infinity.negative.positive => exact iff_of_true rfl (by decide)
  case finite.finite.negative.negative =>
    show some _ = some _ ↔ _
    rw [then_swap, Option.some.injEq, hthen]
    simp [UnpackedFloat.isNaN, place, Prod.Lex.toLex_lt_toLex, eq_comm]
  case finite.finite.positive.positive =>
    show some _ = some _ ↔ _
    rw [Option.some.injEq, hthen]
    simp [UnpackedFloat.isNaN, place, Prod.Lex.toLex_lt_toLex]
  all_goals simp [UnpackedFloat.compare, UnpackedFloat.isNaN, place, Prod.Lex.toLex_lt_toLex]

/-- The order of two doubles the other way round. -/
theorem order_swap (x y : Float) : order y x = (order x y).map .swap :=
  compare_swap _ _

/-- Two doubles are ordered exactly if they are numbers. -/
theorem isSome_order_iff {x y : Float} :
    (order x y).isSome ↔ x.isNaN = false ∧ y.isNaN = false := by
  rw [order, ← unpack_toModel, ← unpack_toModel]
  exact isSome_compare_iff

/-- What is less than a lesser number is less. -/
theorem order_trans {x y z : Float} (hxy : order x y = some .lt) (hyz : order y z = some .lt) :
    order x z = some .lt := by
  obtain ⟨hx, -, hxy⟩ := compare_eq_lt_iff.mp hxy
  obtain ⟨-, hz, hyz⟩ := compare_eq_lt_iff.mp hyz
  exact compare_eq_lt_iff.mpr ⟨hx, hz, hxy.trans hyz⟩

/-! ## Kinds of doubles -/

/-- A double is not a number if its parts say so. -/
theorem isNaN_iff {x : Float} : x.isNaN = true ↔ ofFloat x = notANumber := by
  show x.toModel.unpack.isNaN = true ↔ _
  rw [unpack_toModel]
  cases ofFloat x with
  | finite negative m e =>
    simp only [unpacked]
    split_ifs <;> simp [UnpackedFloat.isNaN]
  | _ => simp [unpacked, UnpackedFloat.isNaN]

/-- A double is finite if its parts are a sign, a significand and an exponent. -/
theorem isFinite_iff {x : Float} :
    x.isFinite = true ↔ ∃ negative m e, ofFloat x = finite negative m e := by
  show x.toModel.unpack.isFinite = true ↔ _
  rw [unpack_toModel]
  cases ofFloat x with
  | finite negative m e =>
    simp only [unpacked]
    split_ifs <;> simp [UnpackedFloat.isFinite]
  | _ => simp [unpacked, UnpackedFloat.isFinite]

/-- A finite double is a number. -/
theorem isNaN_of_isFinite {x : Float} (hx : x.isFinite = true) : x.isNaN = false := by
  obtain ⟨negative, m, e, h⟩ := isFinite_iff.mp hx
  rw [← Bool.not_eq_true, isNaN_iff, h]
  exact nofun

/-- The opposite of a number is one. -/
theorem isNaN_neg (x : Float) : (-x).isNaN = x.isNaN := by
  rw [Bool.eq_iff_iff, isNaN_iff, isNaN_iff, ofFloat_neg]
  cases ofFloat x <;> simp [negate]

/-- What is smaller in size than another double is finite. -/
theorem isFinite_of_abs_lt {x y : Float} (h : x.abs < y) : x.isFinite = true := by
  rw [lt_iff_order, order, ofFloat_abs] at h
  generalize (ofFloat y).unpacked = bound at h
  cases hx : ofFloat x with
  | finite negative m e => exact isFinite_iff.mpr ⟨negative, m, e, hx⟩
  | notANumber =>
    rw [hx] at h
    cases h
  | infinite negative =>
    rw [hx] at h
    rcases bound with s | _ | s | ⟨s, m, e, hm⟩ <;> (try cases s) <;> cases h

/-- One number is at most another unless that is less. -/
theorem le_iff_not_lt {x y : Float} (hx : x.isNaN = false) (hy : y.isNaN = false) :
    x ≤ y ↔ ¬ y < x := by
  obtain ⟨o, ho⟩ := Option.isSome_iff_exists.mp (isSome_order_iff.mpr ⟨hx, hy⟩)
  rw [le_iff_order, lt_iff_order, order_swap x, ho]
  cases o <;> simp

/-- A finite double equals itself. -/
theorem beq_self {x : Float} (hx : x.isFinite = true) : (x == x) = true := by
  have hnumber := isNaN_of_isFinite hx
  obtain ⟨o, ho⟩ := Option.isSome_iff_exists.mp (isSome_order_iff.mpr ⟨hnumber, hnumber⟩)
  have hswap := order_swap x x
  rw [ho] at hswap
  rw [beq_iff_order, ho]
  cases o with
  | eq => rfl
  | _ => cases hswap

/-! ## Sums -/

/-- The sum of two doubles, by their parts. -/
private theorem add_eq (x y : Float) :
    x + y = .ofModel (.pack (UnpackedFloat.add Format.binary64 (ofFloat x).unpacked
      (ofFloat y).unpacked)) := by
  rw [← unpack_toModel, ← unpack_toModel]
  rfl

/-- What is not finite makes a sum infinite, or not a number. -/
private theorem add_of_not_finite {a b : UnpackedFloat}
    (h : a.isFinite = false ∨ b.isFinite = false) :
    UnpackedFloat.add Format.binary64 a b = .notANumber ∨
      ∃ s, UnpackedFloat.add Format.binary64 a b = .infinity s := by
  rcases a with s | _ | s | ⟨s, m, e, hm⟩ <;> rcases b with t | _ | t | ⟨t, n, f, hn⟩
  case infinity.infinity =>
    simp only [UnpackedFloat.add]
    split_ifs
    · exact .inr ⟨s, rfl⟩
    · exact .inl rfl
  all_goals simp_all [UnpackedFloat.add, UnpackedFloat.isFinite]

/-- A sum is finite only if both of its terms are. -/
theorem isFinite_of_add {x y : Float} (h : (x + y).isFinite = true) :
    x.isFinite = true ∧ y.isFinite = true := by
  have hparts (z : Float) : z.isFinite = (ofFloat z).unpacked.isFinite := by
    rw [← unpack_toModel]
    rfl
  by_contra hnot
  rw [not_and_or, Bool.not_eq_true, Bool.not_eq_true, hparts, hparts] at hnot
  rw [add_eq] at h
  obtain hsum | ⟨s, hsum⟩ := add_of_not_finite hnot
  · rw [hsum] at h
    exact absurd h (by decide)
  · rw [hsum] at h
    cases s <;> exact absurd h (by decide)

/-! ## Opposite doubles -/

/-- The sum of two opposite doubles, by their parts. -/
private theorem add_neg_eq (x : Float) :
    x + -x = .ofModel (.pack (UnpackedFloat.add Format.binary64 (ofFloat x).unpacked
      (ofFloat x).negate.unpacked)) := by
  rw [add_eq, ofFloat_neg]

/-- Opposite finite doubles cancel. -/
theorem add_neg_self {x : Float} (hx : x.isFinite = true) : x + -x = 0 := by
  obtain ⟨negative, m, e, h⟩ := isFinite_iff.mp hx
  rw [add_neg_eq, h]
  simp only [negate, unpacked]
  split_ifs with hm
  · have hcancel : (sign negative).apply m + (sign !negative).apply m = 0 := by
      cases negative <;> simp [sign, Sign.apply]
    simp only [UnpackedFloat.add, decreaseExponent, min_self, sub_self, Int.toNat_zero,
      Nat.shiftLeft_zero, hcancel]
    rfl
  · cases negative <;> rfl

/-- Opposite doubles that are not finite have no number as their sum. -/
theorem isNaN_add_neg_self {x : Float} (hx : x.isFinite = false) : (x + -x).isNaN = true := by
  rw [add_neg_eq]
  cases h : ofFloat x with
  | notANumber => rfl
  | infinite negative => cases negative <;> rfl
  | finite negative m e =>
    rw [isFinite_iff.mpr ⟨_, _, _, h⟩] at hx
    cases hx

/-! ## The sides of zero -/

/-- Zero is a double without a significand. -/
private theorem unpacked_zero : (ofFloat 0).unpacked = .zero .positive := rfl

/-- A double is less than zero if its sign is set and it is not zero. -/
theorem lt_zero_iff {x : Float} :
    x < 0 ↔ ofFloat x = infinite true ∨ ∃ m e, 0 < m ∧ ofFloat x = finite true m e := by
  rw [lt_iff_order, order, unpacked_zero]
  cases ofFloat x with
  | notANumber => simp [unpacked, UnpackedFloat.compare]
  | infinite negative => cases negative <;> simp [unpacked, sign, UnpackedFloat.compare]
  | finite negative m e =>
    simp only [unpacked]
    split_ifs with hm <;> cases negative <;> simp [sign, UnpackedFloat.compare] <;> omega

/-- A double is greater than zero if its sign is not set and it is not zero. -/
theorem zero_lt_iff {x : Float} :
    0 < x ↔ ofFloat x = infinite false ∨ ∃ m e, 0 < m ∧ ofFloat x = finite false m e := by
  rw [lt_iff_order, order, unpacked_zero]
  cases ofFloat x with
  | notANumber => simp [unpacked, UnpackedFloat.compare]
  | infinite negative => cases negative <;> simp [unpacked, sign, UnpackedFloat.compare]
  | finite negative m e =>
    simp only [unpacked]
    split_ifs with hm <;> cases negative <;> simp [sign, UnpackedFloat.compare] <;> omega

/-- A double counts as zero if it has no significand, whatever its sign. -/
theorem beq_zero_iff {x : Float} :
    (x == 0) = true ↔ ∃ negative e, ofFloat x = finite negative 0 e := by
  rw [beq_iff_order, order, unpacked_zero]
  cases ofFloat x with
  | notANumber => simp [unpacked, UnpackedFloat.compare]
  | infinite negative => cases negative <;> simp [unpacked, sign, UnpackedFloat.compare]
  | finite negative m e =>
    simp only [unpacked]
    split_ifs with hm <;> cases negative <;> simp [sign, UnpackedFloat.compare] <;> omega

/-- A finite double is less than zero, or zero, or greater than zero. -/
theorem lt_zero_or_zero_or_pos {x : Float} (hx : x.isFinite = true) :
    x < 0 ∨ (x == 0) = true ∨ 0 < x := by
  obtain ⟨negative, m, e, h⟩ := isFinite_iff.mp hx
  rcases Nat.eq_zero_or_pos m with rfl | hm
  · exact .inr (.inl (beq_zero_iff.mpr ⟨negative, e, h⟩))
  · cases negative with
    | false => exact .inr (.inr (zero_lt_iff.mpr (.inr ⟨m, e, hm, h⟩)))
    | true => exact .inl (lt_zero_iff.mpr (.inr ⟨m, e, hm, h⟩))

/-- The size of what counts as zero is zero. -/
theorem abs_eq_zero {x : Float} (hx : (x == 0) = true) : x.abs = 0 := by
  obtain ⟨negative, e, h⟩ := beq_zero_iff.mp hx
  have hc := canonical_ofFloat x
  rw [h] at hc
  obtain rfl : e = leastExponent := hc.normal.resolve_left (by decide)
  apply ofFloat_injective
  rw [ofFloat_abs, h]
  rfl

/-- What is greater than zero is not less than zero. -/
theorem not_lt_zero_of_pos {x : Float} (hx : 0 < x) : ¬ x < 0 := by
  rw [lt_zero_iff]
  obtain h | ⟨m, e, -, h⟩ := zero_lt_iff.mp hx <;> simp [h]

/-- What counts as zero is not less than zero. -/
theorem not_lt_zero_of_zero {x : Float} (hx : (x == 0) = true) : ¬ x < 0 := by
  obtain ⟨negative, e, h⟩ := beq_zero_iff.mp hx
  rw [lt_zero_iff, h]
  rintro (h | ⟨m, f, hm, h⟩)
  · cases h
  · cases h
    exact absurd hm (lt_irrefl 0)

/-- What counts as zero is not greater than zero. -/
theorem not_pos_of_zero {x : Float} (hx : (x == 0) = true) : ¬ 0 < x := by
  obtain ⟨negative, e, h⟩ := beq_zero_iff.mp hx
  rw [zero_lt_iff, h]
  rintro (h | ⟨m, f, hm, h⟩)
  · cases h
  · cases h
    exact absurd hm (lt_irrefl 0)

end Daybook.Binary64
