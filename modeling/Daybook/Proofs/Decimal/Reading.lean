import Daybook.Decimal.Basic
import Daybook.Proofs.Decimal.Rounding

set_option relaxedAutoImplicit false
set_option autoImplicit false

/-!
# Reading a decimal as a double

A decimal is read as the double in whose interval it lies. Where the coefficient and the power of
ten are doubles themselves, the reading is one product or quotient of doubles; otherwise it is a
product or quotient of whole numbers.

## Main definitions

* `Binary64.normalSignificand`, `Binary64.normalExponent` — a whole number that is a double.
* `Decimal.value` — the number that a decimal stands for.

## Main results

* `Decimal.toFloat_eq` — a decimal is read as the double in whose interval it lies.
* `Decimal.ofFloat_toFloat_ne` — what a decimal is read as is a number.
-/

namespace Daybook

namespace Binary64

open Float.Model Float.Model.UnpackedFloat

/-! ## Arithmetic of doubles -/

/-- The parts of a positive double. -/
private theorem unpacked_finite {m : Nat} {e : Int} (hm : 0 < m) :
    (finite false m e).unpacked = .finite .positive m e hm := by
  rw [unpacked, dif_pos hm]
  rfl

/-- The double that is made of positive parts. -/
private theorem ofModel_pack {m : Nat} {e : Int} (hm : 0 < m) :
    Float.ofModel (.pack (.finite .positive m e hm)) = toFloat (finite false m e) := by
  rw [toFloat, unpacked_finite hm]

/-- The product of two doubles is the double in whose interval the exact product lies. -/
theorem float_mul_eq {x y : Float} {m₁ m₂ m : Nat} {e₁ e₂ e : Int}
    (hx : ofFloat x = finite false m₁ e₁) (hy : ofFloat y = finite false m₂ e₂)
    (hbits : leastNormal ≤ m₁) (h₂ : 0 < m₂) (hc : IsCanonical m e) (hm : 0 < m)
    (hv : Nearest m e (m₁ * 2 ^ e₁ * (m₂ * 2 ^ e₂))) : x * y = toFloat (finite false m e) := by
  have h₁ : 0 < m₁ := lt_of_lt_of_le (by decide) hbits
  have hx' := unpack_toModel x
  have hy' := unpack_toModel y
  rw [hx, unpacked_finite h₁] at hx'
  rw [hy, unpacked_finite h₂] at hy'
  show Float.ofModel (.pack (UnpackedFloat.mul _ x.toModel.unpack y.toModel.unpack)) = _
  rw [hx', hy', mul_eq h₁ h₂ hbits hc hm hv, ofModel_pack]

/-- The quotient of two doubles is the double in whose interval the exact quotient lies. -/
theorem float_div_eq {x y : Float} {m₁ m₂ m : Nat} {e₁ e₂ e : Int}
    (hx : ofFloat x = finite false m₁ e₁) (hy : ofFloat y = finite false m₂ e₂)
    (h₁ : 0 < m₁) (h₂ : 0 < m₂) (hc : IsCanonical m e) (hm : 0 < m)
    (hv : Nearest m e (m₁ * 2 ^ e₁ / (m₂ * 2 ^ e₂))) : x / y = toFloat (finite false m e) := by
  have hx' := unpack_toModel x
  have hy' := unpack_toModel y
  rw [hx, unpacked_finite h₁] at hx'
  rw [hy, unpacked_finite h₂] at hy'
  show Float.ofModel (.pack (UnpackedFloat.div _ x.toModel.unpack y.toModel.unpack)) = _
  rw [hx', hy', div_eq h₁ h₂ hc hm hv, ofModel_pack]

/-! ### Results that are numbers -/

/-- Rounding makes a number. -/
private theorem roundWithAccuracy_ne (s : Sign) (m : Nat) (e : Int) (acc : Accuracy) :
    roundWithAccuracy Format.binary64 s m e acc ≠ .notANumber := by
  rw [roundWithAccuracy]
  dsimp only
  split_ifs <;> simp

/-- The product of a finite double and one that is not zero is a number. -/
private theorem float_mul_ne {x y : Float} {m₁ m₂ : Nat} {e₁ e₂ : Int}
    (hx : ofFloat x = finite false m₁ e₁) (hy : ofFloat y = finite false m₂ e₂) (h₂ : 0 < m₂) :
    ofFloat (x * y) ≠ notANumber := by
  show ofFloat (.ofModel (.pack (UnpackedFloat.mul _ x.toModel.unpack y.toModel.unpack))) ≠ _
  refine ofFloat_pack_ne ?_
  rw [unpack_toModel, unpack_toModel, hx, hy, unpacked_finite h₂, unpacked]
  split_ifs
  · exact roundWithAccuracy_ne _ _ _ _
  · exact UnpackedFloat.noConfusion

/-- The quotient of a finite double and one that is not zero is a number. -/
private theorem float_div_ne {x y : Float} {m₁ m₂ : Nat} {e₁ e₂ : Int}
    (hx : ofFloat x = finite false m₁ e₁) (hy : ofFloat y = finite false m₂ e₂) (h₂ : 0 < m₂) :
    ofFloat (x / y) ≠ notANumber := by
  show ofFloat (.ofModel (.pack (UnpackedFloat.div _ x.toModel.unpack y.toModel.unpack))) ≠ _
  refine ofFloat_pack_ne ?_
  rw [unpack_toModel, unpack_toModel, hx, hy, unpacked_finite h₂, unpacked]
  split_ifs
  · exact roundWithAccuracy_ne _ _ _ _
  · exact UnpackedFloat.noConfusion

/-- Arithmetic on whole numbers makes a number. -/
private theorem ofScientific_ne (c : Nat) (k : Int) :
    UnpackedFloat.ofScientific Format.binary64 c k ≠ .notANumber := by
  unfold UnpackedFloat.ofScientific
  split_ifs
  · exact UnpackedFloat.noConfusion
  · exact UnpackedFloat.noConfusion
  · exact UnpackedFloat.noConfusion
  · exact roundWithAccuracy_ne _ _ _ _
  · exact roundWithAccuracy_ne _ _ _ _

/-! ## Whole numbers that are doubles -/

/-- The significand of 53 bits of a whole number that has 53 bits at most. -/
def normalSignificand (n : Nat) : Nat :=
  n * 2 ^ (52 - n.log2)

/-- The exponent of `n * 2 ^ e`, where `n` has 53 bits at most. -/
def normalExponent (n : Nat) (e : Int) : Int :=
  e + n.log2 - 52

/-- The significand and the exponent stand for the same number. -/
theorem normal_value {n : Nat} (hn : 0 < n) (hlt : n < 2 ^ 53) (e : Int) :
    (normalSignificand n : ℚ) * 2 ^ normalExponent n e = n * 2 ^ e := by
  have hlog : n.log2 < 53 := (Nat.log2_lt hn.ne').mpr hlt
  have hexp : ((52 - n.log2 : Nat) : Int) + normalExponent n e = e := by
    rw [normalExponent]
    omega
  rw [normalSignificand, Nat.cast_mul, Nat.cast_pow, Nat.cast_ofNat, ← zpow_natCast, mul_assoc,
    ← zpow_add₀ two_ne_zero, hexp]

/-- The significand has 53 bits. -/
theorem leastNormal_le_normalSignificand {n : Nat} (hn : 0 < n) (hlt : n < 2 ^ 53) :
    leastNormal ≤ normalSignificand n ∧ normalSignificand n < 2 * leastNormal := by
  have hlog : n.log2 < 53 := (Nat.log2_lt hn.ne').mpr hlt
  have h52 : 2 ^ n.log2 * 2 ^ (52 - n.log2) = 2 ^ 52 := by
    rw [← pow_add]
    congr 1
    omega
  have hpos : 0 < 2 ^ (52 - n.log2) := Nat.pow_pos (by decide)
  have hle := Nat.mul_le_mul_right (2 ^ (52 - n.log2)) (Nat.log2_self_le hn.ne')
  have hlt' := Nat.mul_lt_mul_of_pos_right (Nat.lt_log2_self (n := n)) hpos
  rw [pow_succ, mul_assoc, mul_comm 2, ← mul_assoc, h52] at hlt'
  simp only [normalSignificand, leastNormal]
  omega

/-- The double of a whole number that has 53 bits at most. -/
theorem ofFloat_toUInt64_toFloat {c : Nat} (hc : 0 < c) (hlt : c < 2 ^ 53) :
    ofFloat c.toUInt64.toFloat = finite false (normalSignificand c) (normalExponent c 0) := by
  obtain ⟨hle, hlt'⟩ := leastNormal_le_normalSignificand hc hlt
  have hlog : c.log2 < 53 := (Nat.log2_lt hc.ne').mpr hlt
  have hcanon : IsCanonical (normalSignificand c) (normalExponent c 0) :=
    ⟨hlt', by simp only [leastExponent, normalExponent]; omega,
      by simp only [greatestExponent, normalExponent]; omega, .inl hle⟩
  have hpos : 0 < normalSignificand c := lt_of_lt_of_le (by decide) hle
  have hself : Nearest (normalSignificand c) (normalExponent c 0) (c * 2 ^ (0 : Int)) := by
    rw [← normal_value hc hlt]
    exact nearest_self _ _
  have hword : c.toUInt64.toNat = c := by
    rw [Nat.toUInt64_eq, UInt64.toNat_ofNat', Nat.mod_eq_of_lt (by omega)]
  have hround : UnpackedFloat.ofNat Format.binary64 c =
      .finite .positive (normalSignificand c) (normalExponent c 0) hpos := by
    have hgt : compare (c : Int) 0 = .gt := by
      rw [Int.compare_eq_gt]
      omega
    simp only [UnpackedFloat.ofNat, UnpackedFloat.ofInt, UnpackedFloat.normalize, hgt]
    exact round_eq hc hcanon hpos hself _
  have hfloat : c.toUInt64.toFloat =
      .ofModel (.pack (UnpackedFloat.ofNat Format.binary64 c.toUInt64.toNat)) := rfl
  rw [hfloat, hword, hround, ofModel_pack]
  exact unpack_pack (b := finite false _ _) hcanon

/-- The powers of ten that are doubles. -/
private theorem ofFloat_powerOfTen : ∀ (k : Fin 23)
    (h : k.val < Float.exactlyRepresentablePowersOfTen.size),
    ofFloat Float.exactlyRepresentablePowersOfTen[k.val] =
      finite false (normalSignificand (5 ^ k.val)) (normalExponent (5 ^ k.val) k.val) := by
  decide +kernel

/-- The number of a power of ten that is a double. -/
private theorem powerOfTen_value {k : Nat} (hk : k ≤ 22) :
    (normalSignificand (5 ^ k) : ℚ) * 2 ^ normalExponent (5 ^ k) k = 10 ^ k := by
  have hlt : 5 ^ k < 2 ^ 53 := lt_of_le_of_lt (Nat.pow_le_pow_right (by decide) hk) (by decide)
  rw [normal_value (Nat.pow_pos (by decide)) hlt, zpow_natCast]
  push_cast
  rw [← mul_pow]
  norm_num

end Binary64

namespace Decimal

open Binary64 Float.Model Float.Model.UnpackedFloat

/-! ## Decimals -/

/-- The number that a decimal stands for. -/
def value (d : Decimal) : ℚ :=
  d.coefficient * 10 ^ d.exponent

/-- The interval of a double is above zero and below the next power of two. -/
private theorem bounds_of_nearest {m : Nat} {e : Int} {v : ℚ} (hc : IsCanonical m e) (hm : 0 < m)
    (hv : Nearest m e v) : (2 : ℚ) ^ (-1075 : Int) ≤ v ∧ v < 2 ^ (1024 : Int) := by
  have he : (0 : ℚ) < 2 ^ e := zpow_pos two_pos e
  have h1 : (1 : ℚ) ≤ m := by exact_mod_cast hm
  constructor
  · refine le_trans ?_ hv.low
    have hle : (2 : ℚ) ^ (-1074 : Int) ≤ 2 ^ e := zpow_le_zpow_right₀ one_le_two hc.least_le
    calc (2 : ℚ) ^ (-1075 : Int) = 1 / 2 * 2 ^ (-1074 : Int) := by
          rw [show (-1075 : Int) = -1 + -1074 by rfl, zpow_add₀ two_ne_zero, zpow_neg_one, one_div]
      _ ≤ 1 / 2 * 2 ^ e := by linarith
      _ ≤ (m - 1 / 2) * 2 ^ e := mul_le_mul_of_nonneg_right (by linarith) he.le
  · have hle := hc.le_greatest
    simp only [greatestExponent] at hle
    exact lt_of_lt_of_le (hv.lt_zpow hc) (zpow_le_zpow_right₀ one_le_two (by omega))

/-- Powers of ten are further from one than powers of two. -/
private theorem ten_zpow_bounds (k : Int) :
    (0 ≤ k → (2 : ℚ) ^ k ≤ 10 ^ k) ∧ (k ≤ 0 → (10 : ℚ) ^ k ≤ 2 ^ k) := by
  constructor
  · intro hk
    lift k to Nat using hk
    rw [zpow_natCast, zpow_natCast]
    exact pow_le_pow_left₀ zero_le_two (by norm_num) k
  · intro hk
    obtain ⟨n, rfl⟩ : ∃ n : Nat, k = -n := ⟨k.natAbs, by omega⟩
    rw [zpow_neg, zpow_neg, zpow_natCast, zpow_natCast]
    exact inv_anti₀ (pow_pos two_pos n) (pow_le_pow_left₀ zero_le_two (by norm_num) n)

/-- Arithmetic on whole numbers reads a decimal as the double in whose interval it lies. -/
private theorem ofScientific_eq {c m : Nat} {k e : Int} (hc0 : 0 < c) (hc : IsCanonical m e)
    (hm : 0 < m) (hv : Nearest m e (c * 10 ^ k)) :
    UnpackedFloat.ofScientific Format.binary64 c k = .finite .positive m e hm := by
  obtain ⟨hlow, hhigh⟩ := bounds_of_nearest hc hm hv
  have hc1 : (1 : ℚ) ≤ c := by exact_mod_cast hc0
  have hten : (0 : ℚ) < 10 ^ k := zpow_pos (by norm_num) k
  have hnotlarge : ¬ k > 2 ^ 11 := by
    intro hk
    have h2 := (ten_zpow_bounds k).1 (by omega)
    have h3 : (2 : ℚ) ^ (1024 : Int) ≤ 2 ^ k := zpow_le_zpow_right₀ one_le_two (by omega)
    have h4 : (10 : ℚ) ^ k ≤ c * 10 ^ k := le_mul_of_one_le_left hten.le hc1
    linarith
  have hnotsmall : ¬ k < -(2 ^ 11 + (c.log2 : Int)) := by
    intro hk
    have h2 := (ten_zpow_bounds k).2 (by omega)
    have hcq : (c : ℚ) < 2 ^ ((c.log2 : Int) + 1) := by
      rw [← Nat.cast_succ, zpow_natCast]
      exact_mod_cast Nat.lt_log2_self
    have h3 : (c : ℚ) * 10 ^ k < 2 ^ ((c.log2 : Int) + 1) * 2 ^ k :=
      mul_lt_mul hcq h2 hten (zpow_pos two_pos _).le
    rw [← zpow_add₀ two_ne_zero] at h3
    have h4 : (2 : ℚ) ^ ((c.log2 : Int) + 1 + k) ≤ 2 ^ (-1075 : Int) :=
      zpow_le_zpow_right₀ one_le_two (by omega)
    linarith
  unfold UnpackedFloat.ofScientific
  rw [dif_neg hc0.ne', if_neg hnotlarge, if_neg hnotsmall]
  split_ifs with hk
  · have hshift : leastNormal ≤ c <<< 53 := by
      rw [Nat.shiftLeft_eq]
      simp only [leastNormal]
      omega
    refine mul_eq _ _ hshift hc hm ?_
    have hvalue : ((c <<< 53 : Nat) : ℚ) * 2 ^ (-53 : Int) *
        ((10 ^ k.toNat : Nat) * 2 ^ (0 : Int)) = c * 10 ^ k := by
      lift k to Nat using hk
      rw [Nat.shiftLeft_eq, zpow_natCast, Int.toNat_natCast]
      push_cast
      norm_num
      ring
    rw [← hvalue] at hv
    exact hv
  · refine div_eq _ _ hc hm ?_
    have hvalue : (c : ℚ) * 2 ^ (0 : Int) / ((10 ^ (-k).toNat : Nat) * 2 ^ (0 : Int)) =
        c * 10 ^ k := by
      obtain ⟨n, rfl⟩ : ∃ n : Nat, k = -n := ⟨k.natAbs, by omega⟩
      rw [neg_neg, Int.toNat_natCast, zpow_neg, zpow_natCast, zpow_zero]
      push_cast
      rw [mul_one, mul_one, div_eq_mul_inv]
    rw [hvalue]
    exact hv

/-- A decimal is read as the double in whose interval it lies. -/
theorem toFloat_eq {d : Decimal} {m : Nat} {e : Int} (hc : IsCanonical m e) (hm : 0 < m)
    (hv : Nearest m e d.value) : d.toFloat = Binary64.toFloat (finite false m e) := by
  have hc0 : 0 < d.coefficient := by
    have hpos := lt_of_lt_of_le (zpow_pos two_pos _) (bounds_of_nearest hc hm hv).1
    rw [value] at hpos
    exact_mod_cast (pos_iff_pos_of_mul_pos hpos).mpr (zpow_pos (by norm_num) _)
  obtain ⟨c, k⟩ := d
  simp only [value] at hv hc0
  unfold toFloat Float.ofScientific
  dsimp only
  by_cases hfast : c < 2 ^ 53 ∧ k.natAbs ≤ 22
  · -- both the coefficient and the power of ten are doubles
    have hx := ofFloat_toUInt64_toFloat hc0 hfast.1
    have hy := ofFloat_powerOfTen ⟨k.natAbs, by omega⟩ (by
      show k.natAbs < 23
      omega)
    have h₁ := (leastNormal_le_normalSignificand hc0 hfast.1).1
    have h₂ : 0 < normalSignificand (5 ^ k.natAbs) :=
      Nat.mul_pos (Nat.pow_pos (by decide)) (Nat.pow_pos (by decide))
    have hc1 := normal_value hc0 hfast.1 0
    rw [zpow_zero, mul_one] at hc1
    rw [dif_pos hfast]
    split_ifs with hneg
    · have hk : k = -(k.natAbs : Int) := by
        have := of_decide_eq_true hneg
        omega
      refine float_div_eq hx hy (lt_of_lt_of_le (by decide) h₁) h₂ hc hm ?_
      rw [hc1, powerOfTen_value hfast.2, div_eq_mul_inv, ← zpow_natCast, ← zpow_neg, ← hk]
      exact hv
    · have hk : k = (k.natAbs : Int) := by
        have := of_decide_eq_false (eq_false_of_ne_true hneg)
        omega
      refine float_mul_eq hx hy h₁ h₂ hc hm ?_
      rw [hc1, powerOfTen_value hfast.2, ← zpow_natCast, ← hk]
      exact hv
  · rw [dif_neg hfast]
    have hslow : (if decide (k < 0) = true then Int.negOfNat k.natAbs else Int.ofNat k.natAbs) =
        k := by
      split_ifs with hneg
      · have := of_decide_eq_true hneg
        rw [Int.negOfNat_eq]
        show -((k.natAbs : Nat) : Int) = k
        omega
      · have := of_decide_eq_false (eq_false_of_ne_true hneg)
        show ((k.natAbs : Nat) : Int) = k
        omega
    rw [hslow, Float.Model.ofScientific, ofScientific_eq hc0 hc hm hv, ofModel_pack]

/-- What a decimal is read as is a number, however large or small the decimal is. -/
theorem ofFloat_toFloat_ne (d : Decimal) : ofFloat d.toFloat ≠ .notANumber := by
  obtain ⟨c, k⟩ := d
  unfold toFloat Float.ofScientific
  dsimp only
  by_cases hfast : c < 2 ^ 53 ∧ k.natAbs ≤ 22
  · have hx : ∃ m e, ofFloat c.toUInt64.toFloat = finite false m e := by
      obtain rfl | hc := Nat.eq_zero_or_pos c
      · exact ⟨0, leastExponent, by decide⟩
      · exact ⟨_, _, ofFloat_toUInt64_toFloat hc hfast.1⟩
    obtain ⟨m, e, hx⟩ := hx
    have hy := ofFloat_powerOfTen ⟨k.natAbs, by omega⟩ (by
      show k.natAbs < 23
      omega)
    have hpos : 0 < normalSignificand (5 ^ k.natAbs) :=
      Nat.mul_pos (Nat.pow_pos (by decide)) (Nat.pow_pos (by decide))
    rw [dif_pos hfast]
    split_ifs
    · exact float_div_ne hx hy hpos
    · exact float_mul_ne hx hy hpos
  · rw [dif_neg hfast]
    exact ofFloat_pack_ne (ofScientific_ne _ _)

end Decimal

end Daybook
