import Daybook.Proofs.Decimal.Parts

set_option relaxedAutoImplicit false
set_option autoImplicit false

/-!
# Rounding to the nearest double

A product or a quotient of doubles is computed with as many bits as it needs and then rounded. This
file shows that what comes out is the double in whose interval the exact result lies.

## Main definitions

* `Binary64.Represents` — a significand with two further bits stands for a rational number.
* `Binary64.Nearest` — a rational number lies in the interval of a double.

## Main results

* `Binary64.roundWithAccuracy_eq` — a number is rounded to the double in whose interval it lies.
* `Binary64.round_eq`, `Binary64.mul_eq`, `Binary64.div_eq` — so are whole numbers, and exact
  products and quotients.
-/

namespace Daybook.Binary64

open Float.Model Float.Model.UnpackedFloat

/-! ## Significands with two further bits -/

/-- Where a number lies between two whole ones, as the two further bits say it. -/
def Fits : Accuracy → ℚ → Prop
  | .exact, δ => δ = 0
  | .inexact .lt, δ => 0 < δ ∧ δ < 1 / 2
  | .inexact .eq, δ => δ = 1 / 2
  | .inexact .gt, δ => 1 / 2 < δ ∧ δ < 1

/-- A significand with two further bits stands for a rational number. -/
def Represents (em : ExtendedMantissa) (v : ℚ) : Prop :=
  Fits em.accuracy (v - em.mantissa)

/-- What an accuracy describes is not less than zero and less than one. -/
theorem Fits.bounds {acc : Accuracy} {δ : ℚ} (h : Fits acc δ) : 0 ≤ δ ∧ δ < 1 := by
  cases acc with
  | exact =>
    simp only [Fits] at h
    constructor <;> linarith
  | inexact o => cases o <;> simp only [Fits] at h <;> constructor <;> linarith

/-- A significand and its accuracy as a significand with two further bits. -/
theorem represents_ofMantissaAndAccuracy {m : Nat} {acc : Accuracy} {v : ℚ} (h : Fits acc (v - m)) :
    Represents (.ofMantissaAndAccuracy m acc) v := by
  cases acc with
  | exact => exact h
  | inexact o => cases o <;> exact h

/-- Shifting by one bit halves the number. -/
theorem Represents.shiftRightOne {em : ExtendedMantissa} {v : ℚ} (h : Represents em v) :
    Represents em.shiftRightOne (v / 2) := by
  obtain ⟨m, r, s⟩ := em
  have hm : (m : ℚ) = 2 * ((m / 2 : Nat) : ℚ) + ((m % 2 : Nat) : ℚ) := by
    exact_mod_cast (Nat.div_add_mod m 2).symm
  have hbit : m % 2 = 0 ∨ m % 2 = 1 := by omega
  unfold Represents at h ⊢
  simp only [ExtendedMantissa.shiftRightOne]
  -- the bit that is shifted out and the two bits that were there say which half remains
  obtain h0 | h0 := hbit <;> rw [h0] at hm ⊢ <;> push_cast at hm <;> cases r <;> cases s <;>
    simp only [ExtendedMantissa.accuracy, Fits, Nat.reduceBNe, Bool.or_false,
      Bool.or_true] at h ⊢ <;>
    first | linarith | exact ⟨by linarith, by linarith⟩

/-- Shifting by several bits divides the number by a power of two. -/
theorem Represents.shiftRight {em : ExtendedMantissa} {v : ℚ} (h : Represents em v) (n : Nat) :
    Represents (em >>> n) (v / 2 ^ n) := by
  induction n with
  | zero =>
    rw [pow_zero, div_one]
    exact h
  | succ n ih =>
    rw [pow_succ, ← div_div]
    exact ih.shiftRightOne

/-- A number rounds to the whole number that is less than a half away from it, or a half if that
whole number is even. -/
theorem Represents.roundedMantissa_eq {em : ExtendedMantissa} {v : ℚ} {r : Nat}
    (h : Represents em v) (hlow : (r : ℚ) - 1 / 2 ≤ v) (hhigh : v ≤ r + 1 / 2)
    (hodd : r % 2 = 1 → (r : ℚ) - 1 / 2 < v ∧ v < r + 1 / 2) : em.roundedMantissa = r := by
  obtain ⟨hle, hlt⟩ := Fits.bounds h
  have h1 : em.mantissa < r + 1 := by
    exact_mod_cast (by linarith : (em.mantissa : ℚ) < r + 1)
  have h2 : r < em.mantissa + 2 := by
    exact_mod_cast (by linarith : (r : ℚ) < em.mantissa + 2)
  unfold Represents at h
  unfold ExtendedMantissa.roundedMantissa
  have hr : (r : ℚ) = em.mantissa ∨ (r : ℚ) = em.mantissa + 1 := by
    obtain rfl | rfl : r = em.mantissa ∨ r = em.mantissa + 1 := by omega
    · exact .inl rfl
    · exact .inr (by push_cast; rfl)
  have hparity : r % 2 = 0 ∨ r % 2 = 1 := by omega
  cases hacc : em.accuracy with
  | exact =>
    simp only [hacc, Fits] at h
    obtain hr | hr := hr
    · exact_mod_cast hr.symm
    · linarith
  | inexact o =>
    cases o with
    | lt =>
      simp only [hacc, Fits] at h
      obtain hr | hr := hr
      · exact_mod_cast hr.symm
      · linarith
    | eq =>
      -- a tie, which an odd number does not win
      simp only [hacc, Fits] at h
      have heven : r % 2 = 0 := hparity.resolve_right fun h1 => by
        have := hodd h1
        obtain hr | hr := hr <;> linarith
      simp only [Accuracy.roundToNearestEven]
      obtain hr | hr := hr
      · have : r = em.mantissa := by exact_mod_cast hr
        omega
      · have : r = em.mantissa + 1 := by exact_mod_cast hr
        omega
    | gt =>
      simp only [hacc, Fits] at h
      simp only [Accuracy.roundToNearestEven]
      obtain hr | hr := hr
      · linarith
      · exact_mod_cast hr.symm

/-! ## The exponent of a number -/

/-- The least exponent in the form in which the format has it. -/
private theorem minExponent_eq : Format.binary64.minExponent = -1074 := by
  decide

/-- The exponent that a significand and an exponent are brought to. -/
private theorem targetExponent_eq (m : Nat) (e : Int) :
    Format.binary64.targetExponent (totalExponent m e) = max (m.log2 + e - 52) (-1074) := by
  rw [Format.targetExponent, minExponent_eq, totalExponent]
  simp only [Format.mantissaBits]
  omega

/-- Powers of two grow with their exponents. -/
private theorem lt_of_zpow_lt {a b : Int} (h : (2 : ℚ) ^ a < 2 ^ b) : a < b :=
  (zpow_lt_zpow_iff_right₀ one_lt_two).mp h

/-- A whole number lies between two powers of two. -/
private theorem log2_bounds (m : Nat) :
    (0 < m → (2 : ℚ) ^ (m.log2 : Int) ≤ m) ∧ (m : ℚ) + 1 ≤ 2 ^ ((m.log2 : Int) + 1) := by
  constructor
  · intro hm
    rw [zpow_natCast]
    exact_mod_cast Nat.log2_self_le hm.ne'
  · have h : m + 1 ≤ 2 ^ (m.log2 + 1) := Nat.lt_log2_self
    rw [← Nat.cast_succ, ← Nat.cast_succ, zpow_natCast]
    exact_mod_cast h

/-- A number lies in the interval of the double `m * 2 ^ e`: it is at most half the distance to a
neighbour away from it, and less if `m` is odd. The neighbour below a power of two is nearer. -/
structure Nearest (m : Nat) (e : Int) (v : ℚ) : Prop where
  low : ((m : ℚ) - 1 / 2) * 2 ^ e ≤ v
  high : v ≤ (m + 1 / 2) * 2 ^ e
  odd : m % 2 = 1 → ((m : ℚ) - 1 / 2) * 2 ^ e < v ∧ v < (m + 1 / 2) * 2 ^ e
  narrow : m = leastNormal → leastExponent < e → ((m : ℚ) - 1 / 4) * 2 ^ e ≤ v

/-- The number of a double is in its own interval. -/
theorem nearest_self (m : Nat) (e : Int) : Nearest m e (m * 2 ^ e) := by
  have hpos : (0 : ℚ) < 2 ^ e := zpow_pos two_pos e
  refine ⟨?_, ?_, fun _ => ⟨?_, ?_⟩, fun _ _ => ?_⟩ <;> nlinarith

section Bounds

variable {M : Nat} {E : Int} {acc : Accuracy} {v : ℚ}

/-- A number that a significand stands for is not less than the significand, and less than the power
of two above it. -/
private theorem Fits.value_bounds (hacc : Fits acc (v / 2 ^ E - M)) :
    (M : ℚ) * 2 ^ E ≤ v ∧ v < 2 ^ ((M.log2 : Int) + 1 + E) := by
  have hE : (0 : ℚ) < 2 ^ E := zpow_pos two_pos E
  obtain ⟨hle, hlt⟩ := hacc.bounds
  obtain ⟨-, hlog⟩ := log2_bounds M
  constructor
  · rw [← le_div_iff₀ hE]
    linarith
  · rw [zpow_add₀ two_ne_zero, ← div_lt_iff₀ hE]
    linarith

/-- Where a number is less than a power of two, so is the significand that stands for it. -/
private theorem Fits.log2_lt (hacc : Fits acc (v / 2 ^ E - M)) {k : Int} (hk : v < 2 ^ k) :
    M.log2 + E < k ∨ M = 0 := by
  rcases Nat.eq_zero_or_pos M with h0 | hpos
  · exact .inr h0
  · refine .inl (lt_of_zpow_lt (lt_of_le_of_lt ?_ hk))
    rw [zpow_add₀ two_ne_zero]
    exact le_trans (mul_le_mul_of_nonneg_right ((log2_bounds M).1 hpos) (zpow_pos two_pos E).le)
      hacc.value_bounds.1

/-- Where a number is not less than a power of two, neither is the significand that stands for
it. -/
private theorem Fits.lt_log2 (hacc : Fits acc (v / 2 ^ E - M)) {k : Int} (hk : 2 ^ k ≤ v) :
    k < M.log2 + 1 + E :=
  lt_of_zpow_lt (lt_of_le_of_lt hk hacc.value_bounds.2)

/-- Only the least of the normal significands has numbers in its interval that need one bit less. -/
private theorem Nearest.eq_leastNormal {m : Nat} {e : Int} (hv : Nearest m e v)
    (hnormal : leastNormal ≤ m) (hlt : v < 2 ^ (52 + e)) : m = leastNormal := by
  have he : (0 : ℚ) < 2 ^ e := zpow_pos two_pos e
  rw [zpow_add₀ two_ne_zero] at hlt
  have h := lt_of_mul_lt_mul_right (lt_of_le_of_lt hv.low hlt) he.le
  have h52 : (2 : ℚ) ^ (52 : Int) = 2 ^ 52 := by norm_cast
  have : m < 2 ^ 52 + 1 := by exact_mod_cast (by linarith : (m : ℚ) < 2 ^ 52 + 1)
  simp only [leastNormal] at hnormal ⊢
  omega

/-- A number in the interval of a double needs no more than 53 bits. -/
theorem Nearest.lt_zpow {m : Nat} {e : Int} (hc : IsCanonical m e) (hv : Nearest m e v) :
    v < 2 ^ (53 + e) := by
  have he : (0 : ℚ) < 2 ^ e := zpow_pos two_pos e
  have hm : (m : ℚ) + 1 ≤ 2 ^ 53 := by
    have := hc.significand_lt
    simp only [leastNormal] at this
    exact_mod_cast (by omega : m + 1 ≤ 2 ^ 53)
  have h53 : (2 : ℚ) ^ (53 : Int) = 2 ^ 53 := by norm_cast
  rw [zpow_add₀ two_ne_zero]
  exact lt_of_le_of_lt hv.high (mul_lt_mul_of_pos_right (by linarith) he)

/-- A number is brought to the exponent of the double in whose interval it lies, or to the one below
if it is a little less than a power of two. -/
private theorem targetExponent_of_nearest {m : Nat} {e : Int} (hacc : Fits acc (v / 2 ^ E - M))
    (hbits : E ≤ max (M.log2 + E - 52) (-1074)) (hc : IsCanonical m e) (hv : Nearest m e v) :
    max (M.log2 + E - 52) (-1074) = e ∨
      max (M.log2 + E - 52) (-1074) = e - 1 ∧ m = leastNormal ∧ leastExponent < e ∧
        v < m * 2 ^ e := by
  have hzero : M = 0 → E ≤ -1074 := by
    rintro rfl
    have : Nat.log2 0 = 0 := by decide
    rw [this] at hbits
    omega
  have hzero' : M = 0 → M.log2 = 0 := by
    rintro rfl
    decide
  have htop : M.log2 + E < 53 + e ∨ M = 0 := hacc.log2_lt (hv.lt_zpow hc)
  have hleast := hc.least_le
  simp only [leastExponent] at hleast ⊢
  obtain hnormal | hsub := hc.normal
  · by_cases hge : (2 : ℚ) ^ (52 + e) ≤ v
    · have := hacc.lt_log2 hge
      left
      omega
    rw [not_le] at hge
    have hlt' := hacc.log2_lt hge
    have hm52 : m = leastNormal := hv.eq_leastNormal hnormal hge
    by_cases hsub : e = -1074
    · left
      omega
    right
    have hnarrow := hv.narrow hm52 (by simp only [leastExponent]; omega)
    have hmq : (m : ℚ) = 2 ^ 52 := by
      rw [hm52]
      norm_num [leastNormal]
    have := hacc.lt_log2 (show (2 : ℚ) ^ (51 + e) ≤ v by
      rw [zpow_add₀ two_ne_zero]
      refine le_trans (mul_le_mul_of_nonneg_right ?_ (zpow_pos two_pos e).le) hnarrow
      rw [hmq]
      norm_num)
    refine ⟨by omega, hm52, by omega, ?_⟩
    rw [hmq]
    rw [zpow_add₀ two_ne_zero] at hge
    exact_mod_cast hge
  · simp only [leastExponent] at hsub
    left
    omega

end Bounds

/-! ## Rounding -/

/-- Bringing a significand to its exponent where that is not greater. -/
private theorem shiftToTargetExponent_self {m : Nat} {e : Int} (hc : IsCanonical m e) :
    (shiftToTargetExponent Format.binary64 m e .exact).1.mantissa = m ∧
      (shiftToTargetExponent Format.binary64 m e .exact).2 = e := by
  have hlog : m.log2 ≤ 52 := by
    rcases Nat.eq_zero_or_pos m with rfl | hm
    · decide
    · have := (Nat.log2_lt (n := m) (k := 53) hm.ne').mpr hc.significand_lt
      omega
  have hleast := hc.least_le
  simp only [leastExponent] at hleast
  have hzero : (max ((m.log2 : Int) + e - 52) (-1074) - e).toNat = 0 := by omega
  simp only [shiftToTargetExponent, shiftToExponent, targetExponent_eq, hzero]
  exact ⟨rfl, by simp⟩

/-- Bringing a significand of one bit too many to its exponent. -/
private theorem shiftToTargetExponent_carry {e : Int} (he : leastExponent < e) :
    (shiftToTargetExponent Format.binary64 (2 * leastNormal) (e - 1) .exact).1.mantissa =
        leastNormal ∧
      (shiftToTargetExponent Format.binary64 (2 * leastNormal) (e - 1) .exact).2 = e := by
  have hlog : (2 * leastNormal).log2 = 53 := by decide
  simp only [leastExponent] at he
  have hone : (max ((53 : Nat) + (e - 1) - 52) (-1074) - (e - 1)).toNat = 1 := by omega
  simp only [shiftToTargetExponent, shiftToExponent, targetExponent_eq, hlog, hone]
  exact ⟨rfl, by simp⟩

/-- A number that is brought to the exponent of its double rounds to the significand. -/
private theorem Represents.roundedMantissa_of_nearest {em : ExtendedMantissa} {m : Nat} {e : Int}
    {v : ℚ} (h : Represents em (v / 2 ^ e)) (hv : Nearest m e v) : em.roundedMantissa = m := by
  have he : (0 : ℚ) < 2 ^ e := zpow_pos two_pos e
  refine h.roundedMantissa_eq ?_ ?_ fun hodd => ⟨?_, ?_⟩
  · exact (le_div_iff₀ he).mpr hv.low
  · exact (div_le_iff₀ he).mpr hv.high
  · exact (lt_div_iff₀ he).mpr (hv.odd hodd).1
  · exact (div_lt_iff₀ he).mpr (hv.odd hodd).2

/-- A number a little less than a power of two, brought to the exponent below, rounds to one bit
more. -/
private theorem Represents.roundedMantissa_of_carry {em : ExtendedMantissa} {e : Int} {v : ℚ}
    (h : Represents em (v / 2 ^ (e - 1))) (hv : Nearest leastNormal e v) (hlt : leastExponent < e)
    (hless : v < leastNormal * 2 ^ e) : em.roundedMantissa = 2 * leastNormal := by
  have he : (0 : ℚ) < 2 ^ e := zpow_pos two_pos e
  have hdouble : v / 2 ^ (e - 1) = 2 * (v / 2 ^ e) := by
    rw [zpow_sub_one₀ two_ne_zero]
    field_simp
  have hlow := (le_div_iff₀ he).mpr (hv.narrow rfl hlt)
  have hhigh := (div_lt_iff₀ he).mpr hless
  have hmq : ((2 * leastNormal : Nat) : ℚ) = 2 * leastNormal := by
    push_cast
    rfl
  rw [hdouble] at h
  refine h.roundedMantissa_eq ?_ ?_ fun hodd => absurd hodd (by decide)
  · rw [hmq]
    linarith
  · rw [hmq]
    linarith

/-- A number that is given by a significand with enough bits, an exponent and an accuracy is rounded
to the double in whose interval it lies. -/
theorem roundWithAccuracy_eq {M m : Nat} {E e : Int} {acc : Accuracy} {v : ℚ}
    (hacc : Fits acc (v / 2 ^ E - M)) (hbits : E ≤ max (M.log2 + E - 52) (-1074))
    (hc : IsCanonical m e) (hm : 0 < m) (hv : Nearest m e v) (s : Sign) :
    roundWithAccuracy Format.binary64 s M E acc = .finite s m e hm := by
  set te := max ((M.log2 : Int) + E - 52) (-1074) with hte
  set em := ExtendedMantissa.ofMantissaAndAccuracy M acc >>> (te - E).toNat with hem
  have hrep : Represents em (v / 2 ^ te) := by
    have h := (represents_ofMantissaAndAccuracy hacc).shiftRight (te - E).toNat
    rw [div_div, ← zpow_natCast, ← zpow_add₀ two_ne_zero, Int.toNat_of_nonneg (by omega)] at h
    simpa using h
  have hfirst : shiftToTargetExponent Format.binary64 M E acc = (em, te) := by
    simp only [shiftToTargetExponent, shiftToExponent, targetExponent_eq, ← hte, ← hem]
    rw [Int.toNat_of_nonneg (by omega)]
    simp
  -- the second shift undoes a carry into one bit more
  have hsecond :
      (shiftToTargetExponent Format.binary64 em.roundedMantissa te .exact).1.mantissa = m ∧
      (shiftToTargetExponent Format.binary64 em.roundedMantissa te .exact).2 = e := by
    obtain h | ⟨h, rfl, hlt, hless⟩ := targetExponent_of_nearest hacc hbits hc hv
    · rw [← hte] at h
      rw [h] at hrep ⊢
      rw [hrep.roundedMantissa_of_nearest hv]
      exact shiftToTargetExponent_self hc
    · rw [← hte] at h
      rw [h] at hrep ⊢
      rw [hrep.roundedMantissa_of_carry hv hlt hless]
      exact shiftToTargetExponent_carry hlt
  unfold roundWithAccuracy
  simp only [hfirst]
  obtain ⟨h1, h2⟩ := hsecond
  simp only [h1, h2, dif_neg hm.ne']

/-- The length of a whole number shifted to the left. -/
private theorem log2_shiftLeft {n : Nat} (hn : 0 < n) (k : Nat) :
    (n <<< k).log2 = n.log2 + k := by
  rw [Nat.shiftLeft_eq, Nat.log2_eq_iff (Nat.mul_pos hn (Nat.pow_pos (by decide))).ne', pow_add,
    Nat.add_right_comm, pow_add]
  exact ⟨Nat.mul_le_mul_right _ (Nat.log2_self_le hn.ne'),
    Nat.mul_lt_mul_of_pos_right Nat.lt_log2_self (Nat.pow_pos (by decide))⟩

/-- A whole number times a power of two is rounded to the double in whose interval it lies. -/
theorem round_eq {n m : Nat} {e₀ e : Int} (hn : 0 < n) (hc : IsCanonical m e) (hm : 0 < m)
    (hv : Nearest m e (n * 2 ^ e₀)) (s : Sign) :
    UnpackedFloat.round Format.binary64 s n e₀ = .finite s m e hm := by
  simp only [UnpackedFloat.round, decreaseExponent, targetExponent_eq]
  set k := (e₀ - max ((n.log2 : Int) + e₀ - 52) (-1074)).toNat with hk
  have hpos : (0 : ℚ) < 2 ^ (e₀ - k) := zpow_pos two_pos _
  have hshift : ((n <<< k : Nat) : ℚ) * 2 ^ (e₀ - k) = n * 2 ^ e₀ := by
    rw [Nat.shiftLeft_eq, Nat.cast_mul, Nat.cast_pow, Nat.cast_ofNat, ← zpow_natCast, mul_assoc,
      ← zpow_add₀ two_ne_zero, add_sub_cancel]
  refine roundWithAccuracy_eq ?_ ?_ hc hm hv s
  · rw [← hshift, mul_div_cancel_right₀ _ hpos.ne']
    exact sub_self _
  · rw [log2_shiftLeft hn]
    omega

/-! ## Products and quotients -/

/-- A product is rounded to the double in whose interval it lies, provided that it is given with
enough bits. -/
theorem mul_eq {m₁ m₂ m : Nat} {e₁ e₂ e : Int} (h₁ : 0 < m₁) (h₂ : 0 < m₂)
    (hbits : leastNormal ≤ m₁) (hc : IsCanonical m e) (hm : 0 < m)
    (hv : Nearest m e (m₁ * 2 ^ e₁ * (m₂ * 2 ^ e₂))) :
    UnpackedFloat.mul Format.binary64 (.finite .positive m₁ e₁ h₁) (.finite .positive m₂ e₂ h₂) =
      .finite .positive m e hm := by
  have hpos : (0 : ℚ) < 2 ^ (e₁ + e₂) := zpow_pos two_pos _
  have hlog : 52 ≤ (m₁ * m₂).log2 := by
    rw [Nat.le_log2 (Nat.mul_pos h₁ h₂).ne']
    exact le_trans hbits (Nat.le_mul_of_pos_right m₁ h₂)
  refine roundWithAccuracy_eq ?_ (by omega) hc hm hv _
  have : (m₁ : ℚ) * 2 ^ e₁ * (m₂ * 2 ^ e₂) = (m₁ * m₂ : Nat) * 2 ^ (e₁ + e₂) := by
    rw [zpow_add₀ two_ne_zero]
    push_cast
    ring
  rw [this, mul_div_cancel_right₀ _ hpos.ne']
  exact sub_self _

/-- What remains of a division, as an accuracy. -/
private theorem fits_accuracyOfFraction {r d : Nat} (hd : 0 < d) (hr : r < d) :
    Fits (accuracyOfFraction r d) (r / d) := by
  have hd' : (0 : ℚ) < d := by exact_mod_cast hd
  have hr' : (r : ℚ) < d := by exact_mod_cast hr
  unfold accuracyOfFraction
  split_ifs with h0
  · rw [h0]
    simp [Fits]
  · have hpos : (0 : ℚ) < r := by exact_mod_cast Nat.pos_of_ne_zero h0
    rcases h : compare (2 * r) d with _ | _ | _
    · have hlt : ((2 * r : Nat) : ℚ) < d := by exact_mod_cast Nat.compare_eq_lt.mp h
      push_cast at hlt
      exact ⟨div_pos hpos hd', by rw [div_lt_div_iff₀ hd' two_pos]; linarith⟩
    · have heq : ((2 * r : Nat) : ℚ) = d := by exact_mod_cast Nat.compare_eq_eq.mp h
      push_cast at heq
      show (r : ℚ) / d = 1 / 2
      rw [div_eq_div_iff hd'.ne' two_ne_zero]
      linarith
    · have hgt : (d : ℚ) < (2 * r : Nat) := by exact_mod_cast Nat.compare_eq_gt.mp h
      push_cast at hgt
      exact ⟨by rw [div_lt_div_iff₀ two_pos hd']; linarith, by rw [div_lt_iff₀ hd']; linarith⟩

/-- A quotient is rounded to the double in whose interval it lies. -/
theorem div_eq {m₁ m₂ m : Nat} {e₁ e₂ e : Int} (h₁ : 0 < m₁) (h₂ : 0 < m₂)
    (hc : IsCanonical m e) (hm : 0 < m) (hv : Nearest m e (m₁ * 2 ^ e₁ / (m₂ * 2 ^ e₂))) :
    UnpackedFloat.div Format.binary64 (.finite .positive m₁ e₁ h₁) (.finite .positive m₂ e₂ h₂) =
      .finite .positive m e hm := by
  set a := totalExponent m₁ e₁ - totalExponent m₂ e₂ with ha
  set te := min (e₁ - e₂) (Format.binary64.targetExponent a) with hte
  set n := (e₁ - e₂ - te).toNat with hn
  have hshift : (n : Int) = e₁ - e₂ - te := Int.toNat_of_nonneg (by omega)
  have h₂' : (0 : ℚ) < m₂ := by exact_mod_cast h₂
  -- the shifted dividend is its quotient times the divisor and the remainder
  have hdivision : ((m₁ <<< n : Nat) : ℚ) = m₂ * (m₁ <<< n / m₂ : Nat) + (m₁ <<< n % m₂ : Nat) := by
    exact_mod_cast (Nat.div_add_mod (m₁ <<< n) m₂).symm
  have hquotient : (m₁ : ℚ) * 2 ^ e₁ / (m₂ * 2 ^ e₂) / 2 ^ te = (m₁ <<< n : Nat) / m₂ := by
    have hpow : (2 : ℚ) ^ n = 2 ^ e₁ / 2 ^ e₂ / 2 ^ te := by
      rw [← zpow_natCast, hshift, zpow_sub₀ two_ne_zero, zpow_sub₀ two_ne_zero]
    rw [Nat.shiftLeft_eq]
    push_cast
    rw [hpow]
    field_simp
  have hfits : Fits (accuracyOfFraction (m₁ <<< n % m₂) m₂)
      ((m₁ : ℚ) * 2 ^ e₁ / (m₂ * 2 ^ e₂) / 2 ^ te - (m₁ <<< n / m₂ : Nat)) := by
    have hrest : ((m₁ <<< n : Nat) : ℚ) / m₂ - (m₁ <<< n / m₂ : Nat) =
        (m₁ <<< n % m₂ : Nat) / m₂ := by
      rw [hdivision]
      field_simp
      ring
    rw [hquotient, hrest]
    exact fits_accuracyOfFraction h₂ (Nat.mod_lt _ h₂)
  have hbits : te ≤ max (((m₁ <<< n / m₂).log2 : Int) + te - 52) (-1074) := by
    rcases le_or_gt te (-1074) with hsmall | hlarge
    · omega
    have htarget : te ≤ a - 53 := by
      have : Format.binary64.targetExponent a = max (a - 53) (-1074) := by
        rw [Format.targetExponent, minExponent_eq]
        rfl
      omega
    simp only [ha, totalExponent] at htarget
    have hlen : m₂.log2 + 53 ≤ m₁.log2 + n := by omega
    have hq : 2 ^ 52 ≤ m₁ <<< n / m₂ := by
      rw [Nat.le_div_iff_mul_le h₂, Nat.shiftLeft_eq]
      calc 2 ^ 52 * m₂ ≤ 2 ^ 52 * 2 ^ (m₂.log2 + 1) :=
            Nat.mul_le_mul_left _ Nat.lt_log2_self.le
        _ = 2 ^ (m₂.log2 + 53) := by rw [← pow_add, Nat.add_comm, Nat.add_assoc]
        _ ≤ 2 ^ (m₁.log2 + n) := Nat.pow_le_pow_right (by decide) hlen
        _ = 2 ^ m₁.log2 * 2 ^ n := pow_add _ _ _
        _ ≤ m₁ * 2 ^ n := Nat.mul_le_mul_right _ (Nat.log2_self_le h₁.ne')
    have := (Nat.le_log2 (n := m₁ <<< n / m₂) (by omega)).mpr hq
    omega
  exact roundWithAccuracy_eq hfits hbits hc hm hv _

end Daybook.Binary64
