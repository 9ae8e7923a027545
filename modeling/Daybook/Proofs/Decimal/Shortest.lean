import Daybook.Decimal.Shortest
import Daybook.Proofs.Decimal.Reading

set_option relaxedAutoImplicit false
set_option autoImplicit false

/-!
# The shortest decimal is read back

The decimal that is written for a double lies in the interval of the double, and so it is read as
this double again.

## Main definitions

* `RoundingInterval.Holds` — a rational number lies in an interval.

## Main results

* `RoundingInterval.holds_coarsestPoint` — the search ends with a point of the interval.
* `nearest_shortestDecimal` — the shortest decimal lies in the interval of its double.
* `toFloat_shortestDecimal` — it is read as its double.
-/

namespace Daybook

open Binary64

namespace RoundingInterval

/-! ## Points of an interval -/

/-- A rational number lies in an interval. -/
def Holds (i : RoundingInterval) (v : ℚ) : Prop :=
  if i.closed then (i.low : ℚ) ≤ v * i.denominator ∧ v * i.denominator ≤ i.high
  else (i.low : ℚ) < v * i.denominator ∧ v * i.denominator < i.high

/-- The whole number nearest to the centre is in the interval. -/
theorem contains_of_nearestWhole {i : RoundingInterval} {n : Nat} (h : i.nearestWhole = some n) :
    i.contains (n * i.denominator) = true := by
  unfold nearestWhole at h
  dsimp only at h
  split at h
  next => cases h
  next hb _ =>
    obtain rfl := Option.some.inj h
    exact hb
  next _ ha =>
    obtain rfl := Option.some.inj h
    exact ha
  next hb ha =>
    split_ifs at h <;> obtain rfl := Option.some.inj h
    · exact hb
    · exact ha

/-- A whole number in units of `10 ^ k`. -/
theorem holds_of_contains {i : RoundingInterval} {k : Int} {n : Nat}
    (h : (i.inUnits k).contains (n * (i.inUnits k).denominator) = true) :
    i.Holds (n * 10 ^ k) := by
  have hten : ((10 : ℚ) ^ k) * (10 ^ (-k).toNat : Nat) = (10 ^ k.toNat : Nat) := by
    push_cast
    rw [← zpow_natCast, ← zpow_natCast, ← zpow_add₀ (by norm_num)]
    congr 1
    omega
  have hpos : (0 : ℚ) < (10 ^ (-k).toNat : Nat) := by positivity
  have hscale : ((n * (i.inUnits k).denominator : Nat) : ℚ) =
      n * 10 ^ k * i.denominator * (10 ^ (-k).toNat : Nat) := by
    simp only [inUnits, Nat.pow_eq, Nat.cast_mul, ← hten]
    ring
  have hlow : (((i.inUnits k).low : Nat) : ℚ) = i.low * (10 ^ (-k).toNat : Nat) := Nat.cast_mul _ _
  have hhigh : (((i.inUnits k).high : Nat) : ℚ) = i.high * (10 ^ (-k).toNat : Nat) :=
    Nat.cast_mul _ _
  unfold contains at h
  unfold Holds
  by_cases hclosed : i.closed = true
  · rw [if_pos (show (i.inUnits k).closed = true from hclosed), Bool.and_eq_true,
      decide_eq_true_eq, decide_eq_true_eq] at h
    have h1 : ((i.inUnits k).low : ℚ) ≤ (n * (i.inUnits k).denominator : Nat) := Nat.cast_le.mpr h.1
    have h2 : ((n * (i.inUnits k).denominator : Nat) : ℚ) ≤ (i.inUnits k).high :=
      Nat.cast_le.mpr h.2
    rw [hscale, hlow] at h1
    rw [hscale, hhigh] at h2
    rw [if_pos hclosed]
    exact ⟨le_of_mul_le_mul_right h1 hpos, le_of_mul_le_mul_right h2 hpos⟩
  · rw [if_neg (show ¬ (i.inUnits k).closed = true from hclosed), Bool.and_eq_true,
      decide_eq_true_eq, decide_eq_true_eq] at h
    have h1 : ((i.inUnits k).low : ℚ) < (n * (i.inUnits k).denominator : Nat) := Nat.cast_lt.mpr h.1
    have h2 : ((n * (i.inUnits k).denominator : Nat) : ℚ) < (i.inUnits k).high :=
      Nat.cast_lt.mpr h.2
    rw [hscale, hlow] at h1
    rw [hscale, hhigh] at h2
    rw [if_neg hclosed]
    exact ⟨lt_of_mul_lt_mul_right h1 hpos.le, lt_of_mul_lt_mul_right h2 hpos.le⟩

/-- The point of a grid is in the interval. -/
theorem holds_of_pointOn {i : RoundingInterval} {k : Int} {d : Decimal} (h : i.pointOn k = some d) :
    i.Holds d.value := by
  rw [pointOn, Option.map_eq_some_iff] at h
  obtain ⟨n, hn, rfl⟩ := h
  exact holds_of_contains (contains_of_nearestWhole hn)

/-- The search for a point ends with one, provided that the last grid has one where it is looked
for. -/
theorem holds_coarsestPoint (i : RoundingInterval) (tries : Nat) (k : Int)
    (hlast : i.Holds (i.coarsestPoint 0 (k - tries)).value) :
    i.Holds (i.coarsestPoint tries k).value := by
  induction tries generalizing k with
  | zero => simpa using hlast
  | succ tries ih =>
    rw [coarsestPoint]
    cases h : i.pointOn k with
    | none =>
      refine ih (k - 1) ?_
      rw [show k - 1 - (tries : Int) = k - (tries + 1 : Nat) by push_cast; ring]
      exact hlast
    | some d => exact holds_of_pointOn h

/-! ## The interval of a double -/

/-- The two scales of an interval make up a power of two. -/
private theorem scale_eq (e : Int) :
    ((Nat.pow 2 (e - 2).toNat : Nat) : ℚ) = 2 ^ e / 4 * (Nat.pow 2 (2 - e).toNat : Nat) := by
  have h4 : (4 : ℚ) = 2 ^ (2 : Int) := by norm_num
  simp only [Nat.pow_eq]
  push_cast
  rw [h4, ← zpow_sub₀ two_ne_zero, ← zpow_natCast, ← zpow_natCast, ← zpow_add₀ two_ne_zero]
  congr 1
  omega

/-- A number lies in the interval that is made for a double exactly if it is between the two points
that are half way to the neighbours, or on one of them if the significand is even. -/
theorem holds_ofParts_iff {m : Nat} {e : Int} {v : ℚ} (hm : 0 < m) :
    (ofParts m e).Holds v ↔
      let below : ℚ := if m = leastNormal ∧ leastExponent < e then 1 else 2
      if m % 2 = 0 then (4 * m - below) * (2 ^ e / 4) ≤ v ∧ v ≤ (4 * m + 2) * (2 ^ e / 4)
      else (4 * m - below) * (2 ^ e / 4) < v ∧ v < (4 * m + 2) * (2 ^ e / 4) := by
  have hden : (0 : ℚ) < (Nat.pow 2 (2 - e).toNat : Nat) := by
    simp only [Nat.pow_eq]
    positivity
  have hbelow : ((4 * m - (if m = leastNormal ∧ leastExponent < e then 1 else 2) : Nat) : ℚ) =
      4 * m - (if m = leastNormal ∧ leastExponent < e then 1 else 2 : ℚ) := by
    split_ifs <;> rw [Nat.cast_sub (by omega)] <;> push_cast <;> rfl
  have hlow : ((ofParts m e).low : ℚ) =
      (4 * m - (if m = leastNormal ∧ leastExponent < e then 1 else 2 : ℚ)) * (2 ^ e / 4) *
        (Nat.pow 2 (2 - e).toNat : Nat) := by
    rw [mul_assoc, ← scale_eq, ← hbelow]
    exact Nat.cast_mul _ _
  have hhigh : ((ofParts m e).high : ℚ) =
      (4 * m + 2) * (2 ^ e / 4) * (Nat.pow 2 (2 - e).toNat : Nat) := by
    rw [mul_assoc, ← scale_eq]
    simp only [ofParts]
    push_cast
    rfl
  have hclosed : (ofParts m e).closed = true ↔ m % 2 = 0 := beq_iff_eq
  unfold Holds
  dsimp only
  rw [hlow, hhigh, show (ofParts m e).denominator = Nat.pow 2 (2 - e).toNat from rfl]
  by_cases hpar : m % 2 = 0
  · rw [if_pos (hclosed.mpr hpar), if_pos hpar, mul_le_mul_iff_left₀ hden,
      mul_le_mul_iff_left₀ hden]
  · rw [if_neg (fun h => hpar (hclosed.mp h)), if_neg hpar, mul_lt_mul_iff_left₀ hden,
      mul_lt_mul_iff_left₀ hden]

/-- A number in the interval that is made for a double lies in the interval of the double. -/
theorem nearest_of_holds {m : Nat} {e : Int} {v : ℚ} (hm : 0 < m) (h : (ofParts m e).Holds v) :
    Nearest m e v := by
  have he : (0 : ℚ) < 2 ^ e := zpow_pos two_pos e
  have hquarter : (2 : ℚ) ^ e / 4 * 4 = 2 ^ e := div_mul_cancel₀ _ four_ne_zero
  rw [holds_ofParts_iff hm] at h
  dsimp only at h
  generalize (2 : ℚ) ^ e / 4 = q at h hquarter
  rw [← hquarter] at he
  have hq : 0 < q := by linarith
  constructor
  · rw [← hquarter]
    split_ifs at h <;> nlinarith
  · rw [← hquarter]
    split_ifs at h <;> nlinarith
  · intro hodd
    rw [← hquarter]
    rw [if_neg (by omega)] at h
    split_ifs at h <;> constructor <;> nlinarith
  · intro hleast hexp
    rw [← hquarter]
    have hbelow : m = leastNormal ∧ leastExponent < e := ⟨hleast, hexp⟩
    simp only [if_pos hbelow] at h
    split_ifs at h <;> nlinarith

/-- The number of a double lies in the interval that is made for it. -/
theorem holds_self {m : Nat} (e : Int) (hm : 0 < m) : (ofParts m e).Holds (m * 2 ^ e) := by
  have he : (0 : ℚ) < 2 ^ e := zpow_pos two_pos e
  rw [holds_ofParts_iff hm]
  dsimp only
  split_ifs <;> constructor <;> nlinarith

/-- The last grid has a point at the number of the double. -/
theorem value_coarsestPoint_zero {m : Nat} (e : Int) :
    ((ofParts m e).coarsestPoint 0 (-((-e).toNat : Int))).value = m * 2 ^ e := by
  set n := (-e).toNat with hn
  have hup : (- -(n : Int)).toNat = n := by omega
  have hdown : (-(n : Int)).toNat = 0 := by omega
  have hexact : 4 * m * 2 ^ (e - 2).toNat * 10 ^ n =
      2 ^ (2 - e).toNat * 10 ^ 0 * (m * 2 ^ e.toNat * 5 ^ n) := by
    have hexp : 2 + (e - 2).toNat + n = (2 - e).toNat + e.toNat := by omega
    calc 4 * m * 2 ^ (e - 2).toNat * 10 ^ n = m * 2 ^ (2 + (e - 2).toNat + n) * 5 ^ n := by
          rw [show (10 : Nat) = 2 * 5 from rfl, mul_pow, pow_add, pow_add]
          ring
      _ = 2 ^ (2 - e).toNat * 10 ^ 0 * (m * 2 ^ e.toNat * 5 ^ n) := by
          rw [hexp, pow_add]
          ring
  have hpoint : (ofParts m e).coarsestPoint 0 (-(n : Int)) =
      ⟨m * 2 ^ e.toNat * 5 ^ n, -(n : Int)⟩ := by
    simp only [coarsestPoint, inUnits, ofParts, Nat.pow_eq, hup, hdown]
    rw [hexact, Nat.mul_div_cancel_left _ (by positivity)]
  rw [hpoint, Decimal.value]
  push_cast
  have hfive : (5 : ℚ) ^ n * 10 ^ (-(n : Int)) = 2 ^ (-(n : Int)) := by
    rw [zpow_neg, zpow_neg, zpow_natCast, zpow_natCast, show (10 : ℚ) = 2 * 5 by norm_num, mul_pow]
    field_simp
  have htwo : (2 : ℚ) ^ e.toNat * 2 ^ (-(n : Int)) = 2 ^ e := by
    rw [← zpow_natCast, ← zpow_add₀ two_ne_zero]
    congr 1
    omega
  rw [mul_assoc, hfive, mul_assoc, htwo]

end RoundingInterval

/-! ## The shortest decimal -/

/-- The shortest decimal of a double lies in the interval of the double. -/
theorem nearest_shortestDecimal {m : Nat} (e : Int) (hm : 0 < m) :
    Nearest m e (shortestDecimal m e).value := by
  refine RoundingInterval.nearest_of_holds hm (RoundingInterval.holds_coarsestPoint _ _ _ ?_)
  rw [Nat.cast_add, sub_add_cancel_left, RoundingInterval.value_coarsestPoint_zero]
  exact RoundingInterval.holds_self e hm

/-- The shortest decimal of a double is read as the double. -/
theorem toFloat_shortestDecimal {m : Nat} {e : Int} (hc : IsCanonical m e) (hm : 0 < m) :
    (shortestDecimal m e).toFloat = Binary64.toFloat (finite false m e) :=
  Decimal.toFloat_eq hc hm (nearest_shortestDecimal e hm)

end Daybook
