import Daybook.Proofs.Decimal.Shortest
import Daybook.Unicode.Property

set_option relaxedAutoImplicit false
set_option autoImplicit false

/-!
# The digits of a double

The text of a finite double is a run of digits, with a point and a run of further digits if it has
a fraction, and these digits are read as the double again.

## Main definitions

* `Decimal.IsDigits` — a run of digits.
* `Decimal.positional` — the digits before and after the point.

## Main results

* `Decimal.eq_of_natOfDigits_eq` — the digits of a number are determined by how many there are.
* `Decimal.natOfDigits_paddedDigits` — padded digits stand for the number they are made of.
* `Decimal.digits_eq_positional` — the text of a decimal stands for its number.
* `numberText_eq` — the text of a finite double, and that it is read as the double.
-/

namespace Daybook

open Binary64

/-- The code points of digits. -/
theorem toNat_of_isDigit {c : Char} (h : Unicode.isDigit c = true) :
    48 ≤ c.toNat ∧ c.toNat ≤ 57 := by
  simp only [Unicode.isDigit, Bool.and_eq_true, decide_eq_true_eq] at h
  exact h

namespace Decimal

/-! ## Runs of digits -/

/-- A run of digits, at least one. -/
def IsDigits (cs : List Char) : Prop :=
  cs ≠ [] ∧ ∀ c ∈ cs, Unicode.isDigit c = true

/-- The digits before the point, and those after it if there are any. -/
def positional (whole fraction : List Char) : List Char :=
  whole ++ if fraction = [] then [] else '.' :: fraction

/-- The digits of a whole number are digits. -/
theorem isDigits_toDigits (n : Nat) : IsDigits (Nat.toDigits 10 n) := by
  refine ⟨Nat.toDigits_ne_nil, fun c hc => ?_⟩
  have h := Nat.isDigit_of_mem_toDigits (by decide) le_rfl hc
  rw [Char.isDigit, Bool.and_eq_true, decide_eq_true_eq, decide_eq_true_eq] at h
  rw [Unicode.isDigit, Bool.and_eq_true, decide_eq_true_eq, decide_eq_true_eq]
  exact ⟨h.1, h.2⟩

/-- Digits stand for the number that the library reads from them. -/
theorem natOfDigits_eq (cs : List Char) : natOfDigits cs = Nat.ofDigitChars 10 cs 0 :=
  Nat.ofDigitChars_eq_foldl.symm

/-- The digits of a whole number stand for it. -/
@[simp] theorem natOfDigits_toDigits (n : Nat) : natOfDigits (Nat.toDigits 10 n) = n := by
  rw [natOfDigits_eq, Nat.ofDigitChars_ten_toDigits]

/-- Further digits behind a run of digits. -/
theorem natOfDigits_append (as bs : List Char) :
    natOfDigits (as ++ bs) = 10 ^ bs.length * natOfDigits as + natOfDigits bs := by
  rw [natOfDigits_eq, natOfDigits_eq, natOfDigits_eq, Nat.ofDigitChars_append,
    Nat.ofDigitChars_eq_ofDigitChars_zero]

/-- Zeros in front do not count. -/
theorem natOfDigits_paddedDigits (width n : Nat) : natOfDigits (paddedDigits width n) = n := by
  rw [paddedDigits, natOfDigits_append, natOfDigits_toDigits, natOfDigits_eq,
    Nat.ofDigitChars_replicate_zero, Nat.mul_zero, Nat.mul_zero, Nat.zero_add]

/-- What a digit stands for. -/
theorem natOfDigits_concat (cs : List Char) (c : Char) :
    natOfDigits (cs ++ [c]) = 10 * natOfDigits cs + (c.toNat - 48) := by
  rw [natOfDigits, natOfDigits, List.foldl_append]
  rfl

/-- Runs of digits of the same length that stand for the same number are the same. -/
theorem eq_of_natOfDigits_eq {as bs : List Char} (ha : ∀ c ∈ as, Unicode.isDigit c = true)
    (hb : ∀ c ∈ bs, Unicode.isDigit c = true) (hlength : as.length = bs.length)
    (h : natOfDigits as = natOfDigits bs) : as = bs := by
  induction as using List.reverseRecOn generalizing bs with
  | nil => exact (List.eq_nil_of_length_eq_zero hlength.symm).symm
  | append_singleton as c ih =>
    obtain rfl | ⟨bs, d, rfl⟩ := List.eq_nil_or_concat bs
    · simp at hlength
    rw [List.concat_eq_append] at hb hlength h ⊢
    rw [List.forall_mem_append, List.forall_mem_singleton] at ha hb
    rw [natOfDigits_concat, natOfDigits_concat] at h
    have hc := toNat_of_isDigit ha.2
    have hd := toNat_of_isDigit hb.2
    have hlast : c = d := Char.toNat_inj.mp (by omega)
    rw [ih ha.1 hb.1 (by simpa using hlength) (by omega), hlast]

/-- Padded digits are digits. -/
theorem isDigits_paddedDigits (width n : Nat) : IsDigits (paddedDigits width n) := by
  obtain ⟨hne, hall⟩ := isDigits_toDigits n
  refine ⟨by simp [paddedDigits, hne], fun c hc => ?_⟩
  obtain hc | hc := List.mem_append.mp hc
  · rw [List.eq_of_mem_replicate hc]
    decide
  · exact hall c hc

/-- Padded digits fill the width if the number is small enough. -/
theorem length_paddedDigits {width n : Nat} (hwidth : 0 < width) (hn : n < 10 ^ width) :
    (paddedDigits width n).length = width := by
  have h := (Nat.length_toDigits_le_iff (by decide) hwidth).mpr hn
  simp only [paddedDigits, List.length_append, List.length_replicate]
  omega

/-! ## The text of a decimal -/

/-- The text of a decimal is made of digits that stand for its number. -/
theorem digits_eq_positional (d : Decimal) :
    ∃ whole fraction, d.digits = positional whole fraction ∧
    IsDigits whole ∧ (fraction ≠ [] → IsDigits fraction) ∧
    (ofDigits whole fraction).value = d.value := by
  obtain ⟨c, k⟩ := d
  unfold digits
  dsimp only
  split_ifs with h
  · refine ⟨_, [], (List.append_nil _).symm, isDigits_toDigits _, fun h => absurd rfl h, ?_⟩
    lift k to Nat using by omega
    simp only [ofDigits, value, List.append_nil, natOfDigits_toDigits, List.length_nil,
      Int.toNat_natCast, Nat.pow_eq, Nat.cast_zero, neg_zero, zpow_zero, mul_one, Nat.cast_mul,
      Nat.cast_pow, Nat.cast_ofNat, zpow_natCast]
  · obtain ⟨n, rfl⟩ : ∃ n : Nat, k = -(n : Int) := ⟨(-k).toNat, by omega⟩
    have hplaces : (- -(n : Int)).toNat = n := by omega
    have hscale : (-(n : Int)).toNat = 0 := by omega
    rw [hplaces] at h
    simp only [hplaces, hscale, Nat.pow_eq, pow_zero, mul_one]
    set unit := 10 ^ n with hunit
    have hpos : 0 < unit := by positivity
    have hlength := length_paddedDigits (Nat.pos_of_ne_zero h) (Nat.mod_lt c hpos)
    have hfraction := isDigits_paddedDigits n (c % unit)
    refine ⟨Nat.toDigits 10 (c / unit), paddedDigits n (c % unit), ?_, isDigits_toDigits _,
      fun _ => hfraction, ?_⟩
    · rw [positional, if_neg hfraction.1]
    · simp only [ofDigits, value]
      rw [natOfDigits_append, hlength, natOfDigits_toDigits, natOfDigits_paddedDigits, ← hunit,
        Nat.div_add_mod]

end Decimal

/-! ## The text of a double -/

/-- The text of a finite double is a minus sign if its sign is set, and digits that are read as the
double without its sign. -/
theorem numberText_eq {x : Float} {negative : Bool} {m : Nat} {e : Int}
    (hx : ofFloat x = finite negative m e) :
    ∃ whole fraction, (numberText x).toList =
        (if negative then ['-'] else []) ++ Decimal.positional whole fraction ∧
      Decimal.IsDigits whole ∧ (fraction ≠ [] → Decimal.IsDigits fraction) ∧
      (if negative then -(Decimal.ofDigits whole fraction).toFloat
        else (Decimal.ofDigits whole fraction).toFloat) = x := by
  have hc : IsCanonical m e := by
    have := canonical_ofFloat x
    rwa [hx] at this
  have hmagnitude : ∃ whole fraction,
      (magnitudeText m e).toList = Decimal.positional whole fraction ∧
      Decimal.IsDigits whole ∧ (fraction ≠ [] → Decimal.IsDigits fraction) ∧
      (Decimal.ofDigits whole fraction).toFloat = toFloat (finite false m e) := by
    rcases Nat.eq_zero_or_pos m with rfl | hm
    · obtain rfl : e = leastExponent := hc.normal.resolve_left (by decide)
      exact ⟨['0'], [], rfl, Decimal.isDigits_toDigits 0, fun h => absurd rfl h, by decide⟩
    · obtain ⟨whole, fraction, htext, hwhole, hfraction, hvalue⟩ :=
        Decimal.digits_eq_positional (shortestDecimal m e)
      refine ⟨whole, fraction, ?_, hwhole, hfraction, ?_⟩
      · rw [magnitudeText, if_neg hm.ne', Decimal.text, String.toList_ofList, htext]
      · refine Decimal.toFloat_eq hc hm ?_
        rw [hvalue]
        exact nearest_shortestDecimal e hm
  obtain ⟨whole, fraction, htext, hwhole, hfraction, hfloat⟩ := hmagnitude
  refine ⟨whole, fraction, ?_, hwhole, hfraction, ?_⟩
  · simp only [numberText, hx, String.toList_append, htext]
    split_ifs <;> rfl
  · rw [hfloat, ← toFloat_ofFloat x, hx]
    cases negative with
    | false => rfl
    | true =>
      rw [if_pos rfl, neg_toFloat (show (finite false m e).Canonical from hc)]
      rfl

end Daybook
