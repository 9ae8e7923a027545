import Mathlib
import Daybook.Decimal.Binary64

set_option relaxedAutoImplicit false
set_option autoImplicit false

/-!
# Doubles and their parts

The arithmetic of doubles is defined on numbers taken apart into sign, significand and exponent, as
`Binary64` takes them apart. This file shows that both ways of taking a double apart agree and that
nothing is lost when a double is put together again.

## Main definitions

* `Binary64.unpacked` — the parts of a double in the form that the arithmetic of doubles works on.
* `Binary64.IsCanonical` — the significands and exponents that doubles have.
* `Binary64.toFloat` — the double with the given parts.

## Main results

* `Binary64.unpack_toModel` — both ways of taking a double apart agree.
* `Binary64.unpack_pack` — parts that are canonical survive being put together.
* `Binary64.ofFloat_pack_ne` — what is put together from a number is one.
* `Binary64.toFloat_ofFloat` — a double is made of its parts.
* `Binary64.ofFloat_neg`, `Binary64.ofFloat_abs` — only the sign changes.
-/

namespace Daybook.Binary64

open Float.Model Float.Model.UnpackedFloat

/-! ## The bits of a double -/

/-- The three fields of a double, read as one number. -/
private theorem toNat_packComponents (s : Sign) (e : BitVec 11) (m : BitVec 52) :
    (packComponents Format.binary64 s e m).toNat =
      s.toBitVec.toNat * 2 ^ 63 + e.toNat * 2 ^ 52 + m.toNat := by
  simp only [packComponents, BitVec.toNat_append]
  rw [← Nat.shiftLeft_add_eq_or_of_lt e.isLt, ← Nat.shiftLeft_add_eq_or_of_lt m.isLt]
  simp only [Nat.shiftLeft_eq]
  ring

/-- The fraction field is the last 52 bits. -/
private theorem toNat_unpackMantissa (b : BitVec 64) :
    (@unpackMantissa Format.binary64 b).toNat = b.toNat % 2 ^ 52 := by
  simp [unpackMantissa]

/-- The exponent field is the 11 bits before the fraction. -/
private theorem toNat_unpackExponent (b : BitVec 64) :
    (@unpackExponent Format.binary64 b).toNat = b.toNat / 2 ^ 52 % 2 ^ 11 := by
  simp [unpackExponent, Nat.shiftRight_eq_div_pow]

/-- The sign is the first bit. -/
private theorem toNat_unpackSign (b : BitVec 64) :
    (@unpackSign Format.binary64 b).toNat = b.toNat / 2 ^ 63 := by
  have := b.isLt
  simp only [unpackSign, Nat.reduceAdd, BitVec.toNat_cast, BitVec.extractLsb_toNat,
    Nat.shiftRight_eq_div_pow]
  omega

/-! ## Parts that doubles have -/

/-- The sign of a double. -/
def sign (negative : Bool) : Sign :=
  if negative then .negative else .positive

/-- The greatest exponent. -/
def greatestExponent : Int := 971

/-- The significands and exponents that finite doubles have: the significand takes 53 bits, or less
if the exponent is the least one. -/
structure IsCanonical (significand : Nat) (exponent : Int) : Prop where
  significand_lt : significand < 2 * leastNormal
  least_le : leastExponent ≤ exponent
  le_greatest : exponent ≤ greatestExponent
  normal : leastNormal ≤ significand ∨ exponent = leastExponent

/-- The parts of a double in the form that the arithmetic of doubles works on. -/
def unpacked : Binary64 → UnpackedFloat
  | notANumber => .notANumber
  | infinite negative => .infinity (sign negative)
  | finite negative significand exponent =>
    if h : 0 < significand then .finite (sign negative) significand exponent h
    else .zero (sign negative)

/-- The parts that a double can have. -/
def Canonical : Binary64 → Prop
  | finite _ significand exponent => IsCanonical significand exponent
  | _ => True

/-- The double with the given parts. -/
def toFloat (b : Binary64) : Float :=
  .ofModel (.pack b.unpacked)

/-- The parts of fields within their widths are canonical. -/
theorem canonical_ofFields {negative : Bool} {field fraction : Nat} (hfield : field < 2048)
    (hfraction : fraction < leastNormal) : (ofFields negative field fraction).Canonical := by
  unfold ofFields
  split_ifs with h1 h2 h3
  · trivial
  · trivial
  · exact ⟨by omega, le_rfl, by decide, .inr rfl⟩
  · refine ⟨by omega, ?_, ?_, .inl (by omega)⟩
    · simp only [leastExponent]
      omega
    · simp only [leastExponent, greatestExponent]
      omega

/-- The parts of a double are canonical. -/
theorem canonical_ofFloat (x : Float) : (ofFloat x).Canonical :=
  canonical_ofFields (Nat.mod_lt _ (by decide)) (Nat.mod_lt _ (by decide))

/-- The sign bit of a double. -/
private theorem ofBitVec_unpackSign (b : BitVec 64) :
    Sign.ofBitVec (@unpackSign Format.binary64 b) = sign (b.toNat >>> 63 == 1) := by
  have hlt := b.isLt
  have h := toNat_unpackSign b
  generalize @unpackSign Format.binary64 b = c at h ⊢
  rw [Nat.shiftRight_eq_div_pow]
  obtain hz | ho : b.toNat / 2 ^ 63 = 0 ∨ b.toNat / 2 ^ 63 = 1 := by omega
  · obtain rfl : c = 0#1 := BitVec.eq_of_toNat_eq (by rw [h, hz]; rfl)
    rw [hz]
    rfl
  · obtain rfl : c = 1#1 := BitVec.eq_of_toNat_eq (by rw [h, ho]; rfl)
    rw [ho]
    rfl

/-- The bit in front of the fraction of a normal double. -/
private theorem toNat_implicit (m : BitVec 52) : (1#1 ++ m).toNat = leastNormal + m.toNat := by
  rw [BitVec.toNat_append, ← Nat.shiftLeft_add_eq_or_of_lt m.isLt]
  rfl

/-- Taking a double apart bit by bit gives its parts. -/
private theorem unpack_eq (b : BitVec 64) :
    UnpackedFloat.unpack Format.binary64 b =
      (ofFields (b.toNat >>> 63 == 1) ((b.toNat >>> 52) % 2048)
        (b.toNat % leastNormal)).unpacked := by
  have hm : (@unpackMantissa Format.binary64 b).toNat = b.toNat % leastNormal :=
    toNat_unpackMantissa b
  have he : (@unpackExponent Format.binary64 b).toNat = (b.toNat >>> 52) % 2048 := by
    rw [toNat_unpackExponent, Nat.shiftRight_eq_div_pow]
    rfl
  unfold UnpackedFloat.unpack ofFields
  dsimp only
  rw [ofBitVec_unpackSign, ← hm, ← he]
  have hall : @unpackExponent Format.binary64 b = -1#11 ↔
      (@unpackExponent Format.binary64 b).toNat = 2047 := by
    rw [← BitVec.toNat_inj]
    rfl
  have hnone : @unpackExponent Format.binary64 b = 0#11 ↔
      (@unpackExponent Format.binary64 b).toNat = 0 := by
    rw [← BitVec.toNat_inj]
    rfl
  have hfrac : @unpackMantissa Format.binary64 b = 0#52 ↔
      (@unpackMantissa Format.binary64 b).toNat = 0 := by
    rw [← BitVec.toNat_inj]
    rfl
  simp only [hall, hnone, hfrac]
  split_ifs with h1 h2 h3 h4
  · rfl
  · rfl
  · simp [unpacked, h4]
  · simp only [unpacked, dif_pos (Nat.pos_of_ne_zero h4), h3]
    rfl
  · have hpos : 0 < leastNormal + (@unpackMantissa Format.binary64 b).toNat := by
      simp only [leastNormal]
      omega
    simp only [unpacked, dif_pos hpos, toNat_implicit, leastExponent]
    congr 1
    simp only [Format.exponentBias, Format.binary64]
    omega

/-- Both ways of taking a double apart agree. -/
theorem unpack_toModel (x : Float) : x.toModel.unpack = (ofFloat x).unpacked :=
  unpack_eq x.toModel.toBits.toBitVec

/-! ## Putting a double together -/

/-- The fields of packed parts. -/
private theorem ofFields_pack {negative : Bool} {field fraction : Nat} {b : BitVec 64}
    (hfield : field < 2048) (hfraction : fraction < leastNormal)
    (hb : b = packComponents Format.binary64 (sign negative) (BitVec.ofNat 11 field)
      (BitVec.ofNat 52 fraction)) :
    ofFields (b.toNat >>> 63 == 1) ((b.toNat >>> 52) % 2048) (b.toNat % leastNormal) =
      ofFields negative field fraction := by
  simp only [leastNormal] at hfraction
  have hn : b.toNat = (sign negative).toBitVec.toNat * 2 ^ 63 + field * 2 ^ 52 + fraction := by
    rw [hb, toNat_packComponents, BitVec.toNat_ofNat, BitVec.toNat_ofNat, Nat.mod_eq_of_lt hfield,
      Nat.mod_eq_of_lt hfraction]
  have hs : (sign negative).toBitVec.toNat = if negative then 1 else 0 := by
    cases negative <;> rfl
  have h1 : (b.toNat >>> 63 == 1) = negative := by
    rw [Nat.shiftRight_eq_div_pow, hn, hs]
    cases negative with
    | false =>
      rw [beq_eq_false_iff_ne]
      simp only [Bool.false_eq_true, if_false]
      omega
    | true =>
      rw [beq_iff_eq]
      simp only [if_true]
      omega
  have h2 : (b.toNat >>> 52) % 2048 = field := by
    rw [Nat.shiftRight_eq_div_pow, hn]
    omega
  have h3 : b.toNat % leastNormal = fraction := by
    simp only [leastNormal]
    omega
  rw [h1, h2, h3]

/-- The bits of a double with the given parts. -/
private theorem toBits_toFloat (b : Binary64) :
    (toFloat b).toBits.toBitVec = UnpackedFloat.pack Format.binary64 b.unpacked := rfl

/-- Parts that are canonical survive being put together. -/
theorem unpack_pack {b : Binary64} (hb : b.Canonical) : ofFloat (toFloat b) = b := by
  unfold ofFloat
  have key : ∀ negative field fraction, field < 2048 → fraction < leastNormal →
      UnpackedFloat.pack Format.binary64 b.unpacked =
        packComponents Format.binary64 (sign negative) (BitVec.ofNat 11 field)
          (BitVec.ofNat 52 fraction) →
      ofFields negative field fraction = b →
      (let bits := (toFloat b).toBits.toNat
       ofFields (bits >>> 63 == 1) ((bits >>> 52) % 2048) (bits % leastNormal)) = b := by
    intro negative field fraction h1 h2 h3 h4
    rw [← toBits_toFloat] at h3
    exact (ofFields_pack h1 h2 h3).trans h4
  cases b with
  | notANumber =>
    exact key false 2047 (2 ^ 51) (by decide) (by decide) (by decide) (by decide)
  | infinite negative =>
    exact key negative 2047 0 (by decide) (by decide) (by cases negative <;> decide) rfl
  | finite negative m e =>
    obtain ⟨h1, h2, h3, h4⟩ := hb
    simp only [leastNormal, leastExponent, greatestExponent] at h1 h2 h3 h4
    rcases Nat.eq_zero_or_pos m with rfl | hm
    · obtain rfl : e = -1074 := by omega
      exact key negative 0 0 (by decide) (by decide) (by simp [unpacked]; rfl) rfl
    · have hfield : (e + (Format.exponentBias Format.binary64 : Nat) + (52 : Nat)).toNat =
          (e + 1075).toNat := by
        simp only [Format.exponentBias]
        omega
      have hpack : UnpackedFloat.pack Format.binary64 (finite negative m e).unpacked =
          if m.log2 + 1 = 53 then
            packComponents Format.binary64 (sign negative) (BitVec.ofNat 11 (e + 1075).toNat)
              (BitVec.ofNat 52 m)
          else packComponents Format.binary64 (sign negative) (BitVec.ofNat 11 0)
            (BitVec.ofNat 52 m) := by
        simp only [unpacked, dif_pos hm, UnpackedFloat.pack, hfield]
        rw [if_neg (by omega)]
        rfl
      by_cases hn : 2 ^ 52 ≤ m
      · have hlog : m.log2 = 52 := (Nat.log2_eq_iff (by omega)).mpr ⟨hn, by omega⟩
        have hfrac : BitVec.ofNat 52 m = BitVec.ofNat 52 (m - 2 ^ 52) := by
          apply BitVec.eq_of_toNat_eq
          rw [BitVec.toNat_ofNat, BitVec.toNat_ofNat]
          omega
        rw [hlog, if_pos rfl, hfrac] at hpack
        refine key negative (e + 1075).toNat (m - 2 ^ 52) (by omega)
          (by simp only [leastNormal]; omega) hpack ?_
        have hm' : leastNormal + (m - 2 ^ 52) = m := by
          simp only [leastNormal]
          omega
        have he' : leastExponent + (((e + 1075).toNat - 1 : Nat) : Int) = e := by
          simp only [leastExponent]
          omega
        rw [ofFields, if_neg (by omega), if_neg (by omega), hm', he']
      · have hlog : m.log2 < 52 := (Nat.log2_lt (by omega)).mpr (by omega)
        rw [if_neg (by omega)] at hpack
        obtain rfl : e = -1074 := by omega
        exact key negative 0 m (by decide) (by simp only [leastNormal]; omega) hpack rfl

/-- What is put together from a number is one. -/
theorem ofFloat_pack_ne {u : UnpackedFloat} (hu : u ≠ .notANumber) :
    ofFloat (.ofModel (.pack u)) ≠ notANumber := by
  have key (s : Sign) (field fraction : Nat) (hfield : field < 2048)
      (hfraction : fraction < leastNormal) (hnumber : field = 2047 → fraction = 0)
      (hpack : UnpackedFloat.pack Format.binary64 u =
        packComponents Format.binary64 s (BitVec.ofNat 11 field) (BitVec.ofNat 52 fraction)) :
      ofFloat (.ofModel (.pack u)) ≠ notANumber := by
    obtain ⟨negative, rfl⟩ : ∃ negative, s = sign negative := by
      cases s
      · exact ⟨true, rfl⟩
      · exact ⟨false, rfl⟩
    have hfields : ofFloat (.ofModel (.pack u)) = ofFields negative field fraction :=
      ofFields_pack hfield hfraction hpack
    rw [hfields, ofFields]
    split_ifs with h2047 h0 <;> simp
    exact h0 (hnumber h2047)
  cases u with
  | notANumber => exact absurd rfl hu
  | infinity s => exact key s 2047 0 (by decide) (by decide) (fun _ => rfl) rfl
  | zero s => exact key s 0 0 (by decide) (by decide) (fun _ => rfl) rfl
  | finite s m e hm =>
    have hfraction : BitVec.ofNat 52 m = BitVec.ofNat 52 (m % leastNormal) := by
      apply BitVec.eq_of_toNat_eq
      rw [BitVec.toNat_ofNat, BitVec.toNat_ofNat]
      exact (Nat.mod_mod _ _).symm
    have hlt : m % leastNormal < leastNormal := Nat.mod_lt _ (by decide)
    -- An infinity takes the place of every field that is too great for a finite number.
    set field := (e + (Format.exponentBias Format.binary64 : Nat) + (52 : Nat)).toNat with hfield
    have hpack : UnpackedFloat.pack Format.binary64 (.finite s m e hm) =
        if 2 ^ 11 ≤ field + 1 then packComponents Format.binary64 s (BitVec.ofNat 11 2047) 0
        else if m.log2 + 1 = 53 then
          packComponents Format.binary64 s (BitVec.ofNat 11 field) (BitVec.ofNat 52 m)
        else packComponents Format.binary64 s (BitVec.ofNat 11 0) (BitVec.ofNat 52 m) := rfl
    rw [hfraction] at hpack
    split_ifs at hpack with hlarge hnormal
    · exact key s 2047 0 (by decide) (by decide) (fun _ => rfl) hpack
    · exact key s field _ (by omega) hlt (fun h => by omega) hpack
    · exact key s 0 _ (by decide) hlt (fun h => by omega) hpack

/-- A double is made of its parts. -/
theorem toFloat_ofFloat (x : Float) : toFloat (ofFloat x) = x := by
  obtain ⟨⟨bits, hvalid⟩⟩ := x
  have h := unpack_toModel ⟨⟨bits, hvalid⟩⟩
  have hp : Float.Model.pack (Float.Model.unpack ⟨bits, hvalid⟩) = ⟨bits, hvalid⟩ := by
    have := pack_unpack_of_valid hvalid
    simp only [Float.Model.pack, Float.Model.unpack, this]
  rw [toFloat, ← h, hp]

/-- Two doubles with the same parts are the same. -/
theorem ofFloat_injective {x y : Float} (h : ofFloat x = ofFloat y) : x = y := by
  rw [← toFloat_ofFloat x, h, toFloat_ofFloat]

/-! ## Signs -/

/-- The parts of the double with the opposite sign. -/
def negate : Binary64 → Binary64
  | notANumber => notANumber
  | infinite negative => infinite !negative
  | finite negative significand exponent => finite (!negative) significand exponent

/-- The parts of the double without its sign. -/
def magnitude : Binary64 → Binary64
  | notANumber => notANumber
  | infinite _ => infinite false
  | finite _ significand exponent => finite false significand exponent

/-- The sign set the other way. -/
private theorem sign_not (negative : Bool) : sign (!negative) = -sign negative := by
  cases negative <;> rfl

/-- The parts of what two operations make of a double. -/
private theorem ofFloat_map {f : Binary64 → Binary64} {g : UnpackedFloat → UnpackedFloat}
    (hf : ∀ b, b.Canonical → (f b).Canonical) (hg : ∀ b, (f b).unpacked = g b.unpacked)
    (x : Float) :
    ofFloat (.ofModel (.pack (g x.toModel.unpack))) = f (ofFloat x) := by
  rw [unpack_toModel, ← hg]
  exact unpack_pack (hf _ (canonical_ofFloat x))

/-- The parts of a double of the opposite sign. -/
theorem ofFloat_neg (x : Float) : ofFloat (-x) = (ofFloat x).negate := by
  refine ofFloat_map (fun b hb => ?_) (fun b => ?_) x
  · cases b <;> exact hb
  · cases b with
    | notANumber => rfl
    | infinite negative =>
      simp only [negate, unpacked, sign_not]
      rfl
    | finite negative m e =>
      simp only [negate, unpacked, sign_not]
      split_ifs <;> rfl

/-- The parts of a double without its sign. -/
theorem ofFloat_abs (x : Float) : ofFloat x.abs = (ofFloat x).magnitude := by
  refine ofFloat_map (fun b hb => ?_) (fun b => ?_) x
  · cases b <;> trivial
  · cases b with
    | notANumber => rfl
    | infinite negative => rfl
    | finite negative m e =>
      simp only [magnitude, unpacked]
      split_ifs <;> rfl

/-- The double of the parts with the opposite sign. -/
theorem neg_toFloat {b : Binary64} (hb : b.Canonical) : -toFloat b = toFloat b.negate := by
  rw [← toFloat_ofFloat (-toFloat b), ofFloat_neg, unpack_pack hb]

end Daybook.Binary64
