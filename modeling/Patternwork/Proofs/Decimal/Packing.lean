import Patternwork.Proofs.Decimal.Binary64

namespace Patternwork.Decimal

open Float.Model (UnpackedFloat Format)
open Float.Model.UnpackedFloat (Sign packComponents)

namespace Reading

/-- The bits of a double by what it stands for. -/
def bits : Reading → Nat
  | .notANumber => 2047 * 2 ^ 52 + 2 ^ 51
  | .infinite negative => negative.toNat * 2 ^ 63 + 2047 * 2 ^ 52
  | .zero negative => negative.toNat * 2 ^ 63
  | .finite negative v =>
    negative.toNat * 2 ^ 63 +
      if v.significand < 2 ^ 52 then v.significand
      else (v.exponent + 1074).toNat * 2 ^ 52 + v.significand

/-- The bits are found again in what they stand for. -/
theorem bits_ofFloat {x : Float} (hnumber : Reading.ofFloat x ≠ .notANumber) :
    (Reading.ofFloat x).bits = x.toBits.toNat := by
  have hbound : x.toBits.toNat < 2 ^ 64 := x.toBits.toNat_lt
  unfold Reading.ofFloat at hnumber ⊢
  generalize x.toBits.toNat = b at hbound hnumber ⊢
  have hsign : (decide (Nat.pow 2 63 ≤ b)).toNat = b / 2 ^ 63 := by
    rw [Nat.pow_eq]
    by_cases hbig : 2 ^ 63 ≤ b
    · rw [decide_eq_true hbig, Bool.toNat_true]
      omega
    · rw [decide_eq_false hbig, Bool.toNat_false]
      omega
  simp only [Nat.pow_eq] at hsign hnumber ⊢
  split at hnumber
  next hall =>
    rw [if_pos hall]
    split at hnumber
    next hnone =>
      rw [if_pos hnone, bits, hsign]
      omega
    next => exact absurd rfl hnumber
  next hfinite =>
    rw [if_neg hfinite]
    split
    next hleast =>
      split
      next hnone =>
        rw [bits, hsign]
        omega
      next hsome =>
        dsimp only [bits]
        rw [hsign, if_pos (Nat.mod_lt _ (by omega))]
        omega
    next hnormal =>
      dsimp only [bits]
      rw [hsign, if_neg (by omega)]
      omega

/-- Numbers and infinities are read as different things. -/
theorem eq_of_ofFloat_eq {x y : Float} (hnumber : Reading.ofFloat x ≠ .notANumber)
    (hsame : Reading.ofFloat x = Reading.ofFloat y) : x = y := by
  have hbits : x.toBits.toNat = y.toBits.toNat := by
    rw [← bits_ofFloat hnumber, ← bits_ofFloat (hsame ▸ hnumber), hsame]
  obtain ⟨⟨a, hvalid⟩⟩ := x
  obtain ⟨⟨b, hother⟩⟩ := y
  obtain rfl : a = b := UInt64.toNat_inj.mp hbits
  rfl

end Reading

private theorem toNat_packComponents (sign : Sign) (exponent : BitVec 11) (mantissa : BitVec 52) :
    (packComponents Format.binary64 sign exponent mantissa).toNat =
      (sign matches .negative).toNat * 2 ^ 63 + exponent.toNat * 2 ^ 52 + mantissa.toNat := by
  have hexponent := exponent.isLt
  have hmantissa := mantissa.isLt
  unfold packComponents
  rw [BitVec.toNat_append, ← Nat.shiftLeft_add_eq_or_of_lt hmantissa, BitVec.toNat_append,
    ← Nat.shiftLeft_add_eq_or_of_lt hexponent, Nat.shiftLeft_eq, Nat.shiftLeft_eq]
  cases sign with
  | negative =>
    change ((1 : Nat) * 2 ^ 11 + exponent.toNat) * 2 ^ 52 + mantissa.toNat = _
    rw [Bool.toNat_true]
    omega
  | positive =>
    change ((0 : Nat) * 2 ^ 11 + exponent.toNat) * 2 ^ 52 + mantissa.toNat = _
    rw [Bool.toNat_false]
    omega

/-- The double with a given sign and magnitude. -/
def packed (sign : Sign) {v : Dyadic} (hv : v.Canonical) : Float :=
  .ofModel (.pack (.finite sign v.significand v.exponent hv.positive))

variable {v : Dyadic} (sign : Sign)

theorem toNat_toBits_packed (hv : v.Canonical) (hrange : v.exponent ≤ 971) :
    (packed sign hv).toBits.toNat = (Reading.finite (sign matches .negative) v).bits := by
  have hfits := hv.fits
  have hleast := hv.least
  have hfilled := hv.filled
  have hbias : ((Format.binary64.exponentBias : Nat) : Int) = 1023 := rfl
  have hplaces : ((Format.binary64.mantissaBitsWithoutImplicit : Nat) : Int) = 52 := rfl
  have hbits : Format.binary64.mantissaBits = 53 := rfl
  change (UnpackedFloat.pack Format.binary64
    (.finite sign v.significand v.exponent hv.positive)).toNat = _
  unfold UnpackedFloat.pack Reading.bits
  dsimp only
  rw [hbias, hplaces, hbits, if_neg (by omega)]
  by_cases hnormal : 2 ^ 52 ≤ v.significand
  · have hlog : v.significand.log2 = 52 :=
      (Nat.log2_eq_iff hv.positive.ne').mpr ⟨hnormal, hfits⟩
    rw [if_pos (by omega), if_neg (by omega), toNat_packComponents, BitVec.toNat_ofNat,
      BitVec.toNat_ofNat]
    omega
  · have hlog : v.significand.log2 < 52 := (Nat.log2_lt hv.positive.ne').mpr (by omega)
    rw [if_neg (by omega), if_pos (by omega), toNat_packComponents, BitVec.toNat_ofNat,
      BitVec.toNat_ofNat]
    omega

/-- A double is read field by field. -/
theorem Reading.ofFloat_of_fields {x : Float} {negative : Bool} (field fraction : Nat)
    (hfield : field < 2047) (hfraction : fraction < 2 ^ 52)
    (hbits : x.toBits.toNat = negative.toNat * 2 ^ 63 + (field * 2 ^ 52 + fraction)) :
    Reading.ofFloat x =
      if field = 0 then
        if fraction = 0 then .zero negative else .finite negative ⟨fraction, -1074⟩
      else .finite negative ⟨2 ^ 52 + fraction, (field : Int) - 1075⟩ := by
  unfold Reading.ofFloat
  generalize x.toBits.toNat = b at hbits ⊢
  have hsign : decide (2 ^ 63 ≤ b) = negative := by
    cases negative with
    | true =>
      rw [Bool.toNat_true] at hbits
      exact decide_eq_true (by omega)
    | false =>
      rw [Bool.toNat_false] at hbits
      exact decide_eq_false (by omega)
  have hhigh : b / 2 ^ 52 % 2 ^ 11 = field := by omega
  have hlow : b % 2 ^ 52 = fraction := by omega
  simp only [Nat.pow_eq, hsign, hhigh, hlow]
  rw [if_neg (by omega)]

/-- What is packed is read. -/
theorem Reading.ofFloat_packed (hv : v.Canonical) (hrange : v.exponent ≤ 971) :
    Reading.ofFloat (packed sign hv) = .finite (sign matches .negative) v := by
  have hfits := hv.fits
  have hleast := hv.least
  have hfilled := hv.filled
  have hpositive := hv.positive
  have hbits := toNat_toBits_packed sign hv hrange
  dsimp only [Reading.bits] at hbits
  by_cases hnormal : v.significand < 2 ^ 52
  · rw [if_pos hnormal] at hbits
    have hexponent : v.exponent = -1074 := by omega
    rw [ofFloat_of_fields 0 v.significand (by omega) hnormal
      (by rw [hbits, Nat.zero_mul, Nat.zero_add]), if_pos rfl, if_neg (by omega), ← hexponent]
  · rw [if_neg hnormal] at hbits
    have hsplit : (v.exponent + 1074).toNat * 2 ^ 52 + v.significand =
        (v.exponent + 1075).toNat * 2 ^ 52 + (v.significand - 2 ^ 52) := by omega
    have hexponent : ((v.exponent + 1075).toNat : Int) - 1075 = v.exponent := by omega
    have hsignificand : 2 ^ 52 + (v.significand - 2 ^ 52) = v.significand := by omega
    rw [ofFloat_of_fields (v.exponent + 1075).toNat (v.significand - 2 ^ 52) (by omega) (by omega)
      (by rw [hbits, hsplit]), if_neg (by omega), hexponent, hsignificand]

namespace Reading

/-- What a finite double is unpacked to. -/
theorem unpack_of_ofFloat {x : Float} {negative : Bool}
    (hread : Reading.ofFloat x = .finite negative v) :
    ∃ sign hpositive, (sign matches .negative) = negative ∧
      x.toModel.unpack = .finite sign v.significand v.exponent hpositive := by
  rw [Reading.ofFloat_eq_ofUnpacked] at hread
  cases hunpack : x.toModel.unpack with
  | finite sign mantissa exponent hpositive =>
    rw [hunpack] at hread
    cases hread
    exact ⟨sign, hpositive, rfl, rfl⟩
  | notANumber => simp [hunpack, Reading.ofUnpacked] at hread
  | zero sign => simp [hunpack, Reading.ofUnpacked] at hread
  | infinity sign => simp [hunpack, Reading.ofUnpacked] at hread

theorem exponent_le_of_ofFloat {x : Float} {negative : Bool}
    (hread : Reading.ofFloat x = .finite negative v) : v.exponent ≤ 971 := by
  unfold Reading.ofFloat at hread
  simp only [Nat.pow_eq] at hread
  split at hread
  · split at hread <;> cases hread
  · split at hread
    · split at hread <;> cases hread
      norm_num
    · cases hread
      dsimp only
      omega

/-- Negation changes the sign of a finite double. -/
theorem ofFloat_neg {x : Float} {negative : Bool} (hread : Reading.ofFloat x = .finite negative v) :
    Reading.ofFloat (-x) = .finite (!negative) v := by
  obtain ⟨sign, hpositive, rfl, hunpack⟩ := unpack_of_ofFloat hread
  have hneg : -x = packed (-sign) (canonical_of_ofFloat hread) := by
    change Float.ofModel (.pack x.toModel.unpack.neg) = _
    rw [hunpack]
    rfl
  rw [hneg, ofFloat_packed _ _ (exponent_le_of_ofFloat hread)]
  cases sign <;> rfl

end Reading

end Patternwork.Decimal
