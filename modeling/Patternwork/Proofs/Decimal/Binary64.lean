import Mathlib
import Patternwork.Proofs.Decimal.Rounding

namespace Patternwork.Decimal

open Float.Model (UnpackedFloat Format)
open Float.Model.UnpackedFloat (Sign unpackMantissa unpackExponent unpackSign)

/-- What an unpacked double stands for. -/
def Reading.ofUnpacked : UnpackedFloat → Reading
  | .notANumber => .notANumber
  | .infinity sign => .infinite (sign matches .negative)
  | .zero sign => .zero (sign matches .negative)
  | .finite sign mantissa exponent _ => .finite (sign matches .negative) ⟨mantissa, exponent⟩

private theorem toNat_unpackMantissa (b : BitVec 64) :
    (@unpackMantissa Format.binary64 b).toNat = b.toNat % 2 ^ 52 := by
  simp [unpackMantissa]

private theorem toNat_unpackExponent (b : BitVec 64) :
    (@unpackExponent Format.binary64 b).toNat = b.toNat / 2 ^ 52 % 2 ^ 11 := by
  simp [unpackExponent, Nat.shiftRight_eq_div_pow]

private theorem toNat_unpackSign (b : BitVec 64) :
    (@unpackSign Format.binary64 b).toNat = b.toNat / 2 ^ 63 := by
  have hbound := b.isLt
  simp only [unpackSign, BitVec.toNat_cast, BitVec.extractLsb_toNat, Nat.shiftRight_eq_div_pow]
  apply Nat.mod_eq_of_lt
  omega

private theorem ofBitVec_unpackSign (b : BitVec 64) :
    (Sign.ofBitVec (@unpackSign Format.binary64 b) matches .negative) =
      decide (2 ^ 63 ≤ b.toNat) := by
  have hsign := toNat_unpackSign b
  have hbound := b.isLt
  unfold Sign.ofBitVec
  by_cases hbig : 2 ^ 63 ≤ b.toNat
  · have hne : @unpackSign Format.binary64 b ≠ 0#1 := by
      intro hzero
      rw [hzero] at hsign
      simp at hsign
      omega
    rw [if_neg hne, decide_eq_true hbig]
  · have hzero : @unpackSign Format.binary64 b = 0#1 := by
      apply BitVec.eq_of_toNat_eq
      simp [hsign]
      omega
    rw [if_pos hzero, decide_eq_false hbig]

private theorem toNat_one_append (mantissa : BitVec 52) :
    (1#1 ++ mantissa).toNat = 2 ^ 52 + mantissa.toNat := by
  rw [BitVec.toNat_append, ← Nat.shiftLeft_add_eq_or_of_lt mantissa.isLt]
  rfl

/-- Splitting the bits by hand gives what the standard reading gives. -/
theorem Reading.ofFloat_eq_ofUnpacked (x : Float) :
    Reading.ofFloat x = Reading.ofUnpacked x.toModel.unpack := by
  obtain ⟨⟨bits, hvalid⟩⟩ := x
  have hsign := ofBitVec_unpackSign bits.toBitVec
  have hbias : ((Format.binary64.exponentBias : Nat) : Int) = 1023 := rfl
  have hmantissaBits : ((Format.binary64.mantissaBitsWithoutImplicit : Nat) : Int) = 52 := rfl
  have hbits : (Float.toBits ⟨⟨bits, hvalid⟩⟩).toNat = bits.toBitVec.toNat := rfl
  change _ = Reading.ofUnpacked (UnpackedFloat.unpack Format.binary64 bits.toBitVec)
  unfold Reading.ofFloat UnpackedFloat.unpack
  simp only [hbits, Nat.pow_eq, ← toNat_unpackMantissa, ← toNat_unpackExponent, hbias,
    hmantissaBits]
  have hinfinite : @unpackExponent Format.binary64 bits.toBitVec = -1#11 ↔
      (@unpackExponent Format.binary64 bits.toBitVec).toNat = 2 ^ 11 - 1 := by
    rw [← BitVec.toNat_inj]
    rfl
  have hsmall : @unpackExponent Format.binary64 bits.toBitVec = 0#11 ↔
      (@unpackExponent Format.binary64 bits.toBitVec).toNat = 0 := by
    rw [← BitVec.toNat_inj]
    rfl
  have hzero : @unpackMantissa Format.binary64 bits.toBitVec = 0#52 ↔
      (@unpackMantissa Format.binary64 bits.toBitVec).toNat = 0 := by
    rw [← BitVec.toNat_inj]
    rfl
  by_cases hall : @unpackExponent Format.binary64 bits.toBitVec = -1#11
  · rw [if_pos hall, if_pos (hinfinite.mp hall)]
    by_cases hnone : @unpackMantissa Format.binary64 bits.toBitVec = 0#52
    · rw [if_pos hnone, if_pos (hzero.mp hnone)]
      simp only [Reading.ofUnpacked, hsign]
    · rw [if_neg hnone, if_neg (mt hzero.mpr hnone)]
      rfl
  · rw [if_neg hall, if_neg (mt hinfinite.mpr hall)]
    by_cases hleast : @unpackExponent Format.binary64 bits.toBitVec = 0#11
    · rw [if_pos hleast, if_pos (hsmall.mp hleast)]
      by_cases hnone : @unpackMantissa Format.binary64 bits.toBitVec = 0#52
      · rw [dif_pos hnone, if_pos (hzero.mp hnone)]
        simp only [Reading.ofUnpacked, hsign]
      · rw [dif_neg hnone, if_neg (mt hzero.mpr hnone)]
        simp [Reading.ofUnpacked, hsign, hsmall.mp hleast]
    · rw [if_neg hleast, if_neg (mt hsmall.mpr hleast)]
      simp only [Reading.ofUnpacked, hsign, toNat_one_append]
      rfl

/-- A finite double other than zero has a canonical significand and exponent. -/
theorem Reading.canonical_of_ofFloat {x : Float} {negative : Bool} {v : Dyadic}
    (hread : Reading.ofFloat x = .finite negative v) : v.Canonical := by
  unfold Reading.ofFloat at hread
  simp only [Nat.pow_eq] at hread
  have hfraction : x.toBits.toNat % 2 ^ 52 < 2 ^ 52 := Nat.mod_lt _ (by decide)
  split at hread
  · split at hread <;> simp at hread
  · rename_i hfinite
    split at hread
    · split at hread
      · simp at hread
      · rename_i hnonzero
        cases hread
        refine ⟨Nat.pos_of_ne_zero hnonzero, ?_, le_refl _, by simp⟩
        change x.toBits.toNat % 2 ^ 52 < 2 ^ 53
        omega
    · rename_i hnormal
      cases hread
      refine ⟨by positivity, ?_, ?_, by simp⟩
      · change 2 ^ 52 + x.toBits.toNat % 2 ^ 52 < 2 ^ 53
        omega
      · change (-1074 : Int) ≤ ((x.toBits.toNat / 2 ^ 52 % 2 ^ 11 : Nat) : Int) - 1075
        omega

theorem Reading.isNaN_iff (x : Float) : x.isNaN = true ↔ Reading.ofFloat x = .notANumber := by
  rw [Reading.ofFloat_eq_ofUnpacked]
  change x.toModel.unpack.isNaN = true ↔ _
  rw [UnpackedFloat.isNaN_iff]
  cases x.toModel.unpack <;> simp [Reading.ofUnpacked]

/-- The sign of an infinity is the one that a comparison with zero finds. -/
theorem Reading.zero_lt_of_infinite {x : Float} {negative : Bool}
    (hread : Reading.ofFloat x = .infinite negative) : 0.0 < x ↔ negative = false := by
  have hzero : (0.0 : Float).toModel.unpack = .zero .positive := rfl
  have hlt : 0.0 < x ↔ (0.0 : Float).toModel.unpack.lt x.toModel.unpack = true :=
    decide_eq_true_iff
  rw [Reading.ofFloat_eq_ofUnpacked] at hread
  rw [hlt, hzero]
  cases hunpack : x.toModel.unpack with
  | infinity sign =>
    rw [hunpack] at hread
    cases hread
    cases sign <;> simp [UnpackedFloat.lt, UnpackedFloat.compare]
  | notANumber => simp [hunpack, Reading.ofUnpacked] at hread
  | zero sign => simp [hunpack, Reading.ofUnpacked] at hread
  | finite sign mantissa exponent hpos => simp [hunpack, Reading.ofUnpacked] at hread

/-- The reading with the sign of a zero forgotten. -/
def Reading.unsignedZero : Reading → Reading
  | .zero _ => .zero false
  | reading => reading

private theorem unsignedZero_eq_iff (a b : UnpackedFloat) :
    (Reading.ofUnpacked a).unsignedZero = (Reading.ofUnpacked b).unsignedZero ↔
      a = b ∨ (a = .zero .positive ∧ b = .zero .negative) ∨
        (a = .zero .negative ∧ b = .zero .positive) := by
  rcases a with ⟨_ | _⟩ | _ | ⟨_ | _⟩ | ⟨_ | _, m₁, e₁, h₁⟩ <;>
    rcases b with ⟨_ | _⟩ | _ | ⟨_ | _⟩ | ⟨_ | _, m₂, e₂, h₂⟩ <;>
    simp [Reading.ofUnpacked, Reading.unsignedZero]

/-- Two doubles are equal or both NaN when they stand for the same thing up to the sign
    of a zero. -/
theorem Reading.beq_or_isNaN_iff (x y : Float) :
    x == y ∨ x.isNaN ∧ y.isNaN ↔
      (Reading.ofFloat x).unsignedZero = (Reading.ofFloat y).unsignedZero := by
  have hbeq : x == y ↔ x.toModel.unpack.beq y.toModel.unpack := Iff.rfl
  have hnan (z : Float) : z.isNaN ↔ z.toModel.unpack = .notANumber :=
    UnpackedFloat.isNaN_iff
  rw [hbeq, hnan, hnan, UnpackedFloat.beq_iff_ne_notANumber_and_eq,
    Reading.ofFloat_eq_ofUnpacked, Reading.ofFloat_eq_ofUnpacked, unsignedZero_eq_iff]
  generalize x.toModel.unpack = a
  generalize y.toModel.unpack = b
  constructor
  · rintro (⟨_, _, heq⟩ | ⟨rfl, rfl⟩)
    · exact heq
    · exact .inl rfl
  · intro heq
    by_cases ha : a = .notANumber
    · subst ha
      simp only [reduceCtorEq, false_and, or_false] at heq
      exact .inr ⟨rfl, heq.symm⟩
    · refine .inl ⟨ha, ?_, heq⟩
      rintro rfl
      simp only [reduceCtorEq, and_false, or_false] at heq
      exact ha heq

end Patternwork.Decimal
