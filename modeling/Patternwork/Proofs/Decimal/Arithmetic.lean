import Patternwork.Proofs.Decimal.Packing

namespace Patternwork.Decimal

open Float.Model (UnpackedFloat Format)
open Float.Model.UnpackedFloat (Accuracy ExtendedMantissa Sign)

/-- A mantissa and the bit after it, in halves of a unit. -/
def halves (m : ExtendedMantissa) : Nat := 2 * m.mantissa + m.roundBit.toNat

/-- The mantissa and its round bit are a number that is cut off; the sticky bit says whether
    anything is lost by that. -/
structure Truncates (m : ExtendedMantissa) (x : ℚ) : Prop where
  le : halves m ≤ 2 * x
  lt : 2 * x < halves m + 1
  sticky : m.stickyBit = true ↔ (halves m : ℚ) ≠ 2 * x

namespace Truncates

variable {m : ExtendedMantissa} {x : ℚ}

theorem exact (mantissa : Nat) :
    Truncates (ExtendedMantissa.ofMantissaAndAccuracy mantissa .exact) mantissa where
  le := by simp [ExtendedMantissa.ofMantissaAndAccuracy, halves]
  lt := by simp [ExtendedMantissa.ofMantissaAndAccuracy, halves]
  sticky := by simp [ExtendedMantissa.ofMantissaAndAccuracy, halves]

/-- Division of naturals cuts off, and its remainder tells how the rest compares. -/
theorem fraction (n : Nat) {d : Nat} (hd : 0 < d) :
    Truncates (ExtendedMantissa.ofMantissaAndAccuracy (n / d)
      (UnpackedFloat.accuracyOfFraction (n % d) d)) (n / d : ℚ) := by
  have hpos : (0 : ℚ) < d := by exact_mod_cast hd
  have hremainder := Nat.mod_lt n hd
  have hdivision : n / d * d + n % d = n := Nat.div_add_mod' n d
  have hvalue : 2 * ((n : ℚ) / d) = (2 * n : Nat) / d := by
    push_cast
    ring
  have hcut (bit sticky : Bool) (hle : bit.toNat * d ≤ 2 * (n % d))
      (hlt : 2 * (n % d) < bit.toNat * d + d)
      (hsticky : sticky = true ↔ bit.toNat * d ≠ 2 * (n % d)) :
      Truncates ⟨n / d, bit, sticky⟩ (n / d : ℚ) := by
    have hproduct : halves ⟨n / d, bit, sticky⟩ * d = 2 * (n / d * d) + bit.toNat * d := by
      unfold halves
      ring
    refine ⟨?_, ?_, ?_⟩
    · rw [hvalue, le_div_iff₀ hpos]
      have hnat : halves ⟨n / d, bit, sticky⟩ * d ≤ 2 * n := by omega
      exact_mod_cast hnat
    · rw [hvalue, div_lt_iff₀ hpos, add_mul, one_mul]
      have hnat : 2 * n < halves ⟨n / d, bit, sticky⟩ * d + d := by omega
      exact_mod_cast hnat
    · rw [hvalue, ne_eq, eq_div_iff hpos.ne', hsticky]
      have hnat : bit.toNat * d ≠ 2 * (n % d) ↔ ¬ halves ⟨n / d, bit, sticky⟩ * d = 2 * n := by
        omega
      exact_mod_cast hnat
  unfold UnpackedFloat.accuracyOfFraction
  split
  next hzero => exact hcut false false (by simp) (by simp; omega) (by simp [hzero])
  next hrest =>
    cases hcompare : compare (2 * (n % d)) d with
    | lt =>
      rw [Nat.compare_eq_lt] at hcompare
      exact hcut false true (by simp) (by simpa using hcompare) (by simp; omega)
    | eq =>
      rw [Nat.compare_eq_eq] at hcompare
      exact hcut true false (by simp; omega) (by simp; omega) (by simp; omega)
    | gt =>
      rw [Nat.compare_eq_gt] at hcompare
      exact hcut true true (by simp; omega) (by simp; omega) (by simp; omega)

theorem shiftRightOne (h : Truncates m x) : Truncates m.shiftRightOne (x / 2) := by
  obtain ⟨hle, hlt, hsticky⟩ := h
  have hhalves : halves m.shiftRightOne = m.mantissa := by
    unfold halves ExtendedMantissa.shiftRightOne
    rcases Nat.mod_two_eq_zero_or_one m.mantissa with hbit | hbit <;> simp [hbit] <;> omega
  obtain ⟨mantissa, bit, sticky⟩ := m
  dsimp only at hhalves hsticky
  have hbit : (halves ⟨mantissa, bit, sticky⟩ : ℚ) = 2 * mantissa + bit.toNat := by
    unfold halves
    push_cast
    rfl
  rw [hbit] at hle hlt hsticky
  refine ⟨?_, ?_, ?_⟩ <;> rw [hhalves, mul_div_cancel₀ x two_ne_zero]
  · cases bit with
    | false =>
      rw [Bool.toNat_false, Nat.cast_zero] at hle
      linarith
    | true =>
      rw [Bool.toNat_true, Nat.cast_one] at hle
      linarith
  · cases bit with
    | false =>
      rw [Bool.toNat_false, Nat.cast_zero] at hlt
      linarith
    | true =>
      rw [Bool.toNat_true, Nat.cast_one] at hlt
      linarith
  · change (bit || sticky) = true ↔ _
    cases bit with
    | false => simpa using hsticky
    | true =>
      rw [Bool.toNat_true, Nat.cast_one] at hle
      have hne : (mantissa : ℚ) ≠ x := by
        intro heq
        linarith
      simp [hne]

theorem shiftRight (h : Truncates m x) (places : Nat) :
    Truncates (m >>> places) (x / 2 ^ places) ∧
      (m >>> places).mantissa = m.mantissa / 2 ^ places := by
  change Truncates (places.repeat ExtendedMantissa.shiftRightOne m) _ ∧
    (places.repeat ExtendedMantissa.shiftRightOne m).mantissa = _
  induction places with
  | zero => exact ⟨by simpa [Nat.repeat] using h, by simp [Nat.repeat]⟩
  | succ places ih =>
    obtain ⟨htruncates, hmantissa⟩ := ih
    rw [Nat.repeat, pow_succ, ← div_div, pow_succ, ← Nat.div_div_eq_div_mul]
    exact ⟨htruncates.shiftRightOne, congrArg (· / 2) hmantissa⟩

/-- The rounded mantissa is at most half a unit away, and even if it is half a unit away. -/
theorem rounded (h : Truncates m x) :
    2 * (m.roundedMantissa : ℚ) - 1 ≤ 2 * x ∧ 2 * x ≤ 2 * m.roundedMantissa + 1 ∧
      (m.roundedMantissa % 2 = 1 →
        2 * (m.roundedMantissa : ℚ) - 1 < 2 * x ∧ 2 * x < 2 * m.roundedMantissa + 1) := by
  obtain ⟨mantissa, bit, sticky⟩ := m
  obtain ⟨hle, hlt, hsticky⟩ := h
  have hbit : (halves ⟨mantissa, bit, sticky⟩ : ℚ) = 2 * mantissa + bit.toNat := by
    unfold halves
    push_cast
    rfl
  rw [hbit] at hle hlt hsticky
  cases bit with
  | false =>
    rw [Bool.toNat_false, Nat.cast_zero] at hle hlt hsticky
    have hrounded : (⟨mantissa, false, sticky⟩ : ExtendedMantissa).roundedMantissa = mantissa := by
      cases sticky <;> rfl
    rw [hrounded]
    exact ⟨by linarith, by linarith, fun _ => ⟨by linarith, by linarith⟩⟩
  | true =>
    rw [Bool.toNat_true, Nat.cast_one] at hle hlt hsticky
    cases sticky with
    | false =>
      -- Halfway between two integers the even one is taken.
      have hhalfway : 2 * (mantissa : ℚ) + 1 = 2 * x := by simpa using hsticky
      change 2 * ((mantissa + mantissa % 2 : Nat) : ℚ) - 1 ≤ 2 * x ∧
        2 * x ≤ 2 * ((mantissa + mantissa % 2 : Nat) : ℚ) + 1 ∧
        ((mantissa + mantissa % 2) % 2 = 1 → _)
      have hparity : ¬ (mantissa + mantissa % 2) % 2 = 1 := by omega
      rw [← hhalfway]
      rcases Nat.mod_two_eq_zero_or_one mantissa with heven | hodd
      · rw [heven] at hparity ⊢
        exact ⟨by push_cast; linarith, by push_cast; linarith, fun h => absurd h hparity⟩
      · rw [hodd] at hparity ⊢
        exact ⟨by push_cast; linarith, by push_cast; linarith, fun h => absurd h hparity⟩
    | true =>
      have hmore : 2 * (mantissa : ℚ) + 1 < 2 * x := lt_of_le_of_ne hle (hsticky.mp rfl)
      change 2 * ((mantissa + 1 : Nat) : ℚ) - 1 ≤ 2 * x ∧
        2 * x ≤ 2 * ((mantissa + 1 : Nat) : ℚ) + 1 ∧
        (_ → 2 * ((mantissa + 1 : Nat) : ℚ) - 1 < 2 * x ∧
          2 * x < 2 * ((mantissa + 1 : Nat) : ℚ) + 1)
      push_cast
      exact ⟨by linarith, by linarith, fun _ => ⟨by linarith, by linarith⟩⟩

theorem rounded_bounds (m : ExtendedMantissa) :
    m.mantissa ≤ m.roundedMantissa ∧ m.roundedMantissa ≤ m.mantissa + 1 := by
  obtain ⟨mantissa, _ | _, _ | _⟩ := m <;>
    simp only [ExtendedMantissa.roundedMantissa, ExtendedMantissa.accuracy,
      Accuracy.roundToNearestEven] <;> omega

end Truncates

namespace Dyadic

/-- Rounding told in quarters of a unit. -/
theorem rounds_of_quarters {v : Dyadic} {s : Scaled} {y : ℚ}
    (hvalue : s.value = y * 2 ^ (v.exponent - 2)) (hlower : v.lowerQuarters ≤ y)
    (hupper : y ≤ v.upperQuarters)
    (hodd : v.significand % 2 = 1 → v.lowerQuarters < y ∧ y < v.upperQuarters) :
    v.rounds s = true := by
  have hunit : (0 : ℚ) < 2 ^ (v.exponent - 2) := by positivity
  rw [rounds_iff, lower, upper, hvalue]
  refine ⟨mul_le_mul_of_nonneg_right hlower hunit.le, mul_le_mul_of_nonneg_right hupper hunit.le,
    fun h => ?_⟩
  exact ⟨mul_lt_mul_of_pos_right (hodd h).1 hunit, mul_lt_mul_of_pos_right (hodd h).2 hunit⟩

/-- A significand of 53 bits, or one more than the greatest of these, as a canonical number. -/
def normalized (rounded : Nat) (exponent : Int) : Dyadic :=
  ⟨rounded / 2 ^ (rounded.log2 - 52), exponent + (rounded.log2 - 52 : Nat)⟩

variable {rounded : Nat} {exponent : Int}

theorem normalized_of_lt (hlarge : 2 ^ 52 ≤ rounded) (hsmall : rounded < 2 ^ 53) :
    normalized rounded exponent = ⟨rounded, exponent⟩ := by
  have hlog : rounded.log2 = 52 := (Nat.log2_eq_iff (by omega)).mpr ⟨hlarge, hsmall⟩
  simp [normalized, hlog]

theorem normalized_of_full (hfull : rounded = 2 ^ 53) :
    normalized rounded exponent = ⟨2 ^ 52, exponent + 1⟩ := by
  have hlog : rounded.log2 = 53 := by rw [hfull, Nat.log2_two_pow]
  rw [normalized, hlog, hfull]
  rfl

theorem canonical_normalized (hlarge : 2 ^ 52 ≤ rounded) (hsmall : rounded ≤ 2 ^ 53)
    (hleast : -1074 ≤ exponent) : (normalized rounded exponent).Canonical := by
  rcases Nat.lt_or_eq_of_le hsmall with hlt | hfull
  · rw [normalized_of_lt hlarge hlt]
    exact ⟨by dsimp only; omega, hlt, hleast, fun _ => hlarge⟩
  · rw [normalized_of_full hfull]
    exact ⟨by positivity, by norm_num, by dsimp only; omega, fun _ => le_refl _⟩

/-- A value is not below the interval of its nearest integral significand. -/
theorem lowerQuarters_le {x : ℚ} (exponent : Int) (hlarge : 2 ^ 52 ≤ rounded) (hfloor : 2 ^ 52 ≤ x)
    (hlower : 2 * (rounded : ℚ) - 1 ≤ 2 * x)
    (hodd : rounded % 2 = 1 → 2 * (rounded : ℚ) - 1 < 2 * x) :
    (lowerQuarters ⟨rounded, exponent⟩ : ℚ) ≤ 4 * x ∧
      (rounded % 2 = 1 → (lowerQuarters ⟨rounded, exponent⟩ : ℚ) < 4 * x) := by
  unfold lowerQuarters
  dsimp only
  split
  next hleast =>
    have hone : ((4 * rounded - 1 : Nat) : ℚ) < 4 * rounded := by
      exact_mod_cast (by omega : 4 * rounded - 1 < 4 * rounded)
    have hfloor : (rounded : ℚ) ≤ x := by
      rw [hleast.1]
      exact_mod_cast hfloor
    exact ⟨by linarith, fun _ => by linarith⟩
  next =>
    have htwo : ((4 * rounded - 2 : Nat) : ℚ) = 4 * rounded - 2 := by
      rw [Nat.cast_sub (by omega)]
      push_cast
      rfl
    rw [htwo]
    exact ⟨by linarith, fun h => by linarith [hodd h]⟩

/-- The nearest integral significand gives the number that the exact value rounds to. -/
theorem rounds_nearest {s : Scaled} {x : ℚ} (hlarge : 2 ^ 52 ≤ rounded) (hfloor : 2 ^ 52 ≤ x)
    (hlower : 2 * (rounded : ℚ) - 1 ≤ 2 * x) (hupper : 2 * x ≤ 2 * rounded + 1)
    (hodd : rounded % 2 = 1 → 2 * (rounded : ℚ) - 1 < 2 * x ∧ 2 * x < 2 * rounded + 1)
    (hvalue : s.value = x * 2 ^ exponent) : rounds ⟨rounded, exponent⟩ s = true := by
  obtain ⟨hbelow, hbelowOdd⟩ :=
    lowerQuarters_le exponent hlarge hfloor hlower fun h => (hodd h).1
  apply rounds_of_quarters (y := 4 * x)
  · rw [hvalue]
    dsimp only
    rw [show exponent = 2 + (exponent - 2) by omega, zpow_add₀ two_ne_zero,
      show 2 + (exponent - 2) - 2 = exponent - 2 by omega, zpow_ofNat]
    ring
  · exact hbelow
  · unfold upperQuarters
    push_cast
    linarith
  · intro h
    refine ⟨hbelowOdd h, ?_⟩
    unfold upperQuarters
    push_cast
    linarith [(hodd h).2]

/-- If the nearest significand has one bit too many, the value rounds to the number with half of
    it and the next exponent. -/
theorem rounds_carried {s : Scaled} {x : ℚ} {half : Nat} (hhalf : half = 2 ^ 52)
    (hleast : -1074 ≤ exponent) (hlower : 2 * (2 * half : ℚ) - 1 ≤ 2 * x)
    (hupper : 2 * x ≤ 2 * (2 * half) + 1) (hvalue : s.value = x * 2 ^ exponent) :
    rounds ⟨half, exponent + 1⟩ s = true := by
  apply rounds_of_quarters (y := 2 * x)
  · rw [hvalue]
    dsimp only
    rw [show exponent = 1 + (exponent - 1) by omega, zpow_add₀ two_ne_zero,
      show 1 + (exponent - 1) + 1 - 2 = exponent - 1 by omega, zpow_one]
    ring
  · have hnat : lowerQuarters ⟨half, exponent + 1⟩ + 1 ≤ 4 * half := by
      unfold lowerQuarters
      rw [if_pos ⟨hhalf, by dsimp only; omega⟩]
      dsimp only
      omega
    have hcast : (lowerQuarters ⟨half, exponent + 1⟩ : ℚ) + 1 ≤ 4 * half := by
      exact_mod_cast hnat
    linarith
  · unfold upperQuarters
    push_cast
    linarith
  · intro h
    dsimp only at h
    omega

/-- The nearest significand, normalized, gives the number that the exact value rounds to. -/
theorem rounds_normalized {s : Scaled} {x : ℚ} (hlarge : 2 ^ 52 ≤ rounded)
    (hsmall : rounded ≤ 2 ^ 53) (hleast : -1074 ≤ exponent) (hfloor : 2 ^ 52 ≤ x)
    (hlower : 2 * (rounded : ℚ) - 1 ≤ 2 * x) (hupper : 2 * x ≤ 2 * rounded + 1)
    (hodd : rounded % 2 = 1 → 2 * (rounded : ℚ) - 1 < 2 * x ∧ 2 * x < 2 * rounded + 1)
    (hvalue : s.value = x * 2 ^ exponent) : (normalized rounded exponent).rounds s = true := by
  rcases Nat.lt_or_eq_of_le hsmall with hlt | hfull
  · rw [normalized_of_lt hlarge hlt]
    exact rounds_nearest hlarge hfloor hlower hupper hodd hvalue
  · obtain ⟨half, hhalf⟩ : ∃ half, half = 2 ^ 52 := ⟨_, rfl⟩
    have htwice : (rounded : ℚ) = 2 * half := by
      have hnat : rounded = 2 * half := by omega
      exact_mod_cast hnat
    rw [htwice] at hlower hupper
    rw [normalized_of_full hfull, ← hhalf]
    exact rounds_carried hhalf hleast hlower hupper hvalue

end Dyadic

theorem targetExponent_totalExponent {mantissa : Nat} {exponent : Int}
    (hleast : -1074 ≤ exponent + (mantissa.log2 : Int) - 52) :
    Format.binary64.targetExponent (Float.Model.totalExponent mantissa exponent) =
      exponent + mantissa.log2 - 52 := by
  have hbits : (Format.binary64.mantissaBits : Int) = 53 := rfl
  have hmin : Format.binary64.minExponent = -1074 := rfl
  unfold Format.targetExponent Float.Model.totalExponent
  omega

theorem shiftToTargetExponent_eq {mantissa : Nat} {exponent : Int} (accuracy : Accuracy)
    (hlarge : 2 ^ 52 ≤ mantissa) (hleast : -1074 ≤ exponent + (mantissa.log2 : Int) - 52) :
    UnpackedFloat.shiftToTargetExponent Format.binary64 mantissa exponent accuracy =
      (ExtendedMantissa.ofMantissaAndAccuracy mantissa accuracy >>> (mantissa.log2 - 52),
        exponent + (mantissa.log2 - 52 : Nat)) := by
  have hlog : 52 ≤ mantissa.log2 := (Nat.le_log2 (by omega)).mpr hlarge
  have hshift : (exponent + (mantissa.log2 : Int) - 52 - exponent).toNat = mantissa.log2 - 52 := by
    omega
  unfold UnpackedFloat.shiftToTargetExponent UnpackedFloat.shiftToExponent
  rw [targetExponent_totalExponent hleast]
  dsimp only
  rw [hshift]

/-- The leading 53 bits of a number. -/
theorem leading_bounds {n : Nat} (hlarge : 2 ^ 52 ≤ n) :
    2 ^ 52 ≤ n / 2 ^ (n.log2 - 52) ∧ n / 2 ^ (n.log2 - 52) < 2 ^ 53 := by
  have hlog : 52 ≤ n.log2 := (Nat.le_log2 (by omega)).mpr hlarge
  constructor
  · rw [Nat.le_div_iff_mul_le (by positivity), ← pow_add,
      show 52 + (n.log2 - 52) = n.log2 by omega]
    exact Nat.log2_self_le (by omega)
  · rw [Nat.div_lt_iff_lt_mul (by positivity), ← pow_add,
      show 53 + (n.log2 - 52) = n.log2 + 1 by omega]
    exact Nat.lt_log2_self

/-- Rounding with enough bits gives the canonical number that the exact value rounds to. -/
theorem exists_roundWithAccuracy {mantissa : Nat} {accuracy : Accuracy} {x : ℚ} {s : Scaled}
    (sign : Sign) (exponent : Int)
    (htruncates : Truncates (ExtendedMantissa.ofMantissaAndAccuracy mantissa accuracy) x)
    (hlarge : 2 ^ 52 ≤ mantissa) (hleast : -1074 ≤ exponent + (mantissa.log2 : Int) - 52)
    (hvalue : s.value = x * 2 ^ exponent) :
    ∃ (v : Dyadic) (hv : v.Canonical), v.rounds s = true ∧
      exponent + mantissa.log2 - 52 ≤ v.exponent ∧ v.exponent ≤ exponent + mantissa.log2 - 51 ∧
      UnpackedFloat.roundWithAccuracy Format.binary64 sign mantissa exponent accuracy =
        .finite sign v.significand v.exponent hv.positive := by
  have hlog : 52 ≤ mantissa.log2 := (Nat.le_log2 (by omega)).mpr hlarge
  have hmantissa :
      (ExtendedMantissa.ofMantissaAndAccuracy mantissa accuracy).mantissa = mantissa := by
    rcases accuracy with _ | _ | _ | _ <;> rfl
  obtain ⟨hshifted, hquotient⟩ := htruncates.shiftRight (mantissa.log2 - 52)
  rw [hmantissa] at hquotient
  obtain ⟨shifted, hfirst⟩ : ∃ shifted,
    ExtendedMantissa.ofMantissaAndAccuracy mantissa accuracy >>> (mantissa.log2 - 52) = shifted :=
      ⟨_, rfl⟩
  rw [hfirst] at hshifted hquotient
  obtain ⟨hlower, hupper⟩ := leading_bounds hlarge
  rw [← hquotient] at hlower hupper
  obtain ⟨hbelow, habove⟩ := Truncates.rounded_bounds shifted
  obtain ⟨hnear, hnext, hodd⟩ := hshifted.rounded
  have hroundedLog : 52 ≤ shifted.roundedMantissa.log2 ∧ shifted.roundedMantissa.log2 ≤ 53 := by
    rw [← Nat.lt_succ_iff (m := shifted.roundedMantissa.log2), Nat.log2_lt (by omega),
      Nat.le_log2 (by omega)]
    omega
  have hfinal : (ExtendedMantissa.ofMantissaAndAccuracy shifted.roundedMantissa .exact >>>
      (shifted.roundedMantissa.log2 - 52)).mantissa =
        shifted.roundedMantissa / 2 ^ (shifted.roundedMantissa.log2 - 52) :=
    ((Truncates.exact shifted.roundedMantissa).shiftRight _).2
  have hcanonical := Dyadic.canonical_normalized (hlower.trans hbelow) (by omega)
    (by omega : -1074 ≤ exponent + (mantissa.log2 - 52 : Nat))
  refine ⟨_, hcanonical, ?_, ?_, ?_, ?_⟩
  · refine Dyadic.rounds_normalized (hlower.trans hbelow) (by omega) (by omega) ?_ hnear hnext
      hodd ?_
    · have hhalves : (2 * 2 ^ 52 : ℚ) ≤ halves shifted := by
        have hnat : 2 * 2 ^ 52 ≤ halves shifted := by
          unfold halves
          omega
        exact_mod_cast hnat
      linarith [hshifted.le]
    · rw [hvalue, zpow_add₀ two_ne_zero, zpow_natCast]
      field_simp
  · dsimp only [Dyadic.normalized]
    omega
  · dsimp only [Dyadic.normalized]
    omega
  · unfold UnpackedFloat.roundWithAccuracy
    rw [shiftToTargetExponent_eq accuracy hlarge hleast, hfirst]
    dsimp only
    rw [shiftToTargetExponent_eq .exact (hlower.trans hbelow) (by omega)]
    simp only [hfinal]
    exact dif_neg hcanonical.positive.ne'

/-- Normal numbers are divided to 53 bits or one more. -/
theorem divCore_of_normal {v w : Dyadic} (hv : v.Canonical) (hw : w.Canonical)
    (hvnormal : 2 ^ 52 ≤ v.significand) (hwnormal : 2 ^ 52 ≤ w.significand)
    (hleast : -1000 ≤ v.exponent - w.exponent) :
    UnpackedFloat.divCore Format.binary64 v.significand v.exponent w.significand w.exponent =
      (v.significand * 2 ^ 53 / w.significand, v.exponent - w.exponent - 53,
        UnpackedFloat.accuracyOfFraction (v.significand * 2 ^ 53 % w.significand)
          w.significand) := by
  have hvlog : v.significand.log2 = 52 := (Nat.log2_eq_iff (by omega)).mpr ⟨hvnormal, hv.fits⟩
  have hwlog : w.significand.log2 = 52 := (Nat.log2_eq_iff (by omega)).mpr ⟨hwnormal, hw.fits⟩
  have hbits : (Format.binary64.mantissaBits : Int) = 53 := rfl
  have hmin : Format.binary64.minExponent = -1074 := rfl
  have htarget : min (v.exponent - w.exponent) (Format.binary64.targetExponent
      (Float.Model.totalExponent v.significand v.exponent -
        Float.Model.totalExponent w.significand w.exponent)) = v.exponent - w.exponent - 53 := by
    unfold Format.targetExponent Float.Model.totalExponent
    omega
  have hshift : (v.exponent - w.exponent - (v.exponent - w.exponent - 53)).toNat = 53 := by omega
  unfold UnpackedFloat.divCore
  rw [htarget]
  dsimp only
  rw [hshift, Nat.shiftLeft_eq]

namespace Reading

variable {x y : Float} {v w : Dyadic} {s : Scaled}

/-- A positive double is unpacked with a positive sign. -/
theorem unpack_of_positive (hread : Reading.ofFloat x = .finite false v) :
    ∃ hpositive, x.toModel.unpack = .finite .positive v.significand v.exponent hpositive := by
  obtain ⟨sign, hpositive, hsign, hunpack⟩ := unpack_of_ofFloat hread
  cases sign with
  | negative => cases hsign
  | positive => exact ⟨hpositive, hunpack⟩

/-- The product of two normal doubles is what their exact product rounds to, unless this is out
    of range. -/
theorem exists_ofFloat_mul (hx : Reading.ofFloat x = .finite false v)
    (hy : Reading.ofFloat y = .finite false w) (hv : 2 ^ 52 ≤ v.significand)
    (hw : 2 ^ 52 ≤ w.significand) (hleast : -1074 ≤ v.exponent + w.exponent)
    (hvalue : s.value = v.value * w.value) :
    ∃ u : Dyadic, u.Canonical ∧ u.rounds s = true ∧
      (u.exponent ≤ 971 → Reading.ofFloat (x * y) = .finite false u) := by
  obtain ⟨_, hxunpack⟩ := unpack_of_positive hx
  obtain ⟨_, hyunpack⟩ := unpack_of_positive hy
  have hlower : 2 ^ 52 * 2 ^ 52 ≤ v.significand * w.significand := Nat.mul_le_mul hv hw
  have hlog : 52 ≤ (v.significand * w.significand).log2 :=
    (Nat.le_log2 (by omega)).mpr (by omega)
  obtain ⟨u, hu, hrounds, _, _, hround⟩ := exists_roundWithAccuracy (s := s) .positive
    (v.exponent + w.exponent) (Truncates.exact (v.significand * w.significand)) (by omega)
    (by omega) (by
      rw [hvalue, Dyadic.value, Dyadic.value, zpow_add₀ two_ne_zero]
      push_cast
      ring)
  refine ⟨u, hu, hrounds, fun hrange => ?_⟩
  have hproduct : x * y = packed .positive hu := by
    change Float.ofModel (.pack (UnpackedFloat.mul Format.binary64 x.toModel.unpack
      y.toModel.unpack)) = _
    rw [hxunpack, hyunpack]
    exact congrArg (fun u => Float.ofModel (.pack u)) hround
  rw [hproduct]
  exact ofFloat_packed .positive hu hrange

/-- The quotient of two normal doubles is what their exact quotient rounds to, unless this is out
    of range. -/
theorem exists_ofFloat_div (hx : Reading.ofFloat x = .finite false v)
    (hy : Reading.ofFloat y = .finite false w) (hv : 2 ^ 52 ≤ v.significand)
    (hw : 2 ^ 52 ≤ w.significand) (hleast : -1000 ≤ v.exponent - w.exponent)
    (hvalue : s.value = v.value / w.value) :
    ∃ u : Dyadic, u.Canonical ∧ u.rounds s = true ∧
      (u.exponent ≤ 971 → Reading.ofFloat (x / y) = .finite false u) := by
  have hvcanonical := canonical_of_ofFloat hx
  have hwcanonical := canonical_of_ofFloat hy
  obtain ⟨_, hxunpack⟩ := unpack_of_positive hx
  obtain ⟨_, hyunpack⟩ := unpack_of_positive hy
  have hcore := divCore_of_normal hvcanonical hwcanonical hv hw hleast
  have hlower : 2 ^ 52 ≤ v.significand * 2 ^ 53 / w.significand := by
    have hwfits := hwcanonical.fits
    rw [Nat.le_div_iff_mul_le (by omega)]
    omega
  have hlog : 52 ≤ (v.significand * 2 ^ 53 / w.significand).log2 :=
    (Nat.le_log2 (by omega)).mpr hlower
  obtain ⟨u, hu, hrounds, _, _, hround⟩ := exists_roundWithAccuracy (s := s) .positive
    (v.exponent - w.exponent - 53)
    (Truncates.fraction (v.significand * 2 ^ 53) hwcanonical.positive) hlower (by omega) (by
      rw [hvalue, Dyadic.value, Dyadic.value, zpow_sub₀ two_ne_zero, zpow_sub₀ two_ne_zero]
      push_cast
      field_simp)
  refine ⟨u, hu, hrounds, fun hrange => ?_⟩
  have hquotient : x / y = packed .positive hu := by
    change Float.ofModel (.pack (UnpackedFloat.div Format.binary64 x.toModel.unpack
      y.toModel.unpack)) = _
    rw [hxunpack, hyunpack]
    unfold UnpackedFloat.div
    dsimp only
    rw [hcore]
    exact congrArg (fun u => Float.ofModel (.pack u)) hround
  rw [hquotient]
  exact ofFloat_packed .positive hu hrange

/-- An integer below `2 ^ 64` becomes the double that it rounds to. -/
theorem exists_ofFloat_toFloat {n : Nat} (hn : 0 < n) (hbound : n < 2 ^ 64) :
    ∃ u : Dyadic, u.Canonical ∧ u.rounds ⟨n, 0⟩ = true ∧ -52 ≤ u.exponent ∧ u.exponent ≤ 12 ∧
      Reading.ofFloat n.toUInt64.toFloat = .finite false u := by
  have hlog : n.log2 < 64 := (Nat.log2_lt hn.ne').mpr hbound
  have hmin : Format.binary64.minExponent = -1074 := rfl
  have hbits : (Format.binary64.mantissaBits : Int) = 53 := rfl
  have hamount : (0 - Format.binary64.targetExponent (Float.Model.totalExponent n 0)).toNat =
      52 - n.log2 := by
    unfold Format.targetExponent Float.Model.totalExponent
    omega
  -- An integer of less than 53 bits is shifted to the left first.
  have hshifted : (n * 2 ^ (52 - n.log2)).log2 = n.log2 + (52 - n.log2) := by
    have hlower := Nat.log2_self_le hn.ne'
    have hupper := @Nat.lt_log2_self n
    rw [Nat.log2_eq_iff (by positivity), pow_add, show n.log2 + (52 - n.log2) + 1 =
      n.log2 + 1 + (52 - n.log2) by omega, pow_add 2 (n.log2 + 1)]
    exact ⟨Nat.mul_le_mul_right _ hlower, Nat.mul_lt_mul_of_pos_right hupper (by positivity)⟩
  have hlarge : 2 ^ 52 ≤ n * 2 ^ (52 - n.log2) := by
    rw [← Nat.le_log2 (by positivity), hshifted]
    omega
  obtain ⟨u, hu, hrounds, hleast, hgreatest, hround⟩ := exists_roundWithAccuracy (s := ⟨n, 0⟩)
    .positive (-((52 - n.log2 : Nat) : Int)) (Truncates.exact (n * 2 ^ (52 - n.log2))) hlarge
    (by omega) (by
      rw [Scaled.value, zpow_neg, zpow_natCast]
      push_cast
      field_simp)
  refine ⟨u, hu, hrounds, by omega, by omega, ?_⟩
  have hdouble : n.toUInt64.toFloat = packed .positive hu := by
    have hvalue : ((n.toUInt64.toNat : Nat) : Int) = n := by
      rw [Nat.toUInt64, UInt64.toNat_ofNat_of_lt' hbound]
    have hpositive : compare (n : Int) 0 = .gt := compare_gt_iff_gt.mpr (by omega)
    change Float.ofModel (.pack (UnpackedFloat.normalize Format.binary64 n.toUInt64.toNat 0
      .positive)) = _
    unfold UnpackedFloat.normalize
    rw [hvalue, hpositive]
    dsimp only
    unfold UnpackedFloat.round UnpackedFloat.decreaseExponent
    rw [Int.toNat_natCast]
    dsimp only
    rw [hamount, Nat.shiftLeft_eq, zero_sub]
    exact congrArg (fun u => Float.ofModel (.pack u)) hround
  rw [hdouble]
  exact ofFloat_packed .positive hu (by omega)

end Reading

end Patternwork.Decimal
