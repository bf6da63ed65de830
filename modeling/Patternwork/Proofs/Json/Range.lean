import Patternwork.Proofs.Json.Double
import Patternwork.Proofs.Json.Scaling

namespace Patternwork

namespace Decimal.Dyadic

variable {v : Dyadic} {s : Scaled}

/-- A normal double is not much greater than what rounds to it. -/
theorem value_mul_le_of_rounds (hnormal : 2 ^ 52 ≤ v.significand) (hrounds : v.rounds s = true) :
    v.value * (2 ^ 53 - 1) ≤ s.value * 2 ^ 53 := by
  obtain ⟨hnear, _⟩ := near_of_rounds hrounds
  have hunit : (2 : ℚ) ^ (v.exponent - 1) * 2 ^ 53 ≤ v.value := by
    have hcast : (2 : ℚ) ^ 52 ≤ v.significand := by exact_mod_cast hnormal
    have hpow : (2 : ℚ) ^ (v.exponent - 1) * 2 ^ 53 = 2 ^ 52 * 2 ^ v.exponent := by
      rw [zpow_sub₀ two_ne_zero, zpow_one]
      ring
    rw [hpow, value]
    exact mul_le_mul_of_nonneg_right hcast (by positivity)
  linarith

/-- The halfway point above the greatest double. -/
def limit : ℚ := (2 ^ 54 - 1) * 2 ^ 970

theorem limit_eq_cast : limit = (((2 ^ 54 - 1) * 2 ^ 970 : Nat) : ℚ) := by
  have hcast : ((2 ^ 54 - 1 : Nat) : ℚ) = 2 ^ 54 - 1 := by norm_num
  rw [Nat.cast_mul, hcast, Nat.cast_pow, Nat.cast_ofNat, limit]

/-- The limit lies between two powers of ten. -/
theorem limit_bounds : (10 : ℚ) ^ 308 < limit ∧ limit < 10 ^ 309 := by
  have hlower : 10 ^ 308 < (2 ^ 54 - 1) * 2 ^ 970 := by decide +kernel
  have hupper : (2 ^ 54 - 1) * 2 ^ 970 < 10 ^ 309 := by decide +kernel
  rw [limit_eq_cast]
  exact ⟨by exact_mod_cast hlower, by exact_mod_cast hupper⟩

/-- What lies below the limit rounds to a double in range. -/
theorem exponent_le_of_rounds (hv : v.Canonical) (hrounds : v.rounds s = true)
    (hlimit : s.value < limit) : v.exponent ≤ 971 := by
  by_contra hlarge
  have hfilled := hv.filled (by omega)
  have hquarters : (2 ^ 54 - 1 : ℚ) ≤ v.lowerQuarters := by
    have hnat : 2 ^ 54 ≤ v.lowerQuarters + 1 := by
      have hpow : Nat.pow 2 52 = 2 ^ 52 := rfl
      unfold lowerQuarters
      rw [hpow]
      split <;> omega
    have hcast : (2 ^ 54 : ℚ) ≤ v.lowerQuarters + 1 := by exact_mod_cast hnat
    linarith
  have hunit : (2 : ℚ) ^ 970 ≤ 2 ^ (v.exponent - 2) := by
    rw [← zpow_natCast]
    exact zpow_le_zpow_right₀ (by norm_num) (by push_cast; omega)
  have hlower : limit ≤ v.lower := mul_le_mul hquarters hunit (by positivity) (Nat.cast_nonneg _)
  obtain ⟨hbelow, _⟩ := (rounds_iff v s).mp hrounds
  linarith

/-- The exponent of what lies below the limit. -/
theorem exponent_le_of_value_lt (hdigits : 0 < s.digits) (hlimit : s.value < limit) :
    s.exponent ≤ 308 := by
  by_contra hlarge
  have hpower : (10 : ℚ) ^ 309 ≤ 10 ^ s.exponent := by
    rw [← zpow_natCast]
    exact zpow_le_zpow_right₀ (by norm_num) (by push_cast; omega)
  have hone : (1 : ℚ) ≤ s.digits := by exact_mod_cast hdigits
  have hgreat : (10 : ℚ) ^ 309 ≤ s.value :=
    hpower.trans (le_mul_of_one_le_left (by positivity) hone)
  exact absurd (hgreat.trans_lt hlimit) (not_lt.mpr limit_bounds.2.le)

/-- What rounds to a double below the three greatest ones lies clearly below the limit. -/
theorem value_le_of_rounds (hv : v.Canonical) (hrange : v.exponent ≤ 971)
    (hbelow : v.exponent < 971 ∨ v.significand + 4 ≤ 2 ^ 53) (hrounds : v.rounds s = true) :
    s.value ≤ (2 ^ 54 - 7) * 2 ^ 970 := by
  obtain ⟨_, hupper, _⟩ := (rounds_iff v s).mp hrounds
  have hscaled (quarters : ℚ) (power : Nat) (hquarters : (v.upperQuarters : ℚ) ≤ quarters)
      (hpower : v.exponent - 2 ≤ power) : v.upper ≤ quarters * 2 ^ power := by
    have hunit : (2 : ℚ) ^ (v.exponent - 2) ≤ 2 ^ power := by
      rw [← zpow_natCast]
      exact zpow_le_zpow_right₀ (by norm_num) hpower
    have hnonneg : 0 ≤ quarters := (Nat.cast_nonneg _).trans hquarters
    exact mul_le_mul hquarters hunit (by positivity) hnonneg
  have hfits := hv.fits
  rcases hbelow with hexponent | hsignificand
  · have hquarters : (v.upperQuarters : ℚ) ≤ 2 ^ 55 := by
      have hnat : v.upperQuarters ≤ 2 ^ 55 := by
        unfold upperQuarters
        omega
      exact_mod_cast hnat
    have hbound := hscaled _ 968 hquarters (by push_cast; omega)
    have hpow : (2 : ℚ) ^ 970 = 4 * 2 ^ 968 := by
      rw [pow_add 2 2 968]
      norm_num
    have hunit : (0 : ℚ) < 2 ^ 968 := by positivity
    rw [hpow]
    generalize (2 : ℚ) ^ 968 = unit at hbound hunit ⊢
    linarith
  · have hquarters : (v.upperQuarters : ℚ) ≤ 2 ^ 55 - 14 := by
      have hnat : v.upperQuarters + 14 ≤ 2 ^ 55 := by
        unfold upperQuarters
        omega
      have hcast : (v.upperQuarters : ℚ) + 14 ≤ 2 ^ 55 := by exact_mod_cast hnat
      linarith
    have hbound := hscaled _ 969 hquarters (by push_cast; omega)
    have hpow : (2 : ℚ) ^ 970 = 2 * 2 ^ 969 := pow_succ' 2 969
    rw [hpow]
    generalize (2 : ℚ) ^ 969 = unit at hbound ⊢
    linarith

/-- Two numbers that are a little too great have a product below the limit if the exact product
    is clearly below it. -/
theorem mul_lt_limit {x y a b : ℚ} (hx : x * (2 ^ 53 - 1) ≤ a * 2 ^ 53)
    (hy : y * (2 ^ 53 - 1) ≤ b * 2 ^ 53) (ha : 0 ≤ a) (hnonneg : 0 ≤ y)
    (hproduct : a * b ≤ (2 ^ 54 - 7) * 2 ^ 970) : x * y < limit := by
  unfold limit
  have hunit : (0 : ℚ) < 2 ^ 970 := by positivity
  generalize (2 : ℚ) ^ 970 = unit at hproduct hunit ⊢
  have hscaled : x * y * (2 ^ 53 - 1) ^ 2 < (2 ^ 54 - 1) * unit * (2 ^ 53 - 1) ^ 2 := calc
    x * y * (2 ^ 53 - 1) ^ 2 = x * (2 ^ 53 - 1) * (y * (2 ^ 53 - 1)) := by ring
    _ ≤ a * 2 ^ 53 * (b * 2 ^ 53) := mul_le_mul hx hy (by positivity) (by positivity)
    _ = a * b * 2 ^ 106 := by ring
    _ ≤ (2 ^ 54 - 7) * unit * 2 ^ 106 := mul_le_mul_of_nonneg_right hproduct (by positivity)
    _ = (2 ^ 54 - 7) * 2 ^ 106 * unit := by ring
    _ < (2 ^ 54 - 1) * (2 ^ 53 - 1) ^ 2 * unit := mul_lt_mul_of_pos_right (by norm_num) hunit
    _ = (2 ^ 54 - 1) * unit * (2 ^ 53 - 1) ^ 2 := by ring
  exact lt_of_mul_lt_mul_right hscaled (by positivity)

end Decimal.Dyadic

namespace Json.Number

open Decimal (Reading Scaled Truncates)
open Float.Model (UnpackedFloat Format)

variable {s : Scaled} {v : Decimal.Dyadic}

/-- A power of ten from `10 ^ 23` on is worked out as a product of integers and then rounded. -/
theorem exists_ofFloat_largePower {k : Nat} (hlarge : 22 < k) (hk : k ≤ 308) :
    ∃ p : Decimal.Dyadic, p.rounds ⟨1, k⟩ = true ∧ 2 ^ 52 ≤ p.significand ∧ -52 ≤ p.exponent ∧
      Reading.ofFloat (powerOfTen k) = .finite false p := by
  have hpos : 1 ≤ 10 ^ k := Nat.one_le_pow _ _ (by decide)
  have hfilled : 2 ^ 53 ≤ 2 ^ 53 * 10 ^ k := Nat.le_mul_of_pos_right _ hpos
  have hlog : 53 ≤ (2 ^ 53 * 10 ^ k).log2 := (Nat.le_log2 (by omega)).mpr hfilled
  obtain ⟨p, hp, hrounds, hleast, _, hround⟩ := Decimal.exists_roundWithAccuracy (s := ⟨1, k⟩)
    .positive (-53) (Truncates.exact (2 ^ 53 * 10 ^ k)) (by omega) (by omega) (by
      rw [Scaled.value, zpow_natCast, zpow_neg, zpow_ofNat]
      push_cast
      field_simp
      norm_num)
  have hrange : p.exponent ≤ 971 := by
    refine Decimal.Dyadic.exponent_le_of_rounds hp hrounds ?_
    have hpower : (10 : ℚ) ^ k ≤ 10 ^ 308 := pow_le_pow_right₀ (by norm_num) hk
    have hvalue : Scaled.value ⟨1, k⟩ = 10 ^ k := by simp [Scaled.value]
    rw [hvalue]
    exact hpower.trans_lt Decimal.Dyadic.limit_bounds.1
  refine ⟨p, hrounds, hp.filled (by omega), by omega, ?_⟩
  have hpower : powerOfTen k = Decimal.packed .positive hp := by
    unfold powerOfTen Float.ofScientific
    rw [dif_neg (by omega)]
    change Float.ofModel (.pack (UnpackedFloat.ofScientific Format.binary64 1 k)) = _
    have hround : UnpackedFloat.ofScientific Format.binary64 1 k =
        .finite .positive p.significand p.exponent hp.positive := by
      have hexponent : (2 : Int) ^ Format.binary64.exponentBits = 2048 := rfl
      unfold UnpackedFloat.ofScientific
      rw [dif_neg (by decide), if_neg (by omega), if_neg (by omega), if_pos (by omega)]
      exact hround
    rw [hround]
    rfl
  rw [hpower]
  exact Reading.ofFloat_packed .positive hp hrange

/-- Every power of ten in range is the double that it rounds to. -/
theorem exists_ofFloat_powerOfTen {k : Nat} (hk : k ≤ 308) :
    ∃ p : Decimal.Dyadic, p.rounds ⟨1, k⟩ = true ∧ 2 ^ 52 ≤ p.significand ∧ -52 ≤ p.exponent ∧
      Reading.ofFloat (powerOfTen k) = .finite false p := by
  by_cases hlarge : 22 < k
  · exact exists_ofFloat_largePower hlarge hk
  · have hread := ofFloat_powerOfTen k (by omega)
    obtain ⟨hnormal, hleast, _⟩ := tenPower_bounds k (by omega)
    refine ⟨tenPower k, ?_, hnormal, hleast, hread⟩
    apply Decimal.Dyadic.rounds_of_value_eq _
      (Decimal.Dyadic.rounds_exact (Reading.canonical_of_ofFloat hread))
    rw [Decimal.Dyadic.value_exact, value_tenPower (by omega)]
    simp [Scaled.value]

/-- Digits scaled up to clearly below the limit are a finite double. -/
theorem exists_ofFloat_scaledUp {digits k : Nat} (hdigits : 0 < digits) (hfits : digits < 2 ^ 64)
    (hk : k ≤ 308) (hbound : (digits : ℚ) * 10 ^ k ≤ (2 ^ 54 - 7) * 2 ^ 970) :
    ∃ r, Reading.ofFloat (digits.toUInt64.toFloat * powerOfTen k) = .finite false r := by
  obtain ⟨u, hu, hurounds, huleast, hugreatest, huread⟩ :=
    Reading.exists_ofFloat_toFloat hdigits hfits
  obtain ⟨p, hprounds, hpnormal, hpleast, hpread⟩ := exists_ofFloat_powerOfTen hk
  have hunormal := hu.filled (by omega)
  obtain ⟨product, hproduct⟩ : ∃ product : Scaled, product.value = u.value * p.value := by
    refine ⟨Decimal.Dyadic.exact ⟨u.significand * p.significand, u.exponent + p.exponent⟩, ?_⟩
    rw [Decimal.Dyadic.value_exact]
    unfold Decimal.Dyadic.value
    rw [zpow_add₀ two_ne_zero]
    push_cast
    ring
  obtain ⟨r, hr, hrrounds, hrread⟩ := Reading.exists_ofFloat_mul huread hpread hunormal hpnormal
    (by omega) hproduct
  refine ⟨r, hrread (Decimal.Dyadic.exponent_le_of_rounds hr hrrounds ?_)⟩
  have hufar := Decimal.Dyadic.value_mul_le_of_rounds hunormal hurounds
  have hpfar := Decimal.Dyadic.value_mul_le_of_rounds hpnormal hprounds
  simp only [Scaled.value, zpow_zero, mul_one, zpow_natCast, Nat.cast_one, one_mul]
    at hufar hpfar
  rw [hproduct]
  apply Decimal.Dyadic.mul_lt_limit hufar hpfar (Nat.cast_nonneg _) _ hbound
  unfold Decimal.Dyadic.value
  positivity

/-- Digits that round to a double below the three greatest ones can be scaled. -/
theorem exists_scale?_of_below (hv : v.Canonical) (hrange : v.exponent ≤ 971)
    (hbelow : v.exponent < 971 ∨ v.significand + 4 ≤ 2 ^ 53) (hrounds : v.rounds s = true)
    (hfits : s.digits < 2 ^ 64) : ∃ x, scale? s.digits s.exponent = some x := by
  unfold scale?
  dsimp only
  by_cases hneg : s.exponent < 0
  · exact ⟨_, if_pos hneg⟩
  have hdigits := Decimal.Dyadic.digits_pos_of_rounds hv hrounds
  have hbound := Decimal.Dyadic.value_le_of_rounds hv hrange hbelow hrounds
  have hlimit : s.value < Decimal.Dyadic.limit :=
    hbound.trans_lt (mul_lt_mul_of_pos_right (by norm_num) (by positivity))
  have hexponent := Decimal.Dyadic.exponent_le_of_value_lt hdigits hlimit
  have hvalue : s.value = s.digits * 10 ^ s.exponent.toNat := by
    rw [Scaled.value, ← zpow_natCast, Int.toNat_of_nonneg (by omega)]
  obtain ⟨r, hfinite⟩ :=
    exists_ofFloat_scaledUp hdigits hfits (by omega) (hvalue.symm.trans_le hbound)
  rw [if_neg hneg, if_pos (by omega), if_neg (by simp [isInf_of_finite hfinite])]
  exact ⟨_, rfl⟩

/-- The digits of a double can be scaled. -/
theorem exists_scale?_written (hv : v.Canonical) (hrange : v.exponent ≤ 971) :
    ∃ x, scale? (written (v.shortest .even)).digits (written (v.shortest .even)).exponent =
      some x := by
  have hgreatest : ∀ gap < 4, 0 < gap →
      (scale? (written (Decimal.Dyadic.shortest .even ⟨2 ^ 53 - gap, 971⟩)).digits
        (written (Decimal.Dyadic.shortest .even ⟨2 ^ 53 - gap, 971⟩)).exponent).isSome = true := by
    decide +kernel
  by_cases hbelow : v.exponent < 971 ∨ v.significand + 4 ≤ 2 ^ 53
  · obtain ⟨_, hfits, _⟩ := v.shortest_bounds hv hrange .even
    refine exists_scale?_of_below hv hrange hbelow ?_ (digits_written_lt hfits)
    exact Decimal.Dyadic.rounds_of_value_eq (value_written _).symm (v.rounds_shortest hv .even)
  · have hfits := hv.fits
    have hsome := hgreatest (2 ^ 53 - v.significand) (by omega) (by omega)
    have hdouble : (⟨2 ^ 53 - (2 ^ 53 - v.significand), 971⟩ : Decimal.Dyadic) = v := by
      rw [show 2 ^ 53 - (2 ^ 53 - v.significand) = v.significand by omega,
        show (971 : Int) = v.exponent by omega]
    rw [hdouble] at hsome
    exact Option.isSome_iff_exists.mp hsome

end Json.Number

end Patternwork
