import Patternwork.Json.Number
import Patternwork.Proofs.Decimal.Arithmetic

namespace Patternwork.Json.Number

open Decimal (Reading Scaled)

/-- A power of ten as a significand of 53 bits and an exponent. -/
def tenPower (k : Nat) : Decimal.Dyadic :=
  ⟨10 ^ k * 2 ^ 52 / 2 ^ (10 ^ k).log2, (10 ^ k).log2 - 52⟩

theorem ofFloat_powerOfTen :
    ∀ k < 23, Reading.ofFloat (powerOfTen k) = .finite false (tenPower k) := by
  decide +kernel

theorem tenPower_bounds : ∀ k < 23,
    2 ^ 52 ≤ (tenPower k).significand ∧ -52 ≤ (tenPower k).exponent ∧
      (tenPower k).exponent ≤ 22 := by
  decide +kernel

/-- The powers of ten up to `10 ^ 22` are doubles. -/
theorem value_tenPower {k : Nat} (hk : k < 23) : (tenPower k).value = 10 ^ k := by
  have htable : ∀ k < 23, 10 ^ k * 2 ^ 52 / 2 ^ (10 ^ k).log2 * 2 ^ (10 ^ k).log2 =
      10 ^ k * 2 ^ 52 := by
    decide +kernel
  have hvalue : ((10 ^ k * 2 ^ 52 / 2 ^ (10 ^ k).log2 : Nat) : ℚ) * 2 ^ (10 ^ k).log2 =
      10 ^ k * 2 ^ 52 := by
    exact_mod_cast htable k hk
  unfold tenPower Decimal.Dyadic.value
  dsimp only
  rw [zpow_sub₀ two_ne_zero, zpow_natCast, zpow_ofNat, mul_div_assoc', hvalue]
  field_simp

variable {s : Scaled} {v w : Decimal.Dyadic}

/-- The digits of a decimal and its power of ten are doubles. -/
structure Exact (s : Scaled) : Prop where
  digits : ∃ w : Decimal.Dyadic, w.Canonical ∧ w.value = s.digits
  fits : s.digits < 2 ^ 64
  exponent : s.exponent.natAbs ≤ 22

/-- Digits of at most 53 bits are a double. -/
theorem exact_of_lt (hpositive : 0 < s.digits) (hsmall : s.digits < 2 ^ 53)
    (hexponent : s.exponent.natAbs ≤ 22) : Exact s := by
  obtain ⟨places, hplaces⟩ : ∃ places, s.digits.log2 + places = 52 := by
    have hlog : s.digits.log2 < 53 := (Nat.log2_lt hpositive.ne').mpr hsmall
    exact ⟨52 - s.digits.log2, by omega⟩
  have hfilled : 2 ^ 52 ≤ s.digits * 2 ^ places := by
    rw [← hplaces, pow_add]
    exact Nat.mul_le_mul_right _ (Nat.log2_self_le hpositive.ne')
  have hfits : s.digits * 2 ^ places < 2 ^ 53 := by
    have hwidth : 2 ^ 53 = 2 ^ (s.digits.log2 + 1) * 2 ^ places := by
      rw [← pow_add, show s.digits.log2 + 1 + places = 53 by omega]
    rw [hwidth]
    exact Nat.mul_lt_mul_of_pos_right Nat.lt_log2_self (by positivity)
  have hcanonical : Decimal.Dyadic.Canonical ⟨s.digits * 2 ^ places, -(places : Int)⟩ :=
    ⟨by positivity, hfits, by dsimp only; omega, fun _ => hfilled⟩
  refine ⟨⟨_, hcanonical, ?_⟩, by omega, hexponent⟩
  rw [Decimal.Dyadic.value, zpow_neg, zpow_natCast]
  push_cast
  field_simp

/-- Digits that are a double are converted to this double. -/
theorem ofFloat_digits (hw : w.Canonical) (hvalue : w.value = s.digits)
    (hfits : s.digits < 2 ^ 64) :
    2 ^ 52 ≤ w.significand ∧ -52 ≤ w.exponent ∧ w.exponent ≤ 12 ∧
      Reading.ofFloat s.digits.toUInt64.toFloat = .finite false w := by
  have hpos : 0 < s.digits := by
    have hpos : (0 : ℚ) < w.value := by
      have := hw.positive
      unfold Decimal.Dyadic.value
      positivity
    rw [hvalue] at hpos
    exact_mod_cast hpos
  obtain ⟨u, hu, hrounds, hleast, hgreatest, hread⟩ := Reading.exists_ofFloat_toFloat hpos hfits
  obtain rfl : u = w := by
    apply Decimal.Dyadic.eq_of_rounds_value hu hw hrounds
    rw [hvalue]
    simp [Scaled.value]
  exact ⟨hu.filled (by omega), hleast, hgreatest, hread⟩

theorem isInf_of_finite {x : Float} {negative : Bool}
    (hread : Reading.ofFloat x = .finite negative v) : x.isInf = false := by
  obtain ⟨sign, hpositive, _, hunpack⟩ := Reading.unpack_of_ofFloat hread
  change x.toModel.unpack.isInf = false
  rw [hunpack]
  rfl

/-- Scaling exact digits by an exact power of ten gives the double that the decimal rounds
    to. -/
theorem scale?_of_exact (hv : v.Canonical) (hrange : v.exponent ≤ 971)
    (hrounds : v.rounds s = true) (hexact : Exact s) :
    ∃ x, scale? s.digits s.exponent = some x ∧ Reading.ofFloat x = .finite false v := by
  obtain ⟨⟨w, hw, hdigits⟩, hfits, hexponent⟩ := hexact
  obtain ⟨hwnormal, hwleast, hwgreatest, hwread⟩ := ofFloat_digits hw hdigits hfits
  obtain ⟨k, hk⟩ : ∃ k, k = s.exponent.natAbs := ⟨_, rfl⟩
  have hpower := ofFloat_powerOfTen k (by omega)
  have hten := value_tenPower (k := k) (by omega)
  obtain ⟨hpnormal, hpleast, hpgreatest⟩ := tenPower_bounds k (by omega)
  unfold scale?
  dsimp only
  by_cases hneg : s.exponent < 0
  · have hsexponent : s.exponent = -(k : Int) := by omega
    obtain ⟨u, hu, hurounds, huread⟩ := Reading.exists_ofFloat_div (s := s) hwread hpower hwnormal
      hpnormal (by omega) (by
        rw [Scaled.value, hsexponent, hdigits, hten, zpow_neg, zpow_natCast, div_eq_mul_inv])
    rw [if_pos hneg, ← hk, shrink, if_pos (by omega)]
    obtain rfl := Decimal.Dyadic.eq_of_rounds hu hv hurounds hrounds rfl
    exact ⟨_, rfl, huread hrange⟩
  · have hsexponent : s.exponent = k := by omega
    obtain ⟨u, hu, hurounds, huread⟩ := Reading.exists_ofFloat_mul (s := s) hwread hpower hwnormal
      hpnormal (by omega) (by
        rw [Scaled.value, hsexponent, hdigits, hten, zpow_natCast])
    have htoNat : s.exponent.toNat = k := by omega
    obtain rfl := Decimal.Dyadic.eq_of_rounds hu hv hurounds hrounds rfl
    rw [if_neg hneg, if_pos (by omega), htoNat, if_neg (by simp [isInf_of_finite (huread hrange)])]
    exact ⟨_, rfl, huread hrange⟩

end Patternwork.Json.Number
