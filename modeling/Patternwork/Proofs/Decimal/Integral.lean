import Patternwork.Proofs.Decimal.Digits
import Patternwork.Proofs.Decimal.Text

namespace Patternwork.Decimal

theorem toDigits_mul_ten_pow {n : Nat} (hn : 0 < n) (zeros : Nat) :
    Nat.toDigits 10 (n * 10 ^ zeros) = Nat.toDigits 10 n ++ List.replicate zeros '0' := by
  induction zeros with
  | zero => simp
  | succ zeros ih =>
    have hpos : 0 < n * 10 ^ zeros := by positivity
    have hstep : n * 10 ^ (zeros + 1) = 10 * (n * 10 ^ zeros) := by ring
    rw [hstep, Nat.toDigits_of_base_le (by decide) (by omega),
      Nat.mul_div_cancel_left _ (by decide), Nat.mul_mod_right, ih, List.append_assoc,
      List.replicate_succ']
    rfl

/-- A decimal on the grid of a power of ten is written as the integer that it is. -/
theorem positionalText_of_nonneg {s : Scaled} {n : Nat} (hexponent : 0 ≤ s.exponent)
    (hvalue : s.value = n) (hn : 0 < n) : positionalText "" s = toString n := by
  obtain ⟨zeros, hzeros⟩ : ∃ zeros : Nat, s.exponent = zeros := ⟨s.exponent.toNat, by omega⟩
  have hproduct : n = s.digits * 10 ^ zeros := by
    rw [Scaled.value, hzeros, zpow_natCast] at hvalue
    exact_mod_cast hvalue.symm
  have hdigits : 0 < s.digits := by
    rcases Nat.eq_zero_or_pos s.digits with hzero | hpos
    · rw [hzero, zero_mul] at hproduct
      omega
    · exact hpos
  apply String.toList_inj.mp
  unfold positionalText
  rw [if_pos hexponent, hzeros, Int.toNat_natCast, hproduct]
  simp [toDigits_mul_ten_pow hdigits]

namespace Dyadic

variable {v : Dyadic} {n : Nat}

/-- A number below `2 ^ 53` has no positive exponent, and not a small one either. -/
private theorem exponent_bounds (hv : v.Canonical) (hvalue : v.value = n) (hn : 0 < n)
    (hbound : n < 2 ^ 53) : -53 < v.exponent ∧ v.exponent ≤ 0 := by
  have hfits : (v.significand : ℚ) < 2 ^ (53 : Int) := by exact_mod_cast hv.fits
  have hupper : (n : ℚ) < 2 ^ (53 : Int) := by exact_mod_cast hbound
  have hlower : (1 : ℚ) ≤ n := by exact_mod_cast hn
  have hunit : (0 : ℚ) < 2 ^ v.exponent := by positivity
  rw [value] at hvalue
  constructor
  · by_contra hsmall
    have hpow : (2 : ℚ) ^ v.exponent ≤ 2 ^ (-53 : Int) :=
      zpow_le_zpow_right₀ (by norm_num) (by omega)
    have hproduct : (n : ℚ) < 2 ^ (53 : Int) * 2 ^ (-53 : Int) := calc
      (n : ℚ) = v.significand * 2 ^ v.exponent := hvalue.symm
      _ < 2 ^ (53 : Int) * 2 ^ v.exponent := mul_lt_mul_of_pos_right hfits hunit
      _ ≤ 2 ^ (53 : Int) * 2 ^ (-53 : Int) := mul_le_mul_of_nonneg_left hpow (by positivity)
    rw [← zpow_add₀ two_ne_zero] at hproduct
    norm_num at hproduct
    omega
  · by_contra hlarge
    have hfilled : (2 : ℚ) ^ (52 : Int) ≤ v.significand := by
      exact_mod_cast hv.filled (by omega)
    have hpow : (2 : ℚ) ^ (1 : Int) ≤ 2 ^ v.exponent :=
      zpow_le_zpow_right₀ (by norm_num) (by omega)
    have hproduct : (2 : ℚ) ^ (52 : Int) * 2 ^ (1 : Int) ≤ n := calc
      (2 : ℚ) ^ (52 : Int) * 2 ^ (1 : Int) ≤ v.significand * 2 ^ v.exponent :=
        mul_le_mul hfilled hpow (by positivity) (by positivity)
      _ = n := hvalue
    rw [← zpow_add₀ two_ne_zero] at hproduct
    exact absurd (hproduct.trans_lt hupper) (by norm_num)

/-- The integer stands on the grid of the ones. -/
private theorem steps_zero (hvalue : v.value = n) (hexponent : v.exponent ≤ 0) :
    v.steps 0 = n := by
  obtain ⟨places, hplaces⟩ : ∃ places : Nat, v.exponent = -(places : Int) :=
    ⟨(-v.exponent).toNat, by omega⟩
  have hproduct : v.significand = n * 2 ^ places := by
    rw [value, hplaces, zpow_neg, zpow_natCast, ← div_eq_mul_inv, div_eq_iff (by positivity)]
      at hvalue
    exact_mod_cast hvalue
  unfold steps
  simp [hplaces, hproduct]

private theorem candidates_zero_ne_nil (hv : v.Canonical) (tie : Tie) (hvalue : v.value = n)
    (hn : 0 < n) (hexponent : v.exponent ≤ 0) : v.candidates tie 0 ≠ [] := by
  have hsteps := steps_zero hvalue hexponent
  refine candidates_ne_nil (by omega) ?_
  apply rounds_of_value_eq _ (rounds_exact hv)
  rw [value_exact, hvalue, hsteps]
  simp [Scaled.value]

/-- The search never leaves the grids of whole numbers. -/
private theorem exponent_search_nonneg (tie : Tie) (hzero : v.candidates tie 0 ≠ [])
    (fuel : Nat) (k : Int) (hk : 0 ≤ k) (hfuel : k < fuel) :
    0 ≤ (v.search tie fuel k).exponent := by
  obtain ⟨grid, hgrid, _, hmem⟩ := search_mem hzero fuel k hk (by omega)
  rcases (eq_of_mem_candidates hmem).2 with heq | heq <;> rw [heq] <;> exact hgrid

/-- A whole number that rounds to an integral double is that integer. -/
private theorem value_eq_of_rounds {s : Scaled} (hs : v.rounds s = true)
    (hexponent : 0 ≤ s.exponent) (hvalue : v.value = n) (hsmall : v.exponent ≤ 0) :
    s.value = n := by
  obtain ⟨zeros, hzeros⟩ : ∃ zeros : Nat, s.exponent = zeros := ⟨s.exponent.toNat, by omega⟩
  have hwhole : s.value = ((s.digits * 10 ^ zeros : Nat) : ℚ) := by
    rw [Scaled.value, hzeros, zpow_natCast]
    push_cast
    rfl
  have hunit : (2 : ℚ) ^ (v.exponent - 1) < 1 :=
    zpow_lt_one_of_neg₀ one_lt_two (by omega)
  obtain ⟨hlower, hupper⟩ := near_of_rounds hs
  rw [hvalue, hwhole] at hlower hupper
  rw [hwhole]
  have hless : (n : ℚ) < ((s.digits * 10 ^ zeros + 1 : Nat) : ℚ) := by
    push_cast at hlower ⊢
    linarith
  have hmore : ((s.digits * 10 ^ zeros : Nat) : ℚ) < ((n + 1 : Nat) : ℚ) := by
    push_cast at hupper ⊢
    linarith
  have hbelow : n < s.digits * 10 ^ zeros + 1 := by exact_mod_cast hless
  have habove : s.digits * 10 ^ zeros < n + 1 := by exact_mod_cast hmore
  congr 1
  omega

/-- The shortest decimal of an integral double is the integer, on a grid of whole numbers. -/
theorem shortest_of_integral (hv : v.Canonical) (tie : Tie) (hvalue : v.value = n)
    (hn : 0 < n) (hbound : n < 2 ^ 53) :
    0 ≤ (v.shortest tie).exponent ∧ (v.shortest tie).value = n := by
  obtain ⟨hleast, hgreatest⟩ := exponent_bounds hv hvalue hn hbound
  have hceiling : 0 ≤ v.ceiling ∧ v.ceiling < (24 : Nat) := by
    unfold ceiling
    omega
  have hexponent := exponent_search_nonneg tie
    (candidates_zero_ne_nil hv tie hvalue hn hgreatest) 24 v.ceiling hceiling.1 hceiling.2
  exact ⟨hexponent, value_eq_of_rounds (rounds_shortest hv tie) hexponent hvalue hgreatest⟩

end Dyadic

/-- An integral double below `2 ^ 53` is displayed as the integer. -/
theorem Reading.display_of_integral {x : Float} {negative : Bool} {v : Dyadic} {n : Nat}
    (hread : Reading.ofFloat x = .finite negative v) (hvalue : v.value = n)
    (hbound : n < 2 ^ 53) :
    (Setting.float x).display = (if negative then "-" else "") ++ toString n := by
  have hv := Reading.canonical_of_ofFloat hread
  have hn : 0 < n := by
    have hpos : (0 : ℚ) < v.value := by
      have := hv.positive
      unfold Dyadic.value
      positivity
    rw [hvalue] at hpos
    exact_mod_cast hpos
  obtain ⟨hexponent, hshortest⟩ := Dyadic.shortest_of_integral hv .up hvalue hn hbound
  rw [Reading.display_float, hread, Reading.text,
    positionalText_of_nonneg hexponent hshortest hn]

end Patternwork.Decimal
