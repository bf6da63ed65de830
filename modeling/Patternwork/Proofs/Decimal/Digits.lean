import Patternwork.Proofs.Decimal.Rounding

namespace Patternwork.Decimal.Dyadic

variable {v : Dyadic} {tie : Tie} {k : Int} {s : Scaled}

/-- A grid has candidates only at the two steps around the number. -/
theorem eq_of_mem_candidates (hs : s ∈ v.candidates tie k) :
    0 < s.digits ∧ (s = ⟨v.steps k, k⟩ ∨ s = ⟨v.steps k + 1, k⟩) := by
  unfold candidates at hs
  obtain ⟨hordered, hkept⟩ := List.mem_filter.mp hs
  refine ⟨of_decide_eq_true (Bool.and_eq_true_iff.mp hkept).1, ?_⟩
  split at hordered
  · simpa using hordered
  · simpa [or_comm] using hordered
  · split at hordered
    · simpa [or_comm] using hordered
    · simpa using hordered

/-- The step below a number is a candidate if it rounds to the number. -/
theorem candidates_ne_nil (hsteps : 0 < v.steps k) (hrounds : v.rounds ⟨v.steps k, k⟩ = true) :
    v.candidates tie k ≠ [] := by
  have hmem : (⟨v.steps k, k⟩ : Scaled) ∈ v.candidates tie k := by
    unfold candidates
    refine List.mem_filter.mpr ⟨?_, by simp [hsteps, hrounds]⟩
    split
    · simp
    · simp
    · split <;> simp
  exact List.ne_nil_of_mem hmem

/-- The search goes no further than to a grid that has a candidate. -/
theorem search_mem {least : Int} (hleast : v.candidates tie least ≠ []) (fuel : Nat) (k : Int)
    (hk : least ≤ k) (hfuel : k < least + fuel) :
    ∃ grid, least ≤ grid ∧ grid ≤ k ∧ v.search tie fuel k ∈ v.candidates tie grid := by
  induction fuel generalizing k with
  | zero => omega
  | succ fuel ih =>
    unfold search
    cases hcandidates : v.candidates tie k with
    | nil =>
      -- The last grid has a candidate, so this is a coarser one.
      have hne : k ≠ least := by
        rintro rfl
        exact hleast hcandidates
      obtain ⟨grid, hlower, hupper, hmem⟩ := ih (k - 1) (by omega) (by omega)
      exact ⟨grid, hlower, by omega, hmem⟩
    | cons s rest =>
      refine ⟨k, hk, le_refl k, ?_⟩
      rw [hcandidates]
      exact List.mem_cons_self

/-- A number lies between its steps. -/
theorem steps_bounds (v : Dyadic) (k : Int) :
    v.steps k * (10 : ℚ) ^ k ≤ v.value ∧ v.value < (v.steps k + 1) * (10 : ℚ) ^ k := by
  obtain ⟨n, hn⟩ : ∃ n, n = v.significand * 2 ^ v.exponent.toNat * 10 ^ (-k).toNat := ⟨_, rfl⟩
  obtain ⟨d, hd⟩ : ∃ d, d = 10 ^ k.toNat * 2 ^ (-v.exponent).toNat := ⟨_, rfl⟩
  have hsteps : v.steps k = n / d := by
    rw [hn, hd]
    rfl
  have hpos : 0 < d := by
    rw [hd]
    positivity
  have hvalue : v.value * d = n * 10 ^ k := by
    rw [hn, hd, value, zpow_eq_div 2, zpow_eq_div 10]
    push_cast
    field_simp
  have hcast : (0 : ℚ) < d := by exact_mod_cast hpos
  have hten : (0 : ℚ) < 10 ^ k := by positivity
  have hlower : ((n / d : Nat) : ℚ) * d ≤ n := by exact_mod_cast Nat.div_mul_le_self n d
  have hupper : (n : ℚ) < ((n / d : Nat) + 1) * d := by
    exact_mod_cast Nat.lt_mul_of_div_lt (Nat.lt_succ_self _) hpos
  rw [hsteps]
  constructor
  · refine le_of_mul_le_mul_right ?_ hcast
    rw [hvalue, mul_right_comm]
    exact mul_le_mul_of_nonneg_right hlower hten.le
  · refine lt_of_mul_lt_mul_right ?_ hcast.le
    rw [hvalue, mul_right_comm]
    exact mul_lt_mul_of_pos_right hupper hten

private theorem ceiling_table : ∀ i : Nat, i < 2046 →
    let e : Int := (i : Int) - 1074
    let finest : Int := ceiling ⟨0, e⟩ - 18
    compareScaled 1 (e - 10) 1 finest ≠ .gt ∧ compareScaled 1 (e - 2) 1 finest ≠ .lt := by
  decide +kernel

/-- Eighteen grids below the first one the steps are short against the gap between doubles, but
    not very short. -/
theorem ten_pow_ceiling (hleast : -1074 ≤ v.exponent) (hrange : v.exponent ≤ 971) :
    (2 : ℚ) ^ (v.exponent - 10) ≤ 10 ^ (v.ceiling - 18) ∧
      (10 : ℚ) ^ (v.ceiling - 18) ≤ 2 ^ (v.exponent - 2) := by
  have htable := ceiling_table (v.exponent + 1074).toNat (by omega)
  have hexponent : (((v.exponent + 1074).toNat : Nat) : Int) - 1074 = v.exponent := by omega
  dsimp only at htable
  rw [hexponent, compareScaled_eq_compare, compareScaled_eq_compare, ne_eq, ne_eq,
    compare_gt_iff_gt, compare_lt_iff_lt, not_lt, not_lt] at htable
  simpa [ceiling] using htable

/-- The finest grid that is needed has a candidate. -/
theorem candidates_finest_ne_nil (hv : v.Canonical) (hrange : v.exponent ≤ 971) (tie : Tie) :
    v.candidates tie (v.ceiling - 18) ≠ [] := by
  obtain ⟨_, hfine⟩ := ten_pow_ceiling hv.least hrange
  obtain ⟨hbelow, habove⟩ := steps_bounds v (v.ceiling - 18)
  have hunit : (0 : ℚ) < 2 ^ (v.exponent - 2) := by positivity
  have hone : (1 : ℚ) ≤ v.significand := by exact_mod_cast hv.positive
  have hvalue := value_eq_quarters v
  have hsteps : 0 < v.steps (v.ceiling - 18) := by
    by_contra hzero
    rw [Nat.eq_zero_of_not_pos hzero, Nat.cast_zero, zero_add, one_mul, hvalue] at habove
    have hfour : 1 * (2 : ℚ) ^ (v.exponent - 2) ≤ 4 * v.significand * 2 ^ (v.exponent - 2) :=
      mul_le_mul_of_nonneg_right (by linarith) hunit.le
    linarith
  have hquarters : (v.lowerQuarters : ℚ) + 1 ≤ 4 * v.significand := by
    have hpositive := hv.positive
    have hnat : v.lowerQuarters + 1 ≤ 4 * v.significand := by
      unfold lowerQuarters
      split <;> omega
    exact_mod_cast hnat
  have hlower : v.lower < v.steps (v.ceiling - 18) * 10 ^ (v.ceiling - 18) := by
    have hscaled := mul_le_mul_of_nonneg_right hquarters hunit.le
    rw [lower]
    linarith
  have hupper : v.steps (v.ceiling - 18) * (10 : ℚ) ^ (v.ceiling - 18) < v.upper := by
    have hmore : 4 * (v.significand : ℚ) * 2 ^ (v.exponent - 2) < v.upper := by
      rw [upper, upperQuarters]
      push_cast
      exact mul_lt_mul_of_pos_right (by linarith) hunit
    linarith
  refine candidates_ne_nil hsteps ((rounds_iff _ _).mpr ?_)
  exact ⟨hlower.le, hupper.le, fun _ => ⟨hlower, hupper⟩⟩

/-- The digits of a double fit 64 bits, and their exponent is small. -/
theorem shortest_bounds (hv : v.Canonical) (hrange : v.exponent ≤ 971) (tie : Tie) :
    0 < (v.shortest tie).digits ∧ (v.shortest tie).digits < 2 ^ 64 ∧
      -400 ≤ (v.shortest tie).exponent ∧ (v.shortest tie).exponent ≤ 400 := by
  have hleast := hv.least
  have hceiling : -308 ≤ v.ceiling ∧ v.ceiling ≤ 310 := by
    unfold ceiling
    omega
  obtain ⟨grid, hlower, hupper, hmem⟩ := search_mem (candidates_finest_ne_nil hv hrange tie) 24
    v.ceiling (by omega) (by omega)
  obtain ⟨hpositive, hstep⟩ := eq_of_mem_candidates hmem
  have hsteps : v.steps grid < 2 ^ 63 := by
    obtain ⟨hcoarse, _⟩ := ten_pow_ceiling hleast hrange
    obtain ⟨hbelow, _⟩ := steps_bounds v grid
    have hgrid : (10 : ℚ) ^ (v.ceiling - 18) ≤ 10 ^ grid :=
      zpow_le_zpow_right₀ (by norm_num) hlower
    have hunit : (0 : ℚ) < 2 ^ (v.exponent - 10) := by positivity
    have hfits : (v.significand : ℚ) < 2 ^ 53 := by exact_mod_cast hv.fits
    have hvalue : v.value = v.significand * 2 ^ 10 * 2 ^ (v.exponent - 10) := by
      rw [value, show v.exponent = (v.exponent - 10) + 10 by omega, zpow_add₀ two_ne_zero,
        show v.exponent - 10 + 10 - 10 = v.exponent - 10 by omega, zpow_ofNat]
      ring
    have hproduct : v.steps grid * (2 : ℚ) ^ (v.exponent - 10) <
        2 ^ 63 * 2 ^ (v.exponent - 10) := calc
      v.steps grid * (2 : ℚ) ^ (v.exponent - 10) ≤ v.steps grid * 10 ^ grid :=
        mul_le_mul_of_nonneg_left (hcoarse.trans hgrid) (Nat.cast_nonneg _)
      _ ≤ v.value := hbelow
      _ = v.significand * 2 ^ 10 * 2 ^ (v.exponent - 10) := hvalue
      _ < 2 ^ 63 * 2 ^ (v.exponent - 10) := mul_lt_mul_of_pos_right (by linarith) hunit
    exact_mod_cast lt_of_mul_lt_mul_right hproduct hunit.le
  have hdigits : (v.search tie 24 v.ceiling).digits ≤ v.steps grid + 1 ∧
      (v.search tie 24 v.ceiling).exponent = grid := by
    rcases hstep with heq | heq <;> rw [heq] <;> simp
  unfold shortest
  omega

end Patternwork.Decimal.Dyadic
