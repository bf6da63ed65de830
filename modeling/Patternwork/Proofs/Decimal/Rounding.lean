import Mathlib.Algebra.Order.Field.Power
import Mathlib.Algebra.Order.Ring.Rat
import Mathlib.Tactic.FieldSimp
import Mathlib.Tactic.Linarith
import Mathlib.Tactic.Positivity
import Mathlib.Tactic.Ring
import Patternwork.Decimal.Shortest

namespace Patternwork.Decimal

/-- The number that a decimal stands for. -/
def Scaled.value (s : Scaled) : ℚ := s.digits * 10 ^ s.exponent

namespace Dyadic

/-- The number that a dyadic number stands for. -/
def value (v : Dyadic) : ℚ := v.significand * 2 ^ v.exponent

/-- The halfway point to the next smaller double. -/
def lower (v : Dyadic) : ℚ := v.lowerQuarters * 2 ^ (v.exponent - 2)

/-- The halfway point to the next greater double. -/
def upper (v : Dyadic) : ℚ := v.upperQuarters * 2 ^ (v.exponent - 2)

/-- The significand fills 53 bits unless the exponent is the least one. -/
structure Canonical (v : Dyadic) : Prop where
  positive : 0 < v.significand
  fits : v.significand < 2 ^ 53
  least : -1074 ≤ v.exponent
  filled : -1074 < v.exponent → 2 ^ 52 ≤ v.significand

end Dyadic

theorem zpow_eq_div (base : ℚ) (i : Int) :
    base ^ i = base ^ i.toNat / base ^ (-i).toNat := by
  rcases le_total 0 i with hi | hi
  · rw [Int.toNat_eq_zero.mpr (by omega : -i ≤ 0), pow_zero, div_one, ← zpow_natCast,
      Int.toNat_of_nonneg hi]
  · rw [Int.toNat_eq_zero.mpr hi, pow_zero, ← zpow_natCast, Int.toNat_of_nonneg (by omega),
      zpow_neg, one_div, inv_inv]

/-- The comparison by natural numbers is the comparison of the numbers meant. -/
theorem compareScaled_eq_compare (a : Nat) (i : Int) (d : Nat) (k : Int) :
    compareScaled a i d k = compare ((a : ℚ) * 2 ^ i) (d * 10 ^ k) := by
  have hleft : (a : ℚ) * 2 ^ i * (2 ^ (-i).toNat * 10 ^ (-k).toNat) =
      ((a * 2 ^ i.toNat * 10 ^ (-k).toNat : Nat) : ℚ) := by
    rw [zpow_eq_div 2]
    push_cast
    field_simp
  have hright : (d : ℚ) * 10 ^ k * (2 ^ (-i).toNat * 10 ^ (-k).toNat) =
      ((d * 10 ^ k.toNat * 2 ^ (-i).toNat : Nat) : ℚ) := by
    rw [zpow_eq_div 10]
    push_cast
    field_simp
  have hpos : (0 : ℚ) < 2 ^ (-i).toNat * 10 ^ (-k).toNat := by positivity
  have hcast (m n : Nat) : compare (m : ℚ) n = compare m n := by
    rcases lt_trichotomy m n with h | rfl | h
    · rw [compare_lt_iff_lt.mpr h, compare_lt_iff_lt.mpr (by exact_mod_cast h)]
    · simp
    · rw [compare_gt_iff_gt.mpr h, compare_gt_iff_gt.mpr (by exact_mod_cast h)]
  have hscale (x y c : ℚ) (hc : 0 < c) : compare (x * c) (y * c) = compare x y := by
    rcases lt_trichotomy x y with h | rfl | h
    · rw [compare_lt_iff_lt.mpr h, compare_lt_iff_lt.mpr (by gcongr)]
    · simp
    · rw [compare_gt_iff_gt.mpr h, compare_gt_iff_gt.mpr (by gcongr)]
  rw [← hscale _ _ _ hpos, hleft, hright, hcast]
  rfl

namespace Dyadic

/-- A decimal rounds to `v` when it lies between the halfway points, which belong to
    `v` only if its significand is even. -/
theorem rounds_iff (v : Dyadic) (s : Scaled) :
    v.rounds s = true ↔ v.lower ≤ s.value ∧ s.value ≤ v.upper ∧
      (v.significand % 2 = 1 → v.lower < s.value ∧ s.value < v.upper) := by
  have hlower := compareScaled_eq_compare v.lowerQuarters (v.exponent - 2) s.digits s.exponent
  have hupper := compareScaled_eq_compare v.upperQuarters (v.exponent - 2) s.digits s.exponent
  have hrounds : v.rounds s =
      if v.significand % 2 = 0 then
        compare v.lower s.value != .gt && compare v.upper s.value != .lt
      else compare v.lower s.value == .lt && compare v.upper s.value == .gt := by
    simp only [rounds, hlower, hupper]
    rfl
  rw [hrounds]
  by_cases heven : v.significand % 2 = 0
  · simp only [heven, if_true, Bool.and_eq_true, bne_iff_ne, ne_eq, compare_gt_iff_gt,
      compare_lt_iff_lt, not_lt]
    simp
  · have hodd : v.significand % 2 = 1 := by omega
    rw [if_neg heven]
    simp only [hodd, Bool.and_eq_true, beq_iff_eq, compare_lt_iff_lt, compare_gt_iff_gt,
      forall_const]
    exact ⟨fun h => ⟨h.1.le, h.2.le, h⟩, fun h => h.2.2⟩

/-- The exponents and significands of canonical numbers order their halfway points, and
    two that share one are not both even. -/
private theorem quarters_lt_or_odd {v w : Dyadic} (hv : v.Canonical) (hw : w.Canonical)
    (gap : Nat) (hgap : w.exponent = v.exponent + gap)
    (hbefore : 0 < gap ∨ v.significand < w.significand) :
    v.upperQuarters < w.lowerQuarters * 2 ^ gap ∨
      v.upperQuarters = w.lowerQuarters * 2 ^ gap ∧
        (v.significand % 2 = 1 ∨ w.significand % 2 = 1) := by
  have hvfits := hv.fits
  have hvleast := hv.least
  have hvfilled := hv.filled
  have hwfilled := hw.filled
  have hpow : Nat.pow 2 52 = 2 ^ 52 := rfl
  unfold upperQuarters lowerQuarters
  rw [hpow]
  cases gap with
  | zero =>
    have hstep : v.significand < w.significand := by omega
    have htwo : ¬ (w.significand = 2 ^ 52 ∧ -1074 < w.exponent) := by omega
    rw [if_neg htwo]
    omega
  | succ gap =>
    have hdouble : 2 ≤ 2 ^ (gap + 1) := by
      rw [pow_succ]
      have := Nat.one_le_two_pow (n := gap)
      omega
    have hscale (quarters : Nat) : quarters * 2 ≤ quarters * 2 ^ (gap + 1) :=
      Nat.mul_le_mul_left quarters hdouble
    have hnormal := hwfilled (by omega)
    by_cases hleast : w.significand = 2 ^ 52
    · have hone : w.significand = 2 ^ 52 ∧ -1074 < w.exponent := ⟨hleast, by omega⟩
      rw [if_pos hone, hleast]
      have := hscale (4 * 2 ^ 52 - 1)
      omega
    · rw [if_neg (by omega)]
      have := hscale (4 * w.significand - 2)
      omega

/-- A decimal that rounds to the smaller of two doubles is the smaller decimal. -/
theorem value_lt_of_rounds {v w : Dyadic} {s t : Scaled} (hv : v.Canonical) (hw : w.Canonical)
    (hbefore : v.exponent < w.exponent ∨
      v.exponent = w.exponent ∧ v.significand < w.significand)
    (hs : v.rounds s = true) (ht : w.rounds t = true) : s.value < t.value := by
  obtain ⟨gap, hgap⟩ : ∃ gap : Nat, w.exponent = v.exponent + gap :=
    ⟨(w.exponent - v.exponent).toNat, by omega⟩
  have hunit : (0 : ℚ) < 2 ^ (v.exponent - 2) := by positivity
  have hwlower : w.lower = ((w.lowerQuarters * 2 ^ gap : Nat) : ℚ) * 2 ^ (v.exponent - 2) := by
    rw [lower, show w.exponent - 2 = gap + (v.exponent - 2) by omega,
      zpow_add₀ two_ne_zero, zpow_natCast]
    push_cast
    ring
  obtain ⟨_, hsupper, hsodd⟩ := (rounds_iff v s).mp hs
  obtain ⟨htlower, _, htodd⟩ := (rounds_iff w t).mp ht
  rcases quarters_lt_or_odd hv hw gap hgap (by omega) with hlt | ⟨heq, hodd⟩
  · have hgapped : v.upper < w.lower := by
      rw [hwlower, upper]
      gcongr
    exact hsupper.trans_lt (hgapped.trans_le htlower)
  · have hmeet : v.upper = w.lower := by rw [hwlower, upper, heq]
    rcases hodd with hodd | hodd
    · exact ((hsodd hodd).2.trans_eq hmeet).trans_le htlower
    · exact (hsupper.trans_eq hmeet).trans_lt (htodd hodd).1

/-- Decimals of the same value round to the same double. -/
theorem eq_of_rounds {v w : Dyadic} {s t : Scaled} (hv : v.Canonical) (hw : w.Canonical)
    (hs : v.rounds s = true) (ht : w.rounds t = true) (hvalue : s.value = t.value) : v = w := by
  by_contra hne
  have hfields : ¬ (v.exponent = w.exponent ∧ v.significand = w.significand) := by
    intro h
    apply hne
    cases v
    cases w
    simp_all
  have horder : (v.exponent < w.exponent ∨
      v.exponent = w.exponent ∧ v.significand < w.significand) ∨
      (w.exponent < v.exponent ∨ w.exponent = v.exponent ∧ w.significand < v.significand) := by
    omega
  rcases horder with hbefore | hbefore
  · exact absurd hvalue (value_lt_of_rounds hv hw hbefore hs ht).ne
  · exact absurd hvalue.symm (value_lt_of_rounds hw hv hbefore ht hs).ne

/-- A number is a count of quarters of its unit. -/
theorem value_eq_quarters (v : Dyadic) : v.value = 4 * v.significand * 2 ^ (v.exponent - 2) := by
  rw [value, show v.exponent = (v.exponent - 2) + 2 by omega, zpow_add₀ two_ne_zero]
  norm_num
  ring

/-- What rounds to a double is at most half a unit of its last place away. -/
theorem near_of_rounds {v : Dyadic} {s : Scaled} (hs : v.rounds s = true) :
    v.value - 2 ^ (v.exponent - 1) ≤ s.value ∧ s.value ≤ v.value + 2 ^ (v.exponent - 1) := by
  obtain ⟨hlower, hupper, _⟩ := (rounds_iff v s).mp hs
  have hhalf : (2 : ℚ) ^ (v.exponent - 1) = 2 * 2 ^ (v.exponent - 2) := by
    rw [show v.exponent - 1 = 1 + (v.exponent - 2) by omega, zpow_add₀ two_ne_zero, zpow_one]
  have hvalue := value_eq_quarters v
  have hquarters : (4 * v.significand : ℚ) ≤ v.lowerQuarters + 2 := by
    have hnat : 4 * v.significand ≤ v.lowerQuarters + 2 := by
      unfold lowerQuarters
      split <;> omega
    exact_mod_cast hnat
  have hbelow : v.value - 2 ^ (v.exponent - 1) ≤ v.lower := by
    have hscaled := mul_le_mul_of_nonneg_right hquarters
      (by positivity : (0 : ℚ) ≤ 2 ^ (v.exponent - 2))
    rw [lower, hvalue, hhalf]
    linarith
  have habove : v.upper = v.value + 2 ^ (v.exponent - 1) := by
    rw [upper, upperQuarters, hvalue, hhalf]
    push_cast
    ring
  exact ⟨hbelow.trans hlower, hupper.trans_eq habove⟩

/-- What rounds to a double is positive. -/
theorem value_pos_of_rounds {v : Dyadic} {s : Scaled} (hv : v.Canonical)
    (hs : v.rounds s = true) : 0 < s.value := by
  have hlower : 0 < v.lower := by
    have hquarters : 0 < v.lowerQuarters := by
      have := hv.positive
      unfold lowerQuarters
      split <;> omega
    unfold lower
    positivity
  exact hlower.trans_le ((rounds_iff v s).mp hs).1

theorem digits_pos_of_rounds {v : Dyadic} {s : Scaled} (hv : v.Canonical)
    (hs : v.rounds s = true) : 0 < s.digits := by
  apply Nat.pos_of_ne_zero
  intro hzero
  have hpos := value_pos_of_rounds hv hs
  simp [Scaled.value, hzero] at hpos

/-- All digits of a number have its value. -/
theorem value_exact (v : Dyadic) : v.exact.value = v.value := by
  unfold exact value Scaled.value
  split
  · rename_i hexponent
    have htwo : (2 : ℚ) ^ v.exponent = 2 ^ v.exponent.toNat := by
      rw [← zpow_natCast, Int.toNat_of_nonneg hexponent]
    simp [htwo]
  · rename_i hexponent
    obtain ⟨places, hplaces⟩ : ∃ places : Nat, v.exponent = -(places : Int) :=
      ⟨(-v.exponent).toNat, by omega⟩
    have hten : (10 : ℚ) = 5 * 2 := by norm_num
    simp only [hplaces, neg_neg, Int.toNat_natCast, zpow_neg, zpow_natCast, Nat.pow_eq, hten,
      mul_pow]
    push_cast
    field_simp

theorem rounds_exact {v : Dyadic} (hv : v.Canonical) : v.rounds v.exact = true := by
  have hpositive := hv.positive
  have hunit : (0 : ℚ) < 2 ^ (v.exponent - 2) := by positivity
  have hvalue : v.value = ((4 * v.significand : Nat) : ℚ) * 2 ^ (v.exponent - 2) := by
    rw [value_eq_quarters]
    push_cast
    rfl
  have hlower : v.lower < v.value := by
    rw [hvalue, lower]
    have : v.lowerQuarters < 4 * v.significand := by
      unfold lowerQuarters
      split <;> omega
    gcongr
  have hupper : v.value < v.upper := by
    rw [hvalue, upper]
    have : 4 * v.significand < v.upperQuarters := by
      unfold upperQuarters
      omega
    gcongr
  rw [rounds_iff, value_exact]
  exact ⟨hlower.le, hupper.le, fun _ => ⟨hlower, hupper⟩⟩

/-- Whether a decimal rounds to a double depends on its value only. -/
theorem rounds_of_value_eq {v : Dyadic} {s t : Scaled} (hvalue : s.value = t.value)
    (hs : v.rounds s = true) : v.rounds t = true := by
  rw [rounds_iff] at hs ⊢
  rwa [← hvalue]

/-- A decimal that is the value of a double rounds to this double only. -/
theorem eq_of_rounds_value {v w : Dyadic} {s : Scaled} (hv : v.Canonical) (hw : w.Canonical)
    (hs : v.rounds s = true) (hvalue : s.value = w.value) : v = w :=
  eq_of_rounds hv hw hs (rounds_exact hw) (hvalue.trans (value_exact w).symm)

private theorem rounds_of_mem_candidates {v : Dyadic} {tie : Tie} {k : Int} {s : Scaled}
    (hs : s ∈ v.candidates tie k) : v.rounds s = true := by
  unfold candidates at hs
  have hkept := (List.mem_filter.mp hs).2
  exact (Bool.and_eq_true_iff.mp hkept).2

private theorem rounds_search {v : Dyadic} (hv : v.Canonical) (tie : Tie) (fuel : Nat) (k : Int) :
    v.rounds (v.search tie fuel k) = true := by
  induction fuel generalizing k with
  | zero => exact rounds_exact hv
  | succ fuel ih =>
    unfold search
    cases hcandidates : v.candidates tie k with
    | nil => exact ih (k - 1)
    | cons s rest => exact rounds_of_mem_candidates (hcandidates ▸ List.mem_cons_self)

/-- The shortest decimal of a double reads back as that double. -/
theorem rounds_shortest {v : Dyadic} (hv : v.Canonical) (tie : Tie) :
    v.rounds (v.shortest tie) = true :=
  rounds_search hv tie 24 v.ceiling

end Dyadic

end Patternwork.Decimal
