import Mathlib.Data.List.TakeWhile
import Patternwork.Decimal.Layout
import Patternwork.Proofs.Decimal.Rounding

namespace Patternwork.Decimal

/-- The number that digits with at most one point spell out. -/
def spelled (text : List Char) : ℚ :=
  let whole := text.takeWhile (· ≠ '.')
  let places := (text.dropWhile (· ≠ '.')).tail
  Nat.ofDigitChars 10 (whole ++ places) 0 / 10 ^ places.length

private theorem ne_point_of_mem {text : List Char} (hpoint : '.' ∉ text) :
    ∀ c ∈ text, decide (c ≠ '.') = true := by
  intro c hc
  have : c ≠ '.' := fun h => hpoint (h ▸ hc)
  simpa using this

private theorem spelled_of_no_point {text : List Char} (hpoint : '.' ∉ text) :
    spelled text = Nat.ofDigitChars 10 text 0 := by
  have hall := ne_point_of_mem hpoint
  have htake : text.takeWhile (· ≠ '.') = text := List.takeWhile_eq_self_iff.mpr hall
  have hdrop : text.dropWhile (· ≠ '.') = [] := List.dropWhile_eq_nil_iff.mpr hall
  simp only [spelled, htake, hdrop]
  simp

private theorem spelled_append_point {whole places : List Char} (hpoint : '.' ∉ whole) :
    spelled (whole ++ '.' :: places) =
      Nat.ofDigitChars 10 (whole ++ places) 0 / 10 ^ places.length := by
  have hall := ne_point_of_mem hpoint
  have htake : (whole ++ '.' :: places).takeWhile (· ≠ '.') = whole := by
    rw [List.takeWhile_append_of_pos hall]
    simp
  have hdrop : (whole ++ '.' :: places).dropWhile (· ≠ '.') = '.' :: places := by
    rw [List.dropWhile_append_of_pos hall]
    simp
  simp only [spelled, htake, hdrop, List.tail_cons]

theorem isDigit_of_mem_toDigits {n : Nat} {c : Char} (hc : c ∈ Nat.toDigits 10 n) :
    c.isDigit = true :=
  Nat.isDigit_of_mem_toDigits (by decide) (by decide) hc

theorem not_mem_toDigits {n : Nat} {c : Char} (hc : c.isDigit = false) :
    c ∉ Nat.toDigits 10 n := by
  intro hmem
  rw [isDigit_of_mem_toDigits hmem] at hc
  exact Bool.noConfusion hc

/-- A decimal written without an exponent spells out its value. -/
theorem spelled_positionalText (s : Scaled) : spelled (positionalText "" s).toList = s.value := by
  have hpoint : '.' ∉ Nat.toDigits 10 s.digits := not_mem_toDigits (by decide)
  unfold positionalText Scaled.value
  simp only [Nat.toString_eq_repr]
  split
  · rename_i hexponent
    obtain ⟨zeros, hzeros⟩ : ∃ zeros : Nat, s.exponent = zeros := ⟨s.exponent.toNat, by omega⟩
    rw [spelled_of_no_point (by simp [hpoint])]
    simp [hzeros, Nat.ofDigitChars_append, mul_comm]
  · rename_i hexponent
    obtain ⟨places, hplaces⟩ : ∃ places : Nat, s.exponent = -(places : Int) :=
      ⟨(-s.exponent).toNat, by omega⟩
    simp only [hplaces, neg_neg, Int.toNat_natCast, zpow_neg, zpow_natCast]
    have hcount : s.digits.repr.length = (Nat.toDigits 10 s.digits).length := by
      rw [← String.length_toList, Nat.toList_repr]
    rw [hcount]
    split
    · rename_i hshort
      have htext : (String.ofList (s.digits.repr.toList.take
            ((Nat.toDigits 10 s.digits).length - places)) ++ "." ++
          String.ofList (s.digits.repr.toList.drop
            ((Nat.toDigits 10 s.digits).length - places))).toList =
          (Nat.toDigits 10 s.digits).take ((Nat.toDigits 10 s.digits).length - places) ++
            '.' :: (Nat.toDigits 10 s.digits).drop
              ((Nat.toDigits 10 s.digits).length - places) := by
        simp
      rw [htext, spelled_append_point (fun h => hpoint (List.mem_of_mem_take h)),
        List.take_append_drop, Nat.ofDigitChars_ten_toDigits, List.length_drop,
        Nat.sub_sub_self (by omega)]
      rfl
    · rename_i hlong
      have htext : ("0." ++ String.ofList (List.replicate
            (places - (Nat.toDigits 10 s.digits).length) '0') ++ s.digits.repr).toList =
          ['0'] ++ '.' :: (List.replicate
            (places - (Nat.toDigits 10 s.digits).length) '0' ++ Nat.toDigits 10 s.digits) := by
        simp
      rw [htext, spelled_append_point (by simp)]
      simp only [Nat.ofDigitChars_append, List.length_append, List.length_replicate]
      rw [Nat.sub_add_cancel (by omega)]
      simp [Nat.ofDigitChars_cons, div_eq_mul_inv]

/-- A decimal written without an exponent consists of digits and a point. -/
theorem isDigit_or_point_of_mem_positionalText {s : Scaled} {c : Char}
    (hc : c ∈ (positionalText "" s).toList) : c.isDigit = true ∨ c = '.' := by
  have hzero : '0'.isDigit = true := by decide
  have hdigits (hmem : c ∈ Nat.toDigits 10 s.digits) : c.isDigit = true ∨ c = '.' :=
    .inl (isDigit_of_mem_toDigits hmem)
  unfold positionalText at hc
  simp only [Nat.toString_eq_repr] at hc
  split at hc
  · simp only [String.append_empty, String.toList_append, Nat.toList_repr, String.toList_ofList,
      List.mem_append, List.mem_replicate] at hc
    rcases hc with hc | ⟨_, rfl⟩
    · exact hdigits hc
    · exact .inl hzero
  · split at hc
    · simp only [String.toList_append, Nat.toList_repr, String.toList_ofList,
        List.mem_append] at hc
      rcases hc with (hc | hc) | hc
      · exact hdigits (List.mem_of_mem_take hc)
      · exact .inr (by simpa using hc)
      · exact hdigits (List.mem_of_mem_drop hc)
    · simp only [String.toList_append, Nat.toList_repr, String.toList_ofList,
        List.mem_append, List.mem_replicate] at hc
      rcases hc with (hc | ⟨_, rfl⟩) | hc
      · obtain rfl | rfl : c = '0' ∨ c = '.' := by simpa using hc
        · exact .inl hzero
        · exact .inr rfl
      · exact .inl hzero
      · exact hdigits hc

end Patternwork.Decimal
