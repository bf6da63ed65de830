import Patternwork.Json.Quoted

namespace Patternwork.Json

variable {c : Char} {rest : List Char}

theorem hexDigit?_digitChar {n : Nat} (hn : n < 16) : hexDigit? (Nat.digitChar n) = some n := by
  revert n
  decide

/-- A control character is read back from its four hexadecimal digits. -/
theorem readUnit_control (hcontrol : c.toNat < 0x20) (rest : List Char) :
    readUnit ('0' :: '0' :: Nat.digitChar (c.toNat / 16) :: Nat.digitChar (c.toNat % 16) :: rest) =
      some (c, rest) := by
  have hzero : hexDigit? '0' = some 0 := rfl
  have hunit : ((0 * 16 + 0) * 16 + c.toNat / 16) * 16 + c.toNat % 16 = c.toNat := by omega
  have hsurrogate : ¬ (0xdc00 ≤ c.toNat ∧ c.toNat ≤ 0xdfff) ∧
      ¬ (0xd800 ≤ c.toNat ∧ c.toNat ≤ 0xdbff) := by omega
  rw [readUnit, readHex4, hzero, hexDigit?_digitChar (by omega), hexDigit?_digitChar (by omega)]
  simp only [Option.bind_eq_bind, Option.bind_some, hunit, if_neg hsurrogate.1,
    if_neg hsurrogate.2, Char.ofNat_toNat]

/-- The written form of a character is read as this character. -/
theorem readChar_escape (c : Char) (rest : List Char) :
    readChar (escape c ++ rest) = some (some c, rest) := by
  unfold escape
  split
  case h_8 hquote hslash _ _ _ _ _ =>
    split
    next hcontrol => simp [readChar, readEscape, readUnit_control hcontrol]
    next hplain =>
      rw [List.singleton_append, readChar.eq_4 c rest hquote hslash, if_neg hplain]
  all_goals rfl

theorem escape_ne_nil (c : Char) : escape c ≠ [] := by
  unfold escape
  split
  case h_8 => split <;> simp
  all_goals simp

theorem length_le_length_flatMap_escape (s : List Char) : s.length ≤ (s.flatMap escape).length := by
  induction s with
  | nil => simp
  | cons c s ih =>
    have hpos := List.length_pos_iff.mpr (escape_ne_nil c)
    rw [List.flatMap_cons, List.length_append, List.length_cons]
    omega

theorem readQuotedWithin_flatMap_escape {fuel : Nat} {s : List Char} (hfuel : s.length < fuel)
    (read rest : List Char) :
    readQuotedWithin fuel read (s.flatMap escape ++ '"' :: rest) =
      some (String.ofList (read.reverse ++ s), rest) := by
  induction s generalizing fuel read with
  | nil =>
    obtain ⟨fuel, rfl⟩ := Nat.exists_eq_succ_of_ne_zero (Nat.ne_of_gt hfuel)
    simp [readQuotedWithin, readChar]
  | cons c s ih =>
    obtain ⟨fuel, rfl⟩ := Nat.exists_eq_succ_of_ne_zero (Nat.ne_of_gt (Nat.zero_lt_of_lt hfuel))
    rw [List.length_cons] at hfuel
    rw [List.flatMap_cons, List.append_assoc, readQuotedWithin, readChar_escape]
    simp [ih (Nat.lt_of_succ_lt_succ hfuel)]

/-- What follows the opening quote of a quoted text is read as this text. -/
theorem readQuoted_flatMap_escape (s : String) (rest : List Char) :
    readQuoted (s.toList.flatMap escape ++ '"' :: rest) = some (s, rest) := by
  have hlength := length_le_length_flatMap_escape s.toList
  rw [readQuoted, readQuotedWithin_flatMap_escape]
  · simp
  · simp only [List.length_append, List.length_cons]
    omega

end Patternwork.Json
