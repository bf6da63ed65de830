import Patternwork.Json.Number
import Patternwork.Proofs.Decimal.Positional

namespace Patternwork.Json.Number

/-- Text that cannot go on a number. -/
def Ends (rest : List Char) : Prop :=
  ∀ c ∈ rest.head?, c.isDigit = false ∧ c ≠ '.' ∧ c ≠ 'e' ∧ c ≠ 'E'

/-- Text that cannot go on digits. -/
def Stops (rest : List Char) : Prop :=
  ∀ c ∈ rest.head?, c.isDigit = false

variable {rest digits : List Char}

theorem Ends.stops (hends : Ends rest) : Stops rest := fun c hc => (hends c hc).1

theorem digit?_of_isDigit {c : Char} (hdigit : c.isDigit = true) :
    digit? c = some (c.toNat - '0'.toNat) := if_pos hdigit

theorem head?_digit?_of_stops (hstops : Stops rest) : rest.head?.bind digit? = none := by
  cases rest with
  | nil => rfl
  | cons c rest => simp [digit?, hstops c rfl]

theorem le_ofDigitChars (digits : List Char) (n : Nat) : n ≤ Nat.ofDigitChars 10 digits n := by
  induction digits generalizing n with
  | nil => simp
  | cons c digits ih =>
    rw [Nat.ofDigitChars_cons]
    have hle := ih (10 * n + (c.toNat - '0'.toNat))
    omega

/-- Digits are taken to their end as long as their value fits. -/
theorem readDigits_append (hdigits : ∀ c ∈ digits, c.isDigit = true) (hstops : Stops rest)
    (n taken : Nat) (hfits : Nat.ofDigitChars 10 digits n < Nat.pow 2 64) :
    readDigits n taken (digits ++ rest) =
      (Nat.ofDigitChars 10 digits n, taken + digits.length, rest) := by
  induction digits generalizing n taken with
  | nil =>
    cases rest with
    | nil => rfl
    | cons c rest => simp [readDigits, digit?, hstops c rfl]
  | cons c digits ih =>
    rw [Nat.ofDigitChars_cons] at hfits ⊢
    have hvalue : n * 10 + (c.toNat - '0'.toNat) = 10 * n + (c.toNat - '0'.toNat) := by omega
    have hle := le_ofDigitChars digits (10 * n + (c.toNat - '0'.toNat))
    rw [List.cons_append, readDigits, digit?_of_isDigit (hdigits c (List.mem_cons_self ..))]
    dsimp only
    rw [hvalue, if_pos (Nat.lt_of_le_of_lt hle hfits),
      ih (fun d hd => hdigits d (List.mem_cons_of_mem c hd)) _ _ hfits, List.length_cons]
    congr 2
    omega

/-- Only zero is written with a zero in front. -/
theorem head?_toDigits_ne_zero {n : Nat} (hn : n ≠ 0) : (Nat.toDigits 10 n).head? ≠ some '0' := by
  induction n using Nat.strongRecOn with
  | ind n ih =>
    rw [Nat.toDigits_eq_if (by decide)]
    split
    next hlt =>
      have hdigit : ∀ n < 10, n ≠ 0 → [Nat.digitChar n].head? ≠ some '0' := by decide
      exact hdigit n hlt hn
    next hle =>
      have hhead := ih (n / 10) (by omega) (by omega)
      rwa [List.head?_append_of_ne_nil _ Nat.toDigits_ne_nil]

/-- After the digits of an integer the number is finished. -/
theorem readTail_of_ends (hends : Ends rest) (negative : Bool) (n : Nat) :
    readTail negative n 0 rest =
      if !negative then some (integer n, rest)
      else if n = 0 ∨ Nat.pow 2 63 < n then some (double (-n.toUInt64.toFloat), rest)
      else some (integer (-(n : Int)), rest) := by
  cases rest with
  | nil => rfl
  | cons c rest =>
    obtain ⟨_, hpoint, hlower, hupper⟩ := hends c rfl
    unfold readTail
    split
    next heq => exact absurd (List.cons.inj heq).1 hpoint
    next =>
      split
      next heq => exact absurd (List.cons.inj heq).1 hlower
      next heq => exact absurd (List.cons.inj heq).1 hupper
      next => rfl

theorem dropWhile_isDigit_of_stops (hstops : Stops rest) :
    rest.dropWhile Char.isDigit = rest := by
  cases rest with
  | nil => rfl
  | cons c rest => simp [hstops c rfl]

theorem takeWhile_isDigit_of_stops (hstops : Stops rest) : rest.takeWhile Char.isDigit = [] := by
  cases rest with
  | nil => rfl
  | cons c rest => simp [hstops c rfl]

/-- Digits that a number can begin with: a zero stands alone. -/
structure Whole (digits : List Char) : Prop where
  isDigit : ∀ c ∈ digits, c.isDigit = true
  zero : digits = ['0'] ∨ digits ≠ [] ∧ digits.head? ≠ some '0'

theorem whole_toDigits (n : Nat) : Whole (Nat.toDigits 10 n) where
  isDigit _ := Decimal.isDigit_of_mem_toDigits
  zero := by
    by_cases hzero : n = 0
    · exact .inl (hzero ▸ Nat.toDigits_zero 10)
    · exact .inr ⟨Nat.toDigits_ne_nil, head?_toDigits_ne_zero hzero⟩

theorem readMagnitude_of_whole (hwhole : Whole digits) (hstops : Stops rest) (negative : Bool)
    (hfits : Nat.ofDigitChars 10 digits 0 < Nat.pow 2 64) :
    readMagnitude negative (digits ++ rest) =
      readTail negative (Nat.ofDigitChars 10 digits 0) 0 rest := by
  rcases hwhole.zero with rfl | ⟨hne, hhead⟩
  · rw [List.singleton_append, readMagnitude, head?_digit?_of_stops hstops]
    rfl
  · have hall := hwhole.isDigit
    cases digits with
    | nil => exact absurd rfl hne
    | cons c digits =>
      have hc : c ≠ '0' := by simpa using hhead
      rw [Nat.ofDigitChars_cons, Nat.mul_zero, Nat.zero_add] at hfits ⊢
      have hrest := readDigits_append (fun d hd => hall d (List.mem_cons_of_mem c hd)) hstops
        (c.toNat - '0'.toNat) 0 hfits
      rw [List.cons_append, readMagnitude.eq_3 _ _ _ hc,
        digit?_of_isDigit (hall c (List.mem_cons_self ..)), Option.bind_eq_bind, Option.bind_some,
        hrest]
      dsimp only
      rw [takeWhile_isDigit_of_stops hstops, dropWhile_isDigit_of_stops hstops]
      rfl

theorem readMagnitude_toDigits (hstops : Stops rest) (negative : Bool) {n : Nat}
    (hfits : n < Nat.pow 2 64) :
    readMagnitude negative (Nat.toDigits 10 n ++ rest) = readTail negative n 0 rest := by
  have hvalue := @Nat.ofDigitChars_ten_toDigits n
  rw [readMagnitude_of_whole (whole_toDigits n) hstops negative (hvalue.symm ▸ hfits), hvalue]

/-- The text of a 64-bit integer is read as this integer. -/
theorem read_toString (hends : Ends rest) (n : Int64) :
    read ((toString n.toInt).toList ++ rest) = some (integer n.toInt, rest) := by
  have hmin : -(2 ^ 63 : Int) ≤ n.toInt := n.le_toInt
  have hmax : n.toInt < 2 ^ 63 := n.toInt_lt
  have hpower : Nat.pow 2 63 = 2 ^ 63 ∧ Nat.pow 2 64 = 2 ^ 64 := ⟨rfl, rfl⟩
  change read (n.toInt.repr.toList ++ rest) = _
  rw [Int.repr_eq_if]
  split
  next hnonneg =>
    have hvalue : (n.toInt.toNat : Int) = n.toInt := Int.toNat_of_nonneg hnonneg
    have hplain : read (Nat.toDigits 10 n.toInt.toNat ++ rest) =
        readMagnitude false (Nat.toDigits 10 n.toInt.toNat ++ rest) := by
      refine read.eq_2 _ fun more heq => ?_
      have hminus : '-' ∉ Nat.toDigits 10 n.toInt.toNat := Decimal.not_mem_toDigits rfl
      cases hdigits : Nat.toDigits 10 n.toInt.toNat with
      | nil => exact Nat.toDigits_ne_nil hdigits
      | cons c digits =>
        rw [hdigits] at heq hminus
        exact hminus (by simp [(List.cons.inj heq).1])
    rw [Nat.toList_repr, hplain, readMagnitude_toDigits hends.stops false (by omega),
      readTail_of_ends hends, hvalue]
    rfl
  next hneg =>
    have hvalue : -(((-n.toInt).toNat : Nat) : Int) = n.toInt := by omega
    have hinside : ¬ ((-n.toInt).toNat = 0 ∨ Nat.pow 2 63 < (-n.toInt).toNat) := by omega
    rw [String.toList_append, Nat.toList_repr]
    change readMagnitude true (Nat.toDigits 10 (-n.toInt).toNat ++ rest) = _
    rw [readMagnitude_toDigits hends.stops true (by omega), readTail_of_ends hends, if_neg (by simp),
      if_neg hinside, hvalue]

end Patternwork.Json.Number
