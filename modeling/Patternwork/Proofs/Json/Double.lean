import Patternwork.Json.Tree
import Patternwork.Proofs.Decimal.Integral
import Patternwork.Proofs.Decimal.Packing
import Patternwork.Proofs.Json.Number

namespace Patternwork.Json.Number

open Decimal (Reading Scaled positionalText exponentText)

variable {rest digits : List Char}

/-- What a decimal with a sign is read as, before `rest`. -/
def scaled (negative : Bool) (s : Scaled) (rest : List Char) : Option (Number × List Char) :=
  (scale? s.digits s.exponent).map fun x => (double (signed negative x), rest)

theorem readScaled_of_ends (hends : Ends rest) (negative : Bool) (n : Nat) (start : Int) :
    readScaled negative n start rest = scaled negative ⟨n, start⟩ rest := by
  have hplain : readScaled negative n start rest =
      (do
        let x ← scale? n start
        some (double (signed negative x), rest)) := by
    refine readScaled.eq_3 _ _ _ _ ?_ ?_
    all_goals
      rintro more rfl
      simp [Ends] at hends
  rw [hplain, scaled]
  cases scale? n start <;> rfl

theorem readPower_append (hdigits : ∀ c ∈ digits, c.isDigit = true) (hstops : Stops rest)
    (n : Nat) (hfits : Nat.ofDigitChars 10 digits n < Nat.pow 2 31) :
    readPower n (digits ++ rest) = (Nat.ofDigitChars 10 digits n, rest) := by
  induction digits generalizing n with
  | nil =>
    cases rest with
    | nil => rfl
    | cons c rest => simp [readPower, digit?, hstops c rfl]
  | cons c digits ih =>
    rw [Nat.ofDigitChars_cons] at hfits ⊢
    have hvalue : n * 10 + (c.toNat - '0'.toNat) = 10 * n + (c.toNat - '0'.toNat) := by omega
    have hle := le_ofDigitChars digits (10 * n + (c.toNat - '0'.toNat))
    rw [List.cons_append, readPower, digit?_of_isDigit (hdigits c (List.mem_cons_self ..))]
    dsimp only
    rw [hvalue, Nat.min_eq_left (Nat.le_of_lt (Nat.lt_of_le_of_lt hle hfits))]
    exact ih (fun d hd => hdigits d (List.mem_cons_of_mem c hd)) _ hfits

theorem head?_digit?_toDigits (n : Nat) (rest : List Char) :
    (((Nat.toDigits 10 n ++ rest).head?.bind digit?).isNone) = false := by
  cases hdigits : Nat.toDigits 10 n with
  | nil => exact absurd hdigits Nat.toDigits_ne_nil
  | cons c digits =>
    have hc : c.isDigit = true := Decimal.isDigit_of_mem_toDigits (hdigits ▸ List.mem_cons_self)
    simp [digit?_of_isDigit hc]

/-- The power of ten after the sign of an exponent. -/
theorem readExponent_of_sign {input : List Char} {power : Nat}
    (hhead : (input.head?.bind digit?).isNone = false) (hread : readPower 0 input = (power, rest))
    (hpower : power < Nat.pow 2 31) (negative downward : Bool) (n : Nat) (start : Int) :
    readExponent negative n start ((if downward then '-' else '+') :: input) =
      scaled negative ⟨n, if downward then start - power else start + power⟩ rest := by
  have hsign : readExponent negative n start ((if downward then '-' else '+') :: input) =
      if (input.head?.bind digit?).isNone then none
      else if (readPower 0 input).1 = Nat.pow 2 31 then
        if n = 0 ∨ downward then some (double (signed negative 0.0), (readPower 0 input).2)
        else none
      else
        (scale? n (if downward then start - (readPower 0 input).1
          else start + (readPower 0 input).1)).bind fun x =>
            some (double (signed negative x), (readPower 0 input).2) := by
    cases downward <;> rfl
  rw [hsign, hhead, if_neg (by simp), hread]
  dsimp only
  rw [if_neg hpower.ne, scaled]
  cases scale? n (if downward then start - power else start + power) <;> rfl

/-- An exponent moves the point. -/
theorem readScaled_exponent (hstops : Stops rest) (negative : Bool) (n : Nat) (start power : Int)
    (hpower : power.natAbs < Nat.pow 2 31) :
    readScaled negative n start
        ('e' :: (if power < 0 then '-' else '+') :: (Nat.toDigits 10 power.natAbs ++ rest)) =
      scaled negative ⟨n, start + power⟩ rest := by
  have hvalue := @Nat.ofDigitChars_ten_toDigits power.natAbs
  have hread := readPower_append (fun c hc => Decimal.isDigit_of_mem_toDigits hc) hstops 0
    (hvalue.symm ▸ hpower)
  rw [hvalue] at hread
  have hexponent := readExponent_of_sign (head?_digit?_toDigits power.natAbs rest) hread hpower
    negative (decide (power < 0)) n start
  have hshift : (if decide (power < 0) = true then start - (power.natAbs : Int)
      else start + (power.natAbs : Int)) = start + power := by
    by_cases hneg : power < 0
    · rw [if_pos (by simpa using hneg)]
      omega
    · rw [if_neg (by simpa using hneg)]
      omega
  rw [hshift] at hexponent
  change readExponent negative n start _ = _
  simpa using hexponent

theorem stops_point (rest : List Char) : Stops ('.' :: rest) := by
  simp [Stops]

/-- Digits on both sides of a point are read as one significand. -/
theorem readMagnitude_point {whole places : List Char} (hwhole : Whole whole)
    (hplaces : ∀ c ∈ places, c.isDigit = true) (hne : places ≠ []) (hstops : Stops rest)
    (negative : Bool) (hfits : Nat.ofDigitChars 10 (whole ++ places) 0 < Nat.pow 2 64) :
    readMagnitude negative (whole ++ '.' :: (places ++ rest)) =
      readScaled negative (Nat.ofDigitChars 10 (whole ++ places) 0) (-(places.length : Int))
        rest := by
  rw [Nat.ofDigitChars_append] at hfits ⊢
  have hle := le_ofDigitChars places (Nat.ofDigitChars 10 whole 0)
  have hhead : ((places ++ rest).head?.bind digit?).isNone = false := by
    cases places with
    | nil => exact absurd rfl hne
    | cons c places => simp [digit?_of_isDigit (hplaces c (List.mem_cons_self ..))]
  rw [readMagnitude_of_whole hwhole (stops_point _) negative (Nat.lt_of_le_of_lt hle hfits)]
  change readFraction negative _ 0 (places ++ rest) = _
  unfold readFraction
  rw [hhead, if_neg (by simp), readDigits_append hplaces hstops _ 0 hfits]
  dsimp only
  rw [dropWhile_isDigit_of_stops hstops, Nat.zero_add, Int.zero_sub]

/-- What the text of a decimal is read as: an integral number without an exponent has a zero
    after its point, which counts as a digit. -/
def written (s : Scaled) : Scaled :=
  if 0 ≤ s.exponent ∧ s.exponent + ((toString s.digits).length - 1 : Nat) < 16 then
    ⟨s.digits * 10 ^ (s.exponent.toNat + 1), -1⟩
  else s

theorem length_toString (n : Nat) : (toString n).length = (Nat.toDigits 10 n).length := by
  rw [Nat.toString_eq_repr, ← String.length_toList, Nat.toList_repr]

theorem written_of_neg {s : Scaled} (hneg : s.exponent < 0) : written s = s :=
  if_neg (fun h => by omega)

/-- The zero after the point of an integral number does not change its value. -/
theorem value_written (s : Scaled) : (written s).value = s.value := by
  unfold written
  split
  next hshort =>
    have hexponent : (s.exponent.toNat : Int) = s.exponent := by omega
    have hten : (10 : ℚ) ^ s.exponent = 10 ^ s.exponent.toNat := by
      rw [← zpow_natCast, hexponent]
    unfold Scaled.value
    rw [hten, zpow_neg, zpow_one]
    push_cast
    rw [pow_succ]
    field_simp
  next => rfl

/-- The first digits of a positive number can stand before a point. -/
theorem whole_take {n : Nat} (hn : n ≠ 0) (count : Nat) (hcount : 0 < count) :
    Whole ((Nat.toDigits 10 n).take count) where
  isDigit _ hc := Decimal.isDigit_of_mem_toDigits (List.mem_of_mem_take hc)
  zero := by
    have hhead := head?_toDigits_ne_zero hn
    refine .inr ⟨?_, ?_⟩
    · rw [ne_eq, List.take_eq_nil_iff]
      rintro (hzero | hnil)
      · omega
      · exact Nat.toDigits_ne_nil hnil
    · rwa [List.head?_take, if_neg (by omega)]

/-- A text begins with a digit and is read as a decimal, whatever its sign is and wherever it
    ends. -/
structure ReadAs (text : List Char) (s : Scaled) : Prop where
  digit : ∃ c more, text = c :: more ∧ c.isDigit = true
  read : ∀ (negative : Bool) (rest : List Char), Ends rest →
    readMagnitude negative (text ++ rest) = scaled negative s rest

/-- A text is digits on both sides of a point, which spell out a decimal. -/
def Spells (text : List Char) (s : Scaled) : Prop :=
  ∃ whole fraction : List Char, Whole whole ∧ (∀ c ∈ fraction, c.isDigit = true) ∧
    fraction ≠ [] ∧ text = whole ++ '.' :: fraction ∧
    Nat.ofDigitChars 10 (whole ++ fraction) 0 = s.digits ∧ -(fraction.length : Int) = s.exponent

theorem Spells.readAs {text : List Char} {s : Scaled} (hspells : Spells text s)
    (hfits : s.digits < Nat.pow 2 64) : ReadAs text s := by
  obtain ⟨whole, fraction, hwhole, hfraction, hne, rfl, hdigits, hexponent⟩ := hspells
  refine ⟨?_, fun negative rest hends => ?_⟩
  · cases whole with
    | nil => simpa using hwhole.zero
    | cons c whole => exact ⟨c, _, rfl, hwhole.isDigit c (List.mem_cons_self ..)⟩
  · rw [List.append_assoc, List.cons_append, readMagnitude_point hwhole hfraction hne hends.stops
      negative (hdigits.symm ▸ hfits), readScaled_of_ends hends, hdigits, hexponent]

/-- An integral number is written with a zero after its point. -/
theorem spells_integral {s : Scaled} (hpositive : 0 < s.digits) (hexponent : 0 ≤ s.exponent)
    (hshort : s.exponent + ((toString s.digits).length - 1 : Nat) < 16) :
    Spells (positionalText ".0" s).toList (written s) := by
  obtain ⟨zeros, hzeros⟩ : ∃ zeros : Nat, s.exponent = zeros := ⟨s.exponent.toNat, by omega⟩
  have hwritten : written s = ⟨s.digits * 10 ^ (zeros + 1), -1⟩ := by
    rw [written, if_pos ⟨hexponent, hshort⟩, hzeros, Int.toNat_natCast]
  rw [hwritten]
  refine ⟨Nat.toDigits 10 (s.digits * 10 ^ zeros), ['0'], whole_toDigits _, by simp, by simp, ?_,
    ?_, rfl⟩
  · unfold positionalText
    rw [if_pos hexponent, Decimal.toDigits_mul_ten_pow hpositive]
    simp [hzeros]
  · rw [Nat.ofDigitChars_append, Nat.ofDigitChars_ten_toDigits, pow_succ]
    simp [Nat.ofDigitChars_cons]
    ring

/-- A decimal with digits after its point is spelled out as it is. -/
theorem spells_fraction {s : Scaled} (hpositive : 0 < s.digits) (hexponent : s.exponent < 0) :
    Spells (positionalText ".0" s).toList (written s) := by
  obtain ⟨places, hplaces⟩ : ∃ places : Nat, s.exponent = -(places : Int) :=
    ⟨(-s.exponent).toNat, by omega⟩
  have hall : ∀ c ∈ Nat.toDigits 10 s.digits, c.isDigit = true := fun c hc =>
    Decimal.isDigit_of_mem_toDigits hc
  rw [written_of_neg hexponent]
  unfold positionalText
  dsimp only
  rw [if_neg (by omega), length_toString, hplaces, neg_neg, Int.toNat_natCast]
  by_cases hinside : places < (Nat.toDigits 10 s.digits).length
  · rw [if_pos hinside]
    refine ⟨(Nat.toDigits 10 s.digits).take ((Nat.toDigits 10 s.digits).length - places),
      (Nat.toDigits 10 s.digits).drop ((Nat.toDigits 10 s.digits).length - places),
      whole_take hpositive.ne' _ (by omega), fun c hc => hall c (List.mem_of_mem_drop hc), ?_,
      by simp, ?_, ?_⟩
    · rw [ne_eq, List.drop_eq_nil_iff]
      omega
    · rw [List.take_append_drop, Nat.ofDigitChars_ten_toDigits]
    · rw [List.length_drop]
      omega
  · rw [if_neg hinside]
    refine ⟨['0'], List.replicate (places - (Nat.toDigits 10 s.digits).length) '0' ++
      Nat.toDigits 10 s.digits, whole_toDigits 0, ?_, ?_, by simp, ?_, ?_⟩
    · intro c hc
      rcases List.mem_append.mp hc with hzero | hdigit
      · rw [(List.mem_replicate.mp hzero).2]
        rfl
      · exact hall c hdigit
    · simp [Nat.toDigits_ne_nil]
    · simp [Nat.ofDigitChars_cons, Nat.ofDigitChars_append]
    · rw [List.length_append, List.length_replicate]
      omega

/-- The text of a power of ten. -/
def powerText (power : Int) : List Char :=
  'e' :: (if power < 0 then '-' else '+') :: Nat.toDigits 10 power.natAbs

theorem toList_exponentText {s : Scaled} {first : Char} {more : List Char}
    (hdigits : Nat.toDigits 10 s.digits = first :: more) :
    (exponentText s).toList =
      first :: ((if more = [] then [] else '.' :: more) ++
        powerText (s.exponent + more.length)) := by
  have htoString : (toString s.digits).toList = first :: more := by
    rw [Nat.toString_eq_repr, Nat.toList_repr, hdigits]
  unfold exponentText powerText
  rw [htoString]
  dsimp only
  rw [List.length_cons, Nat.add_sub_cancel]
  by_cases hneg : s.exponent + (more.length : Int) < 0
  · rw [if_pos hneg, if_pos hneg]
    cases more <;> simp
  · rw [if_neg hneg, if_neg hneg]
    cases more <;> simp

/-- A decimal with an exponent is read as it is written. -/
theorem readAs_exponentText {s : Scaled} (hpositive : 0 < s.digits)
    (hfits : s.digits < Nat.pow 2 64) (hsmall : s.exponent.natAbs < 1000) :
    ReadAs (exponentText s).toList s := by
  obtain ⟨first, more, hdigits⟩ := List.exists_cons_of_ne_nil
    (Nat.toDigits_ne_nil : Nat.toDigits 10 s.digits ≠ [])
  have hall : ∀ c ∈ first :: more, c.isDigit = true := fun c hc =>
    Decimal.isDigit_of_mem_toDigits (hdigits ▸ hc)
  rw [toList_exponentText hdigits]
  refine ⟨⟨first, _, rfl, hall first (List.mem_cons_self ..)⟩, fun negative rest hends => ?_⟩
  have hlength : more.length < 20 := by
    have hle : (Nat.toDigits 10 s.digits).length ≤ 20 := by
      rw [Nat.length_toDigits_le_iff (by decide) (by decide)]
      exact hfits.trans (by norm_num)
    rw [hdigits, List.length_cons] at hle
    omega
  have hpower (start power : Int) (hsmall : power.natAbs < 2000) :
      readScaled negative s.digits start (powerText power ++ rest) =
        scaled negative ⟨s.digits, start + power⟩ rest := by
    have hfits : power.natAbs < Nat.pow 2 31 := hsmall.trans (by norm_num)
    exact readScaled_exponent hends.stops negative s.digits start power hfits
  have hstops (power : Int) : Stops (powerText power ++ rest) := by simp [Stops, powerText]
  by_cases halone : more = []
  · subst halone
    have hread := readMagnitude_toDigits (hstops s.exponent) negative hfits
    have htail : readTail negative s.digits 0 (powerText s.exponent ++ rest) =
        readScaled negative s.digits 0 (powerText s.exponent ++ rest) := rfl
    rw [hdigits, htail, hpower 0 s.exponent (by omega), Int.zero_add] at hread
    simpa using hread
  · have hwhole : Whole [first] := by
      have htake := whole_take hpositive.ne' 1 (by omega)
      rwa [hdigits] at htake
    have hvalue : Nat.ofDigitChars 10 ([first] ++ more) 0 = s.digits := by
      rw [List.singleton_append, ← hdigits, Nat.ofDigitChars_ten_toDigits]
    have hread := readMagnitude_point hwhole (fun c hc => hall c (List.mem_cons_of_mem first hc))
      halone (hstops (s.exponent + more.length)) negative (hvalue.symm ▸ hfits)
    have hexponent : -(more.length : Int) + (s.exponent + more.length) = s.exponent := by omega
    rw [hvalue, hpower _ _ (by omega), hexponent] at hread
    simpa [halone] using hread

/-- The digits that are read fit 64 bits. -/
theorem digits_written_lt {s : Scaled} (hfits : s.digits < Nat.pow 2 64) :
    (written s).digits < Nat.pow 2 64 := by
  unfold written
  split
  next hshort =>
    obtain ⟨hexponent, hshort⟩ := hshort
    have hlength := @Nat.length_toDigits_pos 10 s.digits
    have hdigits := (Nat.length_toDigits_le_iff (by decide) hlength).mp (le_refl _)
    rw [length_toString] at hshort
    calc s.digits * 10 ^ (s.exponent.toNat + 1)
        < 10 ^ (Nat.toDigits 10 s.digits).length * 10 ^ (s.exponent.toNat + 1) :=
          Nat.mul_lt_mul_of_pos_right hdigits (by positivity)
      _ = 10 ^ ((Nat.toDigits 10 s.digits).length + (s.exponent.toNat + 1)) := (pow_add ..).symm
      _ ≤ 10 ^ 17 := Nat.pow_le_pow_right (by decide) (by omega)
      _ < Nat.pow 2 64 := by norm_num
  next => exact hfits

variable {v : Decimal.Dyadic}

theorem magnitude_eq (v : Decimal.Dyadic) :
    layout.magnitude v =
      let s := v.shortest .even
      let leading := s.exponent + ((toString s.digits).length - 1 : Nat)
      if -5 ≤ leading ∧ leading < 16 then positionalText ".0" s else exponentText s := by
  simp [layout, Decimal.Layout.magnitude]

/-- The text of a positive double is read as its shortest digits are written. -/
theorem readAs_magnitude (hv : v.Canonical) (hrange : v.exponent ≤ 971) :
    ReadAs (layout.magnitude v).toList (written (v.shortest .even)) := by
  obtain ⟨hpositive, hfits, hleast, hgreatest⟩ := v.shortest_bounds hv hrange .even
  rw [magnitude_eq]
  dsimp only
  split
  next hpositional =>
    refine Spells.readAs ?_ (digits_written_lt hfits)
    by_cases hexponent : 0 ≤ (v.shortest .even).exponent
    · exact spells_integral hpositive hexponent hpositional.2
    · exact spells_fraction hpositive (by omega)
  next hscientific =>
    have hwritten : written (v.shortest .even) = v.shortest .even := if_neg (by omega)
    rw [hwritten]
    exact readAs_exponentText hpositive hfits (by omega)

/-- The sign and the decimal that the text of a double is read as. Infinities and NaN are not
    written as numbers. -/
def decimal? (x : Float) : Option (Bool × Scaled) :=
  match Reading.ofFloat x with
  | .zero negative => some (negative, ⟨0, -1⟩)
  | .finite negative v => some (negative, written (v.shortest .even))
  | .notANumber | .infinite _ => none

theorem isSome_decimal?_iff (x : Float) : (decimal? x).isSome = true ↔ x.isFinite = true := by
  have hfinite : x.isFinite = x.toModel.unpack.isFinite := rfl
  rw [decimal?, Reading.ofFloat_eq_ofUnpacked, hfinite]
  cases x.toModel.unpack <;> simp [Reading.ofUnpacked, Float.Model.UnpackedFloat.isFinite]

/-- A finite double is written as its sign and a text of its decimal. -/
theorem exists_settingText {x : Float} {negative : Bool} {s : Scaled}
    (hdecimal : decimal? x = some (negative, s)) :
    ∃ text, (settingText (.float x)).toList = (if negative then ['-'] else []) ++ text ∧
      ReadAs text s := by
  unfold decimal? at hdecimal
  have htext : settingText (.float x) = (layout.text? x).getD "null" := rfl
  unfold Decimal.Layout.text? at htext
  cases hread : Reading.ofFloat x with
  | notANumber | infinite => simp [hread] at hdecimal
  | zero sign =>
    rw [hread] at hdecimal htext
    cases hdecimal
    refine ⟨"0.0".toList, ?_, Spells.readAs ?_ (by norm_num)⟩
    · rw [htext]
      cases negative <;> rfl
    · exact ⟨['0'], ['0'], whole_toDigits 0, by simp, by simp, rfl, rfl, rfl⟩
  | finite sign v =>
    rw [hread] at hdecimal htext
    cases hdecimal
    refine ⟨_, ?_, readAs_magnitude (Reading.canonical_of_ofFloat hread)
      (Reading.exponent_le_of_ofFloat hread)⟩
    rw [htext, Option.getD_some, String.toList_append]
    cases negative <;> rfl

/-- The text of a finite double is read as one scaling of its decimal. -/
theorem read_settingText {x : Float} {negative : Bool} {s : Scaled}
    (hdecimal : decimal? x = some (negative, s)) (hends : Ends rest) :
    ∃ c more, (settingText (.float x)).toList = c :: more ∧ startsNumber c = true ∧
      read (c :: more ++ rest) = scaled negative s rest := by
  obtain ⟨text, htext, ⟨c, more, rfl, hc⟩, hread⟩ := exists_settingText hdecimal
  cases negative with
  | true => exact ⟨'-', c :: more, htext, rfl, hread true rest hends⟩
  | false =>
    refine ⟨c, more, htext, by simp [startsNumber, hc], ?_⟩
    rw [← hread false rest hends]
    refine read.eq_2 _ ?_
    rintro after heq
    rw [(List.cons.inj heq).1] at hc
    exact absurd hc (by decide)

end Patternwork.Json.Number
