import Patternwork.Proofs.Json.Document
import Patternwork.Proofs.Json.Range

namespace Patternwork

namespace Json

variable {name : String} {text : List Char}

/-- The text of an object with one member. -/
def writtenSingle (name : String) (text : List Char) : List Char :=
  '\x7b' :: (quote name.toList ++ ':' :: (text ++ ['\x7d']))

/-- An object with one member is loaded if its value is read up to the closing brace. -/
theorem readRecord_single {value : Setting}
    (hread : readSetting (text ++ ['\x7d']) = .ok (value, ['\x7d'])) :
    readRecord (String.ofList (writtenSingle name text)) = .ok (Settings.empty.set name value) := by
  have hentry := readEntry_quote name (text ++ ['\x7d'])
  obtain ⟨members, hmembers⟩ : ∃ members,
    members = quote name.toList ++ ':' :: (text ++ ['\x7d']) := ⟨_, rfl⟩
  have hfirst : readEntries (members.length + 1) true .empty members =
      (readEntry members).bind fun read =>
        readEntries members.length false (Settings.empty.set read.1.1 read.1.2) read.2 := by
    rw [hmembers]
    rfl
  have hpositive : members.length = members.length - 1 + 1 := by
    rw [hmembers]
    simp [quote]
  rw [readRecord, String.toList_ofList, writtenSingle, ← hmembers]
  change (readEntries (members.length + 1) true .empty members).bind atEnd = _
  rw [hfirst, hmembers, hentry, hread, ← hmembers, hpositive]
  rfl

end Json

open Json

namespace Settings

theorem json_single (name : String) (value : Setting) :
    (empty.set name value).json =
      String.ofList (writtenSingle name (settingText value).toList) := by
  have hentries : (empty.set name value).entries = [(name, value)] := rfl
  rw [json, hentries, ← String.toList_inj]
  simp [writtenSingle]

/-- A record with one double is loaded from its own text with what the digits of the double are
    scaled to. -/
theorem ofJson_json_single (name : String) {x y : Float} {negative : Bool} {s : Decimal.Scaled}
    (hdecimal : Number.decimal? x = some (negative, s))
    (hscale : Number.scale? s.digits s.exponent = some y) :
    ofJson (empty.set name (.float x)).json =
      .ok (empty.set name (.float (Number.signed negative y))) := by
  have hends : Number.Ends ['\x7d'] := by simp [Number.Ends]
  obtain ⟨c, more, htext, hnumber, hread⟩ := Number.read_settingText hdecimal hends
  have hvalue : readSetting ((settingText (.float x)).toList ++ ['\x7d']) =
      .ok (.float (Number.signed negative y), ['\x7d']) := by
    rw [htext, List.cons_append, readSetting_of_startsNumber hnumber, ← List.cons_append, hread,
      Number.scaled, hscale]
    rfl
  rw [ofJson_eq_ok_iff, json_single]
  exact readRecord_single hvalue

/-- The double of a zero is the zero with the sign that was written. -/
theorem ofFloat_signed_zero (negative : Bool) :
    Decimal.Reading.ofFloat (Number.signed negative 0.0) = .zero negative := by
  cases negative <;> rfl

theorem scale?_zero : Number.scale? 0 (-1) = some 0.0 := by decide +kernel

/-- Digits that are scaled exactly give the double back. -/
theorem exists_scale?_of_exact {x : Float} {negative : Bool} {s : Decimal.Scaled}
    (hdecimal : Number.decimal? x = some (negative, s)) (hexact : s.digits = 0 ∨ Number.Exact s) :
    ∃ y, Number.scale? s.digits s.exponent = some y ∧ Number.signed negative y = x := by
  unfold Number.decimal? at hdecimal
  cases hread : Decimal.Reading.ofFloat x with
  | notANumber | infinite => simp [hread] at hdecimal
  | zero sign =>
    rw [hread] at hdecimal
    cases hdecimal
    have hsigned := ofFloat_signed_zero negative
    refine ⟨0.0, scale?_zero, Decimal.Reading.eq_of_ofFloat_eq ?_ (hsigned.trans hread.symm)⟩
    rw [hsigned]
    exact Decimal.Reading.noConfusion
  | finite sign v =>
    rw [hread] at hdecimal
    cases hdecimal
    have hv := Decimal.Reading.canonical_of_ofFloat hread
    have hrounds : v.rounds (Number.written (v.shortest .even)) = true :=
      Decimal.Dyadic.rounds_of_value_eq (Number.value_written _).symm (v.rounds_shortest hv .even)
    have hpositive := (Decimal.Dyadic.digits_pos_of_rounds hv hrounds).ne'
    obtain ⟨y, hscale, hy⟩ := Number.scale?_of_exact hv
      (Decimal.Reading.exponent_le_of_ofFloat hread) hrounds (hexact.resolve_left hpositive)
    have hsigned : Decimal.Reading.ofFloat (Number.signed negative y) = .finite negative v := by
      cases negative with
      | true => exact Decimal.Reading.ofFloat_neg hy
      | false => exact hy
    refine ⟨y, hscale, Decimal.Reading.eq_of_ofFloat_eq ?_ (hsigned.trans hread.symm)⟩
    rw [hsigned]
    exact Decimal.Reading.noConfusion

/-- The digits of a finite double can be scaled. -/
theorem exists_scale?_of_decimal? {x : Float} {negative : Bool} {s : Decimal.Scaled}
    (hdecimal : Number.decimal? x = some (negative, s)) :
    ∃ y, Number.scale? s.digits s.exponent = some y := by
  unfold Number.decimal? at hdecimal
  cases hread : Decimal.Reading.ofFloat x with
  | notANumber | infinite => simp [hread] at hdecimal
  | zero sign =>
    rw [hread] at hdecimal
    cases hdecimal
    exact ⟨0.0, scale?_zero⟩
  | finite sign v =>
    rw [hread] at hdecimal
    cases hdecimal
    exact Number.exists_scale?_written (Decimal.Reading.canonical_of_ofFloat hread)
      (Decimal.Reading.exponent_le_of_ofFloat hread)

/-- A record with one finite double is loaded from its own text, as a record with one double
    under the same name: the digits that were written, scaled once, with the sign that was
    written. It is the record again if the digits are zero or they and their power of ten are
    doubles. -/
theorem ofJson_json_float (name : String) {x : Float} (hfinite : x.isFinite = true) :
    ∃ negative s y, Number.decimal? x = some (negative, s) ∧
      Number.scale? s.digits s.exponent = some y ∧
      ofJson (empty.set name (.float x)).json =
        .ok (empty.set name (.float (Number.signed negative y))) ∧
      (s.digits = 0 ∨ Number.Exact s →
        ofJson (empty.set name (.float x)).json = .ok (empty.set name (.float x))) := by
  obtain ⟨⟨negative, s⟩, hdecimal⟩ :=
    Option.isSome_iff_exists.mp ((Number.isSome_decimal?_iff x).mpr hfinite)
  obtain ⟨y, hscale⟩ := exists_scale?_of_decimal? hdecimal
  have hload := ofJson_json_single name hdecimal hscale
  refine ⟨negative, s, y, hdecimal, hscale, hload, fun hexact => ?_⟩
  obtain ⟨z, hsame, hx⟩ := exists_scale?_of_exact hdecimal hexact
  obtain rfl : y = z := Option.some.inj (hscale.symm.trans hsame)
  exact hload.trans (by rw [hx])

/-- A tenth and a negative zero come back. A double of seventeen digits comes back as the next
    greater double. -/
theorem ofJson_json_float_of_digits :
    ofJson (empty.set "x" (.float 0.1)).json = .ok (empty.set "x" (.float 0.1)) ∧
    ofJson (empty.set "x" (.float (-0.0))).json = .ok (empty.set "x" (.float (-0.0))) ∧
    ofJson (empty.set "x" (.float 0.10825174376147195)).json =
      .ok (empty.set "x" (.float 0.10825174376147197)) ∧
    (0.10825174376147197 : Float) ≠ 0.10825174376147195 := by
  have htenth : Number.decimal? 0.1 = some (false, ⟨1, -1⟩) := by decide +kernel
  have hzero : Number.decimal? (-0.0) = some (true, ⟨0, -1⟩) := by decide +kernel
  have hlong : Number.decimal? 0.10825174376147195 =
      some (false, ⟨10825174376147195, -17⟩) := by decide +kernel
  have hscaled : Number.scale? 10825174376147195 (-17) = some 0.10825174376147197 := by
    decide +kernel
  refine ⟨?_, ?_, ?_, by decide +kernel⟩
  · obtain ⟨negative, s, y, hdecimal, _, _, hexact⟩ :=
      ofJson_json_float "x" (x := 0.1) (by decide +kernel)
    have hparts := Prod.mk.inj (Option.some.inj (hdecimal.symm.trans htenth))
    refine hexact (.inr ?_)
    rw [hparts.2]
    exact Number.exact_of_lt (by decide) (by decide) (by decide)
  · obtain ⟨negative, s, y, hdecimal, _, _, hexact⟩ :=
      ofJson_json_float "x" (x := -0.0) (by decide +kernel)
    have hparts := Prod.mk.inj (Option.some.inj (hdecimal.symm.trans hzero))
    refine hexact (.inl ?_)
    rw [hparts.2]
  · obtain ⟨negative, s, y, hdecimal, hscale, hload, _⟩ :=
      ofJson_json_float "x" (x := 0.10825174376147195) (by decide +kernel)
    have hparts := Prod.mk.inj (Option.some.inj (hdecimal.symm.trans hlong))
    rw [hparts.2] at hscale
    rw [hload, hparts.1, Option.some.inj (hscale.symm.trans hscaled), Number.signed,
      if_neg Bool.false_ne_true]

end Settings

end Patternwork
