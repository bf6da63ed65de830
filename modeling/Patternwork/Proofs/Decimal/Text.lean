import Patternwork.Proofs.Decimal.Binary64
import Patternwork.Proofs.Decimal.Positional
import Patternwork.Setting

namespace Patternwork.Decimal

/-- The text of what a double stands for. -/
def Reading.text : Reading → String
  | .notANumber => "NaN"
  | .infinite negative => if negative then "-Infinity" else "Infinity"
  | .zero _ => "0"
  | .finite negative v => (if negative then "-" else "") ++ positionalText "" (v.shortest .up)

theorem Reading.display_float (x : Float) :
    (Setting.float x).display = (Reading.ofFloat x).text := by
  dsimp only [Setting.display, Layout.text?]
  cases hread : Reading.ofFloat x with
  | notANumber =>
    rw [Option.getD_none, if_pos ((Reading.isNaN_iff x).mpr hread)]
    rfl
  | infinite negative =>
    have hnan : ¬ x.isNaN = true := by
      rw [Reading.isNaN_iff, hread]
      exact Reading.noConfusion
    rw [Option.getD_none, if_neg hnan]
    cases negative with
    | false =>
      rw [if_pos ((Reading.zero_lt_of_infinite hread).mpr rfl)]
      rfl
    | true =>
      have hsign : ¬ 0.0 < x := by simp [Reading.zero_lt_of_infinite hread]
      rw [if_neg hsign]
      rfl
  | zero negative => simp [Reading.text, Setting.layout]
  | finite negative v => simp [Reading.text, Setting.layout, Layout.magnitude]

/-- Finite readings are those of doubles. -/
def Reading.Canonical : Reading → Prop
  | .finite _ v => v.Canonical
  | _ => True

theorem Reading.canonical_ofFloat (x : Float) : (Reading.ofFloat x).Canonical := by
  cases hread : Reading.ofFloat x with
  | finite negative v => exact Reading.canonical_of_ofFloat hread
  | notANumber => trivial
  | infinite negative => trivial
  | zero negative => trivial

private theorem mem_text_finite {negative : Bool} {v : Dyadic} {c : Char}
    (hc : c ∈ (Reading.finite negative v).text.toList) : c.isDigit = true ∨ c = '.' ∨ c = '-' := by
  simp only [Reading.text, String.toList_append, List.mem_append] at hc
  rcases hc with hc | hc
  · cases negative <;> simp at hc
    exact .inr (.inr hc)
  · exact (isDigit_or_point_of_mem_positionalText hc).imp id .inl

private theorem minus_not_mem_positionalText (s : Scaled) :
    '-' ∉ (positionalText "" s).toList := by
  intro hmem
  have := isDigit_or_point_of_mem_positionalText hmem
  simp at this

/-- The text of a finite double is no text of a zero, an infinity or NaN. -/
private theorem text_finite_ne {negative : Bool} {v : Dyadic} (hv : v.Canonical) {b : Reading}
    (hb : ∀ sign w, b ≠ .finite sign w) : (Reading.finite negative v).text ≠ b.text := by
  intro htext
  have hmem {c : Char} (hc : c ∈ b.text.toList) := mem_text_finite (htext ▸ hc)
  cases b with
  | finite sign w => exact hb sign w rfl
  | notANumber =>
    have := hmem (c := 'N') (by simp [Reading.text])
    simp at this
  | infinite sign =>
    have := hmem (c := 'I') (by cases sign <;> simp [Reading.text])
    simp at this
  | zero sign =>
    cases negative with
    | true =>
      have hminus : '-' ∈ (Reading.zero sign).text.toList := by
        rw [← htext]
        simp [Reading.text]
      simp [Reading.text] at hminus
    | false =>
      have hpos := Dyadic.value_pos_of_rounds hv (Dyadic.rounds_shortest hv .up)
      have hspelled := congrArg (fun text => spelled text.toList) htext
      simp only [Reading.text, Bool.false_eq_true, if_false, String.empty_append,
        spelled_positionalText] at hspelled
      rw [hspelled] at hpos
      simp [spelled, Nat.ofDigitChars_cons] at hpos

private theorem text_finite_injective {negative sign : Bool} {v w : Dyadic} (hv : v.Canonical)
    (hw : w.Canonical) (htext : (Reading.finite negative v).text = (Reading.finite sign w).text) :
    negative = sign ∧ v = w := by
  have hsame : negative = sign → v = w := by
    rintro rfl
    have hpositional := (String.append_right_inj _).mp htext
    have hvalue : (v.shortest .up).value = (w.shortest .up).value := by
      rw [← spelled_positionalText, ← spelled_positionalText, hpositional]
    exact Dyadic.eq_of_rounds hv hw (Dyadic.rounds_shortest hv .up)
      (Dyadic.rounds_shortest hw .up) hvalue
  have hsign : negative = sign := by
    have hmem := congrArg (fun text => '-' ∈ text.toList) htext
    cases negative <;> cases sign <;>
      simp [Reading.text, minus_not_mem_positionalText] at hmem ⊢
  exact ⟨hsign, hsame hsign⟩

private theorem text_eq_iff_of_ne_finite {a b : Reading} (ha : ∀ sign v, a ≠ .finite sign v)
    (hb : ∀ sign v, b ≠ .finite sign v) : a.text = b.text ↔ a.unsignedZero = b.unsignedZero := by
  rcases a with _ | ⟨_ | _⟩ | _ | ⟨negative, v⟩
  case finite => exact absurd rfl (ha negative v)
  all_goals
    rcases b with _ | ⟨_ | _⟩ | _ | ⟨sign, w⟩
    case finite => exact absurd rfl (hb sign w)
    all_goals simp [Reading.text, Reading.unsignedZero]

/-- A text belongs to one double, to the two zeros or to NaN. -/
theorem Reading.text_eq_iff {a b : Reading} (ha : a.Canonical) (hb : b.Canonical) :
    a.text = b.text ↔ a.unsignedZero = b.unsignedZero := by
  by_cases hfinite : ∃ sign v, a = .finite sign v
  · obtain ⟨negative, v, rfl⟩ := hfinite
    by_cases hother : ∃ sign w, b = .finite sign w
    · obtain ⟨sign, w, rfl⟩ := hother
      constructor
      · intro htext
        obtain ⟨rfl, rfl⟩ := text_finite_injective ha hb htext
        rfl
      · intro hsame
        cases hsame
        rfl
    · have hne : ∀ sign w, b ≠ .finite sign w := fun sign w h => hother ⟨sign, w, h⟩
      refine ⟨fun htext => absurd htext (text_finite_ne ha hne), fun hsame => ?_⟩
      cases b <;> simp_all [Reading.unsignedZero]
  · have hne : ∀ sign v, a ≠ .finite sign v := fun sign v h => hfinite ⟨sign, v, h⟩
    by_cases hother : ∃ sign w, b = .finite sign w
    · obtain ⟨sign, w, rfl⟩ := hother
      refine ⟨fun htext => absurd htext.symm (text_finite_ne hb hne), fun hsame => ?_⟩
      cases a <;> simp_all [Reading.unsignedZero]
    · exact text_eq_iff_of_ne_finite hne fun sign w h => hother ⟨sign, w, h⟩

end Patternwork.Decimal
