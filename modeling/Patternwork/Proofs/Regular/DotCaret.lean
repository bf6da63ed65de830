import Patternwork.Notation.Modes
import Patternwork.Regular.Reach

namespace Patternwork

variable {modes : Modes} {text : Haystack} {p : Nat} {c : Char}

/-- What a dot takes ends no line, unless it takes all characters. -/
theorem Modes.contains_dot (hone : modes.dotAll = false) (hdot : modes.dot.contains c = true) :
    c ≠ '\n' ∧ (modes.carriageReturn = true → c ≠ '\r') := by
  rw [dot, if_neg (ne_true_of_eq_false hone)] at hdot
  refine ⟨?_, ?_⟩
  · rintro rfl
    split at hdot <;> cases hdot
  · rintro hreturn rfl
    rw [if_pos hreturn] at hdot
    cases hdot

/-- No start follows a character that the dot takes. -/
theorem Modes.not_holds_caret (hone : ¬ (modes.multiLine = true ∧ modes.dotAll = true))
    (hc : text[p]? = some c) (hdot : modes.dot.contains c = true) :
    modes.caret.holds text (p + 1) = false := by
  have hbefore : Look.before text (p + 1) = some c := hc
  cases hlines : modes.multiLine with
  | false => simp [caret, hlines, Look.holds]
  | true =>
    have hsingle : modes.dotAll = false := eq_false_of_ne_true fun hall => hone ⟨hlines, hall⟩
    obtain ⟨hfeed, hreturn⟩ := contains_dot hsingle hdot
    cases hbreaks : modes.carriageReturn with
    | false => simp [caret, hlines, hbreaks, Look.holds, hbefore, hfeed]
    | true => simp [caret, hlines, hbreaks, Look.holds, hbefore, hfeed, hreturn hbreaks]

namespace Regular

theorem reach_dot_caret (hone : ¬ (modes.multiLine = true ∧ modes.dotAll = true))
    (starts : List Nat) :
    (Regular.seq (.set modes.dot) (.look modes.caret)).reach text starts = [] := by
  rw [reach, reach, reach, List.filter_eq_nil_iff]
  intro q hq
  obtain ⟨p, _, hstep⟩ := List.mem_filterMap.mp hq
  obtain ⟨c, hc, hstep⟩ := Option.bind_eq_some_iff.mp hstep
  split at hstep
  next hdot =>
    obtain rfl := Option.some.inj hstep
    exact ne_true_of_eq_false (Modes.not_holds_caret hone hc hdot)
  next => cases hstep

theorem isMatch_dot_caret (hone : ¬ (modes.multiLine = true ∧ modes.dotAll = true)) :
    (Regular.seq (.set modes.dot) (.look modes.caret)).isMatch text = false := by
  rw [isMatch, reach_dot_caret hone]
  rfl

end Regular

end Patternwork
