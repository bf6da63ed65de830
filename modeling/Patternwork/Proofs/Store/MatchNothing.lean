import Patternwork.Proofs.Regular.DotCaret
import Patternwork.Proofs.Store.Outcome

namespace Patternwork

namespace Pattern

/-- The pattern is what its own source compiles to. -/
theorem ofFlags_matchNothing : ofFlags matchNothing.source matchNothing.flags = .ok matchNothing := by
  rfl

theorem outcome_matchNothing (w : String) : matchNothing.outcome w = .unmatched := by
  let modes : Modes := {}
  have hno : (Regular.seq (.set modes.dot) (.look modes.caret)).isMatch w.toList.toArray = false :=
    Regular.isMatch_dot_caret (by decide)
  exact if_neg (ne_true_of_eq_false hno)

end Pattern

namespace World

/-- The pattern that matches nothing is what `.^` compiles to, and no search with it succeeds or is
    given up. It is returned wherever the flags or the assembled text are rejected and
    `strictErrors` is exactly `false`. -/
theorem reply_matches_nothing :
    Pattern.ofFlags ".^" {} = .ok .matchNothing ∧
    (∀ w, Pattern.matchNothing.outcome w = .unmatched ∧ Pattern.matchNothing.isMatch w = false) ∧
    ∀ (world : World) (cache : Nat) (text : String) (given : Option Settings) (cause : Rejection),
      Reaches {} world →
      (given.getD .empty).get? Settings.Name.strictErrors = some (.bool false) →
      Pattern.compile ((Settings.resolve given).assembled text) (Settings.resolve given).flags =
        .error cause →
      ∃ shared, world.reply cache ⟨.make, .text text, given⟩ = .ok shared ∧
        ∀ w, shared.pattern.outcome w = .unmatched ∧ shared.pattern.isMatch w = false := by
  have hnothing (w : String) :
      Pattern.matchNothing.outcome w = .unmatched ∧ Pattern.matchNothing.isMatch w = false := by
    have houtcome := Pattern.outcome_matchNothing w
    rw [Pattern.isMatch, houtcome]
    exact ⟨rfl, rfl⟩
  refine ⟨Pattern.ofFlags_matchNothing, hnothing, ?_⟩
  intro world cache text given cause hreach hfalse hcompile
  have hsuppress : (Settings.resolve given).strictErrors = false := by
    rw [Settings.strictErrors_resolve, Settings.isFalse_iff.mpr hfalse]
    rfl
  have hresult := (returned_of_text hreach cache text given).of_suppressed hcompile hsuppress
  exact ⟨.matchNothing, hresult, hnothing⟩

/-- A text with a group that is not closed, under flags by which a dot takes a line feed and lines
    start after it, on a cache that holds a pattern. -/
theorem reply_matches_nothing_of_unclosed :
    let world := (perform {} (.call 0 ⟨.make, .text "a", none⟩)).2
    let given := some (Settings.ofList [("strictErrors", .bool false), ("flags", .text "ms")])
    ∃ shared, world.reply 0 ⟨.make, .text "(", given⟩ = .ok shared ∧
      shared.pattern.outcome "\n\né" = .unmatched := by
  intro world given
  have hreach : Reaches {} world :=
    .single (.perform (.call 0 _) (by simp [Operation.patterns, Input.patterns]))
  have hnone : (Pattern.compile ((Settings.resolve given).assembled "(")
      (Settings.resolve given).flags).toOption.isNone = true := by decide +kernel
  cases hcompile : Pattern.compile ((Settings.resolve given).assembled "(")
      (Settings.resolve given).flags with
  | ok pattern =>
    rw [hcompile] at hnone
    cases hnone
  | error cause =>
    obtain ⟨shared, hreply, hno⟩ :=
      reply_matches_nothing.2.2 world 0 "(" given cause hreach (by decide) hcompile
    exact ⟨shared, hreply, (hno _).1⟩

end World

end Patternwork
