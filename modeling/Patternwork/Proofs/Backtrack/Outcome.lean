import Patternwork.Pattern
import Patternwork.Proofs.Backtrack.Compiled
import Patternwork.Proofs.Backtrack.Search
import Patternwork.Proofs.Regular.Reach

namespace Patternwork

open Backtrack

/-- How the attempt at one position ends. -/
def Matcher.outcomeAt (text : Haystack) (p : Nat) : Matcher → Outcome
  | .regular a => (Plan.regular a).outcomeAt text p
  | .backtracking plan => plan.outcomeAt text p

namespace Backtrack

/-- Whether matching goes by backtracking. -/
def Plan.backtracks : Plan → Bool
  | .regular _ => false
  | .program _ _ => true

variable {text : Haystack} {reading : Reading} {plan : Plan} {input : List Char}

theorem Plan.groupSlots_pos : 0 < Plan.groupSlots reading := by
  unfold groupSlots
  omega

/-- A program that is planned for a reading uses no slot beyond those of its groups and loops. -/
theorem exists_of_ofReading? (hread : read? input = some reading)
    (hplan : Plan.ofReading? reading = some plan) :
    (∃ a, plan = .regular a) ∨
      ∃ code, plan = .program (searching code) (Plan.groupSlots reading + reading.loops) ∧
        code.Within (Plan.groupSlots reading + reading.loops) := by
  unfold Plan.ofReading? at hplan
  split at hplan
  next =>
    obtain ⟨code, hcode, rfl⟩ := Option.map_eq_some_iff.mp hplan
    exact .inr ⟨code, rfl, compile?_within rfl reading.tree code (read?_within hread) hcode⟩
  next =>
    split at hplan
    next a _ =>
      split at hplan
      next =>
        obtain rfl := Option.some.inj hplan
        exact .inl ⟨a, rfl⟩
      next => cases hplan
    next => cases hplan

theorem Plan.outcome_regular_iff {a : Regular} :
    (Plan.regular a).outcome text = .matched ↔
      ∃ p ≤ text.size, (Plan.regular a).outcomeAt text p = .matched := by
  have houtcome : (Plan.regular a).outcome text = .matched ↔ a.isMatch text = true := by
    cases hmatch : a.isMatch text <;> simp [outcome, hmatch]
  rw [houtcome, Regular.isMatch_iff]
  simp [outcomeAt]

/-- A search that is not given up finds a match exactly when the pattern matches at some
    position. -/
theorem Plan.outcome_eq_matched_iff (hparse : Plan.parse? input = some plan)
    (hends : plan.outcome text ≠ .aborted) :
    plan.outcome text = .matched ↔ ∃ p ≤ text.size, plan.outcomeAt text p = .matched := by
  obtain ⟨reading, hread, hplan⟩ := Option.bind_eq_some_iff.mp hparse
  rcases exists_of_ofReading? hread hplan with ⟨a, rfl⟩ | ⟨code, rfl, hwithin⟩
  · exact outcome_regular_iff
  · exact search_eq_matched_iff hwithin (Nat.add_pos_left Plan.groupSlots_pos _) (Nat.le_refl _)
      hends

end Backtrack

theorem Matcher.outcome_eq_matched_iff {source : String} {matcher : Matcher} {text : Haystack}
    (hmatcher : Matcher.ofText? source = some matcher) (hends : matcher.outcome text ≠ .aborted) :
    matcher.outcome text = .matched ↔
      ∃ p ≤ text.size, matcher.outcomeAt text p = .matched := by
  unfold Matcher.ofText? at hmatcher
  split at hmatcher
  next a _ =>
    obtain rfl := Option.some.inj hmatcher
    exact Plan.outcome_regular_iff
  next =>
    obtain ⟨plan, hplan, rfl⟩ := Option.map_eq_some_iff.mp hmatcher
    exact Plan.outcome_eq_matched_iff hplan hends

end Patternwork
