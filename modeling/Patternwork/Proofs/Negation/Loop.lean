import Patternwork.Proofs.Negation.Blocking

namespace Patternwork.Backtrack

open Attempt

variable {text : Haystack} {count slots limit : Nat} {guard : Code} {modes : Modes}
  {blocked : Nat → Prop}

theorem closes_textEnd :
    Closes text [.run (.any (.look .textEnd)), .run (.save 1)] (begunAt slots 0) limit
      (· = text.size) := by
  intro p below resumed bound _ _
  refine ⟨fun hend => ?_, fun hbefore => ?_⟩
  · have hfound : (Regular.reach text (.look .textEnd) [p]).head? = some p := by
      simp [Regular.reach, Look.holds, hend]
    obtain ⟨_, hsave, hmatched⟩ := wins_of_save text
      (a := onStack below [.run (.save 1)] p (begunAt slots 0) resumed) rfl
    exact (steps_any hfound).wins ⟨_, _, hsave, hmatched⟩
  · have hnone : (Regular.reach text (.look .textEnd) [p]).head? = none := by
      simp [Regular.reach, Look.holds, hbefore]
    exact (fallsTo_any hnone).fallsBack

theorem closes_save :
    Closes text [.run (.save 1)] (begunAt slots 0) limit fun _ => True := by
  intro p below resumed bound _ _
  obtain ⟨_, hsave, hmatched⟩ := wins_of_save text
    (a := onStack below [.run (.save 1)] p (begunAt slots 0) resumed) rfl
  exact ⟨fun _ => ⟨_, _, hsave, hmatched⟩, fun hbad => absurd trivial hbad⟩

/-- The attempt at the start of a text that is searched to the end comes to an end itself. -/
theorem ends_found {code : Code} (hcode : code.Within count) (hopen : 0 < count)
    (hslots : count ≤ slots) (hends : search (searching code) slots text ≠ .aborted) :
    Ends text stepLimit (code.found.attempt slots 0) := by
  have hends : Ends text stepLimit ((searching code).attempt slots 0) := hends
  obtain ⟨_, hrest, _⟩ := hends.after (steps_seq _ _)
  rcases searchFrom_cases hcode hopen hslots (Nat.sub_le _ _) hrest with ⟨heq, _⟩ | ⟨heq, _⟩ <;>
    rw [Ends, heq] <;> exact Outcome.noConfusion

/-- A loop between anchors matches a text when it can consume all of it. -/
theorem search_loopBetween_iff (hmodes : modes.multiLine = false)
    (hguard : guard.Within count) (hopen : 0 < count) (hslots : count ≤ slots)
    (hblocks : Blocks text guard (begunAt slots 0) (stepLimit - 6) blocked)
    (hends : search (searching (loopBetween modes guard)) slots text ≠ .aborted) :
    search (searching (loopBetween modes guard)) slots text = .matched ↔
      ∀ i < text.size, Passable text modes.dot blocked i := by
  have hcode : loopBetween modes guard =
      .seq (.any (.look .textStart))
        (.seq (.star true (guard.guarding modes.dot)) (.any (.look .textEnd))) := by
    simp [loopBetween, Modes.caret, Modes.dollar, hmodes]
  rw [hcode] at hends ⊢
  have hwithin : Code.Within count (.seq (.any (.look .textStart))
      (.seq (.star true (guard.guarding modes.dot)) (.any (.look .textEnd)))) :=
    ⟨trivial, ⟨trivial, hguard, trivial⟩, trivial⟩
  have hstart : Steps text 6 (Code.attempt (Code.found (.seq (.any (.look .textStart))
      (.seq (.star true (guard.guarding modes.dot)) (.any (.look .textEnd))))) slots 0)
      (onStack [] [.run (.star true (guard.guarding modes.dot)), .run (.any (.look .textEnd)),
        .run (.save 1)] 0 (begunAt slots 0) 0) :=
    (steps_found _).trans ((steps_seq _ _).trans ((steps_any rfl).trans (steps_seq _ _)))
  have hlocal := ends_found hwithin hopen hslots hends
  obtain ⟨_, hloop, heq⟩ := hlocal.after hstart
  obtain ⟨hwins, hfails⟩ := star_guarding_cases hblocks closes_textEnd (Nat.le_refl _) hloop
  have hpass : (∃ q, 0 ≤ q ∧ q = text.size ∧
      ∀ i, 0 ≤ i → i < q → Passable text modes.dot blocked i) ↔
        ∀ i < text.size, Passable text modes.dot blocked i := by
    simp
  rw [hpass] at hwins hfails
  rw [search_eq_matched_iff hwithin hopen hslots hends]
  constructor
  · rintro ⟨p, _, hmatched⟩
    by_contra hnot
    by_cases hp : p = 0
    · subst hp
      rw [Plan.outcomeAt_searching, heq, (hfails hnot).finish_eq hloop] at hmatched
      cases hmatched
    · rw [Plan.outcomeAt_searching, finish_attempt_of_ne_zero hp] at hmatched
      cases hmatched
  · intro hall
    exact ⟨0, Nat.zero_le _, heq.trans ((hwins hall).finish_eq hloop)⟩

/-- A loop without anchors matches every text. -/
theorem search_star_guarding_eq (hguard : guard.Within count) (hopen : 0 < count)
    (hslots : count ≤ slots)
    (hblocks : Blocks text guard (begunAt slots 0) (stepLimit - 3) blocked)
    (hends : search (searching (.star true (guard.guarding modes.dot))) slots text ≠ .aborted) :
    search (searching (.star true (guard.guarding modes.dot))) slots text = .matched := by
  have hwithin : Code.Within count (.star true (guard.guarding modes.dot)) :=
    ⟨trivial, hguard, trivial⟩
  have hstart : Steps text 3
      (Code.attempt (Code.found (.star true (guard.guarding modes.dot))) slots 0)
      (onStack [] [.run (.star true (guard.guarding modes.dot)), .run (.save 1)] 0
        (begunAt slots 0) 0) := steps_found _
  obtain ⟨_, hloop, heq⟩ := (ends_found hwithin hopen hslots hends).after hstart
  obtain ⟨hwins, _⟩ := star_guarding_cases hblocks closes_save (Nat.le_refl _) hloop
  have hmatches := hwins ⟨0, Nat.le_refl 0, trivial, by simp⟩
  rw [search_eq_matched_iff hwithin hopen hslots hends]
  exact ⟨0, Nat.zero_le _, heq.trans (hmatches.finish_eq hloop)⟩

end Patternwork.Backtrack
