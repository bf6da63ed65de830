import Patternwork.Proofs.Negation.Program
import Patternwork.Proofs.Regular.Reach

namespace Patternwork.Backtrack

open Attempt

variable {text : Haystack} {count slots others limit : Nat} {guard rest : Code} {node : Regular}

/-- The slots of an attempt after the whole match began at a position. -/
def begunAt (slots p : Nat) : Array (Option Nat) :=
  (Array.replicate slots none).setIfInBounds 0 (some p)

theorem slotsAlike_begunAt (hopen : 0 < count) (hslots : count ≤ slots) (hothers : count ≤ others)
    (p q : Nat) : SlotsAlike count (begunAt slots p) (begunAt others q) := by
  have halike := slotsAlike_replicate hslots hothers
  unfold begunAt
  constructor
  case left => simpa using hslots
  case right => simpa using hothers
  case begun =>
    rw [Array.getElem?_setIfInBounds_self_of_lt (by simp; omega),
      Array.getElem?_setIfInBounds_self_of_lt (by simp; omega)]
    rfl
  case open_left =>
    rw [Array.getElem?_setIfInBounds_ne Nat.zero_ne_one]
    exact halike.open_left
  case open_right =>
    rw [Array.getElem?_setIfInBounds_ne Nat.zero_ne_one]
    exact halike.open_right
  case rest =>
    intro i htwo hi
    rw [Array.getElem?_setIfInBounds_ne (by omega), Array.getElem?_setIfInBounds_ne (by omega)]
    exact halike.rest i htwo hi

/-- A guard blocks where a look-ahead with it matches. -/
theorem blocks_ahead {bound : Nat} (hguard : guard.Within count) (hopen : 0 < count)
    (hslots : count ≤ slots) (hothers : count ≤ others) (hlimit : limit + 6 ≤ bound) :
    Blocks text guard (begunAt slots 0) limit fun p =>
      finish text bound ((Code.ahead guard).found.attempt others p) = .matched := by
  intro p below after resumed used hused hends
  let lower : Place :=
    { after := [.goTo p, .run (.save 1)]
      below := []
      uncut := fun _ => rfl }
  obtain ⟨steps, b, hlt, hsteps, hstop⟩ :=
    notAhead_cases hguard hends lower (slotsAlike_begunAt hopen hslots hothers 0 p)
      (Nat.zero_le _) (Nat.zero_le _)
  have hlook : Steps text 4 ((Code.ahead guard).found.attempt others p)
      (onStack lower.below (.run guard :: lower.after) p (begunAt others p) 0) :=
    (steps_found _).trans (.single rfl)
  rcases hstop with ⟨hgoals, hfalls⟩ | ⟨hfalls, hpassed⟩
  · have hback : Steps text 1 b { b with goals := [.run (.save 1)], p } :=
      .single (by rw [step, hgoals])
    obtain ⟨_, hsave, hmatched⟩ := wins_of_save text
      (a := { b with goals := [.run (.save 1)], p }) rfl
    exact .inl ⟨((hlook.trans hsteps).trans (hback.trans hsave)).finish_eq_error hmatched
      (by omega), hfalls⟩
  · have hunmatched : finish text bound ((Code.ahead guard).found.attempt others p) =
        .unmatched := (hlook.trans hsteps).finish_eq_error hfalls.step_eq (by omega)
    refine .inr ⟨?_, hpassed⟩
    dsimp only
    rw [hunmatched]
    exact Outcome.noConfusion

/-- A guard that is handed over blocks where it reaches something. -/
theorem blocks_any (node : Regular) :
    Blocks text (.any node) (begunAt slots 0) limit fun p => node.reach text [p] ≠ [] := by
  intro p below after resumed bound _ hends
  have hchoose : Steps text 1
      (onStack below (.run (.notAhead (.any node)) :: after) p (begunAt slots 0) resumed)
      (onStack (⟨after, p, begunAt slots 0⟩ :: below) [.run (.any node), .refuse below.length] p
        (begunAt slots 0) resumed) := hends.steps_choose rfl
  obtain ⟨_, hrest, _⟩ := hends.after hchoose
  cases hreach : node.reach text [p] with
  | nil =>
    have hfalls : FallsTo text (⟨after, p, begunAt slots 0⟩ :: below)
        (onStack (⟨after, p, begunAt slots 0⟩ :: below) [.run (.any node), .refuse below.length] p
          (begunAt slots 0) resumed) := fallsTo_any (List.head?_eq_none_iff.mpr hreach)
    exact .inr ⟨fun hreached => hreached hreach, _, _, hchoose.trans (hfalls.steps hrest)⟩
  | cons q more =>
    have hfound : (node.reach text [p]).head? = some q := by rw [hreach]; rfl
    have hsteps := hchoose.trans (steps_any hfound)
    refine .inl ⟨by simp [hreach], hsteps.fallsBack (FallsTo.fallsBack ⟨_, rfl, ?_, ?_, rfl⟩)⟩
    · simp [cutTo, onStack]
    · simp [cutTo, onStack]

/-- A look-ahead with a part that is handed over matches where the part does. -/
theorem outcomeAt_ahead_any_iff {p : Nat} :
    (Plan.program (searching (.ahead (.any node))) slots).outcomeAt text p = .matched ↔
      (Plan.regular node).outcomeAt text p = .matched := by
  have hlook : Steps text 4 ((Code.ahead (.any node)).found.attempt slots p)
      (onStack [] [.run (.any node), .goTo p, .run (.save 1)] p (begunAt slots p) 0) :=
    (steps_found _).trans (.single rfl)
  rw [Plan.outcomeAt_searching, Plan.outcomeAt]
  cases hreach : node.reach text [p] with
  | nil =>
    have hnone : (node.reach text [p]).head? = none := by rw [hreach]; rfl
    rw [hlook.finish_eq_error (fallsTo_any hnone).step_eq (by decide)]
    simp
  | cons q more =>
    have hfound : (node.reach text [p]).head? = some q := by rw [hreach]; rfl
    have hback : Steps text 1 (onStack [] [.goTo p, .run (.save 1)] q (begunAt slots p) 0)
        (onStack [] [.run (.save 1)] p (begunAt slots p) 0) := .single rfl
    obtain ⟨_, hsave, hmatched⟩ := wins_of_save text
      (a := onStack [] [.run (.save 1)] p (begunAt slots p) 0) rfl
    rw [(((hlook.trans (steps_any hfound)).trans hback).trans hsave).finish_eq_error hmatched
      (by decide)]
    simp

theorem reach_textStart (text : Haystack) (p : Nat) :
    Regular.reach text (.look .textStart) [p] = if p = 0 then [0] else [] := by
  by_cases hp : p = 0
  · subst hp
    rfl
  · simp [Regular.reach, Look.holds, hp]

theorem reach_seq_textStart {a : Regular} {p : Nat} (hp : p ≠ 0) :
    Regular.reach text (.seq (.look .textStart) a) [p] = [] := by
  rw [Regular.reach, reach_textStart, if_neg hp]
  exact (Regular.additive_reach text a).nil

theorem isMatch_textStart {a : Regular} :
    Regular.isMatch text (.seq (.look .textStart) a) = true ↔
      Regular.reach text (.seq (.look .textStart) a) [0] ≠ [] := by
  rw [Regular.isMatch_iff]
  constructor
  · rintro ⟨p, _, hp⟩
    by_cases hzero : p = 0
    · rwa [hzero] at hp
    · exact absurd (reach_seq_textStart hzero) hp
  · exact fun hreach => ⟨0, Nat.zero_le _, hreach⟩

/-- A program that begins with the start of the text fails everywhere else. -/
theorem finish_attempt_of_ne_zero {p : Nat} (hp : p ≠ 0) :
    finish text stepLimit
      (Code.attempt (Code.found (.seq (.any (.look .textStart)) rest)) slots p) = .unmatched := by
  have hnone : (Regular.reach text (.look .textStart) [p]).head? = none := by
    rw [reach_textStart, if_neg hp]
    rfl
  exact ((steps_found _).trans (steps_seq _ _)).finish_eq_error (fallsTo_any hnone).step_eq
    (by decide)

/-- A search for a program that begins with the start of the text fails once it has failed
    there. -/
theorem finish_skip_ne_matched {bound resumed : Nat} (hwithin : rest.Within count)
    (hopen : 0 < count) (hothers : count ≤ others) (hbound : bound ≤ stepLimit) :
    finish text bound
      (onStack [] [.run (.any (.set .any)), .run (.star false (.any (.set .any))),
        .run (Code.found (.seq (.any (.look .textStart)) rest))] 0
          (Array.replicate others none) resumed) ≠ .matched := by
  intro hmatched
  have hends := Ends.of_matched hmatched
  have hcode : Code.Within count (.seq (.any (.look .textStart)) rest) := ⟨trivial, hwithin⟩
  by_cases hsize : 0 < text.size
  · have hnext : Steps text 1
        (onStack [] [.run (.any (.set .any)), .run (.star false (.any (.set .any))),
          .run (Code.found (.seq (.any (.look .textStart)) rest))] 0
            (Array.replicate others none) resumed)
        (Code.searchFrom (.seq (.any (.look .textStart)) rest) others 1 resumed) :=
      steps_any ((reach_any text 0).trans (if_pos hsize))
    obtain ⟨_, hrest, heq⟩ := hends.after hnext
    rw [heq] at hmatched
    rcases finish_searchFrom_cases hcode hopen hothers hsize (by omega) hrest with
      ⟨_, q, hq, _, hfound⟩ | ⟨hunmatched, _⟩
    · rw [finish_attempt_of_ne_zero (by omega)] at hfound
      cases hfound
    · rw [hunmatched] at hmatched
      cases hmatched
  · have hnone := (reach_any text 0).trans (if_neg hsize)
    rw [(fallsTo_any hnone).fallsBack.finish_eq hends] at hmatched
    cases hmatched

/-- A guard between anchors blocks at the start of a text that a search with it matches. -/
theorem blocks_textStart (hwithin : rest.Within count) (hopen : 0 < count)
    (hslots : count ≤ slots) (hothers : count ≤ others) (hlimit : limit + 6 ≤ stepLimit) :
    Blocks text (.seq (.any (.look .textStart)) rest) (begunAt slots 0) limit fun p =>
      p = 0 ∧ search (searching (.seq (.any (.look .textStart)) rest)) others text = .matched := by
  intro p below after resumed bound hbound hends
  by_cases hp : p = 0
  · subst hp
    let code : Code := .seq (.any (.look .textStart)) rest
    have hcode : code.Within count := ⟨trivial, hwithin⟩
    let lower : Place := .found
      [⟨[.run (.any (.set .any)), .run (.star false (.any (.set .any))), .run code.found], 0,
        Array.replicate others none⟩]
    obtain ⟨steps, b, hlt, hsteps, hstop⟩ :=
      notAhead_cases hcode hends lower
        (slotsAlike_begunAt hopen hslots hothers 0 0) (Nat.zero_le _) (by simp [lower, Place.found])
    have hstart : Steps text 5 ((searching code).attempt others 0)
        (onStack lower.below (.run code :: lower.after) 0 (begunAt others 0) 0) :=
      (steps_seq _ _).trans ((Steps.single rfl).trans (steps_found code))
    rcases hstop with ⟨hgoals, hfalls⟩ | ⟨hfalls, hpassed⟩
    · obtain ⟨_, hsave, hmatched⟩ := wins_of_save text hgoals
      exact .inl ⟨⟨rfl, ((hstart.trans hsteps).trans hsave).finish_eq_error hmatched (by omega)⟩,
        hfalls⟩
    · refine .inr ⟨?_, hpassed⟩
      rintro ⟨-, hmatched⟩
      have hsearch : Ends text stepLimit ((searching code).attempt others 0) :=
        Ends.of_matched hmatched
      have hback := hfalls.steps (hsearch.after (hstart.trans hsteps)).2.1
      have heq := (hsearch.after ((hstart.trans hsteps).trans hback)).2.2
      exact finish_skip_ne_matched hwithin hopen hothers (Nat.sub_le _ _) (heq.symm.trans hmatched)
  · have hchoose : Steps text 1
        (onStack below (.run (.notAhead (.seq (.any (.look .textStart)) rest)) :: after) p
          (begunAt slots 0) resumed)
        (onStack (⟨after, p, begunAt slots 0⟩ :: below)
          [.run (.seq (.any (.look .textStart)) rest), .refuse below.length] p
          (begunAt slots 0) resumed) := hends.steps_choose rfl
    have hstart := hchoose.trans (steps_seq _ _)
    have hnone : (Regular.reach text (.look .textStart) [p]).head? = none := by
      rw [reach_textStart, if_neg hp]
      rfl
    obtain ⟨_, hrest, _⟩ := hends.after hstart
    exact .inr ⟨fun hblocked => hp hblocked.1, _, _,
      hstart.trans ((fallsTo_any hnone).steps hrest)⟩

/-- A guard that tests a pattern between anchors blocks at the start of a text that the pattern
    matches between anchors. -/
theorem blocks_anchored {plan : Plan} (hwithin : guard.Within count) (hopen : 0 < count)
    (hslots : count ≤ slots) (hothers : count ≤ others) (hlimit : limit + 6 ≤ stepLimit)
    (hplan : (∃ rest, guard = .seq (.any (.look .textStart)) rest ∧
        plan = .program (searching guard) others) ∨
      ∃ rest, guard = .any (.seq (.look .textStart) rest) ∧
        plan = .regular (.seq (.look .textStart) rest)) :
    Blocks text guard (begunAt slots 0) limit fun p =>
      p = 0 ∧ plan.outcome text = .matched := by
  rcases hplan with ⟨rest, rfl, rfl⟩ | ⟨rest, rfl, rfl⟩
  · exact blocks_textStart hwithin.2 hopen hslots hothers hlimit
  · have houtcome : (Plan.regular (.seq (.look .textStart) rest)).outcome text = .matched ↔
        Regular.reach text (.seq (.look .textStart) rest) [0] ≠ [] := by
      rw [← isMatch_textStart]
      cases hmatch : Regular.isMatch text (.seq (.look .textStart) rest) <;>
        simp [Plan.outcome, hmatch]
    have hblocked : (fun p => p = 0 ∧
        (Plan.regular (.seq (.look .textStart) rest)).outcome text = .matched) =
          fun p => Regular.reach text (.seq (.look .textStart) rest) [p] ≠ [] := by
      funext p
      rw [houtcome]
      by_cases hp : p = 0
      · simp [hp]
      · simp [hp, reach_seq_textStart hp]
    rw [hblocked]
    exact blocks_any _

end Patternwork.Backtrack
