import Patternwork.Backtrack.Build
import Patternwork.Proofs.Backtrack.Beside

namespace Patternwork.Backtrack

/-- The attempt of a program at a position, with nothing after it and no choice below. -/
def Code.attempt (code : Code) (slots p : Nat) : Attempt :=
  .onStack [] [.run code] p (Array.replicate slots none) 0

/-- How the attempt at one position ends. -/
def Plan.outcomeAt (text : Haystack) (p : Nat) : Plan → Outcome
  | .regular a => if (a.reach text [p]).isEmpty then .unmatched else .matched
  -- A program that searches first passes over characters.
  | .program (.seq _ code) slots | .program code slots =>
    Attempt.finish text stepLimit (code.attempt slots p)

namespace Attempt

variable {text : Haystack} {count bound p resumed : Nat} {below : List Choice}
  {slots : Array (Option Nat)} {rest : List Goal} {code : Code}

theorem steps_seq (first second : Code) :
    Steps text 1 (onStack below (.run (.seq first second) :: rest) p slots resumed)
      (onStack below (.run first :: .run second :: rest) p slots resumed) :=
  .single rfl

/-- An attempt that only has its end to note has matched. -/
theorem wins_of_save (text : Haystack) {a : Attempt} {slot : Nat}
    (hgoals : a.goals = [.run (.save slot)]) :
    ∃ b, Steps text 1 a b ∧ b.step text = .error .matched := by
  have hstep : a.step text = .ok { a.setSlot slot a.p with goals := [] } := by
    rw [step, hgoals]
    rfl
  exact ⟨_, .single hstep, rfl⟩

/-- A condition that a set of positions meets is met. -/
theorem steps_any {node : Regular} {q : Nat} (hfound : (node.reach text [p]).head? = some q) :
    Steps text 1 (onStack below (.run (.any node) :: rest) p slots resumed)
      (onStack below rest q slots resumed) := by
  refine .single ?_
  change (onStack below (.run (.any node) :: rest) p slots resumed).moveTo rest
    (node.reach text [p]).head? = _
  rw [hfound]
  rfl

theorem fallsTo_any {node : Regular} (hnone : (node.reach text [p]).head? = none) :
    FallsTo text below (onStack below (.run (.any node) :: rest) p slots resumed) := by
  refine ⟨onStack below (.run (.any node) :: rest) p slots resumed, ?_, rfl, rfl, rfl⟩
  change (onStack below (.run (.any node) :: rest) p slots resumed).moveTo rest
    (node.reach text [p]).head? = _
  rw [hnone]
  rfl

end Attempt

open Attempt

/-- The goals after a program whose only match is noted. -/
def Place.found (below : List Choice) : Place where
  after := [.run (.save 1)]
  below
  uncut _ := rfl

/-- The part of a searching program that stands at the start of a match. -/
def Code.found (code : Code) : Code := .seq (.save 0) (.seq code (.save 1))

theorem Plan.outcomeAt_searching (text : Haystack) (code : Code) (slots p : Nat) :
    (Plan.program (searching code) slots).outcomeAt text p =
      finish text stepLimit (code.found.attempt slots p) := rfl

theorem steps_found {text : Haystack} {below : List Choice} {p resumed : Nat}
    {slots : Array (Option Nat)} (code : Code) :
    Steps text 3 (onStack below [.run code.found] p slots resumed)
      (onStack below [.run code, .run (.save 1)] p (slots.setIfInBounds 0 (some p)) resumed) :=
  .cons rfl (.cons rfl (.single rfl))

theorem slotsAlike_replicate {count slots others : Nat} (hslots : count ≤ slots)
    (hothers : count ≤ others) :
    SlotsAlike count (Array.replicate slots none) (Array.replicate others none) := by
  have hnone (size i : Nat) : (Array.replicate size (none : Option Nat))[i]?.join = none := by
    rw [Array.getElem?_replicate]
    split <;> rfl
  constructor
  case left => simpa using hslots
  case right => simpa using hothers
  case begun => rw [hnone, hnone]
  case open_left => exact hnone slots 1
  case open_right => exact hnone others 1
  case rest =>
    intro i _ hi
    rw [Array.getElem?_replicate, Array.getElem?_replicate, if_pos (by omega),
      if_pos (by omega)]

/-- The same program at two places, at the same position and with nothing done. -/
theorem beside_onStack {count : Nat} (upper lower : Place) {code : Code}
    (hcode : code.Within count) {p resumed used : Nat} {slots others : Array (Option Nat)}
    (hslots : SlotsAlike count slots others) (hused : used ≤ resumed)
    (hlower : lower.below.length ≤ upper.below.length) :
    Beside count upper lower
      (onStack upper.below (.run code :: upper.after) p slots resumed)
      (onStack lower.below (.run code :: lower.after) p others used) where
  aligned :=
    { p := rfl
      slots := hslots
      choices := ⟨[], [], rfl, rfl, .nil⟩
      height_left := rfl
      height_right := rfl
      resumed := hused
      lower_le := hlower }
  goals := .cons (.run code) hcode .after

/-- The search from a position on. -/
def Code.searchFrom (code : Code) (slots p resumed : Nat) : Attempt :=
  .onStack [] [.run (.star false (.any (.set .any))), .run code.found] p
    (Array.replicate slots none) resumed

theorem contains_any (c : Char) : CharClass.any.contains c = true := by
  have hvalid : c.toNat < 0xd800 ∨ 0xdfff < c.toNat ∧ c.toNat < 0x110000 := c.valid
  simp only [CharClass.contains, CharClass.any, CharClass.holds, Unicode.codeSpace,
    Bool.and_eq_true, decide_eq_true_eq]
  omega

theorem reach_any (text : Haystack) (p : Nat) :
    (Regular.reach text (.set .any) [p]).head? = if p < text.size then some (p + 1) else none := by
  by_cases hp : p < text.size
  · simp [Regular.reach, hp, contains_any]
  · simp [Regular.reach, hp]

/-- What is done at one position of a search: the attempt there matches, and with it the
    search, or it fails, and the search passes over a character. -/
theorem searchFrom_cases {text : Haystack} {code : Code} {count slots : Nat}
    (hcode : code.Within count) (hopen : 0 < count) (hslots : count ≤ slots)
    {bound p resumed : Nat} (hbound : bound ≤ stepLimit)
    (hends : Ends text bound (code.searchFrom slots p resumed)) :
    finish text stepLimit (code.found.attempt slots p) = .matched ∧
        Wins text (code.searchFrom slots p resumed) ∨
      finish text stepLimit (code.found.attempt slots p) = .unmatched ∧
        ∃ steps later, Steps text steps (code.searchFrom slots p resumed)
          (onStack [] [.run (.any (.set .any)), .run (.star false (.any (.set .any))),
            .run code.found] p (Array.replicate slots none) later) := by
  have hfirst := (hends.steps_choose rfl).trans (steps_found code)
  have hlocal : Steps text 3 (code.found.attempt slots p) _ := steps_found code
  have halike := (slotsAlike_replicate hslots hslots).set Nat.zero_ne_one hopen p
  obtain ⟨hfour, hrest, _⟩ := hends.after hfirst
  obtain ⟨steps, a, b, hsteps, hothers, hstop⟩ :=
    (beside_onStack (.found _) (.found []) hcode halike (Nat.zero_le resumed)
      (Nat.zero_le _)).run hrest
  have hlt := (hrest.after hsteps).1
  rcases hstop with ⟨_, hgoals, hgoalsLocal⟩ | ⟨hfalls, hfallsLocal⟩
  · obtain ⟨_, hsave, hmatched⟩ := wins_of_save text hgoals
    obtain ⟨_, hsaveLocal, hmatchedLocal⟩ := wins_of_save text hgoalsLocal
    exact .inl ⟨((hlocal.trans hothers).trans hsaveLocal).finish_eq_error hmatchedLocal (by omega),
      _, _, (hfirst.trans hsteps).trans hsave, hmatched⟩
  · have hunmatched : finish text stepLimit (code.found.attempt slots p) = .unmatched :=
      (hlocal.trans hothers).finish_eq_error hfallsLocal.step_eq (by omega)
    exact .inr ⟨hunmatched, _, _,
      (hfirst.trans hsteps).trans (hfalls.steps (hrest.after hsteps).2.1)⟩

/-- A search from a position on that is not given up matches with the attempt there or at a later
    position, or it fails with all of them. -/
theorem finish_searchFrom_cases {text : Haystack} {code : Code} {count slots : Nat}
    (hcode : code.Within count) (hopen : 0 < count) (hslots : count ≤ slots)
    {bound p resumed : Nat} (hp : p ≤ text.size) (hbound : bound ≤ stepLimit)
    (hends : Ends text bound (code.searchFrom slots p resumed)) :
    finish text bound (code.searchFrom slots p resumed) = .matched ∧
        (∃ q, p ≤ q ∧ q ≤ text.size ∧
          finish text stepLimit (code.found.attempt slots q) = .matched) ∨
      finish text bound (code.searchFrom slots p resumed) = .unmatched ∧
        ∀ q, p ≤ q → q ≤ text.size →
          finish text stepLimit (code.found.attempt slots q) = .unmatched := by
  induction hleft : text.size - p generalizing bound p resumed with
  | zero =>
    obtain rfl : p = text.size := by omega
    rcases searchFrom_cases hcode hopen hslots hbound hends with
      ⟨hmatched, hwins⟩ | ⟨hunmatched, _, _, hsteps⟩
    · exact .inl ⟨hwins.finish_eq hends, _, Nat.le_refl _, Nat.le_refl _, hmatched⟩
    · have hnone := (reach_any text text.size).trans (if_neg (Nat.lt_irrefl _))
      have hfalls : FallsBack text [] (code.searchFrom slots text.size resumed) :=
        hsteps.fallsBack (fallsTo_any hnone).fallsBack
      refine .inr ⟨hfalls.finish_eq hends, fun q hq hsize => ?_⟩
      obtain rfl : q = text.size := by omega
      exact hunmatched
  | succ left ih =>
    have hlt : p < text.size := by omega
    rcases searchFrom_cases hcode hopen hslots hbound hends with
      ⟨hmatched, hwins⟩ | ⟨hunmatched, _, _, hsteps⟩
    · exact .inl ⟨hwins.finish_eq hends, p, Nat.le_refl _, hp, hmatched⟩
    · have hnext := hsteps.trans (steps_any ((reach_any text p).trans (if_pos hlt)))
      obtain ⟨_, hrest, heq⟩ := hends.after hnext
      rw [heq]
      rcases ih (by omega) (by omega) hrest (by omega) with
        ⟨hfinish, q, hq, hsize, hmatched⟩ | ⟨hfinish, hnone⟩
      · exact .inl ⟨hfinish, q, by omega, hsize, hmatched⟩
      · refine .inr ⟨hfinish, fun q hq hsize => ?_⟩
        rcases Nat.eq_or_lt_of_le hq with rfl | hlater
        · exact hunmatched
        · exact hnone q hlater hsize

/-- A search that is not given up matches with the attempt at some position, or it fails with the
    attempts at all of them. -/
theorem search_cases {text : Haystack} {code : Code} {count slots : Nat}
    (hcode : code.Within count) (hopen : 0 < count) (hslots : count ≤ slots)
    (hends : search (searching code) slots text ≠ .aborted) :
    search (searching code) slots text = .matched ∧
        (∃ p ≤ text.size, (Plan.program (searching code) slots).outcomeAt text p = .matched) ∨
      search (searching code) slots text = .unmatched ∧
        ∀ p ≤ text.size, (Plan.program (searching code) slots).outcomeAt text p = .unmatched := by
  have hends : Ends text stepLimit ((searching code).attempt slots 0) := hends
  have hfirst : Steps text 1 ((searching code).attempt slots 0) (code.searchFrom slots 0 0) :=
    steps_seq _ _
  obtain ⟨_, hrest, heq⟩ := hends.after hfirst
  have hsearch : search (searching code) slots text =
      finish text (stepLimit - 1) (code.searchFrom slots 0 0) := heq
  rw [hsearch]
  rcases finish_searchFrom_cases hcode hopen hslots (Nat.zero_le _) (Nat.sub_le _ _) hrest with
    ⟨hfinish, q, _, hsize, hmatched⟩ | ⟨hfinish, hnone⟩
  · exact .inl ⟨hfinish, q, hsize, hmatched⟩
  · exact .inr ⟨hfinish, fun q hsize => hnone q (Nat.zero_le q) hsize⟩

/-- A search that is not given up finds a match exactly when the attempt at some position
    does. -/
theorem search_eq_matched_iff {text : Haystack} {code : Code} {count slots : Nat}
    (hcode : code.Within count) (hopen : 0 < count) (hslots : count ≤ slots)
    (hends : search (searching code) slots text ≠ .aborted) :
    search (searching code) slots text = .matched ↔
      ∃ p ≤ text.size, (Plan.program (searching code) slots).outcomeAt text p = .matched := by
  rcases search_cases hcode hopen hslots hends with ⟨hsearch, hfound⟩ | ⟨hsearch, hnone⟩
  · exact iff_of_true hsearch hfound
  · refine iff_of_false (by simp [hsearch]) ?_
    rintro ⟨p, hp, hmatched⟩
    rw [hnone p hp] at hmatched
    cases hmatched

end Patternwork.Backtrack
