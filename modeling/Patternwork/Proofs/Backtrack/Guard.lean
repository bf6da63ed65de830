import Patternwork.Proofs.Backtrack.Search

namespace Patternwork.Backtrack

open Attempt

variable {text : Haystack} {count bound limit p resumed : Nat} {below : List Choice}
  {slots : Array (Option Nat)} {rest after : List Goal} {guard : Code}

/-- A refusal falls back behind the choice that was made for it. -/
private theorem fallsTo_of_refuse {upper lower : Place} {a b : Attempt} {choice : Choice}
    (haligned : Aligned count upper lower a b) (hbelow : upper.below = choice :: below)
    (hgoals : a.goals = [.refuse below.length]) : FallsTo text below a := by
  obtain ⟨own, _, hchoices, _⟩ := haligned.choices
  have hheight := haligned.height_left
  rw [hchoices, hbelow, List.length_append, List.length_cons] at hheight
  refine ⟨a.cutTo below.length, ?_, ?_, ?_, rfl⟩
  · rw [step, hgoals]
  · have hdrop : a.height - below.length = (own ++ [choice]).length := by
      rw [List.length_append, List.length_singleton]
      omega
    have hsplit : own ++ choice :: below = own ++ [choice] ++ below := by simp
    simp only [cutTo]
    rw [hchoices, hbelow, hdrop, hsplit, List.drop_left]
  · simp only [cutTo]
    omega

/-- A negative look-ahead, beside an attempt of its program at another place: where the
    program matches, the look-ahead falls back; where it fails, the look-ahead is passed. -/
theorem notAhead_cases (hguard : guard.Within count)
    (hends : Ends text bound (onStack below (.run (.notAhead guard) :: rest) p slots resumed))
    (lower : Place) {others : Array (Option Nat)} {used : Nat}
    (halike : SlotsAlike count slots others) (hused : used ≤ resumed)
    (hlower : lower.below.length ≤ below.length + 1) :
    ∃ steps b, steps + 1 < bound ∧
      Steps text steps (onStack lower.below (.run guard :: lower.after) p others used) b ∧
      (b.goals = lower.after ∧
          FallsBack text below (onStack below (.run (.notAhead guard) :: rest) p slots resumed) ∨
        FallsTo text lower.below b ∧ ∃ passed later,
          Steps text passed (onStack below (.run (.notAhead guard) :: rest) p slots resumed)
            (onStack below rest p slots later)) := by
  let upper : Place :=
    { after := [.refuse below.length]
      below := ⟨rest, p, slots⟩ :: below
      uncut := fun _ => rfl }
  have hfirst : Steps text 1 (onStack below (.run (.notAhead guard) :: rest) p slots resumed)
      (onStack upper.below (.run guard :: upper.after) p slots resumed) := hends.steps_choose rfl
  obtain ⟨_, hrest, _⟩ := hends.after hfirst
  obtain ⟨steps, a, b, hsteps, hothers, hstop⟩ :=
    (beside_onStack upper lower hguard halike hused hlower).run hrest
  have hlt := (hrest.after hsteps).1
  refine ⟨steps, b, by omega, hothers, ?_⟩
  rcases hstop with ⟨haligned, hgoals, hgoalsLower⟩ | ⟨hfalls, hfallsLower⟩
  · have hfalls : FallsTo text below a := fallsTo_of_refuse haligned rfl hgoals
    exact .inl ⟨hgoalsLower, (hfirst.trans hsteps).fallsBack hfalls.fallsBack⟩
  · exact .inr ⟨hfallsLower, _, _,
      (hfirst.trans hsteps).trans (hfalls.steps (hrest.after hsteps).2.1)⟩

/-- The guard decides at each position whether a negative look-ahead with it is passed, in
    every attempt that comes to an end within `limit` steps. -/
def Blocks (text : Haystack) (guard : Code) (slots : Array (Option Nat)) (limit : Nat)
    (blocked : Nat → Prop) : Prop :=
  ∀ ⦃p below rest resumed bound⦄, bound ≤ limit →
    Ends text bound (onStack below (.run (.notAhead guard) :: rest) p slots resumed) →
      blocked p ∧
          FallsBack text below (onStack below (.run (.notAhead guard) :: rest) p slots resumed) ∨
        ¬ blocked p ∧ ∃ count later,
          Steps text count (onStack below (.run (.notAhead guard) :: rest) p slots resumed)
            (onStack below rest p slots later)

/-- What comes after a loop matches at the good positions and fails at all others. -/
def Closes (text : Haystack) (after : List Goal) (slots : Array (Option Nat)) (limit : Nat)
    (good : Nat → Prop) : Prop :=
  ∀ ⦃p below resumed bound⦄, bound ≤ limit →
    Ends text bound (onStack below after p slots resumed) →
      (good p → Wins text (onStack below after p slots resumed)) ∧
        (¬ good p → FallsBack text below (onStack below after p slots resumed))

/-- A step over one character where the guard does not match. -/
def Code.guarding (guard : Code) (members : CharClass) : Code :=
  .seq .pass (.seq (.notAhead guard) (.any (.set members)))

/-- The loop can consume the character at a position. -/
def Passable (text : Haystack) (members : CharClass) (blocked : Nat → Prop) (p : Nat) : Prop :=
  (∃ c, text[p]? = some c ∧ members.contains c = true) ∧ ¬ blocked p

theorem reach_set {members : CharClass} {c : Char} (hc : text[p]? = some c)
    (hmember : members.contains c = true) :
    (Regular.reach text (.set members) [p]).head? = some (p + 1) := by
  simp [Regular.reach, hc, hmember]

theorem reach_set_eq_none {members : CharClass}
    (hnone : ¬ ∃ c, text[p]? = some c ∧ members.contains c = true) :
    (Regular.reach text (.set members) [p]).head? = none := by
  cases hc : text[p]? with
  | none => simp [Regular.reach, hc]
  | some c =>
    have hmember : ¬ members.contains c = true := fun hmember => hnone ⟨c, hc, hmember⟩
    simp [Regular.reach, hc, hmember]

/-- A loop that falls back to the choice to leave it goes on with what comes after. -/
private theorem cases_of_left {good : Nat → Prop} (hcloses : Closes text after slots limit good)
    (hbound : bound ≤ limit) {a : Attempt} (hends : Ends text bound a)
    (hfalls : FallsBack text (⟨after, p, slots⟩ :: below) a) :
    (good p → Wins text a) ∧ (¬ good p → FallsBack text below a) := by
  obtain ⟨_, _, hsteps⟩ := hfalls.steps hends
  obtain ⟨_, hrest, _⟩ := hends.after hsteps
  obtain ⟨hwins, hback⟩ := hcloses (Nat.le_trans (Nat.sub_le _ _) hbound) hrest
  exact ⟨fun hgood => hsteps.wins (hwins hgood), fun hbad => hsteps.fallsBack (hback hbad)⟩

/-- A greedy loop over guarded characters matches when what comes after it does at some
    position that the loop can get to, and else it fails. -/
theorem star_guarding_cases {members : CharClass} {blocked good : Nat → Prop}
    (hblocks : Blocks text guard slots limit blocked)
    (hcloses : Closes text after slots limit good) (hbound : bound ≤ limit)
    (hends : Ends text bound
      (onStack below (.run (.star true (guard.guarding members)) :: after) p slots resumed)) :
    ((∃ q, p ≤ q ∧ good q ∧ ∀ i, p ≤ i → i < q → Passable text members blocked i) →
        Wins text
          (onStack below (.run (.star true (guard.guarding members)) :: after) p slots resumed)) ∧
      ((¬ ∃ q, p ≤ q ∧ good q ∧ ∀ i, p ≤ i → i < q → Passable text members blocked i) →
        FallsBack text below
          (onStack below (.run (.star true (guard.guarding members)) :: after) p slots
            resumed)) := by
  induction hleft : text.size - p using Nat.strongRecOn generalizing p below resumed bound with
  | ind left ih =>
    subst hleft
    generalize hstart :
      onStack below (.run (.star true (guard.guarding members)) :: after) p slots resumed = start
      at hends
    -- Up to the guard, with the choice to leave the loop at this position.
    have hguard : Steps text 4 start
        (onStack (⟨after, p, slots⟩ :: below)
          (.run (.notAhead guard) :: .run (.any (.set members)) ::
            .run (.star true (guard.guarding members)) :: after) p slots resumed) := by
      subst hstart
      exact (hends.steps_choose rfl).trans (.cons rfl (.cons rfl (.single rfl)))
    obtain ⟨_, hrest, _⟩ := hends.after hguard
    have hstuck (hfalls : FallsBack text (⟨after, p, slots⟩ :: below) start)
        (hfar : ∀ q, p < q → good q → ¬ ∀ i, p ≤ i → i < q → Passable text members blocked i) :
        ((∃ q, p ≤ q ∧ good q ∧ ∀ i, p ≤ i → i < q → Passable text members blocked i) →
            Wins text start) ∧
          ((¬ ∃ q, p ≤ q ∧ good q ∧ ∀ i, p ≤ i → i < q → Passable text members blocked i) →
            FallsBack text below start) := by
      obtain ⟨hwins, hback⟩ := cases_of_left hcloses hbound hends hfalls
      refine ⟨?_, ?_⟩
      · rintro ⟨q, hq, hgood, hpass⟩
        rcases Nat.eq_or_lt_of_le hq with rfl | hlt
        · exact hwins hgood
        · exact absurd hpass (hfar q hlt hgood)
      · intro hnone
        refine hback fun hgood => hnone ⟨p, Nat.le_refl p, hgood, ?_⟩
        omega
    rcases hblocks (Nat.le_trans (Nat.sub_le _ _) hbound) hrest with
      ⟨hblocked, hfalls⟩ | ⟨hopen, _, _, hpassed⟩
    · refine hstuck (hguard.fallsBack hfalls) ?_
      intro q hlt _ hpass
      exact (hpass p (Nat.le_refl p) hlt).2 hblocked
    · by_cases hmember : ∃ c, text[p]? = some c ∧ members.contains c = true
      · obtain ⟨c, hc, hcontains⟩ := hmember
        have hnext := (hguard.trans hpassed).trans (steps_any (reach_set hc hcontains))
        obtain ⟨_, hafter, _⟩ := hends.after hnext
        have hlt : p < text.size := (Array.getElem?_eq_some_iff.mp hc).1
        obtain ⟨hwins, hback⟩ :=
          ih (text.size - (p + 1)) (by omega) (Nat.le_trans (Nat.sub_le _ _) hbound) hafter rfl
        by_cases hfar : ∃ q, p + 1 ≤ q ∧ good q ∧
            ∀ i, p + 1 ≤ i → i < q → Passable text members blocked i
        · refine ⟨fun _ => hnext.wins (hwins hfar), ?_⟩
          intro hnone
          obtain ⟨q, hq, hgood, hpass⟩ := hfar
          refine absurd ⟨q, by omega, hgood, ?_⟩ hnone
          intro i hi hiq
          rcases Nat.eq_or_lt_of_le hi with rfl | hlt
          · exact ⟨⟨c, hc, hcontains⟩, hopen⟩
          · exact hpass i hlt hiq
        · refine hstuck (hnext.fallsBack (hback hfar)) ?_
          intro q hlt hgood hpass
          exact hfar ⟨q, hlt, hgood, fun i hi hiq => hpass i (by omega) hiq⟩
      · refine hstuck ((hguard.trans hpassed).fallsBack
          (fallsTo_any (reach_set_eq_none hmember)).fallsBack) ?_
        intro q hlt _ hpass
        exact hmember (hpass p (Nat.le_refl p) hlt).1

end Patternwork.Backtrack
