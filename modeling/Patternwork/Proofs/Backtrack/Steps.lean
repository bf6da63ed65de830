import Patternwork.Backtrack.Machine

namespace Patternwork.Backtrack.Attempt

variable {text : Haystack} {a b c : Attempt}

/-- A number of steps leads from one state of an attempt to another. -/
inductive Steps (text : Haystack) : Nat → Attempt → Attempt → Prop
  | refl (a : Attempt) : Steps text 0 a a
  | cons {count : Nat} {a b c : Attempt} (hstep : a.step text = .ok b)
      (hrest : Steps text count b c) : Steps text (count + 1) a c

theorem Steps.single (hstep : a.step text = .ok b) : Steps text 1 a b :=
  .cons hstep (.refl b)

theorem Steps.trans {first second : Nat} (hfirst : Steps text first a b)
    (hsecond : Steps text second b c) : Steps text (first + second) a c := by
  induction hfirst with
  | refl => simpa using hsecond
  | @cons count _ _ _ hstep _ ih =>
    have hsteps := Steps.cons hstep (ih hsecond)
    rwa [show count + 1 + second = count + second + 1 by omega]

theorem Steps.finish_eq {count : Nat} (hsteps : Steps text count a b) (fuel : Nat) :
    finish text (fuel + count) a = finish text fuel b := by
  induction hsteps with
  | refl => rfl
  | @cons count _ _ _ hstep _ ih =>
    rw [← Nat.add_assoc, finish, hstep]
    exact ih

/-- The attempt comes to an end within a number of steps, without being given up. -/
def Ends (text : Haystack) (bound : Nat) (a : Attempt) : Prop :=
  finish text bound a ≠ .aborted

theorem Ends.of_matched {bound : Nat} (hmatched : finish text bound a = .matched) :
    Ends text bound a := by
  rw [Ends, hmatched]
  exact Outcome.noConfusion

/-- A state on the way to the end comes to the same end, within what is left of the bound. -/
theorem Ends.after {bound count : Nat} (hends : Ends text bound a)
    (hsteps : Steps text count a b) :
    count < bound ∧ Ends text (bound - count) b ∧
      finish text bound a = finish text (bound - count) b := by
  have hlt : count < bound := by
    induction hsteps generalizing bound with
    | refl =>
      cases bound with
      | zero => exact absurd rfl hends
      | succ bound => exact Nat.succ_pos bound
    | cons hstep _ ih =>
      cases bound with
      | zero => exact absurd rfl hends
      | succ bound =>
        unfold Ends at hends
        rw [finish, hstep] at hends
        exact Nat.succ_lt_succ (ih hends)
  have heq : finish text bound a = finish text (bound - count) b := by
    rw [← hsteps.finish_eq (bound - count), Nat.sub_add_cancel (Nat.le_of_lt hlt)]
  refine ⟨hlt, ?_, heq⟩
  unfold Ends at hends ⊢
  rwa [← heq]

/-- Steps that lead to the end fix how the attempt ends. -/
theorem Steps.finish_eq_error {bound count : Nat} {outcome : Outcome}
    (hsteps : Steps text count a b) (hstop : b.step text = .error outcome)
    (hlt : count < bound) : finish text bound a = outcome := by
  obtain ⟨left, rfl⟩ : ∃ left, bound = left + 1 + count := ⟨bound - count - 1, by omega⟩
  rw [hsteps.finish_eq, finish, hstop]

theorem Ends.step_ne_aborted {bound : Nat} (hends : Ends text bound a) :
    a.step text ≠ .error .aborted := by
  intro hstop
  cases bound with
  | zero => exact hends rfl
  | succ bound =>
    unfold Ends at hends
    rw [finish, hstop] at hends
    exact hends rfl

/-- An attempt over a stack of choices. -/
def onStack (below : List Choice) (goals : List Goal) (p : Nat) (slots : Array (Option Nat))
    (resumed : Nat) : Attempt :=
  { goals, p, slots, choices := below, height := below.length, resumed }

/-- The next step takes up the uppermost of these choices, or there is none left. -/
def FallsTo (text : Haystack) (below : List Choice) (a : Attempt) : Prop :=
  ∃ b : Attempt, a.step text = b.fail ∧ b.choices = below ∧ b.height = below.length ∧
    b.resumed = a.resumed

/-- The attempt goes on to match. -/
def Wins (text : Haystack) (a : Attempt) : Prop :=
  ∃ count b, Steps text count a b ∧ b.step text = .error .matched

/-- The attempt goes on until it takes up the uppermost of these choices, or until there is
    none left. -/
def FallsBack (text : Haystack) (below : List Choice) (a : Attempt) : Prop :=
  ∃ count b, Steps text count a b ∧ FallsTo text below b

theorem FallsTo.fallsBack {below : List Choice} (hfalls : FallsTo text below a) :
    FallsBack text below a :=
  ⟨0, a, .refl a, hfalls⟩

theorem Steps.wins {count : Nat} (hsteps : Steps text count a b) (hwins : Wins text b) :
    Wins text a := by
  obtain ⟨more, c, hmore, hstop⟩ := hwins
  exact ⟨count + more, c, hsteps.trans hmore, hstop⟩

theorem Steps.fallsBack {count : Nat} {below : List Choice} (hsteps : Steps text count a b)
    (hfalls : FallsBack text below b) : FallsBack text below a := by
  obtain ⟨more, c, hmore, hstop⟩ := hfalls
  exact ⟨count + more, c, hsteps.trans hmore, hstop⟩

theorem Wins.finish_eq {bound : Nat} (hwins : Wins text a) (hends : Ends text bound a) :
    finish text bound a = .matched := by
  obtain ⟨count, b, hsteps, hstop⟩ := hwins
  exact hsteps.finish_eq_error hstop (hends.after hsteps).1

theorem Wins.exists_ends (hwins : Wins text a) : ∃ bound, Ends text bound a := by
  obtain ⟨count, b, hsteps, hstop⟩ := hwins
  exact ⟨count + 1, .of_matched (hsteps.finish_eq_error hstop (Nat.lt_succ_self count))⟩

/-- An attempt that falls back with no choice left has failed. -/
theorem FallsTo.step_eq (hfalls : FallsTo text [] a) : a.step text = .error .unmatched := by
  obtain ⟨b, hstep, hchoices, _⟩ := hfalls
  rw [hstep, fail, hchoices]

theorem FallsBack.finish_eq {bound : Nat} (hfalls : FallsBack text [] a)
    (hends : Ends text bound a) : finish text bound a = .unmatched := by
  obtain ⟨count, b, hsteps, hfalls⟩ := hfalls
  exact hsteps.finish_eq_error hfalls.step_eq (hends.after hsteps).1

theorem FallsBack.exists_ends (hfalls : FallsBack text [] a) : ∃ bound, Ends text bound a := by
  obtain ⟨count, b, hsteps, hfalls⟩ := hfalls
  refine ⟨count + 1, ?_⟩
  rw [Ends, hsteps.finish_eq_error hfalls.step_eq (Nat.lt_succ_self count)]
  exact Outcome.noConfusion

theorem FallsTo.steps {bound : Nat} {choice : Choice} {below : List Choice}
    (hfalls : FallsTo text (choice :: below) a) (hends : Ends text bound a) :
    Steps text 1 a (onStack below choice.goals choice.p choice.slots (a.resumed + 1)) := by
  obtain ⟨b, hstep, hchoices, hheight, hresumed⟩ := hfalls
  have hlives := hends.step_ne_aborted
  rw [hstep, fail, hchoices] at hlives
  refine .single ?_
  rw [hstep, fail, hchoices]
  dsimp only at hlives ⊢
  split at hlives
  next hlimit =>
    rw [if_pos hlimit, hheight, hresumed, List.length_cons, Nat.add_sub_cancel]
    rfl
  next => exact absurd rfl hlives

/-- An attempt that falls back goes on with the uppermost choice. -/
theorem FallsBack.steps {bound : Nat} {choice : Choice} {below : List Choice}
    (hfalls : FallsBack text (choice :: below) a) (hends : Ends text bound a) :
    ∃ count resumed,
      Steps text count a (onStack below choice.goals choice.p choice.slots resumed) := by
  obtain ⟨count, b, hsteps, hfalls⟩ := hfalls
  exact ⟨count + 1, b.resumed + 1, hsteps.trans (hfalls.steps (hends.after hsteps).2.1)⟩

/-- A choice is pushed unless the attempt is given up. -/
theorem Ends.steps_choose {bound p resumed : Nat} {below : List Choice}
    {goals first later : List Goal} {slots : Array (Option Nat)}
    (hends : Ends text bound (onStack below goals p slots resumed))
    (hstep : (onStack below goals p slots resumed).step text =
      (onStack below goals p slots resumed).choose first later) :
    Steps text 1 (onStack below goals p slots resumed)
      (onStack (⟨later, p, slots⟩ :: below) first p slots resumed) := by
  have hlives := hends.step_ne_aborted
  refine .single ?_
  rw [hstep, choose] at hlives
  rw [hstep, choose]
  split
  next => rfl
  next hlimit => exact absurd (if_neg hlimit) hlives

end Patternwork.Backtrack.Attempt
