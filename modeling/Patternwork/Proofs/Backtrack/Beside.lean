import Mathlib.Data.List.Forall2
import Patternwork.Proofs.Backtrack.Steps

namespace Patternwork.Backtrack

/-- Slots that a program with less than `count` of them cannot tell apart. The whole match
    may have begun at different positions, and it has not ended. -/
structure SlotsAlike (count : Nat) (a b : Array (Option Nat)) : Prop where
  left : count ≤ a.size
  right : count ≤ b.size
  begun : a[0]?.join.isSome = b[0]?.join.isSome
  open_left : a[1]?.join = none
  open_right : b[1]?.join = none
  rest : ∀ i, 2 ≤ i → i < count → a[i]? = b[i]?

/-- The program uses slots below `count` only, and not the end of the whole match. -/
def Code.Within (count : Nat) : Code → Prop
  | .pass | .any _ | .preferred _ | .back _ | .searchStart => True
  | .seq a b | .choice a b => a.Within count ∧ b.Within count
  | .star _ a | .counted _ _ _ a | .ahead a | .notAhead a | .atomic a => a.Within count
  | .guarded _ _ slot a => 2 ≤ slot ∧ slot < count ∧ a.Within count
  | .save slot => slot ≠ 1 ∧ slot < count
  | .conditional condition yes no =>
    condition.Within count ∧ yes.Within count ∧ no.Within count
  | .backref index => 2 * index + 1 < count
  | .groupSet index => 2 * index < count

def Goal.Within (count : Nat) : Goal → Prop
  | .run code | .again _ _ _ code _ => code.Within count
  | .guardedAgain _ _ slot code _ => 2 ≤ slot ∧ slot < count ∧ code.Within count
  | .goTo _ | .cut _ | .refuse _ => True

/-- A goal as it stands above `base` choices. -/
def Goal.raise (base : Nat) : Goal → Goal
  | .cut height => .cut (height + base)
  | .refuse height => .refuse (height + base)
  | goal => goal

/-- Where a program is run: the goals that come after it, and the choices below its own. -/
structure Place where
  after : List Goal
  below : List Choice
  /-- No goal that comes after is a cut. -/
  uncut : ∀ height, shiftCuts height after = after

variable {text : Haystack} {count : Nat} {upper lower : Place}

/-- The same goals at two places: those of the program, and then those that come after. A
    refusal is never followed by anything. -/
inductive GoalsBeside (count : Nat) (upper lower : Place) : List Goal → List Goal → Prop
  | after : GoalsBeside count upper lower upper.after lower.after
  | refuse (height : Nat) :
      GoalsBeside count upper lower [.refuse (height + upper.below.length)]
        [.refuse (height + lower.below.length)]
  | cons (goal : Goal) {goals others : List Goal} (hwithin : goal.Within count)
      (hrest : GoalsBeside count upper lower goals others) :
      GoalsBeside count upper lower (goal.raise upper.below.length :: goals)
        (goal.raise lower.below.length :: others)

theorem GoalsBeside.shiftCuts {goals others : List Goal}
    (hgoals : GoalsBeside count upper lower goals others) (height : Nat) :
    GoalsBeside count upper lower (shiftCuts (height + upper.below.length) goals)
      (shiftCuts (height + lower.below.length) others) := by
  induction hgoals generalizing height with
  | after =>
    rw [upper.uncut, lower.uncut]
    exact .after
  | refuse => exact .refuse _
  | cons goal hwithin _ ih =>
    cases goal with
    | cut outer => exact .cons (.cut height) trivial (ih outer)
    | run code => exact .cons (.run code) hwithin (ih height)
    | again least greatest greedy code done =>
      exact .cons (.again least greatest greedy code done) hwithin (ih height)
    | guardedAgain least greedy slot code done =>
      exact .cons (.guardedAgain least greedy slot code done) hwithin (ih height)
    | goTo p => exact .cons (.goTo p) trivial (ih height)
    | refuse outer => exact .cons (.refuse outer) trivial (ih height)

structure ChoiceBeside (count : Nat) (upper lower : Place) (a b : Choice) : Prop where
  goals : GoalsBeside count upper lower a.goals b.goals
  p : a.p = b.p
  slots : SlotsAlike count a.slots b.slots

/-- Attempts at the same position that have made the same choices at their places. The one
    at the lower place has used no more of what an attempt may use. -/
structure Aligned (count : Nat) (upper lower : Place) (a b : Attempt) : Prop where
  p : a.p = b.p
  slots : SlotsAlike count a.slots b.slots
  choices : ∃ own other, a.choices = own ++ upper.below ∧ b.choices = other ++ lower.below ∧
    List.Forall₂ (ChoiceBeside count upper lower) own other
  height_left : a.height = a.choices.length
  height_right : b.height = b.choices.length
  resumed : b.resumed ≤ a.resumed
  lower_le : lower.below.length ≤ upper.below.length

/-- Aligned attempts with the same goals. -/
structure Beside (count : Nat) (upper lower : Place) (a b : Attempt) : Prop where
  aligned : Aligned count upper lower a b
  goals : GoalsBeside count upper lower a.goals b.goals

/-- What two attempts do next: both go on side by side, or both fail and have none of their
    own choices left. -/
def Together (count : Nat) (upper lower : Place) (a b : Attempt)
    (x y : Except Outcome Attempt) : Prop :=
  (∃ a' b', x = .ok a' ∧ y = .ok b' ∧ Beside count upper lower a' b') ∨
    (∃ a' : Attempt, x = a'.fail ∧ a'.choices = upper.below ∧
      a'.height = upper.below.length ∧ a'.resumed = a.resumed) ∧
    ∃ b' : Attempt, y = b'.fail ∧ b'.choices = lower.below ∧
      b'.height = lower.below.length ∧ b'.resumed = b.resumed

theorem SlotsAlike.set {a b : Array (Option Nat)} (halike : SlotsAlike count a b) {slot : Nat}
    (hopen : slot ≠ 1) (hlt : slot < count) (p : Nat) :
    SlotsAlike count (a.setIfInBounds slot (some p)) (b.setIfInBounds slot (some p)) := by
  have hleft := halike.left
  have hright := halike.right
  constructor
  case left => simpa using hleft
  case right => simpa using hright
  case begun =>
    by_cases hslot : slot = 0
    · subst hslot
      rw [Array.getElem?_setIfInBounds_self_of_lt (by omega),
        Array.getElem?_setIfInBounds_self_of_lt (by omega)]
    · rw [Array.getElem?_setIfInBounds_ne hslot, Array.getElem?_setIfInBounds_ne hslot]
      exact halike.begun
  case open_left =>
    rw [Array.getElem?_setIfInBounds_ne hopen]
    exact halike.open_left
  case open_right =>
    rw [Array.getElem?_setIfInBounds_ne hopen]
    exact halike.open_right
  case rest =>
    intro i htwo hi
    by_cases hslot : slot = i
    · subst hslot
      rw [Array.getElem?_setIfInBounds_self_of_lt (by omega),
        Array.getElem?_setIfInBounds_self_of_lt (by omega)]
    · rw [Array.getElem?_setIfInBounds_ne hslot, Array.getElem?_setIfInBounds_ne hslot]
      exact halike.rest i htwo hi

namespace Aligned

open Attempt

variable {a b : Attempt}

theorem goTo (haligned : Aligned count upper lower a b) (p : Nat) {goals others : List Goal} :
    Aligned count upper lower { a with goals, p } { b with goals := others, p } :=
  { haligned with p := rfl }

theorem goOn (haligned : Aligned count upper lower a b) {goals others : List Goal} :
    Aligned count upper lower { a with goals } { b with goals := others } :=
  { haligned with }

theorem setSlot (haligned : Aligned count upper lower a b) {slot : Nat} (hopen : slot ≠ 1)
    (hlt : slot < count) :
    Aligned count upper lower (a.setSlot slot a.p) (b.setSlot slot b.p) := by
  have hslots := haligned.slots.set hopen hlt a.p
  rw [haligned.p] at hslots
  exact { haligned with slots := by rwa [haligned.p] }

/-- The choices that either attempt has made count the same. -/
theorem height_eq (haligned : Aligned count upper lower a b) :
    ∃ own, a.height = own + upper.below.length ∧ b.height = own + lower.below.length := by
  obtain ⟨own, other, hchoices, hothers, hbeside⟩ := haligned.choices
  refine ⟨own.length, ?_, ?_⟩
  · rw [haligned.height_left, hchoices, List.length_append]
  · rw [haligned.height_right, hothers, List.length_append, hbeside.length_eq]

theorem cutTo (haligned : Aligned count upper lower a b) (height : Nat) :
    Aligned count upper lower (a.cutTo (height + upper.below.length))
      (b.cutTo (height + lower.below.length)) := by
  obtain ⟨own, other, hchoices, hothers, hbeside⟩ := haligned.choices
  have hlength := hbeside.length_eq
  have hleft := haligned.height_left
  have hright := haligned.height_right
  rw [hchoices, List.length_append] at hleft
  rw [hothers, List.length_append] at hright
  have hdrop : a.height - (height + upper.below.length) = own.length - height := by omega
  have hdropOther : b.height - (height + lower.below.length) = own.length - height := by omega
  have hown : (own ++ upper.below).drop (own.length - height) =
      own.drop (own.length - height) ++ upper.below :=
    List.drop_append_of_le_length (by omega)
  have hother : (other ++ lower.below).drop (own.length - height) =
      other.drop (own.length - height) ++ lower.below :=
    List.drop_append_of_le_length (by omega)
  refine
    { p := haligned.p
      slots := haligned.slots
      choices := ⟨own.drop (own.length - height), other.drop (own.length - height), ?_, ?_,
        List.forall₂_drop _ hbeside⟩
      height_left := ?_
      height_right := ?_
      resumed := haligned.resumed
      lower_le := haligned.lower_le }
  · simp only [Attempt.cutTo]
    rw [hchoices, hdrop, hown]
  · simp only [Attempt.cutTo]
    rw [hothers, hdropOther, hother]
  · simp only [Attempt.cutTo]
    rw [hchoices, hdrop, hown, List.length_append, List.length_drop]
    omega
  · simp only [Attempt.cutTo]
    rw [hothers, hdropOther, hother, List.length_append, List.length_drop]
    omega

theorem together_fail (haligned : Aligned count upper lower a b)
    (hlives : a.fail ≠ .error .aborted) : Together count upper lower a b a.fail b.fail := by
  obtain ⟨own, other, hchoices, hothers, hbeside⟩ := haligned.choices
  have hleft := haligned.height_left
  have hright := haligned.height_right
  have hresumed := haligned.resumed
  cases hbeside with
  | nil =>
    rw [List.nil_append] at hchoices hothers
    rw [hchoices] at hleft
    rw [hothers] at hright
    exact .inr ⟨⟨a, rfl, hchoices, hleft, rfl⟩, ⟨b, rfl, hothers, hright, rfl⟩⟩
  | @cons choice otherChoice own other hchoice hbeside =>
    rw [hchoices] at hleft
    rw [hothers] at hright
    rw [fail, hchoices] at hlives
    dsimp only [List.cons_append] at hlives
    split at hlives
    next hlimit =>
      have hlimitOther : b.resumed < resumeLimit := Nat.lt_of_le_of_lt hresumed hlimit
      rw [fail, fail, hchoices, hothers]
      dsimp only [List.cons_append]
      rw [if_pos hlimit, if_pos hlimitOther]
      refine .inl ⟨_, _, rfl, rfl, ⟨hchoice.p, hchoice.slots, ⟨own, other, rfl, rfl, hbeside⟩,
        ?_, ?_, ?_, haligned.lower_le⟩, hchoice.goals⟩
      · simp [hleft]
      · simp [hright]
      · dsimp only
        omega
    next => exact absurd rfl hlives

theorem together_goOn (haligned : Aligned count upper lower a b) {goals others : List Goal}
    (hgoals : GoalsBeside count upper lower goals others) :
    Together count upper lower a b (.ok { a with goals }) (.ok { b with goals := others }) :=
  .inl ⟨_, _, rfl, rfl, haligned.goOn, hgoals⟩

theorem together_choose (haligned : Aligned count upper lower a b)
    {goals others later laterOthers : List Goal}
    (hgoals : GoalsBeside count upper lower goals others)
    (hlater : GoalsBeside count upper lower later laterOthers)
    (hlives : a.choose goals later ≠ .error .aborted) :
    Together count upper lower a b (a.choose goals later) (b.choose others laterOthers) := by
  obtain ⟨own, other, hchoices, hothers, hbeside⟩ := haligned.choices
  obtain ⟨height, hleft, hright⟩ := haligned.height_eq
  have hlower := haligned.lower_le
  have hpushed : ChoiceBeside count upper lower ⟨later, a.p, a.slots⟩
      ⟨laterOthers, b.p, b.slots⟩ := ⟨hlater, haligned.p, haligned.slots⟩
  rw [choose] at hlives
  split at hlives
  next hlimit =>
    have hlimitOther : b.height < stackLimit := by omega
    rw [choose, choose, if_pos hlimit, if_pos hlimitOther]
    refine .inl ⟨_, _, rfl, rfl, ⟨haligned.p, haligned.slots, ⟨_ :: own, _ :: other, ?_, ?_,
      .cons hpushed hbeside⟩, ?_, ?_, haligned.resumed, hlower⟩, hgoals⟩
    · dsimp only
      rw [hchoices, List.cons_append]
    · dsimp only
      rw [hothers, List.cons_append]
    · simp [haligned.height_left]
    · simp [haligned.height_right]
  next => exact absurd rfl hlives

theorem together_moveTo (haligned : Aligned count upper lower a b) {goals others : List Goal}
    (hgoals : GoalsBeside count upper lower goals others) {found other : Option Nat}
    (hfound : found = other) (hlives : a.moveTo goals found ≠ .error .aborted) :
    Together count upper lower a b (a.moveTo goals found) (b.moveTo others other) := by
  subst hfound
  cases found with
  | none => exact haligned.together_fail hlives
  | some p => exact .inl ⟨_, _, rfl, rfl, haligned.goTo p, hgoals⟩

theorem together_require (haligned : Aligned count upper lower a b) {goals others : List Goal}
    (hgoals : GoalsBeside count upper lower goals others) {condition other : Bool}
    (hcondition : condition = other) (hlives : a.require goals condition ≠ .error .aborted) :
    Together count upper lower a b (a.require goals condition) (b.require others other) := by
  subst hcondition
  cases condition with
  | false => exact haligned.together_fail hlives
  | true => exact haligned.together_goOn hgoals

theorem together_repeatOrLeave (haligned : Aligned count upper lower a b) (greedy : Bool)
    {more moreOthers leave leaveOthers : List Goal}
    (hmore : GoalsBeside count upper lower more moreOthers)
    (hleave : GoalsBeside count upper lower leave leaveOthers)
    (hlives : a.repeatOrLeave greedy more leave ≠ .error .aborted) :
    Together count upper lower a b (a.repeatOrLeave greedy more leave)
      (b.repeatOrLeave greedy moreOthers leaveOthers) := by
  cases greedy with
  | false => exact haligned.together_choose hleave hmore hlives
  | true => exact haligned.together_choose hmore hleave hlives

theorem together_counted (haligned : Aligned count upper lower a b) (least : Nat)
    (greatest : Option Nat) (greedy : Bool) (code : Code) (hcode : code.Within count)
    (done : Nat) {rest others : List Goal} (hrest : GoalsBeside count upper lower rest others)
    (hlives : a.counted least greatest greedy code done rest ≠ .error .aborted) :
    Together count upper lower a b (a.counted least greatest greedy code done rest)
      (b.counted least greatest greedy code done others) := by
  have hmore := GoalsBeside.cons (.run code) hcode
    (.cons (.again least greatest greedy code (done + 1)) hcode hrest)
  unfold counted at hlives ⊢
  dsimp only at hlives ⊢
  split
  next => exact haligned.together_goOn hrest
  next hgreatest =>
    rw [if_neg hgreatest] at hlives
    split
    next hleast =>
      rw [if_pos hleast] at hlives
      exact haligned.together_repeatOrLeave greedy hmore hrest hlives
    next => exact haligned.together_goOn hmore

theorem slot_eq (haligned : Aligned count upper lower a b) {slot : Nat} (htwo : 2 ≤ slot)
    (hlt : slot < count) : a.slot slot = b.slot slot := by
  unfold Attempt.slot
  rw [haligned.slots.rest slot htwo hlt]

theorem together_guarded (haligned : Aligned count upper lower a b) (least : Nat)
    (greedy : Bool) {slot : Nat} (htwo : 2 ≤ slot) (hlt : slot < count) {code : Code}
    (hcode : code.Within count) (done : Nat) {rest others : List Goal}
    (hrest : GoalsBeside count upper lower rest others)
    (hlives : a.guarded least greedy slot code done rest ≠ .error .aborted) :
    Together count upper lower a b (a.guarded least greedy slot code done rest)
      (b.guarded least greedy slot code done others) := by
  have hmore := GoalsBeside.cons (.run code) hcode
    (.cons (.guardedAgain least greedy slot code (done + 1)) ⟨htwo, hlt, hcode⟩ hrest)
  have hset := haligned.setSlot (show slot ≠ 1 by omega) hlt
  have hstuck : (decide (0 < done) && a.slot slot == some a.p) =
      (decide (0 < done) && b.slot slot == some b.p) := by
    rw [haligned.slot_eq htwo hlt, haligned.p]
  unfold guarded at hlives ⊢
  rw [← hstuck]
  dsimp only at hlives ⊢
  split
  next hstuck =>
    rw [if_pos hstuck] at hlives
    exact haligned.together_fail hlives
  next hfree =>
    rw [if_neg hfree] at hlives
    split
    next hleast =>
      rw [if_pos hleast] at hlives
      exact hset.together_repeatOrLeave greedy hmore hrest hlives
    next => exact haligned.together_goOn hmore

/-- A reference to the whole match fails while the match goes on. -/
theorem afterBackref_eq (haligned : Aligned count upper lower a b) {index : Nat}
    (hlt : 2 * index + 1 < count) : a.afterBackref text index = b.afterBackref text index := by
  unfold afterBackref
  by_cases hzero : index = 0
  · subst hzero
    have hleft : a.slot 1 = none := haligned.slots.open_left
    have hright : b.slot 1 = none := haligned.slots.open_right
    rw [Nat.mul_zero, Nat.zero_add, hleft, hright]
    cases a.slot 0 <;> cases b.slot 0 <;> rfl
  · rw [haligned.slot_eq (by omega) (by omega), haligned.slot_eq (by omega) hlt, haligned.p]

theorem groupSet_eq (haligned : Aligned count upper lower a b) {index : Nat}
    (hlt : 2 * index < count) : (a.slot (2 * index)).isSome = (b.slot (2 * index)).isSome := by
  by_cases hzero : index = 0
  · subst hzero
    exact haligned.slots.begun
  · rw [haligned.slot_eq (by omega) hlt]

/-- Running the same program side by side. -/
theorem together_run (haligned : Aligned count upper lower a b) {rest others : List Goal}
    (hrest : GoalsBeside count upper lower rest others) {code : Code}
    (hcode : code.Within count) (hlives : a.run text rest code ≠ .error .aborted) :
    Together count upper lower a b (a.run text rest code) (b.run text others code) := by
  obtain ⟨height, hleft, hright⟩ := haligned.height_eq
  have hp := haligned.p
  cases code with
  | pass => exact haligned.together_goOn hrest
  | any node =>
    have hfound : (node.reach text [a.p]).head? = (node.reach text [b.p]).head? := by rw [hp]
    exact haligned.together_moveTo hrest hfound hlives
  | preferred node =>
    have hfound : (node.ends text a.p).head? = (node.ends text b.p).head? := by rw [hp]
    exact haligned.together_moveTo hrest hfound hlives
  | seq first second =>
    exact haligned.together_goOn (.cons (.run first) hcode.1 (.cons (.run second) hcode.2 hrest))
  | choice first second =>
    exact haligned.together_choose (.cons (.run first) hcode.1 hrest)
      (.cons (.run second) hcode.2 hrest) hlives
  | star greedy inner =>
    exact haligned.together_repeatOrLeave greedy
      (.cons (.run inner) hcode (.cons (.run (.star greedy inner)) hcode hrest)) hrest hlives
  | guarded least greedy slot inner =>
    exact haligned.together_guarded least greedy hcode.1 hcode.2.1 hcode.2.2 0 hrest hlives
  | counted least greatest greedy inner =>
    exact haligned.together_counted least greatest greedy inner hcode 0 hrest hlives
  | save slot => exact (haligned.setSlot hcode.1 hcode.2).together_goOn hrest
  | back steps =>
    have hfound : (if steps ≤ a.p then some (a.p - steps) else none) =
        if steps ≤ b.p then some (b.p - steps) else none := by rw [hp]
    exact haligned.together_moveTo hrest hfound hlives
  | ahead inner =>
    have hgoTo : GoalsBeside count upper lower (.goTo a.p :: rest) (.goTo b.p :: others) := by
      rw [hp]
      exact .cons (.goTo b.p) trivial hrest
    exact haligned.together_goOn (.cons (.run inner) hcode hgoTo)
  | notAhead inner =>
    have hrefuse : GoalsBeside count upper lower [.refuse a.height] [.refuse b.height] := by
      rw [hleft, hright]
      exact .refuse height
    exact haligned.together_choose (.cons (.run inner) hcode hrefuse) hrest hlives
  | atomic inner =>
    have hcut : GoalsBeside count upper lower (.cut a.height :: rest)
        (.cut b.height :: others) := by
      rw [hleft, hright]
      exact .cons (.cut height) trivial hrest
    exact haligned.together_goOn (.cons (.run inner) hcode hcut)
  | conditional condition yes no =>
    have hcut : GoalsBeside count upper lower (.cut a.height :: .run yes :: rest)
        (.cut b.height :: .run yes :: others) := by
      rw [hleft, hright]
      exact .cons (.cut height) trivial (.cons (.run yes) hcode.2.1 hrest)
    have hshift : GoalsBeside count upper lower (Backtrack.shiftCuts a.height rest)
        (Backtrack.shiftCuts b.height others) := by
      rw [hleft, hright]
      exact hrest.shiftCuts height
    exact haligned.together_choose (.cons (.run condition) hcode.1 hcut)
      (.cons (.run no) hcode.2.2 hshift) hlives
  | backref index =>
    exact haligned.together_moveTo hrest (haligned.afterBackref_eq hcode) hlives
  | groupSet index => exact haligned.together_require hrest (haligned.groupSet_eq hcode) hlives
  | searchStart =>
    have hstart : (a.p == 0) = (b.p == 0) := by rw [hp]
    exact haligned.together_require hrest hstart hlives

end Aligned

namespace Beside

open Attempt

variable {a b : Attempt}

/-- One step of attempts that go side by side and have not met all goals of their program. -/
theorem together_step (hbeside : Beside count upper lower a b)
    (hlives : a.step text ≠ .error .aborted) :
    a.goals = upper.after ∧ b.goals = lower.after ∨
      Together count upper lower a b (a.step text) (b.step text) := by
  have haligned := hbeside.aligned
  have hgoals := hbeside.goals
  generalize hleft : a.goals = goals at hgoals
  generalize hright : b.goals = others at hgoals
  cases hgoals with
  | after => exact .inl ⟨rfl, rfl⟩
  | refuse height =>
    unfold step at hlives ⊢
    rw [hleft] at hlives ⊢
    rw [hright]
    exact .inr ((haligned.cutTo height).together_fail hlives)
  | cons goal hwithin hrest =>
    refine .inr ?_
    unfold step at hlives ⊢
    rw [hleft] at hlives ⊢
    rw [hright]
    cases goal with
    | run code => exact haligned.together_run hrest hwithin hlives
    | again least greatest greedy code done =>
      exact haligned.together_counted least greatest greedy code hwithin done hrest hlives
    | guardedAgain least greedy slot code done =>
      exact haligned.together_guarded least greedy hwithin.1 hwithin.2.1 hwithin.2.2 done hrest
        hlives
    | goTo p => exact .inl ⟨_, _, rfl, rfl, haligned.goTo p, hrest⟩
    | cut height => exact (haligned.cutTo height).together_goOn hrest
    | refuse height => exact (haligned.cutTo height).together_fail hlives

/-- Attempts that go side by side both meet all goals of their program, or both fall back to
    the choices below. -/
theorem run (hbeside : Beside count upper lower a b) {bound : Nat}
    (hends : Ends text bound a) :
    ∃ steps a' b', Steps text steps a a' ∧ Steps text steps b b' ∧
      (Aligned count upper lower a' b' ∧ a'.goals = upper.after ∧ b'.goals = lower.after ∨
        FallsTo text upper.below a' ∧ FallsTo text lower.below b') := by
  induction bound generalizing a b with
  | zero => exact absurd rfl hends
  | succ bound ih =>
    rcases hbeside.together_step hends.step_ne_aborted with ⟨hleft, hright⟩ | htogether
    · exact ⟨0, a, b, .refl a, .refl b, .inl ⟨hbeside.aligned, hleft, hright⟩⟩
    · rcases htogether with ⟨a', b', hstep, hother, hnext⟩ | ⟨hfalls, hfallsOther⟩
      · have hrest := (hends.after (.single hstep)).2.1
        obtain ⟨steps, a'', b'', hsteps, hothers, hstop⟩ := ih hnext hrest
        exact ⟨steps + 1, a'', b'', .cons hstep hsteps, .cons hother hothers, hstop⟩
      · exact ⟨0, a, b, .refl a, .refl b, .inr ⟨hfalls, hfallsOther⟩⟩

end Beside

end Patternwork.Backtrack
