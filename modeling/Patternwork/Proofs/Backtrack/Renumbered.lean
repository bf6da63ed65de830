import Patternwork.Proofs.Backtrack.Compiled

namespace Patternwork.Backtrack

/-- Other numbers for the groups of a program, and for the slots in which it keeps positions. -/
structure Numbers where
  group : Nat → Nat
  slot : Nat → Nat

def Code.renumber (numbers : Numbers) : Code → Code
  | .pass => .pass
  | .any a => .any a
  | .preferred a => .preferred a
  | .seq a b => .seq (a.renumber numbers) (b.renumber numbers)
  | .choice a b => .choice (a.renumber numbers) (b.renumber numbers)
  | .star greedy a => .star greedy (a.renumber numbers)
  | .guarded least greedy slot a =>
    .guarded least greedy (numbers.slot slot) (a.renumber numbers)
  | .counted least greatest greedy a => .counted least greatest greedy (a.renumber numbers)
  | .save slot => .save (numbers.slot slot)
  | .back count => .back count
  | .ahead a => .ahead (a.renumber numbers)
  | .notAhead a => .notAhead (a.renumber numbers)
  | .atomic a => .atomic (a.renumber numbers)
  | .conditional condition yes no =>
    .conditional (condition.renumber numbers) (yes.renumber numbers) (no.renumber numbers)
  | .backref index => .backref (numbers.group index)
  | .groupSet index => .groupSet (numbers.group index)
  | .searchStart => .searchStart

def Goal.renumber (numbers : Numbers) : Goal → Goal
  | .run code => .run (code.renumber numbers)
  | .again least greatest greedy code done =>
    .again least greatest greedy (code.renumber numbers) done
  | .guardedAgain least greedy slot code done =>
    .guardedAgain least greedy (numbers.slot slot) (code.renumber numbers) done
  | .goTo p => .goTo p
  | .cut height => .cut height
  | .refuse height => .refuse height

/-- The program refers to the first groups only, and uses slots below `count` only. -/
def Code.Uses (groups count : Nat) : Code → Prop
  | .pass | .any _ | .preferred _ | .back _ | .searchStart => True
  | .seq a b | .choice a b => a.Uses groups count ∧ b.Uses groups count
  | .star _ a | .counted _ _ _ a | .ahead a | .notAhead a | .atomic a => a.Uses groups count
  | .guarded _ _ slot a => slot < count ∧ a.Uses groups count
  | .save slot => slot < count
  | .conditional condition yes no =>
    condition.Uses groups count ∧ yes.Uses groups count ∧ no.Uses groups count
  | .backref index | .groupSet index => index ≤ groups

def Goal.Uses (groups count : Nat) : Goal → Prop
  | .run code | .again _ _ _ code _ => code.Uses groups count
  | .guardedAgain _ _ slot code _ => slot < count ∧ code.Uses groups count
  | .goTo _ | .cut _ | .refuse _ => True

theorem Code.inherited_uses {groups loops slots : Nat} (hslots : slots = 2 * (groups + 1)) :
    Inherited groups loops slots (Uses groups (slots + loops)) where
  pass := trivial
  any _ := trivial
  preferred _ := trivial
  seq ha hb := ⟨ha, hb⟩
  choice ha hb := ⟨ha, hb⟩
  star _ _ ha := ha
  guarded _ _ _ _ hlt ha := ⟨by omega, ha⟩
  counted _ _ _ _ ha := ha
  group {index a} _ hle ha := by
    refine ⟨?_, ha, ?_⟩
    · change 2 * index < slots + loops
      omega
    · change 2 * index + 1 < slots + loops
      omega
  keepOut := by
    change 0 < slots + loops
    omega
  back _ := trivial
  ahead ha := ha
  notAhead ha := ha
  atomic ha := ha
  conditional hcondition hyes hno := ⟨hcondition, hyes, hno⟩
  backref hle := hle
  groupSet hle := hle
  searchStart := trivial

/-- The slots below `count` stay apart, among `total` of them, and the two slots of a group stay
    together. -/
structure Numbers.Fits (numbers : Numbers) (groups count total : Nat) : Prop where
  groups_lt : 2 * groups + 1 < count
  lt : ∀ {slot}, slot < count → numbers.slot slot < total
  injective : ∀ {slot other}, slot < count → other < count →
    numbers.slot slot = numbers.slot other → slot = other
  start : ∀ {index}, index ≤ groups → numbers.slot (2 * index) = 2 * numbers.group index
  stop : ∀ {index}, index ≤ groups → numbers.slot (2 * index + 1) = 2 * numbers.group index + 1

variable {numbers : Numbers} {groups count total : Nat} {text : Haystack}

/-- Slots that hold the same under their other numbers. -/
structure SlotsRenumbered (numbers : Numbers) (count total : Nat) (a b : Array (Option Nat)) :
    Prop where
  left : count ≤ a.size
  right : total ≤ b.size
  same : ∀ {slot}, slot < count → b[numbers.slot slot]? = a[slot]?

theorem SlotsRenumbered.set {a b : Array (Option Nat)} (hfits : numbers.Fits groups count total)
    (hslots : SlotsRenumbered numbers count total a b) {slot : Nat} (hlt : slot < count) (p : Nat) :
    SlotsRenumbered numbers count total (a.setIfInBounds slot (some p))
      (b.setIfInBounds (numbers.slot slot) (some p)) where
  left := by simpa using hslots.left
  right := by simpa using hslots.right
  same {other} hother := by
    by_cases hslot : slot = other
    · subst hslot
      rw [Array.getElem?_setIfInBounds_self_of_lt (Nat.lt_of_lt_of_le hlt hslots.left),
        Array.getElem?_setIfInBounds_self_of_lt (Nat.lt_of_lt_of_le (hfits.lt hlt) hslots.right)]
    · have happart : numbers.slot slot ≠ numbers.slot other :=
        fun heq => hslot (hfits.injective hlt hother heq)
      rw [Array.getElem?_setIfInBounds_ne hslot, Array.getElem?_setIfInBounds_ne happart]
      exact hslots.same hother

/-- Goals one by one, and the same goals with the other numbers. -/
inductive GoalsRenumbered (numbers : Numbers) (groups count : Nat) : List Goal → List Goal → Prop
  | nil : GoalsRenumbered numbers groups count [] []
  | cons (goal : Goal) {goals others : List Goal} (huses : goal.Uses groups count)
      (hrest : GoalsRenumbered numbers groups count goals others) :
      GoalsRenumbered numbers groups count (goal :: goals) (goal.renumber numbers :: others)

theorem GoalsRenumbered.shiftCuts {goals others : List Goal}
    (hgoals : GoalsRenumbered numbers groups count goals others) (height : Nat) :
    GoalsRenumbered numbers groups count (shiftCuts height goals) (shiftCuts height others) := by
  induction hgoals generalizing height with
  | nil => exact .nil
  | cons goal huses _ ih =>
    cases goal with
    | cut outer => exact .cons (.cut height) trivial (ih outer)
    | run code => exact .cons (.run code) huses (ih height)
    | again least greatest greedy code done =>
      exact .cons (.again least greatest greedy code done) huses (ih height)
    | guardedAgain least greedy slot code done =>
      exact .cons (.guardedAgain least greedy slot code done) huses (ih height)
    | goTo p => exact .cons (.goTo p) trivial (ih height)
    | refuse outer => exact .cons (.refuse outer) trivial (ih height)

structure ChoiceRenumbered (numbers : Numbers) (groups count total : Nat) (a b : Choice) :
    Prop where
  goals : GoalsRenumbered numbers groups count a.goals b.goals
  p : b.p = a.p
  slots : SlotsRenumbered numbers count total a.slots b.slots

/-- Attempts that have come as far under either numbering, apart from what they do next. -/
structure AlikeRenumbered (numbers : Numbers) (groups count total : Nat) (a b : Attempt) :
    Prop where
  p : b.p = a.p
  slots : SlotsRenumbered numbers count total a.slots b.slots
  choices : List.Forall₂ (ChoiceRenumbered numbers groups count total) a.choices b.choices
  height : b.height = a.height
  resumed : b.resumed = a.resumed

/-- What two attempts do next under either numbering: both go on, or both stop. -/
inductive Lockstep (numbers : Numbers) (groups count total : Nat) :
    Except Outcome Attempt → Except Outcome Attempt → Prop
  | goOn {a b : Attempt} (halike : AlikeRenumbered numbers groups count total a b)
      (hgoals : GoalsRenumbered numbers groups count a.goals b.goals) :
      Lockstep numbers groups count total (.ok a) (.ok b)
  | stop (outcome : Outcome) : Lockstep numbers groups count total (.error outcome) (.error outcome)

namespace AlikeRenumbered

open Attempt

variable {a b : Attempt} {goals others : List Goal}

theorem goOn (halike : AlikeRenumbered numbers groups count total a b)
    (hgoals : GoalsRenumbered numbers groups count goals others) :
    Lockstep numbers groups count total (.ok { a with goals }) (.ok { b with goals := others }) :=
  .goOn { halike with } hgoals

theorem setSlot (halike : AlikeRenumbered numbers groups count total a b)
    (hfits : numbers.Fits groups count total) {slot : Nat} (hlt : slot < count) :
    AlikeRenumbered numbers groups count total (a.setSlot slot a.p)
      (b.setSlot (numbers.slot slot) b.p) := by
  have hslots := halike.slots.set hfits hlt a.p
  rw [← halike.p] at hslots ⊢
  exact { halike with slots := hslots }

theorem cutTo (halike : AlikeRenumbered numbers groups count total a b) (height : Nat) :
    AlikeRenumbered numbers groups count total (a.cutTo height) (b.cutTo height) :=
  { halike with
    choices := by
      rw [Attempt.cutTo, Attempt.cutTo, halike.height]
      exact List.forall₂_drop _ halike.choices
    height := congrArg (min height) halike.height }

theorem fail (halike : AlikeRenumbered numbers groups count total a b) :
    Lockstep numbers groups count total a.fail b.fail := by
  have hchoices := halike.choices
  rw [Attempt.fail, Attempt.fail, halike.resumed, halike.height]
  generalize a.choices = choices at hchoices
  generalize b.choices = later at hchoices
  cases hchoices with
  | nil => exact .stop .unmatched
  | cons hchoice hrest =>
    dsimp only
    split
    · exact .goOn ⟨hchoice.p, hchoice.slots, hrest, rfl, rfl⟩ hchoice.goals
    · exact .stop .aborted

theorem choose {laterGoals laterOthers : List Goal}
    (halike : AlikeRenumbered numbers groups count total a b)
    (hgoals : GoalsRenumbered numbers groups count goals others)
    (hlater : GoalsRenumbered numbers groups count laterGoals laterOthers) :
    Lockstep numbers groups count total (a.choose goals laterGoals)
      (b.choose others laterOthers) := by
  rw [Attempt.choose, Attempt.choose, halike.height]
  split
  · refine .goOn ?_ hgoals
    exact { halike with
      choices := .cons ⟨hlater, halike.p, halike.slots⟩ halike.choices
      height := rfl }
  · exact .stop .aborted

theorem moveTo (halike : AlikeRenumbered numbers groups count total a b)
    (hgoals : GoalsRenumbered numbers groups count goals others) {found other : Option Nat}
    (hfound : other = found) :
    Lockstep numbers groups count total (a.moveTo goals found) (b.moveTo others other) := by
  subst hfound
  cases other with
  | none => exact halike.fail
  | some p => exact .goOn { halike with p := rfl } hgoals

theorem require (halike : AlikeRenumbered numbers groups count total a b)
    (hgoals : GoalsRenumbered numbers groups count goals others) {condition other : Bool}
    (hcondition : other = condition) :
    Lockstep numbers groups count total (a.require goals condition) (b.require others other) := by
  subst hcondition
  cases other with
  | false => exact halike.fail
  | true => exact halike.goOn hgoals

theorem repeatOrLeave {leave leaveOthers : List Goal}
    (halike : AlikeRenumbered numbers groups count total a b) (greedy : Bool)
    (hmore : GoalsRenumbered numbers groups count goals others)
    (hleave : GoalsRenumbered numbers groups count leave leaveOthers) :
    Lockstep numbers groups count total (a.repeatOrLeave greedy goals leave)
      (b.repeatOrLeave greedy others leaveOthers) := by
  cases greedy with
  | false => exact halike.choose hleave hmore
  | true => exact halike.choose hmore hleave

theorem counted (halike : AlikeRenumbered numbers groups count total a b) (least : Nat)
    (greatest : Option Nat) (greedy : Bool) (code : Code) (hcode : code.Uses groups count)
    (done : Nat) (hrest : GoalsRenumbered numbers groups count goals others) :
    Lockstep numbers groups count total (a.counted least greatest greedy code done goals)
      (b.counted least greatest greedy (code.renumber numbers) done others) := by
  have hmore := GoalsRenumbered.cons (.run code) hcode
    (.cons (.again least greatest greedy code (done + 1)) hcode hrest)
  unfold Attempt.counted
  dsimp only
  split
  · exact halike.goOn hrest
  · split
    · exact halike.repeatOrLeave greedy hmore hrest
    · exact halike.goOn hmore

theorem slot_eq (halike : AlikeRenumbered numbers groups count total a b) {slot : Nat}
    (hlt : slot < count) : b.slot (numbers.slot slot) = a.slot slot :=
  congrArg Option.join (halike.slots.same hlt)

theorem guarded (halike : AlikeRenumbered numbers groups count total a b)
    (hfits : numbers.Fits groups count total) (least : Nat) (greedy : Bool) {slot : Nat}
    {code : Code} (huses : (Code.guarded least greedy slot code).Uses groups count) (done : Nat)
    (hrest : GoalsRenumbered numbers groups count goals others) :
    Lockstep numbers groups count total (a.guarded least greedy slot code done goals)
      (b.guarded least greedy (numbers.slot slot) (code.renumber numbers) done others) := by
  obtain ⟨hlt, hcode⟩ := huses
  have hmore := GoalsRenumbered.cons (.run code) hcode
    (.cons (.guardedAgain least greedy slot code (done + 1)) ⟨hlt, hcode⟩ hrest)
  have hstuck : (decide (0 < done) && b.slot (numbers.slot slot) == some b.p) =
      (decide (0 < done) && a.slot slot == some a.p) := by
    rw [halike.slot_eq hlt, halike.p]
  unfold Attempt.guarded
  rw [hstuck]
  dsimp only
  split
  · exact halike.fail
  · split
    · exact (halike.setSlot hfits hlt).repeatOrLeave greedy hmore hrest
    · exact halike.goOn hmore

theorem afterBackref_eq (halike : AlikeRenumbered numbers groups count total a b)
    (hfits : numbers.Fits groups count total) {index : Nat} (hle : index ≤ groups) :
    b.afterBackref text (numbers.group index) = a.afterBackref text index := by
  unfold afterBackref
  have hlt := hfits.groups_lt
  rw [← hfits.stop hle, ← hfits.start hle, halike.slot_eq (by omega), halike.slot_eq (by omega),
    halike.p]

theorem run (halike : AlikeRenumbered numbers groups count total a b)
    (hfits : numbers.Fits groups count total)
    (hrest : GoalsRenumbered numbers groups count goals others) {code : Code}
    (hcode : code.Uses groups count) :
    Lockstep numbers groups count total (a.run text goals code)
      (b.run text others (code.renumber numbers)) := by
  cases code with
  | pass => exact halike.goOn hrest
  | any node => exact halike.moveTo hrest (by rw [halike.p])
  | preferred node => exact halike.moveTo hrest (by rw [halike.p])
  | seq first second =>
    exact halike.goOn (.cons (.run first) hcode.1 (.cons (.run second) hcode.2 hrest))
  | choice first second =>
    exact halike.choose (.cons (.run first) hcode.1 hrest) (.cons (.run second) hcode.2 hrest)
  | star greedy inner =>
    exact halike.repeatOrLeave greedy
      (.cons (.run inner) hcode (.cons (.run (.star greedy inner)) hcode hrest)) hrest
  | guarded least greedy slot inner => exact halike.guarded hfits least greedy hcode 0 hrest
  | counted least greatest greedy inner =>
    exact halike.counted least greatest greedy inner hcode 0 hrest
  | save slot => exact (halike.setSlot hfits hcode).goOn hrest
  | back steps => exact halike.moveTo hrest (by rw [halike.p])
  | ahead inner =>
    have hgoTo : GoalsRenumbered numbers groups count (.goTo a.p :: goals)
        (.goTo b.p :: others) := by
      rw [halike.p]
      exact .cons (.goTo a.p) trivial hrest
    exact halike.goOn (.cons (.run inner) hcode hgoTo)
  | notAhead inner =>
    have hrefuse : GoalsRenumbered numbers groups count [.refuse a.height]
        [.refuse b.height] := by
      rw [halike.height]
      exact .cons (.refuse a.height) trivial .nil
    exact halike.choose (.cons (.run inner) hcode hrefuse) hrest
  | atomic inner =>
    have hcut : GoalsRenumbered numbers groups count (.cut a.height :: goals)
        (.cut b.height :: others) := by
      rw [halike.height]
      exact .cons (.cut a.height) trivial hrest
    exact halike.goOn (.cons (.run inner) hcode hcut)
  | conditional condition yes no =>
    have hcut : GoalsRenumbered numbers groups count (.cut a.height :: .run yes :: goals)
        (.cut b.height :: .run (yes.renumber numbers) :: others) := by
      rw [halike.height]
      exact .cons (.cut a.height) trivial (.cons (.run yes) hcode.2.1 hrest)
    have hshift : GoalsRenumbered numbers groups count (shiftCuts a.height goals)
        (shiftCuts b.height others) := by
      rw [halike.height]
      exact hrest.shiftCuts a.height
    exact halike.choose (.cons (.run condition) hcode.1 hcut) (.cons (.run no) hcode.2.2 hshift)
  | backref index => exact halike.moveTo hrest (halike.afterBackref_eq hfits hcode)
  | groupSet index =>
    have hlt := hfits.groups_lt
    have hle : index ≤ groups := hcode
    refine halike.require hrest ?_
    rw [← hfits.start hle, halike.slot_eq (by omega)]
  | searchStart => exact halike.require hrest (by rw [halike.p])

theorem step (halike : AlikeRenumbered numbers groups count total a b)
    (hfits : numbers.Fits groups count total)
    (hgoals : GoalsRenumbered numbers groups count a.goals b.goals) :
    Lockstep numbers groups count total (a.step text) (b.step text) := by
  unfold Attempt.step
  generalize a.goals = goals at hgoals
  generalize b.goals = others at hgoals
  cases hgoals with
  | nil => exact .stop .matched
  | cons goal huses hrest =>
    cases goal with
    | run code => exact halike.run hfits hrest huses
    | again least greatest greedy code done =>
      exact halike.counted least greatest greedy code huses done hrest
    | guardedAgain least greedy slot code done =>
      exact halike.guarded hfits least greedy huses done hrest
    | goTo p => exact .goOn { halike with p := rfl } hrest
    | cut height => exact (halike.cutTo height).goOn hrest
    | refuse height => exact (halike.cutTo height).fail

/-- Attempts come to the same end under either numbering. -/
theorem finish_eq (halike : AlikeRenumbered numbers groups count total a b)
    (hfits : numbers.Fits groups count total)
    (hgoals : GoalsRenumbered numbers groups count a.goals b.goals) (bound : Nat) :
    finish text bound b = finish text bound a := by
  induction bound generalizing a b with
  | zero => rfl
  | succ bound ih =>
    have hstep : Lockstep numbers groups count total (a.step text) (b.step text) :=
      halike.step hfits hgoals
    rw [finish, finish]
    generalize a.step text = result at hstep
    generalize b.step text = other at hstep
    cases hstep with
    | goOn hnext hgoals => exact ih hnext hgoals
    | stop outcome => rfl

end AlikeRenumbered

/-- A search finds the same whatever the numbers of groups and slots. -/
theorem search_renumber {code : Code} (hfits : numbers.Fits groups count total)
    (hcode : code.Uses groups count) (text : Haystack) :
    search (code.renumber numbers) total text = search code count text := by
  have halike : AlikeRenumbered numbers groups count total
      { goals := [.run code]
        p := 0
        slots := Array.replicate count none
        choices := []
        height := 0
        resumed := 0 }
      { goals := [.run (code.renumber numbers)]
        p := 0
        slots := Array.replicate total none
        choices := []
        height := 0
        resumed := 0 } :=
    { p := rfl
      slots :=
        { left := by simp
          right := by simp
          same := fun hlt => by simp [hlt, hfits.lt hlt] }
      choices := .nil
      height := rfl
      resumed := rfl }
  exact halike.finish_eq hfits (.cons (.run code) hcode .nil) stepLimit

end Patternwork.Backtrack
