import Patternwork.Backtrack.Program
import Patternwork.Regular.Priority
import Patternwork.Regular.Reach

namespace Patternwork

namespace Backtrack

/-- What is to be done next. -/
inductive Goal where
  | run (code : Code)
  /-- A counted repetition, after `count` of them. -/
  | again (least : Nat) (greatest : Option Nat) (greedy : Bool) (a : Code) (count : Nat)
  /-- A guarded repetition, after `count` of them. -/
  | guardedAgain (least : Nat) (greedy : Bool) (slot : Nat) (a : Code) (count : Nat)
  /-- Go back to a position. -/
  | goTo (p : Nat)
  /-- Forget the choices beyond that many. -/
  | cut (height : Nat)
  /-- Forget the choices beyond that many, and fail. -/
  | refuse (height : Nat)

/-- Hands a height on to the pending cuts: the nearest one takes it, and each of the others
    takes the height of the one before it. A failed condition does so with the height noted
    for it, so that an atomic group around it keeps the choices made before the condition. -/
def shiftCuts (height : Nat) : List Goal → List Goal
  | [] => []
  | .cut outer :: rest => .cut height :: shiftCuts outer rest
  | goal :: rest => goal :: shiftCuts height rest

/-- A possibility that has not been tried. -/
structure Choice where
  goals : List Goal
  p : Nat
  slots : Array (Option Nat)

/-- How a match attempt ends. -/
inductive Outcome where
  | matched
  | unmatched
  | aborted
  deriving DecidableEq, Repr

def stackLimit : Nat := 1000000

/-- The greatest number of choices that may be taken up. -/
def resumeLimit : Nat := 1000000

/-- A bound for the steps of an attempt that no attempt comes near. -/
def stepLimit : Nat := Nat.pow 2 62

/-- The state of a match attempt. -/
structure Attempt where
  goals : List Goal
  p : Nat
  slots : Array (Option Nat)
  choices : List Choice
  /-- The number of open choices. -/
  height : Nat
  /-- The number of choices taken up so far. -/
  resumed : Nat

namespace Attempt

def fail (attempt : Attempt) : Except Outcome Attempt :=
  match attempt.choices with
  | [] => .error .unmatched
  | choice :: choices =>
    if attempt.resumed < resumeLimit then
      .ok
        { goals := choice.goals
          p := choice.p
          slots := choice.slots
          choices
          height := attempt.height - 1
          resumed := attempt.resumed + 1 }
    else .error .aborted

/-- Goes on with `goals`, with `other` as the choice for later. -/
def choose (attempt : Attempt) (goals other : List Goal) : Except Outcome Attempt :=
  if attempt.height < stackLimit then
    .ok
      { attempt with
        goals
        choices := ⟨other, attempt.p, attempt.slots⟩ :: attempt.choices
        height := attempt.height + 1 }
  else .error .aborted

def cutTo (attempt : Attempt) (height : Nat) : Attempt :=
  { attempt with
    choices := attempt.choices.drop (attempt.height - height)
    height := min height attempt.height }

def moveTo (attempt : Attempt) (goals : List Goal) : Option Nat → Except Outcome Attempt
  | some p => .ok { attempt with goals, p }
  | none => attempt.fail

def require (attempt : Attempt) (goals : List Goal) (condition : Bool) :
    Except Outcome Attempt :=
  if condition then .ok { attempt with goals } else attempt.fail

def slot (attempt : Attempt) (index : Nat) : Option Nat :=
  (attempt.slots[index]?).join

def setSlot (attempt : Attempt) (index : Nat) (p : Nat) : Attempt :=
  { attempt with slots := attempt.slots.setIfInBounds index (some p) }

/-- Whether the text at `p` starts with the `count` characters at `start`. -/
def repeatsAt (text : Haystack) : Nat → Nat → Nat → Bool
  | 0, _, _ => true
  | count + 1, start, p =>
    match text[start]?, text[p]? with
    | some a, some b => a == b && repeatsAt text count (start + 1) (p + 1)
    | _, _ => false

/-- The position after another occurrence of what a group has matched. -/
def afterBackref (text : Haystack) (attempt : Attempt) (index : Nat) : Option Nat :=
  match attempt.slot (2 * index), attempt.slot (2 * index + 1) with
  | some start, some stop =>
    if start ≤ stop && repeatsAt text (stop - start) start attempt.p then
      some (attempt.p + (stop - start))
    else none
  | _, _ => none

/-- Goes on with a choice between one more repetition and none. -/
def repeatOrLeave (attempt : Attempt) (greedy : Bool) (more leave : List Goal) :
    Except Outcome Attempt :=
  if greedy then attempt.choose more leave else attempt.choose leave more

def counted (attempt : Attempt) (least : Nat) (greatest : Option Nat) (greedy : Bool)
    (a : Code) (count : Nat) (rest : List Goal) : Except Outcome Attempt :=
  let more := .run a :: .again least greatest greedy a (count + 1) :: rest
  if greatest = some count then .ok { attempt with goals := rest }
  else if least ≤ count then attempt.repeatOrLeave greedy more rest
  else .ok { attempt with goals := more }

def guarded (attempt : Attempt) (least : Nat) (greedy : Bool) (slot : Nat) (a : Code)
    (count : Nat) (rest : List Goal) : Except Outcome Attempt :=
  let more := .run a :: .guardedAgain least greedy slot a (count + 1) :: rest
  if 0 < count && attempt.slot slot == some attempt.p then attempt.fail
  else if least ≤ count then
    (attempt.setSlot slot attempt.p).repeatOrLeave greedy more rest
  else .ok { attempt with goals := more }

def run (text : Haystack) (attempt : Attempt) (rest : List Goal) :
    Code → Except Outcome Attempt
  | .pass => .ok { attempt with goals := rest }
  | .any a => attempt.moveTo rest (a.reach text [attempt.p]).head?
  | .preferred a => attempt.moveTo rest (a.ends text attempt.p).head?
  | .seq a b => .ok { attempt with goals := .run a :: .run b :: rest }
  | .choice a b => attempt.choose (.run a :: rest) (.run b :: rest)
  | .star greedy a => attempt.repeatOrLeave greedy (.run a :: .run (.star greedy a) :: rest) rest
  | .guarded least greedy slot a => attempt.guarded least greedy slot a 0 rest
  | .counted least greatest greedy a => attempt.counted least greatest greedy a 0 rest
  | .save slot => .ok { attempt.setSlot slot attempt.p with goals := rest }
  | .back count =>
    attempt.moveTo rest (if count ≤ attempt.p then some (attempt.p - count) else none)
  | .ahead a => .ok { attempt with goals := .run a :: .goTo attempt.p :: rest }
  | .notAhead a => attempt.choose (.run a :: [.refuse attempt.height]) rest
  | .atomic a => .ok { attempt with goals := .run a :: .cut attempt.height :: rest }
  | .conditional condition yes no =>
    attempt.choose (.run condition :: .cut attempt.height :: .run yes :: rest)
      (.run no :: shiftCuts attempt.height rest)
  | .backref index => attempt.moveTo rest (attempt.afterBackref text index)
  | .groupSet index => attempt.require rest (attempt.slot (2 * index)).isSome
  | .searchStart => attempt.require rest (attempt.p == 0)

def step (text : Haystack) (attempt : Attempt) : Except Outcome Attempt :=
  match attempt.goals with
  | [] => .error .matched
  | .run code :: rest => attempt.run text rest code
  | .again least greatest greedy a count :: rest =>
    attempt.counted least greatest greedy a count rest
  | .guardedAgain least greedy slot a count :: rest =>
    attempt.guarded least greedy slot a count rest
  | .goTo p :: rest => .ok { attempt with goals := rest, p }
  | .cut height :: rest => .ok { attempt.cutTo height with goals := rest }
  | .refuse height :: _ => (attempt.cutTo height).fail

/-- Works off the goals. Wherever there was a choice, the other possibility is on a stack and is
    taken up when a goal fails; an attempt is given up when the stack or the number of resumptions
    grows too large. -/
def finish (text : Haystack) : Nat → Attempt → Outcome
  | 0, _ => .aborted
  | fuel + 1, attempt =>
    match attempt.step text with
    | .ok attempt => finish text fuel attempt
    | .error outcome => outcome

end Attempt

/-- Searches a text with a program that uses the given number of slots. -/
def search (code : Code) (slots : Nat) (text : Haystack) : Outcome :=
  Attempt.finish text stepLimit
    { goals := [.run code]
      p := 0
      slots := Array.replicate slots none
      choices := []
      height := 0
      resumed := 0 }

end Backtrack

end Patternwork
