import Patternwork.Backtrack.Tree

namespace Patternwork

namespace Backtrack

/-- A program. Slots `2 * i` and `2 * i + 1` hold the start and the end of group `i`,
    group zero being the whole match; the slots after them belong to loops. -/
inductive Code where
  | pass
  /-- A regular expression, any of its matches. -/
  | any (a : Regular)
  /-- A regular expression, its preferred match. -/
  | preferred (a : Regular)
  | seq (a b : Code)
  /-- The first alternative, and the second if that fails. -/
  | choice (a b : Code)
  /-- Any number of times. -/
  | star (greedy : Bool) (a : Code)
  /-- At least `least` times; no repetition may match nothing once there have been
      enough. The position of the last repetition is kept in `slot`. -/
  | guarded (least : Nat) (greedy : Bool) (slot : Nat) (a : Code)
  | counted (least : Nat) (greatest : Option Nat) (greedy : Bool) (a : Code)
  | save (slot : Nat)
  /-- Goes back a number of characters. -/
  | back (count : Nat)
  | ahead (a : Code)
  | notAhead (a : Code)
  | atomic (a : Code)
  | conditional (condition yes no : Code)
  | backref (index : Nat)
  | groupSet (index : Nat)
  | searchStart
  deriving Inhabited

/-- How many of its matches a part has to offer. -/
inductive Demand where
  /-- All, since what follows may ask for another one. -/
  | every
  /-- The preferred one. -/
  | first
  /-- Any one, since only its existence counts. -/
  | some
  deriving DecidableEq, Repr

namespace Code

def seqs : List Code → Code
  | [] => pass
  | [a] => a
  | a :: rest => seq a (seqs rest)

def choices : List Code → Code
  | [] => pass
  | [a] => a
  | a :: rest => choice a (choices rest)

end Code

/-- Hands parts over to a regular expression, which must fit. -/
def delegate? (demand : Demand) (parts : List Tree) : Option Code :=
  match parts with
  | [] => some .pass
  | parts => do
    let node := Regular.seqs (← Tree.regulars? parts)
    if node.fits then
      some (if demand = .first && !Tree.allConst parts then .preferred node else .any node)
    else none

/-- The number of parts at the start of a list that have one size and are not hard. -/
def plainPrefix (referenced : List Nat) (parts : List Tree) : Nat :=
  (parts.takeWhile fun a => a.constSize && !a.isHard referenced).length

/-- The number of parts at the end of a list that can be handed over. -/
def plainSuffix (referenced : List Nat) (demand : Demand) (parts : List Tree) : Nat :=
  (parts.reverse.takeWhile fun a =>
    !a.isHard referenced && (demand ≠ .every || a.constSize)).length

/-- Puts a sequence together: its plain ends are handed over, and what is between
    them is compiled part by part. -/
def assemble? (referenced : List Nat) (demand : Demand) (parts : List Tree)
    (codes : List (Option Code)) : Option Code := do
  let before := plainPrefix referenced parts
  let after := plainSuffix referenced demand (parts.drop before)
  let middle := parts.length - before - after
  let start ← delegate? .every (parts.take before)
  let inner ← ((codes.drop before).take middle).mapM id
  let stop ← delegate? demand (parts.drop (before + middle))
  some (Code.seqs (start :: inner ++ [stop]))

/-- A repetition, by its bounds and by whether it can match nothing. -/
def repetition (least : Nat) (greatest : Option Nat) (greedy nullable : Bool) (slot : Nat)
    (a : Code) : Code :=
  match least, greatest with
  | 0, some 1 => if greedy then .choice a .pass else .choice .pass a
  | least, none =>
    if nullable then .guarded least greedy slot a
    else
      match least with
      | 0 => .star greedy a
      | 1 => .seq a (.star greedy a)
      | least => .counted least none greedy a
  | least, greatest => .counted least greatest greedy a

def repeatDemand (demand : Demand) (least : Nat) (greatest : Option Nat) : Demand :=
  match least, greatest with
  | 0, some 1 => demand
  | _, _ => .every

/-- Looks at what is before the position, which needs a fixed size to go back. -/
def lookBehind? (negated : Bool) (a : Tree) (code : Option Code) : Option Code :=
  if a.constSize then
    code.map fun code =>
      let inner := Code.seq (.back a.minSize) code
      if negated then .notAhead inner else .ahead inner
  else none

/-- Looks behind for branches of different sizes one by one. -/
def lookBehindEach? (negated : Bool) (branches : List Tree) (codes : List (Option Code)) :
    Option Code := do
  let looks ← (branches.zip codes).mapM fun (a, code) => lookBehind? negated a code
  some (if negated then Code.seqs looks else Code.choices looks)

/-- Alternatives, handed over together where none of them is hard. -/
def alternatives? (referenced : List Nat) (demand : Demand) (branches : List Tree)
    (codes : List (Option Code)) : Option Code :=
  if demand ≠ .every && !Tree.anyHard referenced branches then delegate? demand [.alt branches]
  else (codes.mapM id).map Code.choices

mutual

/-- Compiles a pattern; `slots` is the number of slots that groups take. -/
def compile? (referenced : List Nat) (slots : Nat) (demand : Demand) (a : Tree) : Option Code :=
  if demand ≠ .every && !a.isHard referenced then delegate? demand [a]
  else
    match a with
    | .empty => some .pass
    | .set _ => delegate? .every [a]
    | .look condition => some (.any (.look condition))
    | .concat parts =>
      assemble? referenced demand parts (compileEach referenced slots .every parts)
    | .alt branches =>
      alternatives? referenced demand branches (compileEach referenced slots demand branches)
    | .group index a =>
      (compile? referenced slots demand a).map fun code =>
        .seq (.save (2 * index)) (.seq code (.save (2 * index + 1)))
    | .rep loop least greatest greedy a =>
      (compile? referenced slots (repeatDemand demand least greatest) a).map
        (repetition least greatest greedy (a.minSize == 0) (slots + loop))
    | .ahead negated a =>
      (compile? referenced slots .some a).map (if negated then .notAhead else .ahead)
    | .behind negated (.alt branches) =>
      let codes := compileEach referenced slots .some branches
      if Tree.constSize (.alt branches) then
        lookBehind? negated (.alt branches) (alternatives? referenced .some branches codes)
      else lookBehindEach? negated branches codes
    | .behind negated a => lookBehind? negated a (compile? referenced slots .some a)
    | .atomic a => (compile? referenced slots .first a).map .atomic
    | .backref index => some (.backref index)
    | .groupSet index => some (.groupSet index)
    | .keepOut => some (.save 0)
    | .searchStart => some .searchStart
    | .conditional condition yes no => do
      let inner := if demand = .every then .every else .first
      some
        (.conditional (← compile? referenced slots inner condition)
          (← compile? referenced slots demand yes) (← compile? referenced slots demand no))

def compileEach (referenced : List Nat) (slots : Nat) (demand : Demand) :
    List Tree → List (Option Code)
  | [] => []
  | a :: rest => compile? referenced slots demand a :: compileEach referenced slots demand rest

end

/-- A program that searches: it skips characters until the rest matches, and keeps the
    bounds of the match in the slots of group zero. -/
def searching (code : Code) : Code :=
  .seq (.star false (.any (.set .any))) (.seq (.save 0) (.seq code (.save 1)))

end Backtrack

end Patternwork
