import Patternwork.Regular.Size

namespace Patternwork

namespace Backtrack

/-- A pattern. -/
inductive Tree where
  | empty
  | set (members : CharClass)
  | look (condition : Look)
  | concat (parts : List Tree)
  | alt (branches : List Tree)
  | group (index : Nat) (a : Tree)
  /-- From `least` to `greatest` times. Every repetition of a pattern has its own
      `loop` number. -/
  | rep (loop : Nat) (least : Nat) (greatest : Option Nat) (greedy : Bool) (a : Tree)
  | ahead (negated : Bool) (a : Tree)
  | behind (negated : Bool) (a : Tree)
  /-- A part that is not entered again once it has matched. -/
  | atomic (a : Tree)
  /-- What a group has matched. -/
  | backref (index : Nat)
  /-- The condition that a group has matched. -/
  | groupSet (index : Nat)
  /-- Moves the start of the match to the current position. -/
  | keepOut
  /-- The condition that the position is the one at which the search began. -/
  | searchStart
  | conditional (condition yes no : Tree)
  deriving Inhabited

namespace Tree

mutual

def minSize : Tree → Nat
  | set _ => 1
  | concat parts => sumSizes parts
  | alt branches => leastSize branches
  | group _ a | atomic a => a.minSize
  | rep _ least _ _ a => a.minSize * least
  | conditional condition yes no => condition.minSize + min yes.minSize no.minSize
  | empty | look _ | ahead _ _ | behind _ _ | backref _ | groupSet _ | keepOut | searchStart => 0

def sumSizes : List Tree → Nat
  | [] => 0
  | a :: rest => a.minSize + sumSizes rest

def leastSize : List Tree → Nat
  | [] => 0
  | [a] => a.minSize
  | a :: rest => min a.minSize (leastSize rest)

end

mutual

/-- Whether all matches take the same number of characters. -/
def constSize : Tree → Bool
  | empty | set _ | look _ | ahead _ _ | behind _ _ | groupSet _ | keepOut | searchStart => true
  | concat parts => allConst parts
  | alt branches => allConst branches && sameSizes branches
  | group _ a | atomic a => a.constSize
  | rep _ least greatest _ a => a.constSize && greatest == some least
  | backref _ => false
  | conditional condition yes no =>
    condition.constSize && yes.constSize && no.constSize &&
      condition.minSize + yes.minSize == no.minSize

def allConst : List Tree → Bool
  | [] => true
  | a :: rest => a.constSize && allConst rest

/-- Whether all trees of a list have the same least size. -/
def sameSizes : List Tree → Bool
  | a :: b :: rest => a.minSize == b.minSize && sameSizes (b :: rest)
  | _ => true

end

mutual

/-- Whether a pattern needs more than a regular expression, where `referenced` are
    the groups that are referred to. Conditions on word edges count as well. -/
def isHard (referenced : List Nat) : Tree → Bool
  | empty | set _ => false
  | look (.word _ _) => true
  | look _ => false
  | concat parts => anyHard referenced parts
  | alt branches => anyHard referenced branches
  | group index a => a.isHard referenced || referenced.contains index
  | rep _ _ _ _ a => a.isHard referenced
  | ahead _ _ | behind _ _ | atomic _ | backref _ | groupSet _ | keepOut | searchStart => true
  | conditional _ _ _ => true

def anyHard (referenced : List Nat) : List Tree → Bool
  | [] => false
  | a :: rest => a.isHard referenced || anyHard referenced rest

end

mutual

/-- A pattern that is not hard as a regular expression. Bounds in the wrong order and
    bounds of more than 32 bits have none. -/
def regular? : Tree → Option Regular
  | empty => some .empty
  | set members => some (.set members)
  | look condition => some (.look condition)
  | concat parts => (regulars? parts).map Regular.seqs
  | alt branches => (regulars? branches).map Regular.alts
  | group _ a => a.regular?.map Regular.capture
  | rep _ least greatest greedy a =>
    let bound := Nat.pow 2 32
    if least < bound && greatest.all fun greatest => least ≤ greatest && greatest < bound then
      a.regular?.map (Regular.repeated least greatest greedy)
    else none
  | ahead _ _ | behind _ _ | atomic _ | backref _ | groupSet _ | keepOut | searchStart
  | conditional _ _ _ => none

def regulars? : List Tree → Option (List Regular)
  | [] => some []
  | a :: rest => do some ((← a.regular?) :: (← regulars? rest))

end

end Tree

end Backtrack

end Patternwork
