import Patternwork.Regular.Basic

namespace Patternwork

/-- A set of numbers, as a tree over their binary digits. -/
inductive Marks where
  | none
  | node (here : Bool) (odd even : Marks)
  deriving Inhabited

namespace Marks

def contains : Marks → Nat → Bool
  | none, _ => false
  | node here odd even, n =>
    if n = 0 then here
    else if n % 2 = 1 then odd.contains (n / 2) else even.contains (n / 2 - 1)

def insertWithin : Nat → Nat → Marks → Marks
  | 0, _, marks => marks
  | fuel + 1, n, marks =>
    let (here, odd, even) := match marks with
      | none => (false, none, none)
      | node here odd even => (here, odd, even)
    if n = 0 then node true odd even
    else if n % 2 = 1 then node here (insertWithin fuel (n / 2) odd) even
    else node here odd (insertWithin fuel (n / 2 - 1) even)

def insert (marks : Marks) (n : Nat) : Marks :=
  insertWithin (n.log2 + 2) n marks

end Marks

namespace Regular

def firstsOnto (seen : Marks) (kept : List Nat) : List Nat → List Nat
  | [] => kept.reverse
  | p :: rest =>
    if seen.contains p then firstsOnto seen kept rest
    else firstsOnto (seen.insert p) (p :: kept) rest

def firsts : List Nat → List Nat
  | [] => []
  | [p] => [p]
  | ps => firstsOnto .none [] ps

/-- What is still to be done for a repetition. -/
inductive Pending where
  /-- Go on from a position, where that many more repetitions are allowed. -/
  | visit (left : Option Nat) (p : Nat)
  /-- End at a position. -/
  | emit (p : Nat)

/-- A number for a position and the repetitions left there. -/
def visitMark (size : Nat) (left : Option Nat) (p : Nat) : Nat :=
  match left with
  | none => p
  | some n => p + (size + 1) * n

/-- Works off what is pending. A repetition of the empty stretch ends an unbounded
    repetition there. -/
def sweep (next : Nat → List Nat) (size : Nat) (greedy : Bool) :
    Nat → List Pending → Marks → List Nat → List Nat
  | 0, _, _, found => found.reverse
  | _ + 1, [], _, found => found.reverse
  | fuel + 1, .emit p :: rest, visited, found =>
    sweep next size greedy fuel rest visited (p :: found)
  | fuel + 1, .visit left p :: rest, visited, found =>
    let mark := visitMark size left p
    if visited.contains mark then sweep next size greedy fuel rest visited found
    else
      let onward : List Pending :=
        match left with
        | some 0 => []
        | some (n + 1) => (next p).map (.visit (some n))
        | none => (next p).map fun q => if q = p then .emit q else .visit none q
      let pending := if greedy then onward ++ .emit p :: rest else .emit p :: onward ++ rest
      sweep next size greedy fuel pending (visited.insert mark) found

/-- The steps that `sweep` can need at most: a position is visited once for every
    number of repetitions left, and has at most `size + 1` successors. -/
def sweepSteps (size : Nat) (left : Option Nat) : Nat :=
  (size + 3) * (size + 3) * (left.getD 0 + 1)

/-- The positions in order, each followed through `next`. -/
def followEach (next : Nat → List Nat) : List Nat → List Nat
  | [] => []
  | [p] => next p
  | ps => firsts (ps.flatMap next)

/-- The ends of the matches that start at `p`, preferred ones first. -/
def ends (text : Haystack) : Regular → Nat → List Nat
  | empty, p => [p]
  | set members, p =>
    match text[p]? with
    | some c => if members.contains c then [p + 1] else []
    | none => []
  | look condition, p => if condition.holds text p then [p] else []
  | seq a b, p => followEach (b.ends text) (a.ends text p)
  | alt a b, p => firsts (a.ends text p ++ b.ends text p)
  | rep least greatest greedy a, p =>
    let left := greatest.map (· - least)
    let starts := Nat.repeat (followEach (a.ends text)) least [p]
    followEach
      (fun q =>
        firsts (sweep (a.ends text) text.size greedy (sweepSteps text.size left)
          [.visit left q] .none []))
      starts
  | capture a, p => a.ends text p

end Regular

end Patternwork
