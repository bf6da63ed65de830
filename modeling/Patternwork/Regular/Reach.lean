import Patternwork.Regular.Basic

namespace Patternwork

namespace Positions

/-- Merges two descending lists; `merged` holds what has been passed, reversed. -/
def mergeOnto (merged : List Nat) : List Nat → List Nat → List Nat
  | [], bs => merged.reverseAux bs
  | as, [] => merged.reverseAux as
  | a :: as, b :: bs =>
    if b < a then mergeOnto (a :: merged) as (b :: bs)
    else if a < b then mergeOnto (b :: merged) (a :: as) bs
    else mergeOnto (a :: merged) as bs
  termination_by as bs => as.length + bs.length

def union : List Nat → List Nat → List Nat
  | [], bs => bs
  | as, [] => as
  | as, bs => mergeOnto [] as bs

/-- The members of a descending list that another one lacks. -/
def newOnto (fresh : List Nat) : List Nat → List Nat → List Nat
  | [], _ => fresh.reverse
  | as, [] => fresh.reverseAux as
  | a :: as, b :: bs =>
    if b < a then newOnto (a :: fresh) as (b :: bs)
    else if a < b then newOnto fresh (a :: as) bs
    else newOnto fresh as bs
  termination_by as bs => as.length + bs.length

/-- The members of `candidates` that are not in `known`. -/
def fresh (candidates known : List Nat) : List Nat := newOnto [] candidates known

def upTo (size : Nat) : List Nat := (List.range (size + 1)).reverse

end Positions

namespace Regular

def times (step : List Nat → List Nat) : Nat → List Nat → List Nat
  | 0, starts => starts
  | n + 1, starts =>
    match starts with
    | [] => []
    | starts => times step n (step starts)

/-- Applies a step up to a number of times, going on from the positions that are
    reached for the first time. -/
def spread (step : List Nat → List Nat) : Nat → List Nat → List Nat → List Nat
  | 0, reached, _ => reached
  | n + 1, reached, latest =>
    match Positions.fresh (step latest) reached with
    | [] => reached
    | latest => spread step n (Positions.union reached latest) latest

/-- The rounds after which nothing new is reached: a round that goes on reaches a
    further position of the text. -/
def rounds (size : Nat) (least : Nat) : Option Nat → Nat
  | none => size + 1
  | some greatest => min (greatest - least) (size + 1)

/-- The positions where a match from one of `starts` can end. -/
def reach (text : Haystack) : Regular → List Nat → List Nat
  | empty, starts => starts
  | set members, starts =>
    starts.filterMap fun p =>
      (text[p]?).bind fun c => if members.contains c then some (p + 1) else none
  | look condition, starts => starts.filter fun p => condition.holds text p
  | seq a b, starts => b.reach text (a.reach text starts)
  | alt a b, starts => Positions.union (a.reach text starts) (b.reach text starts)
  | rep least greatest _ a, starts =>
    let starts := times (a.reach text) least starts
    match starts with
    | [] => []
    | starts => spread (a.reach text) (rounds text.size least greatest) starts starts
  | capture a, starts => a.reach text starts

/-- Whether the expression matches anywhere in the text. -/
def isMatch (text : Haystack) (a : Regular) : Bool :=
  !(a.reach text (Positions.upTo text.size)).isEmpty

end Regular

end Patternwork
