import Patternwork.CharClass

namespace Patternwork

/-- The text that is searched. Positions run from zero to its size. -/
abbrev Haystack := Array Char

/-- Conditions on the word characters at both sides of a position. -/
inductive WordEdge where
  | boundary
  | interior
  | start
  | stop
  | halfStart
  | halfStop
  deriving DecidableEq, Repr

/-- Conditions on a position. -/
inductive Look where
  | textStart
  | textEnd
  | lineStart
  | lineEnd
  /-- Line starts where a carriage return ends a line as well. -/
  | breakStart
  | breakEnd
  | word (edge : WordEdge) (ascii : Bool)
  deriving DecidableEq, Repr

namespace Look

def before (text : Haystack) : Nat → Option Char
  | 0 => none
  | p + 1 => text[p]?

def WordEdge.holds (before after : Bool) : WordEdge → Bool
  | .boundary => before != after
  | .interior => before == after
  | .start => !before && after
  | .stop => before && !after
  | .halfStart => !before
  | .halfStop => !after

def holds (text : Haystack) (p : Nat) : Look → Bool
  | textStart => p == 0
  | textEnd => p == text.size
  | lineStart => p == 0 || before text p == some '\n'
  | lineEnd => p == text.size || text[p]? == some '\n'
  | breakStart =>
    p == 0 || before text p == some '\n' ||
      (before text p == some '\r' && text[p]? != some '\n')
  | breakEnd =>
    p == text.size || text[p]? == some '\r' ||
      (text[p]? == some '\n' && before text p != some '\r')
  | word edge ascii =>
    let isWord := if ascii then Unicode.isAsciiWord else Unicode.isWord
    WordEdge.holds ((before text p).any isWord) ((text[p]?).any isWord) edge

end Look

/-- A regular expression. -/
inductive Regular where
  | empty
  | set (members : CharClass)
  | look (condition : Look)
  | seq (a b : Regular)
  | alt (a b : Regular)
  /-- From `least` to `greatest` times, as often as possible if `greedy`. -/
  | rep (least : Nat) (greatest : Option Nat) (greedy : Bool) (a : Regular)
  | capture (a : Regular)
  deriving Inhabited

namespace Regular

/-- Whether the expression can match nothing but the empty stretch. -/
def isEmptyOnly : Regular → Bool
  | empty | look _ => true
  | set _ => false
  | seq a b | alt a b => a.isEmptyOnly && b.isEmptyOnly
  | rep _ greatest _ a => greatest == some 0 || a.isEmptyOnly
  | capture a => a.isEmptyOnly

/-- Repetition, where repeating the empty stretch more than once is the same as
    doing it once. -/
def repeated (least : Nat) (greatest : Option Nat) (greedy : Bool) (a : Regular) : Regular :=
  if a.isEmptyOnly then
    match greatest with
    | some 0 => empty
    | _ => if least = 0 then rep 0 (some 1) greedy a else a
  else
    match least, greatest with
    | 0, some 0 => empty
    | 1, some 1 => a
    | _, _ => rep least greatest greedy a

def seqs : List Regular → Regular
  | [] => empty
  | [a] => a
  | a :: rest => seq a (seqs rest)

def alts : List Regular → Regular
  | [] => empty
  | [a] => a
  | a :: rest => alt a (alts rest)

end Regular

end Patternwork
