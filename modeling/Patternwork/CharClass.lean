import Patternwork.Unicode.Folding
import Patternwork.Unicode.Word

namespace Patternwork

/-- An expression for a set of characters. -/
inductive CharClass where
  | none
  /-- The characters from one code point to another. -/
  | range (least greatest : Nat)
  | table (ranges : Unicode.Ranges)
  | union (a b : CharClass)
  | inter (a b : CharClass)
  | compl (a : CharClass)
  /-- The characters equal to a member but for case. -/
  | folded (a : CharClass)
  /-- The same for the letters of ASCII only. -/
  | foldedAscii (a : CharClass)
  deriving Inhabited

namespace CharClass

def holds : CharClass → Nat → Bool
  | none, _ => false
  | range least greatest, code => least ≤ code && code ≤ greatest
  | table ranges, code => ranges.contains code
  | union a b, code => a.holds code || b.holds code
  | inter a b, code => a.holds code && b.holds code
  | compl a, code => !a.holds code
  | folded a, code => (Unicode.foldings code).any a.holds
  | foldedAscii a, code => a.holds code || a.holds (Unicode.otherAsciiCase code)

def contains (set : CharClass) (c : Char) : Bool := set.holds c.toNat

def single (c : Char) : CharClass := range c.toNat c.toNat

def diff (a b : CharClass) : CharClass := inter a (compl b)

def symmDiff (a b : CharClass) : CharClass := union (diff a b) (diff b a)

def any : CharClass := range 0 (Unicode.codeSpace - 1)

def notLineFeed : CharClass := compl (range 10 10)

/-- All characters but the line feed and the carriage return. -/
def notLineBreak : CharClass := compl (union (range 10 10) (range 13 13))

def digit : CharClass := table Unicode.decimalDigits
def blank : CharClass := table Unicode.blanks
def word : CharClass := table Unicode.wordCharacters

def asciiDigit : CharClass := range 48 57

def asciiBlank : CharClass := union (range 9 13) (range 32 32)

def asciiWord : CharClass :=
  union (union (range 48 57) (range 65 90)) (union (range 95 95) (range 97 122))

def ofRanges : List (Nat × Nat) → CharClass
  | [] => none
  | [(least, greatest)] => range least greatest
  | (least, greatest) :: rest => union (range least greatest) (ofRanges rest)

/-- The set with the letters of either case, by the rule that is in force. -/
def foldCase (set : CharClass) (unicode : Bool) : CharClass :=
  if unicode then folded set else foldedAscii set

end CharClass

end Patternwork
