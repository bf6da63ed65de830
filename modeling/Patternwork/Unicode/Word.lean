import Patternwork.Unicode.BinaryData
import Patternwork.Unicode.CategoryData
import Patternwork.Unicode.Ranges

namespace Patternwork.Unicode

/-- The general categories, in the order of their numbers. -/
def categoryNames : List String :=
  ["lu uppercaseletter", "ll lowercaseletter", "lt titlecaseletter", "lm modifierletter",
   "lo otherletter", "mn nonspacingmark", "mc spacingmark", "me enclosingmark",
   "nd decimalnumber digit", "nl letternumber", "no othernumber", "pc connectorpunctuation",
   "pd dashpunctuation", "ps openpunctuation", "pe closepunctuation", "pi initialpunctuation",
   "pf finalpunctuation", "po otherpunctuation", "sm mathsymbol", "sc currencysymbol",
   "sk modifiersymbol", "so othersymbol", "zs spaceseparator", "zl lineseparator",
   "zp paragraphseparator", "cc control cntrl", "cf format", "cs surrogate", "co privateuse",
   "cn unassigned"]

def categories : Runs := Runs.ofLines categoryRuns

def isWordCategory (category : Nat) : Bool :=
  (5 ≤ category && category ≤ 8) || category == 11

def alphabetic : Ranges := Ranges.ofBounds alphabeticBounds

def decimalDigits : Ranges := categories.ranges (· == 8)

def numeric : Ranges := categories.ranges fun category => 8 ≤ category && category ≤ 10

/-- Letters, marks, decimal digits, connecting punctuation and joiners. -/
def wordCharacters : Ranges :=
  let others := Ranges.merge (categories.ranges isWordCategory).ranges.toList [(0x200c, 0x200d)]
  ⟨(Ranges.join (Ranges.merge alphabetic.ranges.toList others)).toArray⟩

def blanks : Ranges :=
  ⟨#[(0x9, 0xd), (0x20, 0x20), (0x85, 0x85), (0xa0, 0xa0), (0x1680, 0x1680), (0x2000, 0x200a),
    (0x2028, 0x2029), (0x202f, 0x202f), (0x205f, 0x205f), (0x3000, 0x3000)]⟩

def isBlank (c : Char) : Bool := blanks.contains c.toNat

def isAsciiWord (c : Char) : Bool := c.isAlphanum || c == '_'

def isWord (c : Char) : Bool :=
  if c.toNat < 0x80 then isAsciiWord c else wordCharacters.contains c.toNat

def isLetter (c : Char) : Bool :=
  if c.toNat < 0x80 then c.isAlpha else alphabetic.contains c.toNat

def isLetterOrNumber (c : Char) : Bool :=
  if c.toNat < 0x80 then c.isAlphanum
  else alphabetic.contains c.toNat || numeric.contains c.toNat

end Patternwork.Unicode
