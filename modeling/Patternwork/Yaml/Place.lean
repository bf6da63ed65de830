namespace Patternwork.Yaml

/-- A character of a document and where it stands. A line break counts to the line
    that it ends. -/
structure Placed where
  char : Char
  line : Nat
  column : Nat
  /-- The number of characters before it. -/
  index : Nat
  deriving DecidableEq, Repr

abbrev Passage := List Placed

def isAllowed (c : Char) : Bool :=
  let n := c.toNat
  n == 0x09 || n == 0x0a || n == 0x0d || (0x20 ≤ n && n ≤ 0x7e) || n == 0x85 ||
    (0xa0 ≤ n && n ≤ 0xfffd) || 0x10000 ≤ n

/-- One character for every way to end a line; the two separators of Unicode stay
    what they are. -/
def unifiedBreak (c : Char) : Char :=
  if c = '\r' ∨ c = '\x85' then '\n' else c

def isBreak (c : Char) : Bool :=
  c == '\n' || c == '\u2028' || c == '\u2029'

def isBlank (c : Char) : Bool :=
  c == ' ' || c == '\t'

def isSpacing (c : Char) : Bool :=
  isBlank c || isBreak c

/-- Characters of anchors, tag handles and names of directives. -/
def isNameChar (c : Char) : Bool :=
  c.isAlphanum || c == '_' || c == '-'

namespace Passage

/-- Places characters behind earlier ones, which are given last first. A carriage
    return and a line feed are one line break. -/
def place (placed : Passage) (line column index : Nat) : List Char → Passage
  | [] => placed.reverse
  | '\r' :: '\n' :: rest =>
    place (⟨'\n', line, column, index⟩ :: placed) (line + 1) 0 (index + 2) rest
  | c :: rest =>
    let placed := ⟨unifiedBreak c, line, column, index⟩ :: placed
    if isBreak (unifiedBreak c) then place placed (line + 1) 0 (index + 1) rest
    else place placed line (column + 1) (index + 1) rest

/-- Places the characters of a document, unless one of them is not allowed. A byte
    order mark in front does not count. -/
def ofText? (text : String) : Option Passage :=
  if text.toList.all isAllowed then
    some <| place [] 0 0 0 <| match text.toList with
      | '\ufeff' :: rest => rest
      | characters => characters
  else none

/-- The characters in front that satisfy `p`, and what follows. -/
def span (p : Char → Bool) (passage : Passage) : List Char × Passage :=
  ((passage.takeWhile fun q => p q.char).map Placed.char, passage.dropWhile fun q => p q.char)

def skip (p : Char → Bool) (passage : Passage) : Passage :=
  passage.dropWhile fun q => p q.char

/-- Whether the passage starts with a character that satisfies `p`. -/
def starts (p : Char → Bool) : Passage → Bool
  | [] => false
  | q :: _ => p q.char

def endsWord : Passage → Bool
  | [] => true
  | q :: _ => isSpacing q.char

def endsLine : Passage → Bool
  | [] => true
  | q :: _ => isBreak q.char

def column : Passage → Nat
  | [] => 0
  | q :: _ => q.column

/-- What follows a blank-led comment, up to the end of the line. -/
def skipComment (passage : Passage) : Passage :=
  if passage.starts (· == '#') then passage.skip (!isBreak ·) else passage

/-- What follows the rest of a line that may only hold blanks and a comment. -/
def nextLine? (passage : Passage) : Option Passage :=
  match (passage.skip isBlank).skipComment with
  | [] => some []
  | q :: rest => if isBreak q.char then some rest else none

/-- Whether three equal characters that mark the bounds of a document stand at the
    start of a line. -/
def marks (c : Char) : Passage → Bool
  | a :: b :: d :: rest =>
    a.column == 0 && a.char == c && b.char == c && d.char == c && endsWord rest
  | _ => false

/-- Whether the start or the end of a document is marked here. -/
def atBound (passage : Passage) : Bool :=
  passage.marks '-' || passage.marks '.'

end Passage

end Patternwork.Yaml
