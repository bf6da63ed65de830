import Patternwork.Yaml.Place

namespace Patternwork.Yaml

/-- Blanks and line breaks between two words. -/
structure Gap where
  /-- The blanks before the first line break. -/
  blanks : List Char
  breaks : List Char
  deriving DecidableEq, Repr

namespace Gap

def folded : List Char → List Char
  | ['\n'] => [' ']
  | '\n' :: more => more
  | breaks => breaks

def text (gap : Gap) : List Char :=
  if gap.breaks.isEmpty then gap.blanks else folded gap.breaks

/-- Reads line breaks, and passes over the blanks of empty lines and the indentation
    after them. A tab may not stand left of the margin. -/
def readBreaks (margin : Nat) (breaks : List Char) : Passage → Option (List Char × Passage)
  | [] => some (breaks.reverse, [])
  | q :: rest =>
    if isBreak q.char then readBreaks margin (q.char :: breaks) rest
    else if isBlank q.char then
      if q.char = '\t' ∧ q.column < margin then none else readBreaks margin breaks rest
    else some (breaks.reverse, q :: rest)

def read (margin : Nat) (passage : Passage) : Option (Gap × Passage) :=
  let (blanks, rest) := passage.span isBlank
  if rest.starts isBreak then do
    let (breaks, rest) ← readBreaks margin [] rest
    some (⟨blanks, breaks⟩, rest)
  else some (⟨blanks, []⟩, rest)

end Gap

end Patternwork.Yaml
