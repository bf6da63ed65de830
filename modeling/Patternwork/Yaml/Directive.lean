import Patternwork.Yaml.Tag

namespace Patternwork.Yaml.Directive

def readNumber (passage : Passage) : Option (Nat × Passage) :=
  let (digits, rest) := passage.span Char.isDigit
  if digits.isEmpty || 9 < digits.length then none
  else some (digits.foldl (fun n c => n * 10 + (c.toNat - '0'.toNat)) 0, rest)

def readVersion (passage : Passage) : Option (Token × Passage) := do
  let (major, rest) ← readNumber passage
  if rest.starts (· == '.') then
    let (minor, rest) ← readNumber (rest.drop 1)
    some (.version major minor, rest)
  else none

/-- Reads a handle, blanks and the start of tags that it stands for. -/
def readTagHandle (passage : Passage) : Option (Token × Passage) :=
  if passage.starts (· == '!') then do
    let (handle, closed, rest) := Tag.readHandle passage
    if (!closed && handle.length != 1) || !rest.starts isBlank then none
    else
      let (start, rest) ← Tag.readPart true (rest.skip isBlank)
      if start.isEmpty || !rest.endsWord then none
      else some (.handle (String.ofList handle) (String.ofList start), rest)
  else none

/-- Reads the directive of a line after its percent sign. -/
def read (passage : Passage) : Option (Token × Passage) := do
  let (name, rest) := passage.span isNameChar
  if !rest.endsWord then none
  else
    let argument := rest.skip isBlank
    let (token, rest) ←
      if name = "YAML".toList then readVersion argument
      else if name = "TAG".toList then readTagHandle argument
      else none
    some (token, ← rest.nextLine?)

end Patternwork.Yaml.Directive
