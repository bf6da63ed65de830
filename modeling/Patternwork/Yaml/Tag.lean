import Patternwork.Yaml.Scalar.Quoted
import Patternwork.Yaml.Token

namespace Patternwork.Yaml.Tag

def isPlainChar (c : Char) : Bool :=
  isNameChar c || ";/?:@&=+$.!~*'()".toList.contains c

/-- Characters that only a tag in angle brackets may hold. -/
def isFlowChar (c : Char) : Bool :=
  c == ',' || c == '[' || c == ']'

/-- Reads a byte written as a percent sign and two hexadecimal digits. -/
def readByte : Passage → Option (Nat × Passage)
  | p :: h :: l :: rest =>
    if p.char = '%' then do
      some (16 * (← hexDigit? h.char) + (← hexDigit? l.char), rest)
    else none
  | _ => none

/-- Reads the bytes after the first one of a character. -/
def readFurtherBytes (value : Nat) : Nat → Passage → Option (Nat × Passage)
  | 0, passage => some (value, passage)
  | count + 1, passage => do
    let (byte, rest) ← readByte passage
    if byte / 64 = 2 then readFurtherBytes (value * 64 + byte % 64) count rest else none

def readEscaped (passage : Passage) : Option (Char × Passage) := do
  let (byte, rest) ← readByte passage
  let (value, rest) ←
    if byte < 0x80 then some (byte, rest)
    else if byte / 0x20 = 0x6 then readFurtherBytes (byte % 0x20) 1 rest
    else if byte / 0x10 = 0xe then readFurtherBytes (byte % 0x10) 2 rest
    else if byte / 0x8 = 0x1e then readFurtherBytes (byte % 0x8) 3 rest
    else none
  some (Char.ofNat value, rest)

/-- Reads the characters of a tag; every round takes at least one. -/
def readChars (bracketed : Bool) : Nat → List Char → Passage → Option (List Char × Passage)
  | 0, _, _ => none
  | _, text, [] => some (text.reverse, [])
  | fuel + 1, text, q :: rest =>
    if q.char = '%' then do
      let (c, rest) ← readEscaped (q :: rest)
      readChars bracketed fuel (c :: text) rest
    else if isPlainChar q.char || (bracketed && isFlowChar q.char) then
      readChars bracketed fuel (q.char :: text) rest
    else some (text.reverse, q :: rest)

def readPart (bracketed : Bool) (passage : Passage) : Option (List Char × Passage) :=
  readChars bracketed (passage.length + 1) [] passage

/-- Reads a handle: an exclamation mark and, if the name after it ends in a second one,
    that name. The flag says whether there is a second one. -/
def readHandle (passage : Passage) : List Char × Bool × Passage :=
  let (name, rest) := Passage.span isNameChar (passage.drop 1)
  if rest.starts (· == '!') then ('!' :: name ++ ['!'], true, rest.drop 1)
  else ('!' :: name, false, rest)

/-- Reads a tag in angle brackets after the opening one. -/
def readBracketed (passage : Passage) : Option (Token × Passage) := do
  let (text, rest) ← readPart true passage
  if text.isEmpty || !rest.starts (· == '>') then none
  else some (.tag "" (String.ofList text), rest.drop 1)

/-- Reads a tag without brackets. An exclamation mark alone is a tag of its own. -/
def readShort (passage : Passage) : Option (Token × Passage) := do
  let (handle, closed, rest) := readHandle passage
  let (part, rest) ← readPart false rest
  if closed then
    if part.isEmpty then none
    else some (.tag (String.ofList handle) (String.ofList part), rest)
  else
    let suffix := handle.drop 1 ++ part
    some (if suffix.isEmpty then .tag "" "!" else .tag "!" (String.ofList suffix), rest)

/-- Reads a tag. A comma may follow it directly inside brackets and braces. -/
def read (inFlow : Bool) (passage : Passage) : Option (Token × Passage) := do
  let (token, rest) ←
    if Passage.starts (· == '<') (passage.drop 1) then readBracketed (passage.drop 2)
    else readShort passage
  if rest.endsWord || (inFlow && rest.starts (· == ',')) then some (token, rest) else none

end Patternwork.Yaml.Tag
