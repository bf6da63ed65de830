import Patternwork.Unicode.FoldingData
import Patternwork.Unicode.Ranges

namespace Patternwork.Unicode

/-- A code point by its distance from another one: an even number is twice the distance
    forward, an odd number one less than twice the distance back. -/
def atDistance (code distance : Nat) : Nat :=
  if distance % 2 = 0 then code + distance / 2 else code - (distance / 2 + 1)

def readFolding : Nat → Nat → List Nat → List (Nat × List Nat)
  | fuel + 1, previous, step :: count :: rest =>
    let code := previous + step
    (code, code :: (rest.take count).map (atDistance code)) ::
      readFolding fuel code (rest.drop count)
  | _, _, _ => []

/-- Every character that has others equal to it, in order, with all that are equal. -/
def foldingTable : Array (Nat × List Nat) :=
  (readFolding 3000 0 (numbers foldingEntries)).toArray

/-- Looks for the entry of `code` among those from `low` to below `high`. -/
def searchFolding (code : Nat) : Nat → Nat → Nat → List Nat
  | 0, _, _ => [code]
  | fuel + 1, low, high =>
    if low < high then
      let middle := (low + high) / 2
      match foldingTable[middle]? with
      | none => [code]
      | some (other, members) =>
        if code < other then searchFolding code fuel low middle
        else if other < code then searchFolding code fuel (middle + 1) high
        else members
    else [code]

/-- The same letter in the other case, if `code` is a letter of ASCII. -/
def otherAsciiCase (code : Nat) : Nat :=
  if 65 ≤ code ∧ code ≤ 90 then code + 32
  else if 97 ≤ code ∧ code ≤ 122 then code - 32
  else code

/-- The characters beyond ASCII that are equal to one of ASCII but for case: the Kelvin
    sign and the long s. -/
def beyondAscii (code : Nat) : List Nat :=
  if code = 75 ∨ code = 107 then [0x212a]
  else if code = 83 ∨ code = 115 then [0x17f]
  else []

/-- The same as the table holds for the characters of ASCII. -/
def asciiFoldings (code : Nat) : List Nat :=
  let other := otherAsciiCase code
  if other = code then [code] else code :: other :: beyondAscii code

/-- The characters equal to `code` but for case, itself included. -/
def foldings (code : Nat) : List Nat :=
  if code < 0x80 then asciiFoldings code else searchFolding code 16 0 foldingTable.size

end Patternwork.Unicode
