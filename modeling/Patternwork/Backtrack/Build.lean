import Patternwork.Backtrack.Machine
import Patternwork.Backtrack.Reader

namespace Patternwork

namespace Backtrack

/-- How a pattern of this notation is matched. -/
inductive Plan where
  | regular (a : Regular)
  | program (code : Code) (slots : Nat)

namespace Plan

/-- The number of slots for the groups of a pattern, the whole match included. -/
def groupSlots (reading : Reading) : Nat := 2 * (reading.groups + 1)

def ofReading? (reading : Reading) : Option Plan :=
  if reading.tree.isHard reading.referenced then
    (compile? reading.referenced (groupSlots reading) .every reading.tree).map fun code =>
      .program (searching code) (groupSlots reading + reading.loops)
  else
    match reading.tree.regular? with
    | some a => if a.fits then some (.regular a) else none
    | none => none

def parse? (text : List Char) : Option Plan :=
  (read? text).bind ofReading?

def outcome (text : Haystack) : Plan → Outcome
  | regular a => if a.isMatch text then .matched else .unmatched
  | program code slots => search code slots text

end Plan

end Backtrack

end Patternwork
