import Patternwork.Regular.Basic

namespace Patternwork

namespace CharClass

/-- The members of either of two sorted lists of ranges. -/
def joinRanges (a b : List (Nat × Nat)) : List (Nat × Nat) :=
  Unicode.Ranges.join (Unicode.Ranges.merge a b)

/-- The code points between the ranges of a sorted list, from `start` on. -/
def gaps (start : Nat) : List (Nat × Nat) → List (Nat × Nat)
  | [] => if start < Unicode.codeSpace then [(start, Unicode.codeSpace - 1)] else []
  | (least, greatest) :: rest =>
    if start < least then (start, least - 1) :: gaps (greatest + 1) rest
    else gaps (greatest + 1) rest

def countMembers (own : List (Nat × Nat)) : Nat :=
  own.foldl (fun count range => count + (range.2 + 1 - range.1)) 0

/-- The characters that the members of some ranges are equal to but for case, one member
    after another. -/
def eachFolded (own : List (Nat × Nat)) : List (Nat × Nat) :=
  let members := own.flatMap fun range => List.range' range.1 (range.2 + 1 - range.1)
  (members.flatMap Unicode.foldings).foldl
    (fun ranges code => Unicode.Ranges.merge ranges [(code, code)]) []

/-- The characters that are equal to a member of a set but for case, by the whole table. -/
def tableFolded (a : CharClass) : List (Nat × Nat) :=
  Unicode.foldingTable.toList.filterMap fun (code, members) =>
    if members.any a.holds then some (code, code) else Option.none

def ranges : CharClass → List (Nat × Nat)
  | none => []
  | range least greatest => [(least, greatest)]
  | table ranges => ranges.ranges.toList
  | union a b => joinRanges a.ranges b.ranges
  | inter a b => gaps 0 (joinRanges (gaps 0 a.ranges) (gaps 0 b.ranges))
  | compl a => gaps 0 a.ranges
  | folded a =>
    let own := a.ranges
    joinRanges own (if countMembers own ≤ 128 then eachFolded own else tableFolded a)
  | foldedAscii a =>
    let own := a.ranges
    let others := ((List.range 128).filter fun code => a.holds (Unicode.otherAsciiCase code)).map
      fun code => (code, code)
    joinRanges own others

end CharClass

namespace Regular

/-- The parts of a range whose members have spellings of one length each. -/
def spellings (least greatest : Nat) : List (Nat × Nat × Nat) :=
  let parts := [(0x0, 0x7f, 1), (0x80, 0x7ff, 2), (0x800, 0xffff, 3), (0x10000, 0x10ffff, 4)]
  parts.filterMap fun (low, high, length) =>
    if least ≤ high ∧ low ≤ greatest then some (max least low, min greatest high, length)
    else none

/-- The number of byte sequences that spell a range of equally long spellings, the
    last `tail` bytes of which can vary. -/
def sequenceCount : Nat → Nat → Nat → Nat
  | 0, _, _ => 1
  | tail + 1, least, greatest =>
    let block := Nat.pow 64 (tail + 1)
    if least / block = greatest / block then sequenceCount tail (least % block) (greatest % block)
    else
      let head := if least % block = 0 then 0 else sequenceCount tail (least % block) (block - 1)
      let foot :=
        if greatest % block = block - 1 then 0 else sequenceCount tail 0 (greatest % block)
      let inner := greatest / block + (if foot = 0 then 1 else 0) -
        (least / block + if head = 0 then 0 else 1)
      head + foot + if 0 < inner then 1 else 0

/-- The bytes of the automaton for a set, roughly. Each sequence of bytes needs about a state
    and two transitions, since common ends are shared; how many are shared is not worked out, so
    that near the limit it is not exact which expressions are accepted. -/
def setSize (set : CharClass) : Nat :=
  let parts := set.ranges.flatMap fun (least, greatest) => spellings least greatest
  if parts.all fun (_, _, length) => length = 1 then 64 + 8 * parts.length
  else
    parts.foldl
      (fun size (least, greatest, length) =>
        size + (48 + 8 * (length - 1)) * sequenceCount (length - 1) least greatest)
      64

/-- The number of alternatives that an expression is made of. -/
def alternatives : Regular → Nat
  | alt a b => a.alternatives + b.alternatives
  | _ => 1

/-- The bytes of the automaton for an expression, as far as those of its sets are known.
    Repetitions are written out, so that short patterns can need large automata. -/
def size : Regular → Nat
  | empty => 32
  | look _ => 32
  | set members => setSize members
  | seq a b => a.size + b.size
  | alt a b => a.size + b.size + 36
  | capture a => a.size + 64
  | rep least greatest _ a =>
    match greatest with
    | none => max least 1 * a.size + 40
    | some greatest => greatest * a.size + (greatest - least) * 40 + 32

def sizeLimit : Nat := 10 * Nat.pow 2 20

/-- Whether the automaton for an expression can be built, by the size that is estimated. -/
def fits (a : Regular) : Bool := a.size ≤ sizeLimit

end Regular

end Patternwork
