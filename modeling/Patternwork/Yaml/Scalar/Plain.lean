import Patternwork.Yaml.Scalar.Gap

namespace Patternwork.Yaml.Plain

def isFlowIndicator (c : Char) : Bool :=
  [',', '[', ']', '\x7b', '\x7d'].contains c

/-- Characters that may not follow a colon inside brackets. -/
def refusedAfterColon (c : Char) : Bool :=
  c == '?' || isFlowIndicator c

/-- Reads a word in front of what is collected, last character first. -/
def readWord (inFlow : Bool) (collected : List Char) : Passage → Option (List Char × Passage)
  | [] => some (collected, [])
  | q :: rest =>
    if isSpacing q.char then some (collected, q :: rest)
    else if inFlow && q.char == ':' && Passage.starts refusedAfterColon rest then none
    else if (q.char == ':' && Passage.endsWord rest) || (inFlow && isFlowIndicator q.char) then
      some (collected, q :: rest)
    else readWord inFlow (q.char :: collected) rest

/-- A scalar, whether a line break follows it, and the rest of the document. -/
structure Scanned where
  text : String
  endsLine : Bool
  rest : Passage

/-- Reads the words that follow a gap; every round takes at least one character. -/
def readWords (inFlow : Bool) (margin : Nat) :
    Nat → List Char → Gap → Passage → Option Scanned
  | 0, _, _, _ => none
  | fuel + 1, text, gap, passage =>
    let ended : Scanned := ⟨String.ofList text.reverse, !gap.breaks.isEmpty, passage⟩
    if passage.atBound || passage.starts (· == '#') then some ended
    else do
      let (word, rest) ← readWord inFlow [] passage
      if word.isEmpty then some ended
      else
        let text := word ++ (gap.text.reverse ++ text)
        if rest.starts isSpacing then
          let (gap, rest) ← Gap.read margin rest
          if !inFlow && rest.column < margin then
            some ⟨String.ofList text.reverse, !gap.breaks.isEmpty, rest⟩
          else readWords inFlow margin fuel text gap rest
        else some ⟨String.ofList text.reverse, false, rest⟩

/-- Reads a scalar without quotes whose further lines are indented to the margin. -/
def read (inFlow : Bool) (margin : Nat) (passage : Passage) : Option Scanned :=
  readWords inFlow margin (passage.length + 1) [] ⟨[], []⟩ passage

end Patternwork.Yaml.Plain
