import Patternwork.Yaml.Place

namespace Patternwork.Yaml.Block

/-- What becomes of the line breaks at the end. -/
inductive Chomping where
  /-- All are dropped. -/
  | strip
  /-- One is kept. -/
  | clip
  /-- All are kept. -/
  | keep
  deriving DecidableEq, Repr

/-- What stands on the line of the indicator. -/
structure Header where
  chomping : Chomping := .clip
  /-- The indentation against the enclosing collection, if it is given. -/
  increment : Option Nat := none
  deriving DecidableEq, Repr

def Chomping.ofChar? : Char → Option Chomping
  | '+' => some .keep
  | '-' => some .strip
  | _ => none

def readChomping (header : Header) : Passage → Header × Passage
  | [] => (header, [])
  | q :: rest =>
    match Chomping.ofChar? q.char with
    | some chomping => ({ header with chomping }, rest)
    | none => (header, q :: rest)

/-- Reads an indentation of one digit, if there is one. It may not be zero. -/
def readIncrement (header : Header) : Passage → Option (Header × Passage)
  | [] => some (header, [])
  | q :: rest =>
    if q.char = '0' then none
    else if q.char.isDigit then
      some ({ header with increment := some (q.char.toNat - '0'.toNat) }, rest)
    else some (header, q :: rest)

/-- Reads the header and the rest of its line; its two parts come in either order. -/
def readHeader (passage : Passage) : Option (Header × Passage) := do
  let (header, rest) ←
    if passage.starts fun c => (Chomping.ofChar? c).isSome then
      let (header, rest) := readChomping {} passage
      readIncrement header rest
    else do
      let (header, rest) ← readIncrement {} passage
      if header.increment.isSome then some (readChomping header rest) else some (header, rest)
  some (header, ← rest.nextLine?)

/-- Passes over indentation up to the margin and collects the line breaks of empty
    lines, last first; also yields the widest indentation seen. While no margin is
    known, which zero says, all spaces are indentation. -/
def readMargin (margin widest : Nat) (breaks : List Char) :
    Passage → Option (List Char × Nat × Passage)
  | [] => some (breaks, widest, [])
  | q :: rest =>
    let inside := margin == 0 || q.column < margin
    if inside && q.char == ' ' then readMargin margin widest breaks rest
    else if inside && q.char == '\t' then none
    else
      let widest := max widest q.column
      if isBreak q.char then readMargin margin widest (q.char :: breaks) rest
      else some (breaks, widest, q :: rest)

/-- The lines read so far, all texts last character first. -/
structure Lines where
  text : List Char := []
  /-- The line break that ended the last line. -/
  lineBreak : List Char := []
  /-- The line breaks of the empty lines after it. -/
  emptyLines : List Char := []
  /-- Whether the last line began with a blank. -/
  blankLed : Bool := false

/-- The text with what stands between its last line and a next one. -/
def Lines.joined (folds blankLed : Bool) (lines : Lines) : List Char :=
  if folds && lines.lineBreak == ['\n'] && !lines.blankLed && !blankLed then
    if lines.emptyLines.isEmpty then ' ' :: lines.text else lines.emptyLines ++ lines.text
  else lines.emptyLines ++ (lines.lineBreak ++ lines.text)

def Lines.finish (chomping : Chomping) (lines : Lines) : String :=
  String.ofList <| List.reverse <| match chomping with
    | .strip => lines.text
    | .clip => lines.lineBreak ++ lines.text
    | .keep => lines.emptyLines ++ (lines.lineBreak ++ lines.text)

/-- Reads the lines at the margin; every round takes at least one character. -/
def readLines (folds : Bool) (margin : Nat) :
    Nat → Lines → Passage → Option (Lines × Passage)
  | 0, _, _ => none
  | _, lines, [] => some (lines, [])
  | fuel + 1, lines, q :: rest =>
    if q.column ≠ margin then some (lines, q :: rest)
    else do
      let blankLed := isBlank q.char
      let (line, rest) := Passage.span (!isBreak ·) (q :: rest)
      let text := line.reverse ++ lines.joined folds blankLed
      let lineBreak := (rest.head?.map Placed.char).toList
      let (emptyLines, _, rest) ← readMargin margin 0 [] (rest.drop 1)
      readLines folds margin fuel { text, lineBreak, emptyLines, blankLed } rest

/-- Reads a block scalar after its indicator, in a collection indented to
    `indentation`, which is negative outside all collections. -/
def read (folds : Bool) (indentation : Int) (passage : Passage) : Option (String × Passage) := do
  let (header, rest) ← readHeader passage
  let given := header.increment.elim 0 fun n => indentation.toNat + n
  let (emptyLines, widest, rest) ← readMargin given 0 [] rest
  let margin := if given = 0 then max widest (max (indentation + 1).toNat 1) else given
  let (lines, rest) ← readLines folds margin (rest.length + 1) { emptyLines } rest
  some (lines.finish header.chomping, rest)

end Patternwork.Yaml.Block
