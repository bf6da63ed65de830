import Patternwork.Notation.Bracket
import Patternwork.Regular.Size

namespace Patternwork

namespace Regular

/-- A part of a pattern, with the number of levels it nests. -/
structure Part where
  node : Regular
  depth : Nat
  /-- Whether a quantifier may follow; it may not follow inline flags. -/
  repeatable : Bool := true
  deriving Inhabited

/-- The branches of a group that is being read. -/
structure Branches where
  /-- The branches that have been read, latest first. -/
  done : List Part := []
  /-- The parts of the branch that is being read, latest first. -/
  parts : List Part := []

/-- A group that encloses the one being read. -/
structure Enclosing where
  branches : Branches
  /-- The modes to go back to at the end of the inner group. -/
  modes : Modes
  /-- Whether the inner group is captured. -/
  captured : Bool

/-- What has been read of a pattern. -/
structure Progress where
  enclosing : List Enclosing := []
  branches : Branches := {}
  modes : Modes := {}
  /-- The group names given so far. -/
  names : List (List Char) := []

/-- The greatest number of levels that a pattern may nest. -/
def nestLimit : Nat := 250

def levelDepth (parts : List Part) : Nat :=
  1 + parts.foldl (fun depth part => max depth part.depth) 0

def joinParts : List Part → Part
  | [] => { node := .empty, depth := 0 }
  | [part] => part
  | parts => { node := seqs (parts.reverse.map Part.node), depth := levelDepth parts }

def Branches.join (branches : Branches) : Part :=
  match branches.done with
  | [] => joinParts branches.parts
  | done =>
    let all := joinParts branches.parts :: done
    { node := alts (all.reverse.map Part.node), depth := levelDepth all }

def Branches.next (branches : Branches) : Branches :=
  { done := joinParts branches.parts :: branches.done, parts := [] }

def Branches.add (branches : Branches) (part : Part) : Branches :=
  { branches with parts := part :: branches.parts }

namespace Progress

def add (progress : Progress) (part : Part) : Progress :=
  { progress with branches := progress.branches.add part }

def addLeaf (progress : Progress) (node : Regular) : Progress :=
  progress.add { node, depth := 0 }

def openGroup (progress : Progress) (modes : Modes) (captured : Bool) : Progress :=
  { progress with
    enclosing := ⟨progress.branches, progress.modes, captured⟩ :: progress.enclosing
    branches := {}
    modes }

def closeGroup? (progress : Progress) : Option Progress :=
  match progress.enclosing with
  | [] => none
  | outer :: enclosing =>
    let inner := progress.branches.join
    let node := if outer.captured then .capture inner.node else inner.node
    some
      { progress with
        enclosing
        branches := outer.branches.add { node, depth := inner.depth + 1 }
        modes := outer.modes }

/-- Repeats the last part, if there is one that can be repeated. -/
def repeatLast? (progress : Progress) (least : Nat) (greatest : Option Nat) (greedy : Bool) :
    Option Progress :=
  match progress.branches.parts with
  | [] => none
  | part :: parts =>
    if part.repeatable then
      let greedy := greedy != progress.modes.swapGreed
      some
        { progress with
          branches :=
            { progress.branches with
              parts :=
                { node := repeated least greatest greedy part.node
                  depth := part.depth + 1 } :: parts } }
    else none

end Progress

def setMode? (modes : Modes) (value : Bool) : Char → Option Modes
  | 'i' => some { modes with ignoreCase := value }
  | 'm' => some { modes with multiLine := value }
  | 's' => some { modes with dotAll := value }
  | 'U' => some { modes with swapGreed := value }
  | 'u' => some { modes with unicode := value }
  | 'R' => some { modes with carriageReturn := value }
  | 'x' => some { modes with verbose := value }
  | _ => none

/-- Reads inline flags up to `:` or `)`, which is yielded with what follows. No letter
    may stand twice, and a hyphen needs a letter after it. -/
def readFlags (modes : Modes) (value : Bool) (read : List Char) :
    List Char → Option (Modes × Bool × Char × List Char)
  | [] => none
  | c :: rest =>
    if c = ':' ∨ c = ')' then
      if read.head? = some '-' then none else some (modes, read.isEmpty, c, rest)
    else if read.contains c then none
    else if c = '-' then readFlags modes false ('-' :: read) rest
    else
      match setMode? modes value c with
      | some modes => readFlags modes value (c :: read) rest
      | none => none

def isNameStart (c : Char) : Bool := c == '_' || Unicode.isLetter c

def isNameRest (c : Char) : Bool :=
  c == '_' || c == '.' || c == '[' || c == ']' || Unicode.isLetterOrNumber c

def readName (input : List Char) : Option (List Char × List Char) :=
  let name := input.takeWhile (· != '>')
  match input.dropWhile (· != '>'), name with
  | _ :: rest, first :: more =>
    if isNameStart first && more.all isNameRest then some (name, rest) else none
  | _, _ => none

/-- Opens a group with a name that has not been given before. -/
def openNamed (progress : Progress) (input : List Char) : Option (Progress × List Char) := do
  let (name, rest) ← readName input
  if progress.names.contains name then none
  else
    some (({ progress with names := name :: progress.names } : Progress).openGroup
      progress.modes true, rest)

def readGroup (progress : Progress) (input : List Char) : Option (Progress × List Char) :=
  match progress.modes.skip input with
  | '?' :: '=' :: _ | '?' :: '!' :: _ | '?' :: '<' :: '=' :: _ | '?' :: '<' :: '!' :: _ => none
  | '?' :: 'P' :: '<' :: rest => openNamed progress rest
  | '?' :: '<' :: rest => openNamed progress rest
  | '?' :: rest => do
    let (modes, noFlags, stop, rest) ← readFlags progress.modes true [] rest
    if stop = ':' then some (progress.openGroup modes false, rest)
    else if noFlags then none
    else
      some (({ progress with modes } : Progress).add
        { node := .empty, depth := 0, repeatable := false }, rest)
  | rest => some (progress.openGroup progress.modes true, rest)

/-- Reads a decimal number of at most 32 bits, with blanks around it. -/
def readCount (modes : Modes) (input : List Char) : Option (Nat × List Char) :=
  let (digits, rest) := digits (input.length + 1) [] (input.dropWhile Unicode.isBlank)
  if digits.isEmpty then none
  else
    let value := digits.reverse.foldl (fun n d => min (n * 10 + d) (Nat.pow 2 32)) 0
    if value < Nat.pow 2 32 then some (value, skipBlanks (rest.length + 1) rest) else none
where
  /-- The digits at the start of the input, latest first. -/
  digits : Nat → List Nat → List Char → List Nat × List Char
    | fuel + 1, read, c :: rest =>
      if c.isDigit then digits fuel ((c.toNat - '0'.toNat) :: read) (modes.skip rest)
      else (read, c :: rest)
    | _, read, rest => (read, rest)
  skipBlanks : Nat → List Char → List Char
    | fuel + 1, c :: rest =>
      if Unicode.isBlank c then skipBlanks fuel (modes.skip rest) else c :: rest
    | _, rest => rest

/-- Reads what follows the brace of a counted quantifier: the bounds, and whether the
    quantifier is greedy. -/
def readBounds (modes : Modes) (input : List Char) :
    Option (Nat × Option Nat × Bool × List Char) := do
  let (least, rest) ← readCount modes (modes.skip input)
  let (greatest, rest) ←
    match rest with
    | ',' :: rest =>
      match modes.skip rest with
      | '\x7d' :: rest => some (none, '\x7d' :: rest)
      | rest => (readCount modes rest).map fun (greatest, rest) => (some greatest, rest)
    | rest => some (some least, rest)
  match rest with
  | '\x7d' :: rest =>
    let (greedy, rest) := match modes.skip rest with
      | '?' :: rest => (false, rest)
      | rest => (true, rest)
    if greatest.all (least ≤ ·) then some (least, greatest, greedy, rest) else none
  | _ => none

/-- Reads the question mark that may follow a quantifier. -/
def readLazy : List Char → Bool × List Char
  | '?' :: rest => (false, rest)
  | rest => (true, rest)

def readElement (progress : Progress) : List Char → Option (Progress × List Char)
  | [] => none
  | '(' :: rest => readGroup progress rest
  | ')' :: rest => progress.closeGroup?.map fun progress => (progress, rest)
  | '|' :: rest => some ({ progress with branches := progress.branches.next }, rest)
  | '[' :: rest => do
    let (part, rest) ← Bracket.read progress.modes rest
    some (progress.add { node := .set part.set, depth := part.depth }, rest)
  | '?' :: rest =>
    let (greedy, rest) := readLazy rest
    (progress.repeatLast? 0 (some 1) greedy).map fun progress => (progress, rest)
  | '*' :: rest =>
    let (greedy, rest) := readLazy rest
    (progress.repeatLast? 0 none greedy).map fun progress => (progress, rest)
  | '+' :: rest =>
    let (greedy, rest) := readLazy rest
    (progress.repeatLast? 1 none greedy).map fun progress => (progress, rest)
  | '\x7b' :: rest => do
    let (least, greatest, greedy, rest) ← readBounds progress.modes rest
    (progress.repeatLast? least greatest greedy).map fun progress => (progress, rest)
  | '\\' :: rest => do
    let (escape, rest) ← Escape.read progress.modes rest
    let node : Regular := match escape with
      | .literal c => .set (progress.modes.literal c)
      | .members chosen => .set chosen
      | .look condition => .look condition
    some (progress.addLeaf node, rest)
  | '.' :: rest =>
    if progress.modes.unicode then some (progress.addLeaf (.set progress.modes.dot), rest)
    else none
  | '^' :: rest => some (progress.addLeaf (.look progress.modes.caret), rest)
  | '$' :: rest => some (progress.addLeaf (.look progress.modes.dollar), rest)
  | c :: rest => some (progress.addLeaf (.set (progress.modes.literal c)), rest)

def readElements : Nat → Progress → List Char → Option Progress
  | 0, _, _ => none
  | fuel + 1, progress, input =>
    match progress.modes.skip input with
    | [] => some progress
    | input => do
      let (progress, rest) ← readElement progress input
      readElements fuel progress rest

/-- The expression that has been read, unless a group is still open. -/
def Progress.finish? (progress : Progress) : Option Part :=
  match progress.enclosing with
  | [] => some progress.branches.join
  | _ => none

/-- Reads a pattern text. Patterns that nest too deeply or need too large an
    automaton are refused. -/
def parse? (text : List Char) : Option Regular := do
  let progress ← readElements (text.length + 1) {} text
  let part ← progress.finish?
  if part.depth ≤ nestLimit && part.node.fits then some part.node else none

end Regular

end Patternwork
