import Patternwork.Notation.Escape

namespace Patternwork

namespace Bracket

/-- A part of a class, with the number of levels it nests. -/
structure Part where
  set : CharClass
  depth : Nat
  deriving Inhabited

/-- The operators between parts of a class; they bind equally and to the left. -/
inductive Op where
  | inter
  | diff
  | symmDiff
  deriving DecidableEq, Repr

def Op.apply : Op → CharClass → CharClass → CharClass
  | inter => .inter
  | diff => .diff
  | symmDiff => .symmDiff

/-- A bracket that has not been closed. -/
structure Level where
  negated : Bool
  /-- The left side of an operator that waits for its right side. -/
  pending : Option (Op × Part)
  /-- The parts since the bracket or the last operator, latest first. -/
  parts : List Part

def unite : List Part → Part
  | [] => ⟨.none, 0⟩
  | [part] => part
  | parts =>
    ⟨parts.reverse.foldl (fun set part => .union set part.set) .none,
      1 + parts.foldl (fun depth part => max depth part.depth) 0⟩

def Level.value (modes : Modes) (level : Level) : Part :=
  let right := unite level.parts
  match level.pending with
  | none => right
  | some (op, left) =>
    ⟨op.apply (modes.folded left.set) (modes.folded right.set), 1 + max left.depth right.depth⟩

/-- Closes a bracket. Without Unicode mode nothing beyond ASCII may be in a class,
    so that it cannot be negated. -/
def Level.close? (modes : Modes) (level : Level) : Option Part :=
  let value := level.value modes
  let set := modes.folded value.set
  if level.negated then
    if modes.unicode then some ⟨.compl set, value.depth + 1⟩ else none
  else some ⟨set, value.depth + 1⟩

def Level.add (level : Level) (part : Part) : Level :=
  { level with parts := part :: level.parts }

def Level.operator (modes : Modes) (op : Op) (level : Level) : Level :=
  { level with pending := some (op, level.value modes), parts := [] }

def readHyphens (modes : Modes) :
    Nat → List Part → List Char → Option (List Part × List Char)
  | fuel + 1, parts, '-' :: rest =>
    readHyphens modes fuel (⟨.single '-', 0⟩ :: parts) (modes.skip rest)
  | _, _, [] => none
  | _, parts, rest => some (parts, rest)

/-- Reads what may follow an opening bracket: a caret, hyphens, and a closing
    bracket that stands for itself. -/
def openLevel? (modes : Modes) (input : List Char) : Option (Level × List Char) := do
  let input := modes.skip input
  let (negated, input) := match input with
    | '^' :: rest => (true, modes.skip rest)
    | rest => (false, rest)
  let (parts, input) ← readHyphens modes (input.length + 1) [] input
  match parts, input with
  | [], ']' :: rest =>
    match modes.skip rest with
    | [] => none
    | rest => some (⟨negated, none, [⟨.single ']', 0⟩]⟩, rest)
  | parts, rest => some (⟨negated, none, parts⟩, rest)

def namedSet? (name : String) : Option CharClass :=
  match name with
  | "alnum" => some (.ofRanges [(48, 57), (65, 90), (97, 122)])
  | "alpha" => some (.ofRanges [(65, 90), (97, 122)])
  | "ascii" => some (.range 0 127)
  | "blank" => some (.ofRanges [(9, 9), (32, 32)])
  | "cntrl" => some (.ofRanges [(0, 31), (127, 127)])
  | "digit" => some (.range 48 57)
  | "graph" => some (.range 33 126)
  | "lower" => some (.range 97 122)
  | "print" => some (.range 32 126)
  | "punct" => some (.ofRanges [(33, 47), (58, 64), (91, 96), (123, 126)])
  | "space" => some (.ofRanges [(9, 13), (32, 32)])
  | "upper" => some (.range 65 90)
  | "word" => some (.ofRanges [(48, 57), (65, 90), (95, 95), (97, 122)])
  | "xdigit" => some (.ofRanges [(48, 57), (65, 70), (97, 102)])
  | _ => none

/-- Reads a class given by name, such as `:alpha:]` after its bracket. -/
def readNamed? (modes : Modes) (input : List Char) : Option (Option CharClass × List Char) :=
  match input with
  | ':' :: rest =>
    let (negated, rest) := match rest with
      | '^' :: rest => (true, rest)
      | rest => (false, rest)
    let name := rest.takeWhile (· != ':')
    match rest.dropWhile (· != ':') with
    | ':' :: ']' :: rest =>
      (namedSet? (String.ofList name)).map fun set =>
        let set := modes.folded set
        (if negated then if modes.unicode then some (.compl set) else none else some set, rest)
    | _ => none
  | _ => none

/-- One member of a class: a character, or a set given by an escape. -/
def readMember? (modes : Modes) : List Char → Option (Escape × List Char)
  | [] => none
  | '\\' :: rest => Escape.read modes rest
  | c :: rest => some (.literal c, rest)

/-- The set of one character in a class; without Unicode mode only ASCII is allowed
    there. -/
def character? (modes : Modes) (c : Char) : Option CharClass :=
  if !modes.unicode && 0x7f < c.toNat then none else some (.single c)

def memberSet? (modes : Modes) : Escape → Option CharClass
  | .literal c => character? modes c
  | .members set => some set
  | .look _ => none

/-- Whether the hyphen in front of `input` stands for itself. -/
def isLoneHyphen (modes : Modes) (input : List Char) : Bool :=
  match modes.skip input with
  | ']' :: _ | '-' :: _ => true
  | _ => false

def readRange? (modes : Modes) (input : List Char) : Option (CharClass × List Char) := do
  let (first, rest) ← readMember? modes input
  match modes.skip rest with
  | [] => none
  | '-' :: after =>
    if isLoneHyphen modes after then some (← memberSet? modes first, '-' :: after)
    else
      let (last, rest) ← readMember? modes (modes.skip after)
      match first, last with
      | .literal least, .literal greatest =>
        let _ ← character? modes least
        let _ ← character? modes greatest
        if least ≤ greatest then some (.range least.toNat greatest.toNat, rest) else none
      | _, _ => none
  | rest => some (← memberSet? modes first, rest)

/-- Reads on inside the innermost bracket until the outermost is closed. -/
def readLevels (modes : Modes) : Nat → Level → List Level → List Char →
    Option (Part × List Char)
  | 0, _, _, _ => none
  | fuel + 1, level, outer, input =>
    match modes.skip input with
    | [] => none
    | '[' :: rest =>
      match readNamed? modes rest with
      | some (none, _) => none
      | some (some set, rest) => readLevels modes fuel (level.add ⟨set, 0⟩) outer rest
      | none => do
        let (inner, rest) ← openLevel? modes rest
        readLevels modes fuel inner (level :: outer) rest
    | ']' :: rest => do
      let part ← level.close? modes
      match outer with
      | [] => some (part, rest)
      | parent :: outer => readLevels modes fuel (parent.add part) outer rest
    | '&' :: '&' :: rest => readLevels modes fuel (level.operator modes .inter) outer rest
    | '-' :: '-' :: rest => readLevels modes fuel (level.operator modes .diff) outer rest
    | '~' :: '~' :: rest => readLevels modes fuel (level.operator modes .symmDiff) outer rest
    | rest => do
      let (set, rest) ← readRange? modes rest
      readLevels modes fuel (level.add ⟨set, 0⟩) outer rest

def read (modes : Modes) (input : List Char) : Option (Part × List Char) := do
  let (level, rest) ← openLevel? modes input
  readLevels modes (rest.length + 1) level [] rest

end Bracket

end Patternwork
