import Patternwork.Backtrack.Tree
import Patternwork.Notation.Bracket

namespace Patternwork

namespace Backtrack

/-- What a parenthesis opens. -/
inductive Opening where
  | group (index : Nat)
  | ahead (negated : Bool)
  | behind (negated : Bool)
  | atomic
  /-- A group that goes back to `modes` at its end. -/
  | scoped (modes : Modes)
  /-- The condition of a conditional. -/
  | condition
  /-- The branches of a conditional; `start` is the length of the text there. -/
  | conditional (condition : Tree) (start : Nat)

/-- The branches of a group that is being read. -/
structure Branches where
  /-- The branches that have been read, latest first. -/
  done : List Tree := []
  /-- The parts of the branch that is being read, latest first. -/
  parts : List Tree := []

/-- A group that encloses the one being read, and what opened the inner one. -/
structure Enclosing where
  opening : Opening
  branches : Branches

/-- What has been read of a pattern. -/
structure Progress where
  enclosing : List Enclosing := []
  branches : Branches := {}
  modes : Modes := {}
  /-- The number of groups opened so far. -/
  groups : Nat := 0
  /-- The number of repetitions read so far. -/
  loops : Nat := 0
  /-- The group names given so far, latest first. -/
  names : List (List Char × Nat) := []
  /-- The groups referred to so far. -/
  referenced : List Nat := []
  /-- Whether a group has been referred to by a number. -/
  numbered : Bool := false

/-- The number of open groups at which a pattern is refused. -/
def nestLimit : Nat := 64

/-- Where the text that is passed over stands. -/
inductive Ignored where
  | nothing
  /-- Inside a comment that ends with its line. -/
  | line
  /-- Inside a comment that ends with a parenthesis. -/
  | note

/-- Passes over comments, and over blanks in verbose mode. A comment in parentheses
    that does not end makes the pattern invalid. -/
def skipIgnored (verbose : Bool) : Ignored → List Char → Option (List Char)
  | .nothing, '(' :: '?' :: '#' :: rest => skipIgnored verbose .note rest
  | .nothing, c :: rest =>
    if verbose && c == '#' then skipIgnored verbose .line rest
    else if verbose && (c == ' ' || c == '\r' || c == '\n' || c == '\t') then
      skipIgnored verbose .nothing rest
    else some (c :: rest)
  | .line, c :: rest =>
    if c = '\n' then skipIgnored verbose .nothing rest else skipIgnored verbose .line rest
  | .note, '\\' :: _ :: rest => skipIgnored verbose .note rest
  | .note, c :: rest =>
    if c = ')' then skipIgnored verbose .nothing rest else skipIgnored verbose .note rest
  | .nothing, [] | .line, [] => some []
  | .note, [] => none

def skip (modes : Modes) (input : List Char) : Option (List Char) :=
  skipIgnored modes.verbose .nothing input

def joinParts : List Tree → Tree
  | [] => .empty
  | [a] => a
  | parts => .concat parts.reverse

def Branches.join (branches : Branches) : Tree :=
  match branches.done with
  | [] => joinParts branches.parts
  | done => .alt (joinParts branches.parts :: done).reverse

def Branches.next (branches : Branches) : Branches :=
  { done := joinParts branches.parts :: branches.done, parts := [] }

def Branches.add (branches : Branches) (a : Tree) : Branches :=
  { branches with parts := a :: branches.parts }

namespace Progress

def add (progress : Progress) (a : Tree) : Progress :=
  match a with
  | .empty => progress
  | a => { progress with branches := progress.branches.add a }

def openAs? (progress : Progress) (opening : Opening) : Option Progress :=
  if progress.enclosing.length + 1 < nestLimit then
    some
      { progress with
        enclosing := ⟨opening, progress.branches⟩ :: progress.enclosing
        branches := {} }
  else none

/-- What has been read since the innermost group was opened. A pattern without
    branches may not refer to groups by number if any group has a name. -/
def inner? (progress : Progress) : Option Tree :=
  if progress.branches.done.isEmpty && progress.numbered && !progress.names.isEmpty then none
  else some progress.branches.join

/-- Notes a reference to a group, which must have been opened. -/
def refer? (progress : Progress) (index : Nat) : Option Progress :=
  if index ≤ progress.groups then
    some { progress with referenced := index :: progress.referenced }
  else none

end Progress

def readNumber (input : List Char) : Option (Nat × List Char) :=
  let digits := input.takeWhile Char.isDigit
  if digits.isEmpty then none
  else
    let value := digits.foldl (fun n c => min (n * 10 + (c.toNat - '0'.toNat)) (Nat.pow 2 64)) 0
    if value < Nat.pow 2 64 then some (value, input.dropWhile Char.isDigit) else none

/-- Reads what follows the brace of a counted quantifier; a missing lower bound is
    zero. Text that is no quantifier yields nothing. -/
def readBounds (modes : Modes) (input : List Char) : Option (Nat × Option Nat × List Char) := do
  let input ← skip modes input
  let (least, rest) ←
    match input with
    | ',' :: _ => some (0, input)
    | _ => readNumber input
  let rest ← skip modes rest
  let (greatest, rest) ←
    match rest with
    | '\x7d' :: _ => some (some least, rest)
    | ',' :: rest =>
      let rest ← skip modes rest
      match readNumber rest with
      | some (greatest, rest) => some (some greatest, rest)
      | none => some (none, rest)
    | _ => none
  match ← skip modes rest with
  | '\x7d' :: rest => some (least, greatest, rest)
  | _ => none

def readQuantifier (modes : Modes) : List Char → Option (Nat × Option Nat × List Char)
  | '?' :: rest => some (0, some 1, rest)
  | '*' :: rest => some (0, none, rest)
  | '+' :: rest => some (1, none, rest)
  | '\x7b' :: rest => readBounds modes rest
  | _ => none

def isRepeatable : Tree → Bool
  | .ahead _ _ | .behind _ _ | .empty | .look _ => false
  | _ => true

/-- Adds a part with the quantifier that may follow it. -/
def addQuantified (progress : Progress) (a : Tree) (input : List Char) :
    Option (Progress × List Char) := do
  let input ← skip progress.modes input
  match readQuantifier progress.modes input with
  | none => some (progress.add a, input)
  | some (least, greatest, rest) =>
    if isRepeatable a then
      let (greedy, rest) := match ← skip progress.modes rest with
        | '?' :: rest => (progress.modes.swapGreed, rest)
        | rest => (!progress.modes.swapGreed, rest)
      let node := Tree.rep progress.loops least greatest greedy a
      let progress := { progress with loops := progress.loops + 1 }
      match rest with
      | '+' :: rest => some (progress.add (.atomic node), rest)
      | rest => some (progress.add node, rest)
    else none

/-- What an escape stands for. -/
inductive Atom where
  | literal (c : Char) (foldable : Bool)
  /-- A set of characters, by the text of a class that holds them. -/
  | members (text : List Char) (foldable : Bool)
  | look (condition : Look)
  | keepOut
  | searchStart

/-- Reads up to eight hexadecimal digits and a closing brace. -/
def readHexBraced : Nat → Nat → Nat → List Char → Option (Nat × List Char)
  | fuel + 1, count, code, c :: rest =>
    if 0 < count ∧ c = '\x7d' then some (code, rest)
    else if count < 8 then do
      let d ← hexDigit? c
      readHexBraced fuel (count + 1) (code * 16 + d) rest
    else none
  | _, _, _, _ => none

/-- Reads `count` hexadecimal digits, or digits in braces. -/
def readHex (count : Nat) (input : List Char) : Option (Atom × List Char) := do
  let (code, rest) ←
    match Escape.readHexFixed {} count 0 input with
    | some found => some found
    | none =>
      match input with
      | '\x7b' :: rest => readHexBraced (rest.length + 1) 0 0 rest
      | _ => none
  some (.literal (← Escape.scalar? code) true, rest)

/-- Reads the name of a property with the characters before it. -/
def readPropertyText (start : List Char) : List Char → Option (Atom × List Char)
  | [] => none
  | '\x7b' :: rest =>
    match rest.dropWhile (· != '\x7d') with
    | _ :: after =>
      some (.members (start ++ '\x7b' :: rest.takeWhile (· != '\x7d') ++ ['\x7d']) true, after)
    | [] => none
  | c :: rest => some (.members (start ++ [c]) true, rest)

/-- Reads what follows a backslash, references to groups apart. -/
def readAtom (inClass : Bool) : List Char → Option (Atom × List Char)
  | [] => none
  | c :: rest =>
    let condition (edge : WordEdge) : Atom := .look (.word edge false)
    match c, inClass with
    | 'A', false => some (.look .textStart, rest)
    | 'z', false => some (.look .textEnd, rest)
    | 'b', false =>
      match rest with
      | '\x7b' :: after =>
        let name := after.takeWhile (· != '\x7d')
        match Escape.edgeNamed? (String.ofList name), after.dropWhile (· != '\x7d') with
        | some edge, _ :: rest => some (condition edge, rest)
        | _, _ => none
      | rest => some (condition .boundary, rest)
    | 'B', false => some (condition .interior, rest)
    | '<', false => some (condition .start, rest)
    | '>', false => some (condition .stop, rest)
    | 'K', false => some (.keepOut, rest)
    | 'G', false => some (.searchStart, rest)
    | 'd', _ | 's', _ | 'w', _ | 'D', _ | 'S', _ | 'W', _ => some (.members ['\\', c] true, rest)
    | 'h', _ => some (.members "[0-9A-Fa-f]".toList false, rest)
    | 'H', _ => some (.members "[^0-9A-Fa-f]".toList false, rest)
    | 'x', _ => readHex 2 rest
    | 'u', _ => readHex 4 rest
    | 'U', _ => readHex 8 rest
    | 'p', _ | 'P', _ => readPropertyText ['\\', c] rest
    | 'a', _ => some (.literal '\x07' false, rest)
    | 'b', _ => some (.literal '\x08' false, rest)
    | 'f', _ => some (.literal '\x0c' false, rest)
    | 'n', _ => some (.literal '\n' false, rest)
    | 'r', _ => some (.literal '\r' false, rest)
    | 't', _ => some (.literal '\t' false, rest)
    | 'v', _ => some (.literal '\x0b' false, rest)
    | 'e', _ => some (.literal '\x1b' false, rest)
    | c, _ =>
      if c.isAlpha && !(['k', 'A', 'z', 'B', 'K', 'G'].contains c) then none
      else some (.literal c false, rest)

/-- The characters of a set given by its text, which must be one whole class. -/
def members? (modes : Modes) (foldable : Bool) (text : List Char) : Option CharClass :=
  let modes : Modes := { ignoreCase := foldable && modes.ignoreCase }
  match text with
  | '[' :: rest =>
    match Bracket.read modes rest with
    | some (part, []) => some part.set
    | _ => none
  | '\\' :: rest =>
    match Escape.read modes rest with
    | some (.members set, []) => some set
    | _ => none
  | _ => none

def classText (c : Char) : List Char :=
  if Escape.metaCharacters.contains c then ['\\', c] else [c]

/-- Reads the text of a class up to the bracket that closes it; `open` counts the
    brackets that are open, and the text is yielded latest first. -/
def readClassText : Nat → Nat → List Char → List Char → Option (List Char × List Char)
  | fuel + 1, level, text, c :: rest =>
    if c = '\\' then
      if rest.head?.any Char.isDigit then none
      else do
        let (atom, rest) ← readAtom true rest
        match atom with
        | .literal c _ => readClassText fuel level ((classText c).reverse ++ text) rest
        | .members inner _ => readClassText fuel level (inner.reverse ++ text) rest
        | _ => none
    else if c = '[' then readClassText fuel (level + 1) (c :: text) rest
    else if c = ']' then
      if level = 1 then some (c :: text, rest) else readClassText fuel (level - 1) (c :: text) rest
    else readClassText fuel level (c :: text) rest
  | _, _, _, _ => none

def readClass (modes : Modes) (input : List Char) : Option (Tree × List Char) := do
  let (text, input) := match input with
    | '^' :: ']' :: rest => ("]^[".toList, rest)
    | '^' :: rest => ("^[".toList, rest)
    | ']' :: rest => ("][".toList, rest)
    | rest => (['['], rest)
  let (text, rest) ← readClassText (input.length + 1) 1 text input
  some (.set (← members? modes true text.reverse), rest)

def isNameCharacter (c : Char) : Bool := c == '_' || Unicode.isLetterOrNumber c

/-- Reads a group name and the character that ends it. A name may be a number with a
    minus sign where `relative` is set. -/
def readName (stop : Char) (relative : Bool) (input : List Char) :
    Option (List Char × List Char) :=
  let (sign, input) := match relative, input with
    | true, '-' :: rest => (['-'], rest)
    | _, rest => ([], rest)
  let name := input.takeWhile isNameCharacter
  match input.dropWhile isNameCharacter with
  | c :: rest => if c = stop && !name.isEmpty then some (sign ++ name, rest) else none
  | [] => none

/-- The group that a reference names: by name, by number, or by its distance back
    from the latest group. -/
def Progress.groupNamed? (progress : Progress) (name : List Char) : Option Nat :=
  match progress.names.lookup name with
  | some index => some index
  | none =>
    match name with
    | '-' :: digits =>
      match readNumber digits with
      | some (0, []) => some 0
      | some (back, []) =>
        if back ≤ progress.groups + 1 then some (progress.groups + 1 - back) else none
      | _ => none
    | digits =>
      match readNumber digits with
      | some (index, []) => some index
      | _ => none

def readNamed (progress : Progress) (stop : Char) (relative : Bool) (input : List Char) :
    Option (Progress × Nat × List Char) := do
  let (name, rest) ← readName stop relative input
  let index ← progress.groupNamed? name
  some (← progress.refer? index, index, rest)

def readNumbered (progress : Progress) (input : List Char) :
    Option (Progress × Nat × List Char) := do
  let (index, rest) ← readNumber input
  let progress ← progress.refer? index
  some ({ progress with numbered := true }, index, rest)

def readEscape (progress : Progress) (input : List Char) : Option (Progress × List Char) := do
  match input with
  | 'k' :: '\'' :: rest =>
    let (progress, index, rest) ← readNamed progress '\'' true rest
    addQuantified progress (.backref index) rest
  | 'k' :: '<' :: rest =>
    let (progress, index, rest) ← readNamed progress '>' true rest
    addQuantified progress (.backref index) rest
  | 'k' :: _ => none
  | input =>
    if input.head?.any Char.isDigit then
      let (progress, index, rest) ← readNumbered progress input
      addQuantified progress (.backref index) rest
    else
      let (atom, rest) ← readAtom false input
      match atom with
      | .literal c foldable =>
        let set := if foldable then progress.modes.literal c else .single c
        addQuantified progress (.set set) rest
      | .members text foldable =>
        addQuantified progress (.set (← members? progress.modes foldable text)) rest
      | .look condition => addQuantified progress (.look condition) rest
      | .keepOut => addQuantified progress .keepOut rest
      | .searchStart => addQuantified progress .searchStart rest

/-- One letter of inline flags; Unicode mode cannot be switched off. -/
def setMode? (modes : Modes) (value : Bool) : Char → Option Modes
  | 'i' => some { modes with ignoreCase := value }
  | 'm' => some { modes with multiLine := value }
  | 's' => some { modes with dotAll := value }
  | 'U' => some { modes with swapGreed := value }
  | 'x' => some { modes with verbose := value }
  | 'u' => if value then some modes else none
  | _ => none

/-- Reads inline flags up to `:` or `)`, which is yielded with the modes and what
    follows. `start` is the length of the text at the first of them. -/
def readFlags (start : Nat) : Nat → Modes → Bool → List Char →
    Option (Modes × Char × List Char)
  | 0, _, _, _ => none
  | fuel + 1, modes, value, input => do
    match ← skip modes input with
    | [] => none
    | c :: rest =>
      let read := start - (rest.length + 1)
      if c = ')' then
        if read = 0 ∨ (!value ∧ read = 1) then none else some (modes, c, rest)
      else if c = ':' then
        if !value ∧ read = 1 then none else some (modes, c, rest)
      else if c = '-' then
        if value then readFlags start fuel modes false rest else none
      else readFlags start fuel (← setMode? modes value c) value rest

def openGroup (progress : Progress) : Option Progress :=
  { progress with groups := progress.groups + 1 }.openAs? (.group (progress.groups + 1))

/-- Opens a group with a name; a later group of the same name takes the name over. -/
def openNamed (progress : Progress) (input : List Char) : Option (Progress × List Char) := do
  let (name, rest) ← readName '>' false input
  let index := progress.groups + 1
  let progress ← openGroup progress
  some ({ progress with names := (name, index) :: progress.names }, rest)

def readClose (modes : Modes) (input : List Char) : Option (List Char) := do
  match ← skip modes input with
  | ')' :: rest => some rest
  | _ => none

/-- Reads the condition of a conditional: a reference to a group, or any pattern. -/
def readCondition (progress : Progress) (input : List Char) :
    Option (Progress × List Char) := do
  let reference : Option (Option (Progress × Nat × List Char)) :=
    match input with
    | '\'' :: rest => some (readNamed progress '\'' true rest)
    | '<' :: rest => some (readNamed progress '>' true rest)
    | c :: _ => if c.isDigit then some (readNumbered progress input) else none
    | [] => none
  match reference with
  | some reference =>
    let (progress, index, rest) ← reference
    let rest ← readClose progress.modes rest
    some (← progress.openAs? (.conditional (.backref index) rest.length), rest)
  | none => some (← progress.openAs? .condition, input)

def readGroup (progress : Progress) (input : List Char) : Option (Progress × List Char) := do
  let enter (opening : Opening) (rest : List Char) : Option (Progress × List Char) :=
    (progress.openAs? opening).map fun progress => (progress, rest)
  match ← skip progress.modes input with
  | '?' :: '=' :: rest => enter (.ahead false) rest
  | '?' :: '!' :: rest => enter (.ahead true) rest
  | '?' :: '<' :: '=' :: rest => enter (.behind false) rest
  | '?' :: '<' :: '!' :: rest => enter (.behind true) rest
  | '?' :: '<' :: rest => openNamed progress rest
  | '?' :: 'P' :: '<' :: rest => openNamed progress rest
  | '?' :: 'P' :: '=' :: rest =>
    let _ ← progress.openAs? .atomic
    let (progress, index, rest) ← readNamed progress ')' false rest
    addQuantified progress (.backref index) rest
  | '?' :: '>' :: rest => enter .atomic rest
  | '?' :: '(' :: rest => readCondition progress rest
  | '?' :: rest =>
    let _ ← progress.openAs? .atomic
    let rest ← skip progress.modes rest
    let (modes, stop, rest) ← readFlags rest.length (rest.length + 1) progress.modes true rest
    if stop = ':' then
      some (← ({ progress with modes } : Progress).openAs? (.scoped progress.modes), rest)
    else addQuantified { progress with modes } .empty rest
  | rest => some (← openGroup progress, rest)

/-- The parts of a conditional: its first branch, and all others together. -/
def splitBranches : Tree → Tree × Tree
  | .alt [] => (.empty, .empty)
  | .alt [yes] => (yes, .empty)
  | .alt [yes, no] => (yes, no)
  | .alt (yes :: no) => (yes, .alt no)
  | yes => (yes, .empty)

/-- A conditional, or the condition alone if it has no branches. -/
def conditionalTree (condition inner : Tree) : Tree :=
  let condition := match condition with
    | .backref index => .groupSet index
    | condition => condition
  match splitBranches inner with
  | (.empty, .empty) => condition
  | (yes, no) => .conditional condition yes no

def isBackref : Tree → Bool
  | .backref _ => true
  | _ => false

/-- Closes the innermost group; `input` starts at its closing parenthesis. -/
def closeGroup (progress : Progress) (input rest : List Char) : Option (Progress × List Char) :=
  match progress.enclosing with
  | [] => none
  | outer :: enclosing => do
    let inner ← progress.inner?
    let progress := { progress with enclosing, branches := outer.branches }
    match outer.opening with
    | .group index => addQuantified progress (.group index inner) rest
    | .ahead negated => addQuantified progress (.ahead negated inner) rest
    | .behind negated => addQuantified progress (.behind negated inner) rest
    | .atomic => addQuantified progress (.atomic inner) rest
    | .scoped modes => addQuantified { progress with modes } inner rest
    | .condition => some (← progress.openAs? (.conditional inner rest.length), rest)
    | .conditional condition start =>
      if input.length = start && !isBackref condition then none
      else addQuantified progress (conditionalTree condition inner) rest

def readElement (progress : Progress) : List Char → Option (Progress × List Char)
  | [] => none
  | '.' :: rest => addQuantified progress (.set progress.modes.dot) rest
  | '^' :: rest => addQuantified progress (.look progress.modes.caret) rest
  | '$' :: rest => addQuantified progress (.look progress.modes.dollar) rest
  | '(' :: rest => readGroup progress rest
  | ')' :: rest => closeGroup progress (')' :: rest) rest
  | '|' :: rest => some ({ progress with branches := progress.branches.next }, rest)
  | '\\' :: rest => readEscape progress rest
  | '[' :: rest => do
    let (node, rest) ← readClass progress.modes rest
    addQuantified progress node rest
  | '+' :: _ | '*' :: _ | '?' :: _ => none
  | c :: rest => addQuantified progress (.set (progress.modes.literal c)) rest

/-- Reads a text from left to right, with the open groups kept in a list, innermost first. Inline
    flags set inside a group stay in force after it, unless the group itself names flags. -/
def readElements : Nat → Progress → List Char → Option Progress
  | 0, _, _ => none
  | fuel + 1, progress, input => do
    match ← skip progress.modes input with
    | [] => some progress
    | input =>
      let (progress, rest) ← readElement progress input
      readElements fuel progress rest

/-- A pattern with what is known about its groups and repetitions. -/
structure Reading where
  tree : Tree
  groups : Nat
  loops : Nat
  referenced : List Nat

def read? (text : List Char) : Option Reading := do
  let progress ← readElements (text.length + 1) {} text
  match progress.enclosing with
  | [] =>
    some
      { tree := ← progress.inner?
        groups := progress.groups
        loops := progress.loops
        referenced := progress.referenced }
  | _ => none

end Backtrack

end Patternwork
