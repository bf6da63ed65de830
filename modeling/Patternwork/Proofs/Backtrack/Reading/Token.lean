import Patternwork.Proofs.Backtrack.Reading.Lexeme

namespace Patternwork.Backtrack

variable {modes : Modes} {progress next : Progress} {input rest : List Char}

/-- A part that has no parts of its own. -/
inductive Leaf where
  | set (chosen : CharClass)
  | look (condition : Look)
  | keepOut
  | searchStart

def Leaf.tree : Leaf → Tree
  | set chosen => .set chosen
  | look condition => .look condition
  | keepOut => .keepOut
  | searchStart => .searchStart

/-- What a pattern calls a group that it refers to. -/
inductive Target where
  | named (name : List Char)
  | numbered (index : Nat)

/-- What opens a group that has no number. -/
inductive Mark where
  | ahead (negated : Bool)
  | behind (negated : Bool)
  | atomic
  | condition

def Mark.opening : Mark → Opening
  | ahead negated => .ahead negated
  | behind negated => .behind negated
  | atomic => .atomic
  | condition => .condition

/-- What an element that closes no group adds to what has been read, with the quantifier after
    it. -/
inductive Token where
  | leaf (a : Leaf) (repetition : Option Quantifier)
  | reference (target : Target) (repetition : Option Quantifier)
  /-- A reference that is written like a group, for which there must be room. -/
  | groupReference (name : List Char) (repetition : Option Quantifier)
  | opening (mark : Mark)
  | group (name? : Option (List Char))
  /-- A group that has modes of its own. -/
  | scoped (modes : Modes)
  /-- Modes for all that follows. -/
  | switch (modes : Modes) (repetition : Option Quantifier)
  /-- A conditional that tests a group. -/
  | tested (target : Target)
  | bar

/-- Adds a part with its quantifier. -/
def Progress.addRepeated? (progress : Progress) (a : Tree) : Option Quantifier → Option Progress
  | none => some (progress.add a)
  | some quantifier =>
    if isRepeatable a then
      let node := Tree.rep progress.loops quantifier.least quantifier.greatest quantifier.greedy a
      some (({ progress with loops := progress.loops + 1 } : Progress).add
        (if quantifier.atomic then .atomic node else node))
    else none

/-- The group that is referred to, with the reference noted. -/
def Target.find? (progress : Progress) : Target → Option (Progress × Nat)
  | named name =>
    (progress.groupNamed? name).bind fun index =>
      (progress.refer? index).map fun noted => (noted, index)
  | numbered index =>
    (progress.refer? index).map fun noted => ({ noted with numbered := true }, index)

/-- Opens a group with the next number. -/
def Progress.openNumbered? (progress : Progress) (name? : Option (List Char)) : Option Progress :=
  ({ progress with
      groups := progress.groups + 1
      names := (name?.map fun name => (name, progress.groups + 1)).toList ++ progress.names } :
    Progress).openAs? (.group (progress.groups + 1))

/-- Adds what a group holds, by what has opened it. The text is `before` characters long from the
    parenthesis on, and `after` characters from the next element on. -/
def Progress.close? (progress : Progress) (inner : Tree) (before after : Nat)
    (repetition : Option Quantifier) : Opening → Option Progress
  | .group index => progress.addRepeated? (.group index inner) repetition
  | .ahead negated => progress.addRepeated? (.ahead negated inner) repetition
  | .behind negated => progress.addRepeated? (.behind negated inner) repetition
  | .atomic => progress.addRepeated? (.atomic inner) repetition
  | .scoped modes => ({ progress with modes } : Progress).addRepeated? inner repetition
  | .condition => progress.openAs? (.conditional inner after)
  | .conditional tested start =>
    if before = start && !isBackref tested then none
    else progress.addRepeated? (conditionalTree tested inner) repetition

/-- Closes the innermost group. -/
def Progress.closeGroup? (progress : Progress) (before after : Nat)
    (repetition : Option Quantifier) : Option Progress :=
  match progress.enclosing with
  | [] => none
  | outer :: enclosing =>
    progress.inner?.bind fun inner =>
      ({ progress with enclosing, branches := outer.branches } : Progress).close? inner before after
        repetition outer.opening

/-- What has been read with a token that leaves `after` characters of the text. -/
def Token.act? (progress : Progress) (after : Nat) : Token → Option Progress
  | leaf a repetition => progress.addRepeated? a.tree repetition
  | reference target repetition =>
    (target.find? progress).bind fun found => found.1.addRepeated? (.backref found.2) repetition
  | groupReference name repetition =>
    (progress.openAs? .atomic).bind fun _ =>
      ((Target.named name).find? progress).bind fun found =>
        found.1.addRepeated? (.backref found.2) repetition
  | opening mark => progress.openAs? mark.opening
  | group name? => progress.openNumbered? name?
  | «scoped» modes => ({ progress with modes } : Progress).openAs? (.scoped progress.modes)
  | switch modes repetition =>
    (progress.openAs? .atomic).bind fun _ =>
      ({ progress with modes } : Progress).addRepeated? .empty repetition
  | tested target =>
    (target.find? progress).bind fun found =>
      found.1.openAs? (.conditional (.backref found.2) after)
  | bar => some { progress with branches := progress.branches.next }

/-- An element: a token, or the parenthesis that closes a group. -/
inductive Element where
  | token (token : Token)
  | close (repetition : Option Quantifier)

/-- What has been read with an element at which the text is `before` characters long, and which
    leaves `after` characters of it. -/
def Element.act? (progress : Progress) (before after : Nat) : Element → Option Progress
  | token found => found.act? progress after
  | close repetition => progress.closeGroup? before after repetition

/-- Reads a quantifier after an element. -/
def scanRepeated (modes : Modes) (token : Option Quantifier → Token) (rest : List Char) :
    Option (Token × List Char) :=
  (readRepetition modes rest).map fun read => (token read.1, read.2)

/-- What an escape stands for, as a part. -/
def Atom.leaf? (modes : Modes) : Atom → Option Leaf
  | .literal c foldable => some (.set (if foldable then modes.literal c else .single c))
  | .members text foldable => (members? modes foldable text).map .set
  | .look condition => some (.look condition)
  | .keepOut => some .keepOut
  | .searchStart => some .searchStart

/-- An escape that is not a reference. -/
def scanAtom (modes : Modes) (input : List Char) : Option (Token × List Char) :=
  ((readAtom false input).bind fun read => (read.1.leaf? modes).map fun a => (a, read.2)).bind
    fun read => scanRepeated modes (.leaf read.1) read.2

/-- A name between quotes or angles. -/
def readQuoted : Scan (List Char)
  | '\'' :: rest => readName '\'' true rest
  | '<' :: rest => readName '>' true rest
  | _ => none

/-- A reference by name, or another escape. -/
def scanLetter (modes : Modes) : Scan Token
  | 'k' :: rest =>
    (readQuoted rest).bind fun read => scanRepeated modes (.reference (.named read.1)) read.2
  | input => scanAtom modes input

/-- What comes after a backslash. -/
def scanEscape (modes : Modes) (input : List Char) : Option (Token × List Char) :=
  if input.head?.any Char.isDigit then
    (readNumber input).bind fun read => scanRepeated modes (.reference (.numbered read.1)) read.2
  else scanLetter modes input

/-- The parenthesis after a reference that is tested. -/
def closeTested (target : Target) : Scan Token
  | ')' :: rest => some (.tested target, rest)
  | _ => none

def scanTested (modes : Modes) (target : Target) (input : List Char) :
    Option (Token × List Char) :=
  (skip modes input).bind (closeTested target)

/-- What comes after the parenthesis that opens a condition. -/
def scanCondition (modes : Modes) (input : List Char) : Option (Token × List Char) :=
  if input.head?.any fun c => c = '\'' ∨ c = '<' then
    (readQuoted input).bind fun read => scanTested modes (.named read.1) read.2
  else if input.head?.any Char.isDigit then
    (readNumber input).bind fun read => scanTested modes (.numbered read.1) read.2
  else some (.opening .condition, input)

/-- The name of a group, up to an angle. -/
def scanNamed (input : List Char) : Option (Token × List Char) :=
  (readName '>' false input).map fun read => (.group (some read.1), read.2)

/-- What comes after an angle: a look-behind, or the name of a group. -/
def scanAngle : Scan Token
  | [] => none
  | c :: rest =>
    if c = '=' ∨ c = '!' then some (.opening (.behind (c == '!')), rest) else scanNamed (c :: rest)

/-- What comes after the letter that sets names apart. -/
def scanNaming (modes : Modes) : Scan Token
  | '<' :: rest => scanNamed rest
  | '=' :: rest =>
    (readName ')' false rest).bind fun read => scanRepeated modes (.groupReference read.1) read.2
  | _ => none

/-- What flags ask for: a group, or other modes for all that follows. -/
def switchToken (found : Modes × Char) : Scan Token :=
  if found.2 = ':' then fun rest => some (.scoped found.1, rest)
  else scanRepeated found.1 (.switch found.1)

def scanSwitch (modes : Modes) (input : List Char) : Option (Token × List Char) :=
  (scanFlags modes input).bind fun read => switchToken read.1 read.2

/-- The characters after a parenthesis and a question mark that begin no flags. -/
def marks : List Char := ['=', '!', '<', 'P', '>', '(']

def scanMark (modes : Modes) : Char → Scan Token
  | '=' => fun rest => some (.opening (.ahead false), rest)
  | '!' => fun rest => some (.opening (.ahead true), rest)
  | '<' => scanAngle
  | 'P' => scanNaming modes
  | '>' => fun rest => some (.opening .atomic, rest)
  | '(' => scanCondition modes
  | _ => fun _ => none

/-- What comes after a parenthesis and a question mark. -/
def scanMarked (modes : Modes) : Scan Token
  | [] => none
  | c :: rest => if marks.contains c then scanMark modes c rest else scanSwitch modes (c :: rest)

/-- What comes after a parenthesis. -/
def scanGroup (modes : Modes) : Scan Token
  | '?' :: rest => scanMarked modes rest
  | input => some (.group none, input)

/-- The quantifier after a group, by what has opened it. The modes go back to those around it
    before, and none follows a condition. -/
def readAfter (modes : Modes) : Option Opening → Scan (Option Quantifier)
  | some (.scoped outer) => readRepetition outer
  | some .condition => fun input => some (none, input)
  | _ => readRepetition modes

/-- What comes after the first character of a token. -/
def scanToken (modes : Modes) : Char → Scan Token
  | '.' => scanRepeated modes (.leaf (.set modes.dot))
  | '^' => scanRepeated modes (.leaf (.look modes.caret))
  | '$' => scanRepeated modes (.leaf (.look modes.dollar))
  | '(' => fun rest => (skip modes rest).bind (scanGroup modes)
  | '|' => fun rest => some (.bar, rest)
  | '\\' => scanEscape modes
  | '[' => fun rest =>
    (readSet modes rest).bind fun read => scanRepeated modes (.leaf (.set read.1)) read.2
  | '+' | '*' | '?' => fun _ => none
  | c => scanRepeated modes (.leaf (.set (modes.literal c)))

/-- An element, inside a group that has been opened in some way. -/
def scanElement (modes : Modes) (innermost : Option Opening) : Scan Element
  | [] => none
  | c :: rest =>
    if c = ')' then (readAfter modes innermost rest).map fun read => (.close read.1, read.2)
    else (scanToken modes c rest).map fun read => (.token read.1, read.2)

section Lexemes

variable {tails : Tails} (htails : Respected tails)

theorem lexeme_readQuoted : Lexeme tails readQuoted := by
  refine .cons rfl fun c => ?_
  by_cases hquote : c = '\''
  · subst hquote
    exact lexeme_readName '\'' true
  · by_cases hangle : c = '<'
    · subst hangle
      exact lexeme_readName '>' true
    · exact Lexeme.fail.congr fun rest => by simp [readQuoted, hquote, hangle]

theorem lexeme_scanNamed : Lexeme tails scanNamed :=
  (lexeme_readName '>' false).map fun name => Token.group (some name)

theorem lexeme_scanAngle : Lexeme tails scanAngle := by
  have hpresent (c : Char) : Lexeme tails fun rest =>
      some (Token.opening (.behind (c == '!')), rest) := .pure _
  refine .peek (fun c => c = '=' ∨ c = '!') (by decide) hpresent lexeme_scanNamed
    (fun c rest hc => ?_) fun input hmark => ?_
  · rw [scanAngle, if_pos (by simpa using hc)]
  · cases input with
    | nil => rfl
    | cons c rest => rw [scanAngle, if_neg (by simpa using hmark)]

include htails

theorem lexeme_scanRepeated (modes : Modes) (token : Option Quantifier → Token) :
    Lexeme tails (scanRepeated modes token) := (lexeme_readRepetition htails modes).map token

theorem lexeme_scanAtom (modes : Modes) : Lexeme tails (scanAtom modes) :=
  ((lexeme_readAtom false).bind? (Atom.leaf? modes)).bind fun a =>
    lexeme_scanRepeated htails modes (.leaf a)

theorem lexeme_scanLetter (modes : Modes) : Lexeme tails (scanLetter modes) := by
  refine .peek (· == 'k') rfl
    (fun _ => lexeme_readQuoted.bind fun name =>
      lexeme_scanRepeated htails modes (.reference (.named name)))
    (lexeme_scanAtom htails modes) (fun c rest hc => ?_) fun input hletter => ?_
  · obtain rfl := beq_iff_eq.mp hc
    rfl
  · unfold scanLetter
    split
    · simp at hletter
    · rfl

theorem lexeme_scanEscape (modes : Modes) : Lexeme tails (scanEscape modes) :=
  .branch Char.isDigit rfl
    (lexeme_readNumber.bind fun index =>
      lexeme_scanRepeated htails modes (.reference (.numbered index)))
    (lexeme_scanLetter htails modes)

theorem lexeme_scanTested (modes : Modes) (target : Target) :
    Lexeme tails (scanTested modes target) := by
  refine htails.skip_then modes (.cons rfl fun c => ?_)
  by_cases hclose : c = ')'
  · subst hclose
    exact .pure (Token.tested target)
  · exact Lexeme.fail.congr fun rest => by simp [closeTested, hclose]

theorem lexeme_scanCondition (modes : Modes) : Lexeme tails (scanCondition modes) :=
  .branch _ (by decide)
    (lexeme_readQuoted.bind fun name => lexeme_scanTested htails modes (.named name))
    (.branch Char.isDigit rfl
      (lexeme_readNumber.bind fun index => lexeme_scanTested htails modes (.numbered index))
      (.pure _))

theorem lexeme_scanNaming (modes : Modes) : Lexeme tails (scanNaming modes) := by
  refine .cons rfl fun c => ?_
  by_cases hangle : c = '<'
  · subst hangle
    exact lexeme_scanNamed
  · by_cases hequal : c = '='
    · subst hequal
      exact (lexeme_readName ')' false).bind fun name =>
        lexeme_scanRepeated htails modes (.groupReference name)
    · exact Lexeme.fail.congr fun rest => by simp [scanNaming, hangle, hequal]

theorem lexeme_scanSwitch (modes : Modes) : Lexeme tails (scanSwitch modes) := by
  have hswitch (found : Modes × Char) : Lexeme tails (switchToken found) := by
    unfold switchToken
    split_ifs
    · exact .pure _
    · exact lexeme_scanRepeated htails _ _
  exact (lexeme_scanFlags htails modes).bind hswitch

theorem lexeme_scanMark (modes : Modes) (c : Char) : Lexeme tails (scanMark modes c) := by
  unfold scanMark
  split
  case h_3 => exact lexeme_scanAngle
  case h_4 => exact lexeme_scanNaming htails modes
  case h_6 => exact lexeme_scanCondition htails modes
  case h_7 => exact .fail
  all_goals exact .pure _

theorem lexeme_scanMarked (modes : Modes) : Lexeme tails (scanMarked modes) := by
  refine .peek marks.contains (by decide) (lexeme_scanMark htails modes)
    (lexeme_scanSwitch htails modes)
    (fun c rest hc => if_pos hc) fun input hmark => ?_
  cases input with
  | nil => rfl
  | cons c rest => exact if_neg (by simpa using hmark)

theorem lexeme_scanGroup (modes : Modes) : Lexeme tails (scanGroup modes) := by
  refine .peek (· == '?') rfl (fun _ => lexeme_scanMarked htails modes) (.pure (.group none))
    (fun c rest hc => ?_) fun input hmark => ?_
  · obtain rfl := beq_iff_eq.mp hc
    rfl
  · unfold scanGroup
    split
    · simp at hmark
    · rfl

theorem lexeme_readAfter (modes : Modes) (innermost : Option Opening) :
    Lexeme tails (readAfter modes innermost) := by
  unfold readAfter
  split
  · exact lexeme_readRepetition htails _
  · exact .pure none
  · exact lexeme_readRepetition htails _

theorem lexeme_scanToken (modes : Modes) (c : Char) : Lexeme tails (scanToken modes c) := by
  unfold scanToken
  split
  case h_4 => exact htails.skip_then modes (lexeme_scanGroup htails modes)
  case h_5 => exact .pure _
  case h_6 => exact lexeme_scanEscape htails modes
  case h_7 =>
    exact (lexeme_readSet modes).bind fun set => lexeme_scanRepeated htails modes (.leaf (.set set))
  case h_8 | h_9 | h_10 => exact .fail
  all_goals exact lexeme_scanRepeated htails modes _

theorem lexeme_scanElement (modes : Modes) (innermost : Option Opening) :
    Lexeme tails (scanElement modes innermost) := by
  refine .cons rfl fun c => ?_
  by_cases hclose : c = ')'
  · refine ((lexeme_readAfter htails modes innermost).map Element.close).congr fun rest => ?_
    exact if_pos hclose
  · refine ((lexeme_scanToken htails modes c).map Element.token).congr fun rest => ?_
    exact if_neg hclose

end Lexemes

end Patternwork.Backtrack
