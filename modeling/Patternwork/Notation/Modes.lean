import Patternwork.Regular.Basic

namespace Patternwork

/-- The modes of a pattern text. -/
structure Modes where
  ignoreCase : Bool := false
  multiLine : Bool := false
  dotAll : Bool := false
  /-- Whether quantifiers are lazy unless marked, instead of greedy. -/
  swapGreed : Bool := false
  unicode : Bool := true
  /-- Whether a carriage return ends a line as well. -/
  carriageReturn : Bool := false
  /-- Whether blanks and comments in the pattern text are passed over. -/
  verbose : Bool := false
  deriving DecidableEq, Inhabited, Repr

namespace Modes

def literal (modes : Modes) (c : Char) : CharClass :=
  if modes.ignoreCase then (CharClass.single c).foldCase modes.unicode else CharClass.single c

/-- The characters of a set once case is ignored, if it is. -/
def folded (modes : Modes) (set : CharClass) : CharClass :=
  if modes.ignoreCase then set.foldCase modes.unicode else set

def dot (modes : Modes) : CharClass :=
  if modes.dotAll then .any
  else if modes.carriageReturn then .notLineBreak
  else .notLineFeed

def caret (modes : Modes) : Look :=
  if modes.multiLine then if modes.carriageReturn then .breakStart else .lineStart
  else .textStart

def dollar (modes : Modes) : Look :=
  if modes.multiLine then if modes.carriageReturn then .breakEnd else .lineEnd
  else .textEnd

/-- Passes over blanks, and over comments that run to the end of their line. -/
def skipVerbose (inComment : Bool) : List Char → List Char
  | [] => []
  | c :: rest =>
    if inComment then skipVerbose (c != '\n') rest
    else if c = '#' then skipVerbose true rest
    else if Unicode.isBlank c then skipVerbose false rest
    else c :: rest

/-- Passes over what does not count in the mode that is in force. -/
def skip (modes : Modes) (input : List Char) : List Char :=
  if modes.verbose then skipVerbose false input else input

end Modes

end Patternwork
