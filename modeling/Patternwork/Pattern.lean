import Patternwork.Backtrack.Build
import Patternwork.Flags
import Patternwork.Regular.Reach
import Patternwork.Regular.Reader
import Patternwork.Settings.Basic

namespace Patternwork

/-- How a pattern is matched. -/
inductive Matcher where
  | regular (a : Regular)
  | backtracking (plan : Backtrack.Plan)

namespace Matcher

/-- Reads a pattern text by the notation of regular expressions; only a text that is none is read
    by the one with look-around. -/
def ofText? (text : String) : Option Matcher :=
  match Regular.parse? text.toList with
  | some a => some (.regular a)
  | none => (Backtrack.Plan.parse? text.toList).map .backtracking

def outcome (text : Haystack) : Matcher → Backtrack.Outcome
  | regular a => if a.isMatch text then .matched else .unmatched
  | backtracking plan => plan.outcome text

end Matcher

/-- Why a pattern is rejected. -/
inductive Rejection where
  /-- Flag letters that are unknown, repeated or exclude each other. -/
  | flags (letters : String)
  /-- A text that neither notation accepts, for whatever reason. -/
  | unreadable
  deriving DecidableEq, Repr

/-- What is noted about a pattern that is stored. -/
structure Metadata where
  /-- Whether the pattern is stored. -/
  stored : Bool
  /-- The text of the pattern, anchors and negation included. -/
  pattern : String
  /-- The options with the implied ones written in. -/
  settings : Settings
  /-- The key under which the pattern is stored. -/
  key : String
  deriving DecidableEq

/-- A compiled pattern. -/
structure Pattern where
  source : String
  flags : Flags
  matcher : Matcher
  metadata : Option Metadata := none

namespace Pattern

/-- Compiles a text under a set of flags. -/
def ofFlags (source : String) (flags : Flags) : Except Rejection Pattern :=
  match Matcher.ofText? (flags.inlineGroup ++ source) with
  | some matcher => .ok { source, flags, matcher }
  | none => .error .unreadable

/-- Compiles a text under flags given by their letters. -/
def compile (source letters : String) : Except Rejection Pattern :=
  match Flags.parse? letters with
  | some flags => ofFlags source flags
  | none => .error (.flags letters)

/-- The pattern that matches no text: no character comes before the start. -/
def matchNothing : Pattern where
  source := ".^"
  flags := {}
  matcher := .regular (.seq (.set .notLineFeed) (.look .textStart))

/-- Whether matching goes by the notation with look-around. -/
def isBacktracking (pattern : Pattern) : Bool :=
  match pattern.matcher with
  | .regular _ => false
  | .backtracking _ => true

/-- Whether the pattern is stored. -/
def isStored (pattern : Pattern) : Bool :=
  pattern.metadata.any Metadata.stored

/-- How the search of a text ends. -/
def outcome (pattern : Pattern) (text : String) : Backtrack.Outcome :=
  pattern.matcher.outcome text.toList.toArray

/-- Whether the pattern matches anywhere in a text; an attempt that is given up does
    not count. -/
def isMatch (pattern : Pattern) (text : String) : Bool :=
  pattern.outcome text == .matched

/-- The pattern between slashes, and its flags. -/
def display (pattern : Pattern) : String :=
  "/" ++ pattern.source ++ "/" ++ pattern.flags.letters

end Pattern

end Patternwork
