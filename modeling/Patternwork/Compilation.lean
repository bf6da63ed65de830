import Patternwork.Key
import Patternwork.Negation
import Patternwork.Pattern
import Patternwork.Settings.Effective

namespace Patternwork

/-- A pattern text that did not compile, with all that is known about it. -/
structure CompileFailure where
  /-- The key of the text and the given options. -/
  key : String
  /-- The assembled text. -/
  pattern : String
  flags : String
  /-- The options as given. -/
  given : Option Settings
  /-- The options with the implied ones written in. -/
  effective : Settings
  cause : Rejection
  deriving DecidableEq

/-- Why no pattern is returned. -/
inductive CompileError where
  /-- There was no pattern, or a list where only one pattern is taken. -/
  | invalidInput
  | failure (details : CompileFailure)
  deriving DecidableEq

/-- The text of a rejection. What a reader itself has to say about a text that is no pattern, and
    where in the text, is left out. -/
def Rejection.message : Rejection → String
  | flags letters => "Invalid flags supplied to RegExp constructor '" ++ letters ++ "'"
  | .unreadable => ""

def CompileFailure.message (failure : CompileFailure) : String :=
  "Invalid regular expression: /" ++ failure.pattern ++ "/" ++ failure.flags ++ ": " ++
    failure.cause.message

def CompileError.message : CompileError → String
  | invalidInput => "expected a string"
  | failure details => details.message

namespace Effective

/-- The text between the anchors. -/
def body (effective : Effective) (text : String) : String :=
  if effective.negated then negation text effective.settings else text

/-- The text that is compiled. -/
def assembled (effective : Effective) (text : String) : String :=
  effective.opening ++ "(?:" ++ effective.body text ++ ")" ++ effective.closing

end Effective

/-- Compiles a pattern text under options. Where failures are suppressed, a failure
    yields no pattern. -/
def compileText (text : String) (given : Option Settings) :
    Except CompileError (Option Pattern) :=
  let effective := Settings.resolve given
  let assembled := effective.assembled text
  match Pattern.compile assembled effective.flags with
  | .ok pattern => .ok (some pattern)
  | .error cause =>
    if effective.strictErrors then
      .error
        (.failure
          { key := Key.derive text given
            pattern := assembled
            flags := effective.flags
            given
            effective := effective.settings
            cause })
    else .ok none

end Patternwork
