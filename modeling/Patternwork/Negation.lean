import Patternwork.Settings.Names

namespace Patternwork

/-- Loose negation rejects every text that contains a match, strict negation only
    a text that matches as a whole. -/
def Settings.loosensNegation (settings : Settings) : Bool :=
  settings.isTrue Name.contains || settings.isFalse Name.strictNegate

/-- The quantifier that repeats the guarded step. -/
def Settings.negationQuantifier (settings : Settings) : String :=
  (settings.truthyText? Name.endChar).getD "*"

/-- The negation of a pattern text, without anchors. The text that is searched is consumed one
    character at a time, and none may be consumed where the pattern matches. -/
def negation (pattern : String) (settings : Settings) : String :=
  if settings.loosensNegation then
    "(?:(?!(?:" ++ pattern ++ "))." ++ ")" ++ settings.negationQuantifier
  else
    "(?:(?!^(?:" ++ pattern ++ ")$)." ++ ")" ++ settings.negationQuantifier

end Patternwork
