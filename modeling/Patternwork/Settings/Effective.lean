import Patternwork.Settings.Names

namespace Patternwork

/-- The configuration of one compilation. -/
structure Effective where
  /-- The given options with the implied ones written in. -/
  settings : Settings
  /-- Whether the pattern is anchored at the start of the text. -/
  anchoredStart : Bool
  /-- Whether the pattern is anchored at the end of the text. -/
  anchoredEnd : Bool
  flags : String
  /-- Whether the pattern is to be negated. -/
  negated : Bool
  deriving DecidableEq

namespace Settings

/-- Containment drops the anchors, or loosens the negation if there is one. -/
def implyContainment (settings : Settings) : Settings :=
  if settings.isTrue Name.contains then
    if settings.isTrue Name.negate then settings.withStrictNegate false
    else settings.withStrict false
  else settings

/-- A pattern that is not strict has neither anchor. -/
def implyAnchors (settings : Settings) : Settings :=
  if settings.isFalse Name.strict then (settings.withStrictOpen false).withStrictClose false
  else settings

/-- The flag letters asked for, `nocase` included. -/
def flagLetters (settings : Settings) : String :=
  let given := (settings.truthyText? Name.flags).getD ""
  if settings.isTrue Name.nocase && !given.toList.contains 'i' then given.push 'i' else given

/-- A boolean `strictNegate` asks for negation even where `negate` is absent. -/
def asksNegation (settings : Settings) : Bool :=
  settings.isTruthy Name.negate || (settings.bool? Name.strictNegate).isSome

/-- Works out what a record asks for; no record counts as the empty one. -/
def resolve (given : Option Settings) : Effective :=
  let settings := (empty.merge given).implyContainment.implyAnchors
  { settings
    anchoredStart := !settings.isFalse Name.strictOpen
    anchoredEnd := !settings.isFalse Name.strictClose
    flags := settings.flagLetters
    negated := settings.asksNegation }

end Settings

namespace Effective

/-- The text before the pattern. -/
def opening (effective : Effective) : String :=
  if effective.anchoredStart then "^" else ""

/-- The text after the pattern. -/
def closing (effective : Effective) : String :=
  if effective.anchoredEnd then "$" else ""

/-- A pattern that does not compile is an error unless `strictErrors` is exactly
    `false`. -/
def strictErrors (effective : Effective) : Bool :=
  !effective.settings.isFalse Settings.Name.strictErrors

end Effective

end Patternwork
