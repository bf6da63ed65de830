import Patternwork.Settings.Basic

namespace Patternwork.Settings

/-- Whether compiled patterns are stored. -/
def Name.cache := "cache"
/-- Whether the pattern may match anywhere in the text. -/
def Name.contains := "contains"
/-- Whether the pattern is to match what it does not match. -/
def Name.negate := "negate"
/-- Whether negation rejects only texts that match as a whole. -/
def Name.strictNegate := "strictNegate"
/-- Whether the pattern is anchored at both ends. -/
def Name.strict := "strict"
def Name.strictOpen := "strictOpen"
def Name.strictClose := "strictClose"
def Name.flags := "flags"
/-- Whether the flags are to include `i`. -/
def Name.nocase := "nocase"
/-- Whether list items are grouped before they are joined. -/
def Name.wrap := "wrap"
/-- Whether a pattern that does not compile is an error. -/
def Name.strictErrors := "strictErrors"
/-- The quantifier that ends a negated pattern. -/
def Name.endChar := "endChar"

def withCache (settings : Settings) (enabled : Bool) : Settings :=
  settings.set Name.cache (.bool enabled)

def withContains (settings : Settings) (enabled : Bool) : Settings :=
  settings.set Name.contains (.bool enabled)

def withNegate (settings : Settings) (enabled : Bool) : Settings :=
  settings.set Name.negate (.bool enabled)

def withStrictNegate (settings : Settings) (enabled : Bool) : Settings :=
  settings.set Name.strictNegate (.bool enabled)

def withStrict (settings : Settings) (enabled : Bool) : Settings :=
  settings.set Name.strict (.bool enabled)

def withStrictOpen (settings : Settings) (enabled : Bool) : Settings :=
  settings.set Name.strictOpen (.bool enabled)

def withStrictClose (settings : Settings) (enabled : Bool) : Settings :=
  settings.set Name.strictClose (.bool enabled)

def withFlags (settings : Settings) (letters : String) : Settings :=
  settings.set Name.flags (.text letters)

def withNocase (settings : Settings) (enabled : Bool) : Settings :=
  settings.set Name.nocase (.bool enabled)

def withWrap (settings : Settings) (enabled : Bool) : Settings :=
  settings.set Name.wrap (.bool enabled)

def withStrictErrors (settings : Settings) (enabled : Bool) : Settings :=
  settings.set Name.strictErrors (.bool enabled)

def withEndChar (settings : Settings) (quantifier : String) : Settings :=
  settings.set Name.endChar (.text quantifier)

end Patternwork.Settings
