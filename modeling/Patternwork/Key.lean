import Patternwork.Settings.Names

namespace Patternwork

/-- The letter that tells the kinds of values apart. -/
def Setting.tag : Setting → Char
  | .bool _ => 'b'
  | .int _ => 'i'
  | .float _ => 'f'
  | .text _ => 's'

namespace Key

/-- A text after its length in bytes and a colon. -/
def piece (text : String) : String :=
  toString text.utf8ByteSize ++ ":" ++ text

/-- One option of a key. -/
def entry (name : String) (value : Setting) : String :=
  "; " ++ piece name ++ "=" ++ String.singleton value.tag ++ piece value.display

/-- The options of a key, in record order. -/
def entries : List (String × Setting) → String
  | [] => ""
  | (name, value) :: rest => entry name value ++ entries rest

/-- The key of a pattern text and the options given with it. Every piece of text in it follows its
    own length, so that no piece can be read as something else. -/
def derive (pattern : String) (settings : Option Settings) : String :=
  piece pattern ++ (settings.elim "" fun given => entries given.entries)

end Key

/-- Patterns are stored unless the given options set `cache` to `false`. -/
def Settings.allowsStoring (settings : Option Settings) : Bool :=
  !settings.any (·.isFalse Name.cache)

end Patternwork
