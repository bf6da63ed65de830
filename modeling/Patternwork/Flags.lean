namespace Patternwork

/-- A flag, in the order in which flags are shown. -/
inductive Flag where
  | hasIndices
  | global
  | ignoreCase
  | multiLine
  | dotAll
  | unicode
  | unicodeSets
  | sticky
  deriving DecidableEq, Repr

namespace Flag

/-- All flags in the order in which they are shown. -/
def all : List Flag :=
  [hasIndices, global, ignoreCase, multiLine, dotAll, unicode, unicodeSets, sticky]

def letter : Flag → Char
  | hasIndices => 'd'
  | global => 'g'
  | ignoreCase => 'i'
  | multiLine => 'm'
  | dotAll => 's'
  | unicode => 'u'
  | unicodeSets => 'v'
  | sticky => 'y'

def ofLetter? (c : Char) : Option Flag :=
  all.find? fun flag => flag.letter == c

end Flag

/-- A set of flags. -/
structure Flags where
  hasIndices : Bool := false
  global : Bool := false
  ignoreCase : Bool := false
  multiLine : Bool := false
  dotAll : Bool := false
  unicode : Bool := false
  unicodeSets : Bool := false
  sticky : Bool := false
  deriving DecidableEq, Inhabited, Repr

namespace Flags

def has (flags : Flags) : Flag → Bool
  | .hasIndices => flags.hasIndices
  | .global => flags.global
  | .ignoreCase => flags.ignoreCase
  | .multiLine => flags.multiLine
  | .dotAll => flags.dotAll
  | .unicode => flags.unicode
  | .unicodeSets => flags.unicodeSets
  | .sticky => flags.sticky

def insert (flags : Flags) : Flag → Flags
  | .hasIndices => { flags with hasIndices := true }
  | .global => { flags with global := true }
  | .ignoreCase => { flags with ignoreCase := true }
  | .multiLine => { flags with multiLine := true }
  | .dotAll => { flags with dotAll := true }
  | .unicode => { flags with unicode := true }
  | .unicodeSets => { flags with unicodeSets := true }
  | .sticky => { flags with sticky := true }

def ofList (flags : List Flag) : Flags :=
  flags.foldl insert {}

/-- Reads letters into a set; an unknown or repeated letter is refused. -/
def read (flags : Flags) : List Char → Option Flags
  | [] => some flags
  | c :: rest => do
    let flag ← Flag.ofLetter? c
    if flags.has flag then none else (flags.insert flag).read rest

/-- Reads a text of flag letters; `u` and `v` exclude each other. -/
def parse? (letters : String) : Option Flags := do
  let flags ← read {} letters.toList
  if flags.unicode && flags.unicodeSets then none else some flags

/-- The letters of the flags in their fixed order. -/
def letters (flags : Flags) : String :=
  String.ofList ((Flag.all.filter flags.has).map Flag.letter)

/-- The flags that change what a pattern matches. -/
def matching : List Flag := [.ignoreCase, .multiLine, .dotAll]

/-- The inline group that switches the matching flags on, if there are any. -/
def inlineGroup (flags : Flags) : String :=
  match matching.filter flags.has with
  | [] => ""
  | flag :: more => "(?" ++ String.ofList ((flag :: more).map Flag.letter) ++ ")"

end Flags

end Patternwork
