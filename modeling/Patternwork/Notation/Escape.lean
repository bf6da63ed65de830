import Patternwork.Notation.Modes
import Patternwork.Unicode.Property

namespace Patternwork

/-- What an escape stands for. -/
inductive Escape where
  | literal (c : Char)
  | members (set : CharClass)
  | look (condition : Look)

namespace Escape

def scalar? (code : Nat) : Option Char :=
  if code < 0xd800 ∨ (0xdfff < code ∧ code < 0x110000) then some (Char.ofNat code) else none

def readHexFixed (modes : Modes) : Nat → Nat → List Char → Option (Nat × List Char)
  | 0, code, rest => some (code, rest)
  | _ + 1, _, [] => none
  | count + 1, code, c :: rest => do
    let d ← hexDigit? c
    readHexFixed modes count (code * 16 + d) (modes.skip rest)

/-- Reads hexadecimal digits up to a closing brace; at least one is needed. -/
def readHexBraced (modes : Modes) : Nat → Nat → Nat → List Char → Option (Nat × List Char)
  | fuel + 1, count, code, c :: rest =>
    if c = '\x7d' then if count = 0 then none else some (code, modes.skip rest)
    else do
      let d ← hexDigit? c
      readHexBraced modes fuel (count + 1) (min (code * 16 + d) 0x110000) (modes.skip rest)
  | _, _, _, _ => none

/-- Reads what follows `\x`, `\u` or `\U`; yields the code point and whether it was
    given without braces. -/
def readHex (modes : Modes) (count : Nat) (input : List Char) :
    Option (Nat × Bool × List Char) :=
  match modes.skip input with
  | '\x7b' :: rest =>
    (readHexBraced modes (rest.length + 1) 0 0 (modes.skip rest)).map fun (code, rest) =>
      (code, false, rest)
  | rest => (readHexFixed modes count 0 rest).map fun (code, rest) => (code, true, rest)

/-- Reads the rest of a property name up to a closing brace. -/
def readPropertyName (modes : Modes) : Nat → List Char → List Char →
    Option (List Char × List Char)
  | fuel + 1, name, c :: rest =>
    if c = '\x7d' then some (name.reverse, rest)
    else readPropertyName modes fuel (c :: name) (modes.skip rest)
  | _, _, _ => none

/-- Splits a property name at its first `!=`, else at its first `:`, else at its
    first `=`. -/
def splitProperty (name : List Char) : List Char × Option (List Char) :=
  match cutAt "!=".toList [] name with
  | some parts => (parts.1, some parts.2)
  | none =>
    match cutAt [':'] [] name with
    | some parts => (parts.1, some parts.2)
    | none =>
      match cutAt ['='] [] name with
      | some parts => (parts.1, some parts.2)
      | none => (name, none)
where
  /-- The parts before and after the first occurrence of `mark`. -/
  cutAt (mark read : List Char) : List Char → Option (List Char × List Char)
    | [] => none
    | c :: rest =>
      if mark.isPrefixOf (c :: rest) then
        some (read.reverse, (c :: rest).drop mark.length)
      else cutAt mark (c :: read) rest

def propertyRanges? (name : List Char) : Option Unicode.Ranges :=
  match splitProperty name with
  | (name, none) => Unicode.named? (String.ofList name)
  | (name, some value) => Unicode.valued? (String.ofList name) (String.ofList value)

def readProperty (modes : Modes) (negated : Bool) (input : List Char) :
    Option (Escape × List Char) := do
  let (ranges, rest) ←
    match modes.skip input with
    | '\x7b' :: rest => do
      let (name, rest) ← readPropertyName modes (rest.length + 1) [] (modes.skip rest)
      some (← propertyRanges? name, rest)
    | '\\' :: _ => none
    | c :: rest => some (← Unicode.categoryNamed? (Unicode.lookupName (String.singleton c)),
        modes.skip rest)
    | [] => none
  if modes.unicode then
    let set := modes.folded (.table ranges)
    some (members (if negated then .compl set else set), rest)
  else none

/-- The set of `\d`, `\s`, `\w` and their complements. A complement needs Unicode
    mode, where it holds whole characters. -/
def classLetter? (modes : Modes) (c : Char) : Option CharClass :=
  let positive? (c : Char) : Option CharClass :=
    match c with
    | 'd' => some (if modes.unicode then .digit else .asciiDigit)
    | 's' => some (if modes.unicode then .blank else .asciiBlank)
    | 'w' => some (if modes.unicode then .word else .asciiWord)
    | _ => none
  match c with
  | 'D' | 'S' | 'W' =>
    if modes.unicode then (positive? c.toLower).map CharClass.compl else none
  | c => positive? c

def isEdgeLetter (c : Char) : Bool := c.isAlpha || c == '-'

def readEdgeName (modes : Modes) : Nat → List Char → List Char → List Char × List Char
  | fuel + 1, name, c :: rest =>
    if isEdgeLetter c then readEdgeName modes fuel (c :: name) (modes.skip rest)
    else (name.reverse, c :: rest)
  | _, name, rest => (name.reverse, rest)

def edgeNamed? (name : String) : Option WordEdge :=
  match name with
  | "start" => some .start
  | "end" => some .stop
  | "start-half" => some .halfStart
  | "end-half" => some .halfStop
  | _ => none

/-- Reads what follows `\b`: the name of an edge in braces, or nothing. Braces that
    do not start with a letter are left for a quantifier. -/
def readEdge (modes : Modes) (input : List Char) : Option (WordEdge × List Char) :=
  match input with
  | '\x7b' :: rest =>
    match modes.skip rest with
    | [] => none
    | c :: after =>
      if isEdgeLetter c then
        match readEdgeName modes (after.length + 2) [] (c :: after) with
        | (name, '\x7d' :: rest) => (edgeNamed? (String.ofList name)).map fun edge => (edge, rest)
        | _ => none
      else some (.boundary, input)
  | _ => some (.boundary, input)

/-- The characters that mean something in a pattern text. -/
def metaCharacters : List Char :=
  "\\.+*?()|[]\x7b\x7d^$#&-~".toList

/-- Whether a backslash in front of `c` is allowed and changes nothing. -/
def isPlainAfterBackslash (c : Char) : Bool :=
  metaCharacters.contains c ||
    (c.toNat < 0x80 && !c.isAlphanum && c != '<' && c != '>')

def read (modes : Modes) : List Char → Option (Escape × List Char)
  | [] => none
  | c :: rest =>
    let edge (edge : WordEdge) : Escape := look (.word edge !modes.unicode)
    let hex (count : Nat) : Option (Escape × List Char) := do
      let (code, fixed, rest) ← readHex modes count rest
      let value ← scalar? code
      if !modes.unicode && fixed && count == 2 && 0x7f < code then none
      else some (literal value, rest)
    match c with
    | 'x' => hex 2
    | 'u' => hex 4
    | 'U' => hex 8
    | 'p' => readProperty modes false rest
    | 'P' => readProperty modes true rest
    | 'd' | 's' | 'w' | 'D' | 'S' | 'W' =>
      (classLetter? modes c).map fun set => (members set, rest)
    | 'a' => some (literal '\x07', rest)
    | 'f' => some (literal '\x0c', rest)
    | 't' => some (literal '\t', rest)
    | 'n' => some (literal '\n', rest)
    | 'r' => some (literal '\r', rest)
    | 'v' => some (literal '\x0b', rest)
    | 'A' => some (look .textStart, rest)
    | 'z' => some (look .textEnd, rest)
    | 'b' => (readEdge modes rest).map fun (kind, rest) => (edge kind, rest)
    | 'B' => some (edge .interior, rest)
    | '<' => some (edge .start, rest)
    | '>' => some (edge .stop, rest)
    | c => if isPlainAfterBackslash c then some (literal c, rest) else none

end Escape

end Patternwork
