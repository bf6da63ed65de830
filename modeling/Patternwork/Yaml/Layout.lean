import Patternwork.Yaml.Directive
import Patternwork.Yaml.Scalar.Block
import Patternwork.Yaml.Scalar.Plain

namespace Patternwork.Yaml

/-- A node that is a key if a colon follows it. -/
structure PendingKey where
  line : Nat
  column : Nat
  index : Nat
  /-- Whether nothing but a key can stand in its place. -/
  required : Bool
  /-- The number of tokens before it. -/
  position : Nat
  deriving DecidableEq, Repr

/-- How far the tokens of a document are known. -/
structure Layout where
  rest : Passage
  /-- The tokens so far, last first. -/
  recent : List Token := []
  count : Nat := 0
  /-- The number of open brackets and braces. -/
  depth : Nat := 0
  /-- The indentation of the innermost block collection, or -1 outside all. -/
  indentation : Int := -1
  outer : List Int := []
  /-- Whether a key can begin here. -/
  keyAllowed : Bool := true
  /-- The pending key of the innermost collection. -/
  key : Option PendingKey := none
  outerKeys : List (Option PendingKey) := []

namespace Layout

def push (token : Token) (layout : Layout) : Layout :=
  { layout with recent := token :: layout.recent, count := layout.count + 1 }

def insert (position : Nat) (token : Token) (layout : Layout) : Layout :=
  let later := layout.count - position
  { layout with
    recent := layout.recent.take later ++ token :: layout.recent.drop later
    count := layout.count + 1 }

def released (layout : Layout) : List Token :=
  let kept := (layout.key :: layout.outerKeys).filterMap fun key => key.map PendingKey.position
  (layout.recent.drop (layout.count - kept.foldl min layout.count)).reverse

/-- Opens a block collection at a column that is further in; its token goes to a
    position between earlier tokens. -/
def openBlock (column position : Nat) (token : Token) (layout : Layout) : Layout :=
  if layout.depth = 0 ∧ layout.indentation < column then
    { layout.insert position token with
      indentation := column
      outer := layout.indentation :: layout.outer }
  else layout

/-- Closes the block collections that are further in than a column, up to the given
    outer ones. -/
def closeBlocksTo (column : Int) : List Int → Layout → Layout
  | [], layout => layout
  | enclosing :: outer, layout =>
    if column < layout.indentation then
      closeBlocksTo column outer { layout.push .blockEnd with indentation := enclosing, outer }
    else layout

/-- Closes the block collections that are further in than a column. -/
def closeBlocks (column : Int) (layout : Layout) : Layout :=
  if layout.depth = 0 then closeBlocksTo column layout.outer layout else layout

def abandon : Option PendingKey → Option (Option PendingKey)
  | some key => if key.required then none else some none
  | none => some none

def dropKey (layout : Layout) : Option Layout := do
  some { layout with key := ← abandon layout.key }

def saveKey (place : Placed) (layout : Layout) : Option Layout :=
  if layout.keyAllowed then do
    let layout ← layout.dropKey
    some { layout with
      key := some
        { line := place.line
          column := place.column
          index := place.index
          required := layout.depth == 0 && layout.indentation == place.column
          position := layout.count } }
  else some layout

/-- Gives up a pending key that is too far back: a key stands on one line and has at
    most 1024 characters. -/
def abandonStale (passage : Passage) : Option PendingKey → Option (Option PendingKey)
  | none => some none
  | some key =>
    let isStale := match passage with
      | [] => true
      | q :: _ => key.line < q.line || key.index + 1024 < q.index
    if isStale then abandon (some key) else some (some key)

def dropStale (layout : Layout) : Option Layout := do
  some { layout with
    outerKeys := ← layout.outerKeys.mapM (abandonStale layout.rest)
    key := ← abandonStale layout.rest layout.key }

/-- Passes over blanks, comments and line breaks in front of a token. Outside brackets
    a key can begin on a new line, and a tab is no indentation. Yields whether a key
    can begin. -/
def skipSpacing (inFlow keyAllowed inComment : Bool) : Passage → Bool × Passage
  | [] => (keyAllowed, [])
  | q :: rest =>
    if isBreak q.char then skipSpacing inFlow (keyAllowed || !inFlow) false rest
    else if inComment || q.char == ' ' || (q.char == '\t' && (inFlow || !keyAllowed)) ||
        (q.char == '\ufeff' && q.column == 0) then
      skipSpacing inFlow keyAllowed inComment rest
    else if q.char == '#' then skipSpacing inFlow keyAllowed true rest
    else (keyAllowed, q :: rest)

def take (token : Token) (rest : Passage) (layout : Layout) : Layout :=
  { layout.push token with rest }

def takeOutermost (token : Token) (rest : Passage) (layout : Layout) : Option Layout := do
  let layout ← (layout.closeBlocks (-1)).dropKey
  some { layout.take token rest with keyAllowed := false }

/-- Takes an opening bracket or brace, which may begin a key. -/
def takeOpening (token : Token) (place : Placed) (rest : Passage) (layout : Layout) :
    Option Layout := do
  let layout ← layout.saveKey place
  some { layout.take token rest with
    depth := layout.depth + 1
    keyAllowed := true
    key := none
    outerKeys := layout.key :: layout.outerKeys }

def takeClosing (token : Token) (rest : Passage) (layout : Layout) : Option Layout := do
  let layout ← layout.dropKey
  let layout := { layout.take token rest with keyAllowed := false }
  match layout.outerKeys with
  | [] => some layout
  | key :: outerKeys => some { layout with depth := layout.depth - 1, key, outerKeys }

def takeFlowEntry (rest : Passage) (layout : Layout) : Option Layout := do
  let layout ← layout.dropKey
  some { layout.take .flowEntry rest with keyAllowed := true }

def takeBlockEntry (place : Placed) (rest : Passage) (layout : Layout) : Option Layout :=
  if layout.depth = 0 ∧ !layout.keyAllowed then none
  else do
    let layout ← (layout.openBlock place.column layout.count .blockSequence).dropKey
    some { layout.take .blockEntry rest with keyAllowed := true }

def takeKey (place : Placed) (rest : Passage) (layout : Layout) : Option Layout :=
  if layout.depth = 0 ∧ !layout.keyAllowed then none
  else do
    let layout ← (layout.openBlock place.column layout.count .blockMapping).dropKey
    some { layout.take .key rest with keyAllowed := layout.depth == 0 }

/-- Takes the colon in front of a value. The pending node, if there is one, is now
    known to be a key. -/
def takeValue (place : Placed) (rest : Passage) (layout : Layout) : Option Layout :=
  match layout.key with
  | some key =>
    let layout := (layout.insert key.position .key).openBlock key.column key.position .blockMapping
    some { layout.take .value rest with keyAllowed := false, key := none }
  | none =>
    if layout.depth = 0 ∧ !layout.keyAllowed then none
    else
      let layout := layout.openBlock place.column layout.count .blockMapping
      some { layout.take .value rest with keyAllowed := layout.depth == 0 }

/-- Takes a token that may be a key or stand in front of one. -/
def takeNode (place : Placed) (result : Option (Token × Passage)) (layout : Layout) :
    Option Layout := do
  let layout ← layout.saveKey place
  let (token, rest) ← result
  some { layout.take token rest with keyAllowed := false }

def takeBlockScalar (folds : Bool) (rest : Passage) (layout : Layout) : Option Layout := do
  let layout ← layout.dropKey
  let (text, rest) ← Block.read folds layout.indentation rest
  some { layout.take (.scalar text false) rest with keyAllowed := true }

/-- Takes a scalar without quotes. After a line break a key can begin. -/
def takePlain (place : Placed) (layout : Layout) : Option Layout := do
  let layout ← layout.saveKey place
  let scanned ← Plain.read (layout.depth != 0) (layout.indentation + 1).toNat layout.rest
  some { layout.take (.scalar scanned.text true) scanned.rest with keyAllowed := scanned.endsLine }

/-- Whether a name of an anchor may end before the passage. -/
def endsName (passage : Passage) : Bool :=
  passage.endsWord ||
    passage.starts fun c => ['?', ':', ',', ']', '\x7d', '%', '@', '\x60'].contains c

def readName (token : String → Token) (passage : Passage) : Option (Token × Passage) :=
  let (name, rest) := passage.span isNameChar
  if name.isEmpty || !endsName rest then none else some (token (String.ofList name), rest)

def readQuoted (quote : Quote) (passage : Passage) : Option (Token × Passage) :=
  (quote.read passage).map fun (text, rest) => (.scalar text false, rest)

/-- Characters with a meaning of their own, with which no plain scalar begins. -/
def isIndicator (c : Char) : Bool :=
  "-?:,[]#&*!|>'\"%@".toList.contains c || c == '\x7b' || c == '\x7d' || c == '\x60'

def beginsPlain (inFlow : Bool) (c : Char) (rest : Passage) : Bool :=
  !(isSpacing c || isIndicator c) || (c == '-' && !rest.starts isBlank) ||
    (!inFlow && (c == '?' || c == ':') && !rest.endsWord)

def takeToken (q : Placed) (rest : Passage) (layout : Layout) : Option Layout :=
  let inFlow := layout.depth != 0
  let separate := inFlow || rest.endsWord
  if q.column = 0 ∧ q.char = '%' then do
    let layout ← (layout.closeBlocks (-1)).dropKey
    let (token, rest) ← Directive.read rest
    some { layout.take token rest with keyAllowed := false }
  else if layout.rest.marks '-' then layout.takeOutermost .documentStart (layout.rest.drop 3)
  else if layout.rest.marks '.' then layout.takeOutermost .documentEnd (layout.rest.drop 3)
  else if q.char = '-' ∧ rest.endsWord then layout.takeBlockEntry q rest
  else if q.char = '?' ∧ separate then layout.takeKey q rest
  else if q.char = ':' ∧ separate then layout.takeValue q rest
  else
    match q.char with
    | '[' => layout.takeOpening .flowSequence q rest
    | '\x7b' => layout.takeOpening .flowMapping q rest
    | ']' => layout.takeClosing .flowSequenceEnd rest
    | '\x7d' => layout.takeClosing .flowMappingEnd rest
    | ',' => layout.takeFlowEntry rest
    | '*' => layout.takeNode q (readName .alias rest)
    | '&' => layout.takeNode q (readName .anchor rest)
    | '!' => layout.takeNode q (Tag.read inFlow layout.rest)
    | '\'' => layout.takeNode q (readQuoted .single rest)
    | '"' => layout.takeNode q (readQuoted .double rest)
    | '|' => if inFlow then none else layout.takeBlockScalar false rest
    | '>' => if inFlow then none else layout.takeBlockScalar true rest
    | c => if beginsPlain inFlow c rest then layout.takePlain q else none

/-- Takes the next token; after the last one nothing remains. -/
def next? (layout : Layout) : Option Layout := do
  let (keyAllowed, rest) := skipSpacing (layout.depth != 0) layout.keyAllowed false layout.rest
  let layout ← { layout with keyAllowed, rest }.dropStale
  match rest with
  | [] => layout.takeOutermost .streamEnd []
  | q :: rest => (layout.closeBlocks q.column).takeToken q rest

/-- Takes token after token; every round but the last takes at least one character. -/
def tokens : Nat → Layout → List Token
  | 0, layout => layout.released
  | fuel + 1, layout =>
    match layout.next? >>= dropStale with
    | none => layout.released
    | some after =>
      if after.recent.head? = some .streamEnd then after.released else tokens fuel after

end Layout

/-- The tokens of a document. Where it breaks off, the stream end is missing. -/
def Passage.tokens (passage : Passage) : List Token :=
  Layout.tokens (passage.length + 1) { rest := passage }

end Patternwork.Yaml
