import Patternwork.Compilation

namespace Patternwork

/-- A compiled pattern with its identity: two are the same object exactly when their
    identities are equal. -/
structure Shared where
  identity : Nat
  pattern : Pattern

/-- The one pattern that matches nothing. -/
def Shared.matchNothing : Shared := ⟨0, Pattern.matchNothing⟩

/-- The identities that have not been given away. -/
structure Supply where
  next : Nat := 1
  deriving DecidableEq, Repr

/-- Gives a pattern an identity of its own. -/
def Supply.share (supply : Supply) (pattern : Pattern) : Shared × Supply :=
  (⟨supply.next, pattern⟩, ⟨supply.next + 1⟩)

/-- An element of a list of patterns. -/
inductive Item where
  | text (text : String)
  | compiled (shared : Shared)

/-- The text that an element contributes. -/
def Item.source : Item → String
  | .text written => written
  | .compiled shared => shared.pattern.source

/-- What a pattern is made from. -/
inductive Input where
  | missing
  | text (text : String)
  /-- A compiled pattern, which is returned as it is. -/
  | compiled (shared : Shared)
  | list (items : List Item)

/-- The text of a list: its elements as alternatives, each in a group of its own
    unless `wrap` is off. -/
def Item.join (wrap : Bool) (items : List Item) : String :=
  "|".intercalate (items.map fun item =>
    if wrap then "(?:" ++ item.source ++ ")" else item.source)

/-- Whether the elements of a list are grouped. -/
def Settings.wraps (given : Option Settings) : Bool :=
  !given.any (·.isFalse Name.wrap)

/-- A list as one text; every other input as it is. -/
def Input.joined (given : Option Settings) : Input → Input
  | .list items => .text (Item.join (Settings.wraps given) items)
  | input => input

/-- A store, oldest entry first. It holds each pattern that was compiled for a text and options
    under their key; nothing in it is replaced or dropped. -/
structure Store where
  entries : List (String × Shared) := []

instance : Inhabited Store := ⟨{}⟩

namespace Store

def find? (store : Store) (key : String) : Option Shared :=
  store.entries.lookup key

def contains (store : Store) (key : String) : Bool :=
  (store.find? key).isSome

def size (store : Store) : Nat :=
  store.entries.length

def isEmpty (store : Store) : Bool :=
  store.entries.isEmpty

def insert (store : Store) (key : String) (shared : Shared) : Store :=
  ⟨store.entries ++ [(key, shared)]⟩

end Store

/-- What a call returns, and what it leaves behind. -/
structure Answer where
  result : Except CompileError Shared
  store : Store
  supply : Supply

namespace Store

/-- Notes where a pattern is stored. -/
def annotate (pattern : Pattern) (key : String) (settings : Settings) : Pattern :=
  { pattern with
    metadata := some { stored := true, pattern := pattern.source, settings, key } }

/-- Compiles a text without looking at the store. -/
def makeUnstored (store : Store) (supply : Supply) (text : String) (given : Option Settings) :
    Answer :=
  match compileText text given with
  | .error error => ⟨.error error, store, supply⟩
  | .ok none => ⟨.ok .matchNothing, store, supply⟩
  | .ok (some pattern) =>
    let (shared, supply) := supply.share pattern
    ⟨.ok shared, store, supply⟩

/-- Serves the pattern of a text and options, compiling and storing it at first. -/
def makeStored (store : Store) (supply : Supply) (text : String) (given : Option Settings) :
    Answer :=
  let key := Key.derive text given
  match store.find? key with
  | some shared => ⟨.ok shared, store, supply⟩
  | none =>
    match compileText text given with
    | .error error => ⟨.error error, store, supply⟩
    | .ok none => ⟨.ok .matchNothing, store, supply⟩
    | .ok (some pattern) =>
      let settings := (Settings.resolve given).settings
      let (shared, supply) := supply.share (annotate pattern key settings)
      ⟨.ok shared, store.insert key shared, supply⟩

/-- Makes one pattern; a list is refused. -/
def make (store : Store) (supply : Supply) (input : Input) (given : Option Settings) : Answer :=
  match input with
  | .missing | .list _ => ⟨.error .invalidInput, store, supply⟩
  | .compiled shared => ⟨.ok shared, store, supply⟩
  | .text text =>
    if Settings.allowsStoring given then store.makeStored supply text given
    else store.makeUnstored supply text given

/-- Makes a pattern of any input; a list becomes one alternation. -/
def compile (store : Store) (supply : Supply) (input : Input) (given : Option Settings) :
    Answer :=
  store.make supply (input.joined given) given

/-- Lets a number of callers compile the same input, one after another. -/
def compileTimes (store : Store) (supply : Supply) (input : Input) (given : Option Settings) :
    Nat → List (Except CompileError Shared) × Store × Supply
  | 0 => ([], store, supply)
  | callers + 1 =>
    let answer := store.compile supply input given
    let (results, store, supply) :=
      answer.store.compileTimes answer.supply input given callers
    (answer.result :: results, store, supply)

end Store

/-- Whether all callers were given one and the same object. -/
def Shared.isOne : List (Except CompileError Shared) → Bool
  | [] => false
  | .error _ :: _ => false
  | .ok first :: rest =>
    rest.all fun
      | .ok other => other.identity == first.identity
      | .error _ => false

end Patternwork
