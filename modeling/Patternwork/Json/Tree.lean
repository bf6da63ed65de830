import Patternwork.Json.Number
import Patternwork.Json.Quoted
import Patternwork.Loading.Mismatch

namespace Patternwork.Json

/-- A document. An object keeps its members in the order of the text. -/
inductive Tree where
  | null
  | bool (value : Bool)
  | number (value : Number)
  | text (value : String)
  | array (items : List Tree)
  | object (members : List (String × Tree))

/-- The text of a value of an option. Infinities and NaN have none and are written
    as `null`. -/
def settingText : Setting → String
  | .bool b => if b then "true" else "false"
  | .int n => toString n.toInt
  | .float x => (Number.layout.text? x).getD "null"
  | .text s => String.ofList (quote s.toList)

def skipBlanks : List Char → List Char
  | ' ' :: rest | '\t' :: rest | '\n' :: rest | '\r' :: rest => skipBlanks rest
  | rest => rest

def afterWord? : List Char → List Char → Option (List Char)
  | [], rest => some rest
  | _ :: _, [] => none
  | w :: word, c :: rest => if w = c then afterWord? word rest else none

/-- Puts a member into an object: a name that is present keeps its place. -/
def putMember (name : String) (value : Tree) : List (String × Tree) → List (String × Tree)
  | [] => [(name, value)]
  | member :: rest =>
    if member.1 = name then (name, value) :: rest else member :: putMember name value rest

def startsNumber (c : Char) : Bool := c == '-' || c.isDigit

namespace Tree

mutual

/-- Reads a value that may hold `depth - 1` more levels. -/
def readValue : Nat → Nat → List Char → Option (Tree × List Char)
  | 0, _, _ => none
  | fuel + 1, depth, input =>
    match skipBlanks input with
    | [] => none
    | '"' :: rest => (readQuoted rest).map fun (s, rest) => (text s, rest)
    | '[' :: rest =>
      if depth ≤ 1 then none else readItems fuel (depth - 1) true [] (skipBlanks rest)
    | '\x7b' :: rest =>
      if depth ≤ 1 then none else readMembers fuel (depth - 1) true [] (skipBlanks rest)
    | c :: rest =>
      if startsNumber c then (Number.read (c :: rest)).map fun (n, rest) => (number n, rest)
      else if c = 'n' then (afterWord? "ull".toList rest).map fun rest => (null, rest)
      else if c = 't' then (afterWord? "rue".toList rest).map fun rest => (bool true, rest)
      else if c = 'f' then (afterWord? "alse".toList rest).map fun rest => (bool false, rest)
      else none

def readItems : Nat → Nat → Bool → List Tree → List Char → Option (Tree × List Char)
  | 0, _, _, _, _ => none
  | fuel + 1, depth, first, items, input =>
    match input with
    | ']' :: rest => some (array items.reverse, rest)
    | ',' :: rest =>
      if first then none
      else do
        let (item, rest) ← readValue fuel depth rest
        readItems fuel depth false (item :: items) (skipBlanks rest)
    | rest =>
      if first then do
        let (item, rest) ← readValue fuel depth rest
        readItems fuel depth false (item :: items) (skipBlanks rest)
      else none

def readMembers : Nat → Nat → Bool → List (String × Tree) → List Char →
    Option (Tree × List Char)
  | 0, _, _, _, _ => none
  | fuel + 1, depth, first, members, input =>
    match input, first with
    | '\x7d' :: rest, _ => some (object members, rest)
    | ',' :: rest, false => do
      let (name, value, rest) ← readMember fuel depth (skipBlanks rest)
      readMembers fuel depth false (putMember name value members) (skipBlanks rest)
    | rest, true => do
      let (name, value, rest) ← readMember fuel depth rest
      readMembers fuel depth false (putMember name value members) (skipBlanks rest)
    | _, false => none

def readMember : Nat → Nat → List Char → Option (String × Tree × List Char)
  | 0, _, _ => none
  | fuel + 1, depth, input =>
    match input with
    | '"' :: rest => do
      let (name, rest) ← readQuoted rest
      match skipBlanks rest with
      | ':' :: rest =>
        let (value, rest) ← readValue fuel depth rest
        some (name, value, rest)
      | _ => none
    | _ => none

end

def ofText? (text : String) : Option Tree := do
  let input := text.toList
  let (tree, rest) ← readValue (2 * input.length + 2) 128 input
  if (skipBlanks rest).isEmpty then some tree else none

def found : Tree → Found
  | null => .null
  | bool b => .boolean b
  | number (.integer n) => .integer n
  | number (.double x) => .double ((Number.layout.text? x).getD "null")
  | text s => .text s
  | array _ => .sequence
  | object _ => .map

end Tree

end Patternwork.Json
