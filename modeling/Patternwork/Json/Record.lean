import Patternwork.Json.Tree
import Patternwork.Loading.Mismatch
import Patternwork.Settings.Basic

namespace Patternwork

open Json

namespace Json

def readSetting (input : List Char) : Except Unreadable (Setting × List Char) :=
  match skipBlanks input with
  | [] => .error .malformed
  | '"' :: rest => required ((readQuoted rest).map fun (s, rest) => (.text s, rest))
  | '[' :: _ => mismatch .sequence .value
  | '\x7b' :: _ => mismatch .map .value
  | c :: rest =>
    if startsNumber c then
      required ((Number.read (c :: rest)).map fun (n, rest) => (n.setting, rest))
    else if c = 'n' then
      if (afterWord? "ull".toList rest).isSome then mismatch .null .value
      else .error .malformed
    else if c = 't' then
      required ((afterWord? "rue".toList rest).map fun rest => (.bool true, rest))
    else if c = 'f' then
      required ((afterWord? "alse".toList rest).map fun rest => (.bool false, rest))
    else .error .malformed

def readEntry (input : List Char) : Except Unreadable ((String × Setting) × List Char) :=
  match input with
  | '"' :: rest => do
    let (name, rest) ← required (readQuoted rest)
    match skipBlanks rest with
    | ':' :: rest =>
      let (value, rest) ← readSetting rest
      .ok ((name, value), rest)
    | _ => .error .malformed
  | _ => .error .malformed

/-- Reads the rest of an object into a record; every entry takes some input. -/
def readEntries : Nat → Bool → Settings → List Char →
    Except Unreadable (Settings × List Char)
  | 0, _, _, _ => .error .malformed
  | fuel + 1, first, settings, input =>
    match skipBlanks input, first with
    | '\x7d' :: rest, _ => .ok (settings, rest)
    | ',' :: rest, false => do
      let (entry, rest) ← readEntry (skipBlanks rest)
      readEntries fuel false (settings.set entry.1 entry.2) rest
    | rest, true => do
      let (entry, rest) ← readEntry rest
      readEntries fuel false (settings.set entry.1 entry.2) rest
    | _, false => .error .malformed

/-- Says what stands where a record was expected; numbers, texts and words are
    read to their end first. -/
def foundAt (input : List Char) : Except Unreadable Found :=
  match input with
  | '[' :: _ => .ok .sequence
  | '\x7b' :: _ => .ok .map
  | input =>
    required ((Tree.readValue 1 1 input).map fun (tree, _) => tree.found)

/-- The result of a reader that has to reach the end of the document. -/
def atEnd {α : Type} (result : α × List Char) : Except Unreadable α :=
  if (skipBlanks result.2).isEmpty then .ok result.1 else .error .malformed

def readRecord (text : String) : Except Unreadable Settings :=
  match skipBlanks text.toList with
  | '\x7b' :: rest => do atEnd (← readEntries (rest.length + 1) true .empty rest)
  | input => do mismatch (← foundAt input) .record

def Tree.setting : Tree → Except Unreadable Setting
  | .bool b => .ok (.bool b)
  | .number n => .ok n.setting
  | .text s => .ok (.text s)
  | tree => mismatch tree.found .value

def Tree.setMembers (settings : Settings) :
    List (String × Tree) → Except Unreadable Settings
  | [] => .ok settings
  | (name, tree) :: rest => do
    let value ← tree.setting
    setMembers (settings.set name value) rest

def Tree.record : Tree → Except Unreadable Settings
  | .object members => setMembers .empty members
  | tree => mismatch tree.found .record

/-- Reads an option record from a document that is read as a whole first, so that a value that no
    option can have is reported only if the document ends well. -/
def readRecordWhole (text : String) : Except Unreadable Settings := do
  (← required (Tree.ofText? text)).record

end Json

def Settings.json (settings : Settings) : String :=
  "\x7b" ++ ",".intercalate (settings.entries.map fun (name, value) =>
    String.ofList (quote name.toList) ++ ":" ++ settingText value) ++ "\x7d"

end Patternwork
