import Patternwork.Settings.Basic
import Patternwork.Yaml.Layout
import Patternwork.Yaml.Node

namespace Patternwork.Yaml

namespace Node

/-- The name of an option. Any scalar is one, as it is written. -/
def name : Node → Except Unreadable String
  | scalar _ text _ => .ok text
  | sequence _ => mismatch .sequence .name
  | mapping _ => mismatch .map .name

/-- The value of an option. A tag of the document's own makes it a value of no kind
    that options know. -/
def setting (node : Node) : Except Unreadable Setting :=
  if node.tag?.any Meaning.isLocal then mismatch .tagged .value
  else
    match node with
    | scalar tag text plain => do
      let meaning ← required (Meaning.ofScalar? tag text plain)
      match meaning.setting? with
      | some setting => .ok setting
      | none => mismatch meaning.found .value
    | sequence _ => mismatch .sequence .value
    | mapping _ => mismatch .map .value

end Node

/-- The tokens that can follow an indicator whose key or value is missing. -/
def keyEnds : Node.Site → List Token
  | .flow => [.value, .flowEntry, .flowMappingEnd]
  | _ => [.key, .value, .blockEnd]

@[inherit_doc keyEnds]
def valueEnds : Node.Site → List Token
  | .flow => [.flowEntry, .flowMappingEnd]
  | _ => [.key, .value, .blockEnd]

/-- Reads a key or a value after its indicator; it is missing if one of `ends`
    follows. -/
def readPart (site : Node.Site) (ends : List Token) (references : References)
    (tokens : List Token) : Except Unreadable (Node × References × List Token) :=
  match tokens with
  | [] => .error .malformed
  | token :: _ =>
    if ends.contains token then .ok (.absent, references, tokens)
    else required (Node.read? site references tokens)

def readKey (site : Node.Site) (references : References) (tokens : List Token) :
    Except Unreadable (Node × References × List Token) :=
  readPart site (keyEnds site) references tokens

/-- Reads the value of an entry, which its own indicator begins. -/
def readValue (site : Node.Site) (references : References) (tokens : List Token) :
    Except Unreadable (Node × References × List Token) :=
  match tokens with
  | [] => .error .malformed
  | .value :: rest => readPart site (valueEnds site) references rest
  | tokens => .ok (.absent, references, tokens)

/-- A record read so far, and what remains. -/
structure Progress where
  settings : Settings
  references : References
  tokens : List Token

def readEntry (site : Node.Site) (settings : Settings)
    (key : Node × References × List Token) : Except Unreadable Progress := do
  let (key, references, tokens) := key
  let name ← key.name
  let (value, references, tokens) ← readValue site references tokens
  .ok ⟨settings.set name (← value.setting), references, tokens⟩

/-- Reads the entries of a mapping by indentation; every round takes a token. -/
def readBlockEntries : Nat → Progress → Except Unreadable (Settings × List Token)
  | 0, _ => .error .malformed
  | fuel + 1, ⟨settings, references, tokens⟩ =>
    match tokens with
    | .blockEnd :: rest => .ok (settings, rest)
    | .key :: rest => do
      readBlockEntries fuel (← readEntry .block settings (← readKey .block references rest))
    | _ => .error .malformed

/-- Sets the entry of a key without an indicator, which has no value. -/
def readLoneKey (settings : Settings) (key : Node × References × List Token) :
    Except Unreadable Progress := do
  let (key, references, tokens) := key
  let name ← key.name
  if tokens.isEmpty then .error .malformed
  else .ok ⟨settings.set name (← Node.absent.setting), references, tokens⟩

def readFlowEntry (progress : Progress) : Except Unreadable Progress := do
  let ⟨settings, references, tokens⟩ := progress
  match tokens with
  | .key :: rest => readEntry .flow settings (← readKey .flow references rest)
  | tokens => readLoneKey settings (← required (Node.read? .flow references tokens))

/-- Reads the entries of a mapping in braces; a comma may follow the last one. -/
def readFlowEntries : Nat → Bool → Progress → Except Unreadable (Settings × List Token)
  | 0, _, _ => .error .malformed
  | fuel + 1, first, progress =>
    match progress.tokens, first with
    | .flowMappingEnd :: rest, _ => .ok (progress.settings, rest)
    | .flowEntry :: .flowMappingEnd :: rest, false => .ok (progress.settings, rest)
    | .flowEntry :: rest, false => do
      readFlowEntries fuel false (← readFlowEntry { progress with tokens := rest })
    | _, false => .error .malformed
    | _, true => do readFlowEntries fuel false (← readFlowEntry progress)

def readDirectives (handles : List (String × String)) (versioned : Bool) :
    List Token → Option (List (String × String) × List Token)
  | .version major minor :: rest =>
    if versioned || major != 1 || (minor != 1 && minor != 2) then none
    else readDirectives handles true rest
  | .handle name start :: rest =>
    if (handles.lookup name).isSome then none
    else readDirectives ((name, start) :: handles) versioned rest
  | rest => some (handles, rest)

def readDocumentNode (references : References) (tokens : List Token) :
    Except Unreadable (Node × References × List Token) :=
  match tokens with
  | [] => .error .malformed
  | token :: _ =>
    match token with
    | .version .. | .handle .. | .documentStart | .documentEnd | .streamEnd =>
      .ok (.absent, references, tokens)
    | _ => required (Node.read? .document references tokens)

/-- Reads up to the one node of the first document and takes that. -/
def readFirstNode (tokens : List Token) :
    Except Unreadable (Node × References × List Token) := do
  match tokens with
  | .streamEnd :: _ => .ok (.absent, {}, tokens)
  | .version .. :: _ | .handle .. :: _ | .documentStart :: _ =>
    let (handles, rest) ← required (readDirectives [] false tokens)
    match rest with
    | .documentStart :: rest => readDocumentNode { handles } rest
    | _ => .error .malformed
  | tokens => required (Node.read? .document {} tokens)

def atStreamEnd : List Token → Bool
  | .documentEnd :: rest => atStreamEnd rest
  | [.streamEnd] => true
  | _ => false

/-- What a scalar is that stands where a record was expected. Its tag is passed over
    if it is the document's own. -/
def Node.foundInstead : Node → Except Unreadable Found
  | scalar tag text plain => do .ok (← required (Meaning.ofScalar? tag text plain)).found
  | sequence _ => .ok .sequence
  | mapping _ => .ok .map

/-- Reads the option record that a document consists of. A document with nothing in
    it is an empty record. -/
def readRecord (text : String) : Except Unreadable Settings := do
  let passage ← required (Passage.ofText? text)
  let (node, references, tokens) ← readFirstNode passage.tokens
  let (settings, rest) ←
    match node, tokens with
    | .mapping _, .flowMapping :: rest =>
      readFlowEntries (rest.length + 1) true ⟨.empty, references, rest⟩
    | .mapping _, _ :: rest => readBlockEntries (rest.length + 1) ⟨.empty, references, rest⟩
    | .scalar _ "" true, rest => .ok (.empty, rest)
    | node, _ => do mismatch (← node.foundInstead) .record
  if atStreamEnd rest then .ok settings else .error .malformed

end Patternwork.Yaml
