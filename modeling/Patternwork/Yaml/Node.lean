import Patternwork.Yaml.Scalar.Meaning
import Patternwork.Yaml.Token

namespace Patternwork.Yaml

/-- A node, as far as it matters. -/
inductive Node where
  | scalar (tag : Option String) (text : String) (plain : Bool)
  | sequence (tag : Option String)
  | mapping (tag : Option String)
  deriving DecidableEq, Repr

namespace Node

def absent : Node := scalar none "" true

def tag? : Node → Option String
  | scalar tag _ _ | sequence tag | mapping tag => tag

end Node

/-- What the nodes of a document refer to. -/
structure References where
  /-- Handles of tags with what they stand for. -/
  handles : List (String × String) := []
  /-- Nodes by their anchors, the last one first. -/
  anchors : List (String × Node) := []
  deriving DecidableEq, Repr

def References.commonHandles : List (String × String) :=
  [("!", "!"), ("!!", "tag:yaml.org,2002:")]

/-- A tag in full; a tag without a handle is in full already. -/
def References.tag? (references : References) (handle suffix : String) : Option String :=
  if handle.isEmpty then some suffix
  else ((references.handles ++ commonHandles).lookup handle).map (· ++ suffix)

/-- The marks in front of a node. -/
structure Marks where
  anchor : Option String := none
  tag : Option (String × String) := none
  deriving DecidableEq, Repr

/-- Reads an anchor and a tag, at most one of each and in either order. -/
def Marks.read : List Token → Marks × List Token
  | .anchor name :: .tag handle suffix :: rest => (⟨some name, some (handle, suffix)⟩, rest)
  | .tag handle suffix :: .anchor name :: rest => (⟨some name, some (handle, suffix)⟩, rest)
  | .anchor name :: rest => (⟨some name, none⟩, rest)
  | .tag handle suffix :: rest => (⟨none, some (handle, suffix)⟩, rest)
  | rest => ({}, rest)

namespace Node

/-- Where a node stands. -/
inductive Site where
  /-- Alone in a document. -/
  | document
  /-- In a mapping by indentation, where the items of a sequence need none. -/
  | block
  /-- In braces. -/
  | flow
  deriving DecidableEq, Repr

/-- A node after its marks. What follows the first token of a collection is left. -/
def content? (site : Site) (tag : Option String) (isMarked : Bool) :
    List Token → Option (Node × List Token)
  | [] => none
  | token :: rest =>
    match token with
    | .scalar text plain => some (scalar tag text plain, rest)
    | .flowSequence => some (sequence tag, rest)
    | .flowMapping => some (mapping tag, token :: rest)
    | _ =>
      if site = .block ∧ token = .blockEntry then some (sequence tag, rest)
      else if site ≠ .flow ∧ token = .blockSequence then some (sequence tag, rest)
      else if site ≠ .flow ∧ token = .blockMapping then some (mapping tag, token :: rest)
      else if isMarked then some (scalar tag "" true, token :: rest)
      else none

def read? (site : Site) (references : References) :
    List Token → Option (Node × References × List Token)
  | .alias name :: rest => do some (← references.anchors.lookup name, references, rest)
  | tokens => do
    let (marks, rest) := Marks.read tokens
    let tag ← match marks.tag with
      | none => some none
      | some (handle, suffix) => (references.tag? handle suffix).map some
    let (node, rest) ← content? site tag (marks.anchor.isSome || tag.isSome) rest
    let anchors := match marks.anchor with
      | none => references.anchors
      | some name => (name, node) :: references.anchors
    some (node, { references with anchors }, rest)

end Node

end Patternwork.Yaml
