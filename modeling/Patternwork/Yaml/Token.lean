namespace Patternwork.Yaml

/-- A token of a document. -/
inductive Token where
  | version (major minor : Nat)
  /-- A short handle for the common start of tags. -/
  | handle (name start : String)
  | documentStart
  | documentEnd
  | streamEnd
  /-- A sequence, a mapping or the end of either, by indentation. -/
  | blockSequence
  | blockMapping
  | blockEnd
  /-- The same in brackets and braces. -/
  | flowSequence
  | flowSequenceEnd
  | flowMapping
  | flowMappingEnd
  /-- A comma between brackets or braces. -/
  | flowEntry
  /-- A dash in front of an item. -/
  | blockEntry
  /-- What follows is a key, or the value of one. -/
  | key
  | value
  | alias (name : String)
  | anchor (name : String)
  /-- A tag: what its handle stands for, and a suffix. Without a handle the suffix is
      the whole tag. -/
  | tag (handle suffix : String)
  /-- A scalar; a plain one has no quotes and no block indicator. -/
  | scalar (text : String) (plain : Bool)
  deriving DecidableEq, Repr

end Patternwork.Yaml
