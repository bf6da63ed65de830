import Patternwork.Loading.Mismatch

namespace Patternwork

/-- The formats in which option records are written. -/
inductive Format where
  | json
  | yaml
  deriving DecidableEq, Repr

def Format.name : Format → String
  | json => "JSON"
  | yaml => "YAML"

/-- A step of loading that can fail. -/
inductive LoadStep where
  | readFile (path : String)
  | parseFile (path : String)
  | parse (format : Format)
  deriving DecidableEq, Repr

def LoadStep.message : LoadStep → String
  | readFile path => "Failed to read options file " ++ path
  | parseFile path => "Failed to parse options file " ++ path
  | parse format => "Failed to parse options as " ++ format.name

/-- A failure to load an option record. -/
structure LoadFailure where
  /-- The failing step and the steps it is part of, outermost first. -/
  steps : List LoadStep
  cause : Option Mismatch
  deriving DecidableEq, Repr

namespace LoadFailure

def message (failure : LoadFailure) : String :=
  ": ".intercalate (failure.steps.map LoadStep.message)

def within (step : LoadStep) (failure : LoadFailure) : LoadFailure :=
  { failure with steps := step :: failure.steps }

def ofUnreadable : Unreadable → LoadFailure
  | .malformed => ⟨[], none⟩
  | .mismatch mismatch => ⟨[], some mismatch⟩

end LoadFailure

end Patternwork
