import Patternwork.Decimal.Layout

namespace Patternwork

/-- The value of one option. -/
inductive Setting where
  | bool (value : Bool)
  | int (value : Int64)
  | float (value : Float)
  | text (value : String)
  deriving DecidableEq, Inhabited

namespace Setting

/-- `false`, zero, NaN and the empty text are falsy, all else is truthy. -/
def truthy : Setting → Bool
  | bool b => b
  | int n => n != 0
  | float x => x != 0.0 && !x.isNaN
  | text s => !s.isEmpty

/-- An integer as a value; one that is too large for 64 bits with a sign becomes a double. -/
def ofInteger (n : Int) : Setting :=
  if n < Nat.pow 2 63 then int (Int64.ofInt n) else float n.toNat.toUInt64.toFloat

def bool? : Setting → Option Bool
  | bool b => some b
  | _ => none

def text? : Setting → Option String
  | text s => some s
  | _ => none

/-- Doubles are shown in full with the fewest digits that read back, without an
    exponent, and zero without a sign. -/
def layout : Decimal.Layout where
  tie := .up
  positional _ := true
  pointZero := false
  signedZero := false

/-- The text of a value, as it stands in keys and in the patterns built from it. -/
def display : Setting → String
  | bool b => if b then "true" else "false"
  | int n => toString n.toInt
  | float x =>
    (layout.text? x).getD <|
      if x.isNaN then "NaN" else if 0.0 < x then "Infinity" else "-Infinity"
  | text s => s

/-- Whether two values are equal as values: a zero equals a zero of the other
    sign, and NaN equals nothing. -/
def same : Setting → Setting → Bool
  | bool a, bool b => a == b
  | int a, int b => a == b
  | float a, float b => a == b
  | text a, text b => a == b
  | _, _ => false

end Setting

end Patternwork
