import Patternwork.Decimal.Nearest
import Patternwork.Loading.Mismatch
import Patternwork.Unicode.Ranges

namespace Patternwork.Yaml

/-- What a scalar stands for. -/
inductive Meaning where
  | null
  | bool (value : Bool)
  | integer (value : Int)
  | double (value : Float)
  | text (value : String)

namespace Meaning

def isNull (s : String) : Bool :=
  ["null", "Null", "NULL", "~"].contains s

def bool? (s : String) : Option Bool :=
  if ["true", "True", "TRUE"].contains s then some true
  else if ["false", "False", "FALSE"].contains s then some false
  else none

def digit? (base : Nat) (c : Char) : Option Nat :=
  (hexDigit? c).filter (· < base)

def natural? (base : Nat) (digits : List Char) : Option Nat :=
  if digits.isEmpty then none
  else digits.foldlM (fun n c => (n * base + ·) <$> digit? base c) 0

/-- The base that the start of a number names, and its digits. -/
def radix : List Char → Nat × List Char
  | '0' :: 'x' :: digits => (16, digits)
  | '0' :: 'o' :: digits => (8, digits)
  | '0' :: 'b' :: digits => (2, digits)
  | digits => (10, digits)

/-- Splits off a sign; the flag says whether it is a minus. -/
def unsigned : List Char → Bool × List Char
  | '+' :: rest => (false, rest)
  | '-' :: rest => (true, rest)
  | rest => (false, rest)

/-- Digits after a needless zero are a text and no number. -/
def isPadded (digits : List Char) : Bool :=
  match digits with
  | '0' :: _ :: _ => digits.all Char.isDigit
  | _ => false

def integer? (s : String) : Option Int := do
  let (negative, magnitude) := unsigned s.toList
  if isPadded magnitude then none
  else
    let (base, digits) := radix magnitude
    let n ← natural? base digits
    if negative then if n ≤ Nat.pow 2 127 then some (-(n : Int)) else none
    else if n < Nat.pow 2 128 then some n else none

/-- Reads the exponent that may follow the digits of a number, up to its end. An
    exponent beyond all bounds counts as its bound. -/
def exponent? : List Char → Option Int
  | [] => some 0
  | c :: rest =>
    if c = 'e' ∨ c = 'E' then
      let (negative, digits) := unsigned rest
      (natural? 10 digits).map fun n => if negative then -(n : Int) else n
    else none

/-- The magnitude of a decimal number with an optional point and exponent. -/
def decimal? (input : List Char) : Option Float := do
  let whole := input.takeWhile Char.isDigit
  let rest := input.dropWhile Char.isDigit
  let (places, rest) := match rest with
    | '.' :: rest => (rest.takeWhile Char.isDigit, rest.dropWhile Char.isDigit)
    | rest => ([], rest)
  let digits ← natural? 10 (whole ++ places)
  let exponent ← exponent? rest
  Decimal.ofScaled? digits (exponent - places.length)

def double? (s : String) : Option Float :=
  if [".nan", ".NaN", ".NAN"].contains s then some (0.0 / 0.0)
  else
    let (negative, magnitude) := unsigned s.toList
    let value? :=
      if [".inf", ".Inf", ".INF"].contains (String.ofList magnitude) then some (1.0 / 0.0)
      else decimal? magnitude
    value?.map fun x => if negative then -x else x

def ofPlain (s : String) : Meaning :=
  if s.isEmpty || isNull s then null
  else
    match bool? s with
    | some b => bool b
    | none =>
      match integer? s with
      | some n => integer n
      | none =>
        if isPadded (unsigned s.toList).2 then text s
        else (double? s).elim (text s) double

def coreTag (name : String) : String :=
  "tag:yaml.org,2002:" ++ name

def isLocal (tag : String) : Bool :=
  tag.toList.head? == some '!'

/-- What a scalar stands for, unless its tag demands what it is not. -/
def ofScalar? (tag : Option String) (s : String) (plain : Bool) : Option Meaning :=
  match tag with
  | none => some (if plain then ofPlain s else text s)
  | some tag =>
    if tag = coreTag "bool" then (bool? s).map bool
    else if tag = coreTag "int" then (integer? s).map integer
    else if tag = coreTag "float" then (double? s).map double
    else if tag = coreTag "null" then if isNull s then some null else none
    else some (if isLocal tag && plain then ofPlain s else text s)

/-- Whether an integer fits the widths that options can have. -/
def isNarrow (n : Int) : Bool :=
  -(Nat.pow 2 63 : Nat) ≤ n && n < Nat.pow 2 64

/-- The text of a double that stands where it should not. -/
def layout : Decimal.Layout where
  tie := .up
  positional _ := true
  pointZero := true
  signedZero := true

def found : Meaning → Found
  | null => .unit
  | bool b => .boolean b
  | integer n => if isNarrow n then .integer n else .wideInteger n
  | double x =>
    .double <| (layout.text? x).getD <|
      if x.isNaN then "NaN" else if 0.0 < x then "inf" else "-inf"
  | text s => .text s

/-- The value of an option. An integer beyond 63 bits becomes a double. -/
def setting? : Meaning → Option Setting
  | null => none
  | bool b => some (.bool b)
  | integer n => if isNarrow n then some (.ofInteger n) else none
  | double x => some (.float x)
  | text s => some (.text s)

end Meaning

end Patternwork.Yaml
