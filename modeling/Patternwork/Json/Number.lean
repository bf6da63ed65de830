import Patternwork.Setting

namespace Patternwork.Json

/-- A number of a document. -/
inductive Number where
  | integer (value : Int)
  | double (value : Float)

namespace Number

def setting : Number → Setting
  | integer n => .ofInteger n
  | double x => .float x

def powerOfTen (exponent : Nat) : Float :=
  Float.ofScientific 1 false exponent

/-- Scales by negative powers of ten; numbers below the range of doubles become
    zero after a few steps. -/
def shrink : Nat → Float → Nat → Float
  | 0, x, _ => x
  | fuel + 1, x, exponent =>
    if exponent ≤ 308 then x / powerOfTen exponent
    else if x == 0.0 then x
    else shrink fuel (x / powerOfTen 308) (exponent - 308)

/-- The double `significand * 10 ^ exponent`, unless it is out of range. -/
def scale? (significand : Nat) (exponent : Int) : Option Float :=
  let x := significand.toUInt64.toFloat
  if exponent < 0 then some (shrink 8 x exponent.natAbs)
  else if exponent ≤ 308 then
    let scaled := x * powerOfTen exponent.toNat
    if scaled.isInf then none else some scaled
  else if x == 0.0 then some x else none

def signed (negative : Bool) (x : Float) : Float :=
  if negative then -x else x

def digit? (c : Char) : Option Nat :=
  if c.isDigit then some (c.toNat - '0'.toNat) else none

/-- Reads digits into a significand as long as it fits 64 bits; yields it, the
    number of digits taken, and what follows. -/
def readDigits (significand taken : Nat) : List Char → Nat × Nat × List Char
  | [] => (significand, taken, [])
  | c :: rest =>
    match digit? c with
    | none => (significand, taken, c :: rest)
    | some d =>
      if significand * 10 + d < Nat.pow 2 64 then readDigits (significand * 10 + d) (taken + 1) rest
      else (significand, taken, c :: rest)

def readPower (power : Nat) : List Char → Nat × List Char
  | [] => (power, [])
  | c :: rest =>
    match digit? c with
    | none => (power, c :: rest)
    | some d => readPower (min (power * 10 + d) (Nat.pow 2 31)) rest

def readExponent (negative : Bool) (significand : Nat) (start : Int) (input : List Char) :
    Option (Number × List Char) := do
  let (downward, input) := match input with
    | '+' :: rest => (false, rest)
    | '-' :: rest => (true, rest)
    | rest => (false, rest)
  if (input.head?.bind digit?).isNone then none
  else
    let (power, rest) := readPower 0 input
    if power = Nat.pow 2 31 then
      if significand = 0 ∨ downward then some (double (signed negative 0.0), rest) else none
    else
      let x ← scale? significand (if downward then start - power else start + power)
      some (double (signed negative x), rest)

/-- Ends a number that is not an integer: an exponent may follow. -/
def readScaled (negative : Bool) (significand : Nat) (start : Int) :
    List Char → Option (Number × List Char)
  | 'e' :: rest | 'E' :: rest => readExponent negative significand start rest
  | rest => do
    let x ← scale? significand start
    some (double (signed negative x), rest)

/-- Reads what follows the decimal point. Digits that do not fit the significand
    are passed over. -/
def readFraction (negative : Bool) (significand : Nat) (start : Int) (input : List Char) :
    Option (Number × List Char) :=
  if (input.head?.bind digit?).isNone then none
  else
    let (significand, taken, rest) := readDigits significand 0 input
    readScaled negative significand (start - taken) (rest.dropWhile Char.isDigit)

/-- Reads what follows the digits before the decimal point, of which `dropped`
    did not fit the significand. -/
def readTail (negative : Bool) (significand dropped : Nat) :
    List Char → Option (Number × List Char)
  | '.' :: rest => readFraction negative significand dropped rest
  | rest =>
    match rest with
    | 'e' :: _ | 'E' :: _ => readScaled negative significand dropped rest
    | _ =>
      if dropped ≠ 0 then readScaled negative significand dropped rest
      else if !negative then some (integer significand, rest)
      else if significand = 0 ∨ Nat.pow 2 63 < significand then
        some (double (-significand.toUInt64.toFloat), rest)
      else some (integer (-(significand : Int)), rest)

/-- Reads a number after its sign. A leading zero stands alone. -/
def readMagnitude (negative : Bool) : List Char → Option (Number × List Char)
  | [] => none
  | '0' :: rest =>
    if (rest.head?.bind digit?).isSome then none else readTail negative 0 0 rest
  | c :: rest => do
    let first ← digit? c
    let (significand, _, rest) := readDigits first 0 rest
    let dropped := (rest.takeWhile Char.isDigit).length
    readTail negative significand dropped (rest.dropWhile Char.isDigit)

def read : List Char → Option (Number × List Char)
  | '-' :: rest => readMagnitude true rest
  | rest => readMagnitude false rest

/-- The text of a double: a point always, and an exponent for very large and very
    small numbers. -/
def layout : Decimal.Layout where
  tie := .even
  positional leading := -5 ≤ leading && leading < 16
  pointZero := true
  signedZero := true

end Number

end Patternwork.Json
