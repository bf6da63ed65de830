import Patternwork.Decimal.Shortest

namespace Patternwork.Decimal

/-- The decisions that a text format takes about numbers. -/
structure Layout where
  /-- Which of two equally near shortest decimals is written. -/
  tie : Tie
  /-- Whether a number whose leading digit has this power of ten is written
      without an exponent. -/
  positional : Int → Bool
  /-- Whether integral numbers end in `.0`. -/
  pointZero : Bool
  /-- Whether a negative zero keeps its sign. -/
  signedZero : Bool

/-- Digits without an exponent, `fraction` being what follows an integral
    number. -/
def positionalText (fraction : String) (s : Scaled) : String :=
  let digits := toString s.digits
  let count := digits.length
  if 0 ≤ s.exponent then
    digits ++ String.ofList (List.replicate s.exponent.toNat '0') ++ fraction
  else
    let places := (-s.exponent).toNat
    if places < count then
      String.ofList (digits.toList.take (count - places)) ++ "." ++
        String.ofList (digits.toList.drop (count - places))
    else
      "0." ++ String.ofList (List.replicate (places - count) '0') ++ digits

/-- One digit before the point and a signed power of ten. -/
def exponentText (s : Scaled) : String :=
  let digits := (toString s.digits).toList
  let power := s.exponent + (digits.length - 1 : Nat)
  let mantissa := match digits with
    | [] => ""
    | [d] => String.ofList [d]
    | d :: rest => String.ofList (d :: '.' :: rest)
  mantissa ++ (if power < 0 then "e-" else "e+") ++ toString power.natAbs

namespace Layout

/-- The text of a positive number. -/
def magnitude (layout : Layout) (v : Dyadic) : String :=
  let s := v.shortest layout.tie
  let leading := s.exponent + ((toString s.digits).length - 1 : Nat)
  if layout.positional leading then
    positionalText (if layout.pointZero then ".0" else "") s
  else exponentText s

/-- The text of a number; infinities and NaN have none in the layout itself. -/
def text? (layout : Layout) (x : Float) : Option String :=
  match Reading.ofFloat x with
  | .notANumber | .infinite _ => none
  | .zero negative =>
    some ((if negative && layout.signedZero then "-0" else "0") ++
      if layout.pointZero then ".0" else "")
  | .finite negative v => some ((if negative then "-" else "") ++ layout.magnitude v)

end Layout

end Patternwork.Decimal
